import RowPolicy.Gateway.Failure

/-!
# What the values of headers say

The value of a header counts if it is legible: if it holds nothing but visible ASCII characters,
spaces and tabs, and not only spaces and tabs. Since no other white space is legible, trimming such a
value takes off spaces and tabs only.

Main statements:

* `value?_eq_none_iff`: a header that is there counts as absent just if its value is not legible;
* `disablesRules_iff`: the rules are asked to be off just if the first header about them says "false"
  between spaces and tabs, in letters of either case;
* `callerRead`: who calls is read from the headers in one of four ways;
* `find?_propagate`, `filter_propagate`: a call to another service carries one header about the
  rules, or none, and all other headers as they were.
-/

namespace RowPolicy.Gateway.Headers

/-- A space or a tab. -/
def IsPad (c : Char) : Prop := c = ' ' ∨ c = '\t'

/-- A value holds visible ASCII characters, spaces and tabs, and not only spaces and tabs. -/
def Legible (value : String) : Prop :=
  (∀ c ∈ value.toList, IsPad c ∨ '!' ≤ c ∧ c ≤ '~') ∧ ∃ c ∈ value.toList, ¬IsPad c

/-- The first header about the rules has the value "false", in letters of either case, with spaces
and tabs around it. -/
def AsksOff (headers : Headers) : Prop :=
  ∃ name lead word trail,
    headers.find? (isNamed markerName) = some (name, String.ofList (lead ++ word ++ trail)) ∧
      (∀ c ∈ lead, IsPad c) ∧ (∀ c ∈ trail, IsPad c) ∧
      word.map Char.toLower = ['f', 'a', 'l', 's', 'e']

/-! ## Characters -/

section Characters

variable {c : Char}

theorem isPad_iff : IsPad c ↔ c.toNat = 32 ∨ c.toNat = 9 := by
  rw [IsPad, ← Char.toNat_inj, ← Char.toNat_inj]
  rfl

theorem isBlank_of_isPad (h : IsPad c) : Text.isBlank c = true := by
  rcases h with rfl | rfl <;> rfl

/-- Of the characters that can be read, only spaces and tabs are blank. -/
theorem isPad_of_isBlank (hreadable : IsPad c ∨ '!' ≤ c ∧ c ≤ '~')
    (h : Text.isBlank c = true) : IsPad c := by
  rcases hreadable with hpad | ⟨hge, hle⟩
  · exact hpad
  · have hlow : 33 ≤ c.toNat := hge
    have hhigh : c.toNat ≤ 126 := hle
    simp only [Text.isBlank, Bool.or_eq_true, Bool.and_eq_true, decide_eq_true_eq,
      beq_iff_eq] at h
    omega

theorem isReadable_iff {value : String} :
    isReadable value = true ↔ ∀ c ∈ value.toList, IsPad c ∨ '!' ≤ c ∧ c ≤ '~' := by
  rw [isReadable, List.all_eq_true]
  refine forall_congr' fun c => imp_congr_right fun _ => ?_
  have hvisible : ('!' ≤ c ∧ c ≤ '~') ↔ 33 ≤ c.toNat ∧ c.toNat ≤ 126 := Iff.rfl
  rw [hvisible, isPad_iff, Bool.or_eq_true, Bool.and_eq_true, decide_eq_true_eq, decide_eq_true_eq,
    beq_iff_eq, ← Char.toNat_inj]
  have htab : '\t'.toNat = 9 := rfl
  omega

/-- What becomes a letter in lower case is a letter. -/
theorem toNat_of_toLower (h : 97 ≤ c.toLower.toNat ∧ c.toLower.toNat ≤ 122) :
    65 ≤ c.toNat ∧ c.toNat ≤ 122 := by
  unfold Char.toLower at h
  split at h
  next hupper =>
    have hge : 65 ≤ c.val.toNat := hupper.1
    have hle : c.val.toNat ≤ 90 := hupper.2
    exact ⟨hge, Nat.le_trans hle (by decide)⟩
  next => exact ⟨by omega, h.2⟩

end Characters

/-! ## Values -/

section Values

variable {headers : Headers} {name : String} {header : String × String}

theorem readable?_eq (h : headers.find? (isNamed name) = some header) :
    headers.readable? name = if isReadable header.2 then some header.2 else none := by
  rw [readable?, h]

theorem readable?_of_absent (h : headers.find? (isNamed name) = none) :
    headers.readable? name = none := by
  rw [readable?, h]

/-- A value that can be read is trimmed to nothing just if it holds spaces and tabs only. -/
theorem legible_iff {value : String} : Legible value ↔
    isReadable value = true ∧ (Text.trim value).isEmpty = false := by
  rw [Legible, ← isReadable_iff]
  refine and_congr_right fun hreadable => ?_
  rw [← Bool.not_eq_true, Text.isEmpty_trim_iff, Classical.not_forall]
  constructor
  · rintro ⟨c, hc, hvisible⟩
    refine ⟨c, fun hblank => hvisible ?_⟩
    exact isPad_of_isBlank (isReadable_iff.mp hreadable c hc) (hblank hc)
  · rintro ⟨c, hc⟩
    rw [Classical.not_imp] at hc
    exact ⟨c, hc.1, fun hpad => hc.2 (isBlank_of_isPad hpad)⟩

/-- A header that is there counts as absent just if its value is not legible. -/
theorem value?_eq_none_iff (h : headers.find? (isNamed name) = some header) :
    headers.value? name = none ↔ ¬Legible header.2 := by
  rw [value?, readable?_eq h, legible_iff]
  cases isReadable header.2 with
  | false => simp
  | true =>
    rw [if_pos rfl]
    dsimp only
    cases (Text.trim header.2).isEmpty <;> simp

/-! ## Who calls -/

/-- What may be read about the caller, and from which values. -/
inductive CallerRead (gate : Gate) (headers : Headers) : Except Failure (Option Caller) → Prop
  | nobody (unsent : headers.value? callerId = none) : CallerRead gate headers (.ok none)
  | badHeader (header reason : String) (sent : headers.value? callerId ≠ none) :
    CallerRead gate headers (.error (.badHeader header reason))
  | badTenant (error : BoundaryError) (sent : headers.value? callerId ≠ none) :
    CallerRead gate headers (.error (.boundary error))
  | caller (caller : Caller) (rawTenant : String) (sent : headers.value? callerId ≠ none)
    (named : headers.value? callerTenant = some rawTenant)
    (read : gate.kind.parse rawTenant = .ok caller.tenant) :
    CallerRead gate headers (.ok (some caller))

theorem callerRead (gate : Gate) (headers : Headers) :
    CallerRead gate headers (headers.caller gate) := by
  rw [caller]
  cases hid : headers.value? callerId with
  | none => exact .nobody hid
  | some rawId =>
    have hsent : headers.value? callerId ≠ none := fun hnone => by cases hid.symm.trans hnone
    dsimp only
    cases Text.readInt64 rawId with
    | none => exact .badHeader _ _ hsent
    | some id =>
      cases hnamed : headers.value? callerTenant with
      | none => exact .badHeader _ _ hsent
      | some rawTenant =>
        dsimp only
        rw [Gate.parseTenant]
        cases hread : gate.kind.parse rawTenant with
        | error fault => exact .badTenant _ hsent
        | ok tenant => exact .caller _ rawTenant hsent hnamed hread

/-! ## The header about the rules -/

/-- The word is all that is left between spaces and tabs, and it can be read with them. -/
theorem trim_word {lead word trail : List Char} (hlead : ∀ c ∈ lead, IsPad c)
    (htrail : ∀ c ∈ trail, IsPad c) (hword : word.map Char.toLower = ['f', 'a', 'l', 's', 'e']) :
    isReadable (String.ofList (lead ++ word ++ trail)) = true ∧
      Text.trim (String.ofList (lead ++ word ++ trail)) = String.ofList word := by
  have hletters : ∀ c ∈ word, 65 ≤ c.toNat ∧ c.toNat ≤ 122 := by
    intro c hc
    have hlower : c.toLower ∈ ['f', 'a', 'l', 's', 'e'] := hword ▸ List.mem_map_of_mem hc
    refine toNat_of_toLower ?_
    simp only [List.mem_cons, List.not_mem_nil, or_false] at hlower
    rcases hlower with h | h | h | h | h <;> rw [h] <;> decide
  constructor
  · rw [isReadable_iff, String.toList_ofList]
    intro c hc
    rw [List.mem_append, List.mem_append] at hc
    rcases hc with (hc | hc) | hc
    · exact Or.inl (hlead c hc)
    · obtain ⟨hge, hle⟩ := hletters c hc
      exact Or.inr ⟨show 33 ≤ c.toNat by omega, show c.toNat ≤ 126 by omega⟩
    · exact Or.inl (htrail c hc)
  · rw [Text.trim, Text.trimBy, String.toList_ofList,
      Text.trim_append (fun c hc => isBlank_of_isPad (hlead c hc)) (fun c hc => ?_)
        fun c hc => isBlank_of_isPad (htrail c hc)]
    obtain ⟨hge, hle⟩ := hletters c hc
    exact Text.isBlank_of_visible (by omega) (by omega)

/-- A value that can be read is what it is trimmed to, with spaces and tabs around. -/
theorem exists_pads {value : String} (h : isReadable value = true) : ∃ lead trail,
    value = String.ofList (lead ++ (Text.trim value).toList ++ trail) ∧
      (∀ c ∈ lead, IsPad c) ∧ ∀ c ∈ trail, IsPad c := by
  obtain ⟨lead, trail, hsplit, hlead, htrail⟩ := Text.exists_append_trim Text.isBlank value.toList
  rw [isReadable_iff] at h
  refine ⟨lead, trail, ?_, fun c hc => ?_, fun c hc => ?_⟩
  · rw [Text.trim, Text.trimBy, String.toList_ofList, ← hsplit, String.ofList_toList]
  · refine isPad_of_isBlank (h c ?_) (hlead c hc)
    rw [hsplit]
    exact List.mem_append_left _ (List.mem_append_left _ hc)
  · refine isPad_of_isBlank (h c ?_) (htrail c hc)
    rw [hsplit]
    exact List.mem_append_right _ hc

/-- The rules are asked to be off just if the first header about them says "false". -/
theorem disablesRules_iff : headers.disablesRules = true ↔ headers.AsksOff := by
  rw [disablesRules]
  constructor
  · intro h
    cases hfind : headers.find? (isNamed markerName) with
    | none =>
      rw [readable?_of_absent hfind] at h
      cases h
    | some header =>
      obtain ⟨name, value⟩ := header
      rw [readable?_eq hfind] at h
      cases hreadable : isReadable value with
      | false =>
        rw [if_neg (by rw [hreadable]; exact Bool.false_ne_true)] at h
        cases h
      | true =>
        rw [if_pos hreadable] at h
        obtain ⟨lead, trail, hvalue, hlead, htrail⟩ := exists_pads hreadable
        refine ⟨name, lead, (Text.trim value).toList, trail, ?_, hlead, htrail, ?_⟩
        · rw [hfind, ← hvalue]
        · exact beq_iff_eq.mp h
  · rintro ⟨name, lead, word, trail, hfind, hlead, htrail, hword⟩
    obtain ⟨hreadable, htrim⟩ := trim_word hlead htrail hword
    rw [readable?_eq hfind, if_pos hreadable]
    dsimp only
    rw [htrim, Text.eqIgnoringAsciiCase, String.toList_ofList, hword]
    rfl

/-! ## Calls to other services -/

/-- The headers of a call carry one header about the rules, or none. -/
theorem find?_propagate (disabled : Bool) (headers : Headers) :
    (propagate disabled headers).find? (isNamed markerName) = outbound disabled := by
  rw [propagate, List.find?_append]
  have hrest : (headers.filter fun header => !isNamed markerName header).find?
      (isNamed markerName) = none := by
    rw [List.find?_eq_none]
    intro header hmem
    simpa using (List.mem_filter.mp hmem).2
  rw [hrest, Option.none_or]
  cases disabled <;> rfl

/-- A service that is called is asked to switch the rules off just if they are off at the caller's. -/
theorem disablesRules_propagate (disabled : Bool) (headers : Headers) :
    (propagate disabled headers).disablesRules = disabled := by
  have hfind := find?_propagate disabled headers
  cases disabled with
  | false => rw [disablesRules, readable?_of_absent hfind]
  | true =>
    rw [disablesRules, readable?_eq hfind]
    rfl

theorem disablesRules_of_absent (h : headers.find? (isNamed markerName) = none) :
    headers.disablesRules = false := by
  rw [disablesRules, readable?_of_absent h]

/-- All other headers are as they were, in their order. -/
theorem filter_propagate (disabled : Bool) (headers : Headers) :
    (propagate disabled headers).filter (fun header => !isNamed markerName header) =
      headers.filter fun header => !isNamed markerName header := by
  rw [propagate, List.filter_append, List.filter_filter]
  simp only [Bool.and_self]
  cases disabled with
  | false => exact List.append_nil _
  | true => exact List.append_nil _

end Values

end RowPolicy.Gateway.Headers
