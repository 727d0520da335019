import Mathlib.Data.List.SplitLengths
import RowPolicy.Proofs.UuidSpellings
import RowPolicy.Text.Split

/-!
# Layouts of UUIDs

The 32 digits of a UUID stand alone, or in five groups with hyphens between them, and then perhaps
in braces or behind `urn:uuid:`. Letters may be of either case, in the digits and in `urn:uuid:`.
Nothing else is read, and what is read are the digits in lower case.

Main statements:

* `takeGroups_eq_some_iff`: what is taken off the front are groups of digits;
* `read_eq_some_iff`: just the texts in one of the layouts are read;
* `IsHex.isCanonical_hyphenated`, `IsHex.read_hyphenated`: what is written are five groups in lower
  case, and they are read as the digits that were written.
-/

namespace RowPolicy.Text.Uuid

/-- Hexadecimal digits, with letters of either case. -/
def AreDigits (cs : List Char) : Prop := ∀ c ∈ cs, (digitValue? c).isSome = true

/-- Groups of characters with hyphens between them. -/
def InGroups (lengths : List Nat) (cs text : List Char) : Prop :=
  ∃ groups : List (List Char), groups.map List.length = lengths ∧ groups.flatten = cs ∧
    text = joinWith '-' groups

/-- The layouts that a UUID with these digits is written in. -/
inductive Layout (digits : List Char) : List Char → Prop
  | plain : Layout digits digits
  | hyphenated {text : List Char} (groups : InGroups [8, 4, 4, 4, 12] digits text) :
    Layout digits text
  | braced {text : List Char} (groups : InGroups [8, 4, 4, 4, 12] digits text) :
    Layout digits ('{' :: text ++ ['}'])
  | urn {mark text : List Char} (marked : mark.map Char.toLower = "urn:uuid:".toList)
    (groups : InGroups [8, 4, 4, 4, 12] digits text) : Layout digits (mark ++ text)

/-- A text is a UUID with these digits. -/
structure Spells (digits : List Char) (text : String) : Prop where
  length : digits.length = 32
  areDigits : AreDigits digits
  layout : Layout digits text.toList

/-- Five groups of digits in lower case, of 8, 4, 4, 4 and 12 digits, with hyphens between them. -/
def IsCanonical (text : String) : Prop :=
  ∃ groups : List (List Char), groups.map List.length = [8, 4, 4, 4, 12] ∧
    (∀ group ∈ groups, ∀ c ∈ group, '0' ≤ c ∧ c ≤ '9' ∨ 'a' ≤ c ∧ c ≤ 'f') ∧
    text.toList = joinWith '-' groups

/-! ## Digits and groups off the front -/

theorem takeHex_eq_some_iff {n : Nat} {cs ds rest : List Char} :
    takeHex n cs = some (ds, rest) ↔ ∃ front, front.length = n ∧ AreDigits front ∧
      cs = front ++ rest ∧ ds = front.map Char.toLower := by
  fun_induction takeHex n cs generalizing ds rest with
  | case1 cs =>
    constructor
    · intro h
      obtain ⟨rfl, rfl⟩ := Prod.mk.inj (Option.some.inj h)
      exact ⟨[], rfl, List.forall_mem_nil _, rfl, rfl⟩
    · rintro ⟨front, hlength, -, rfl, rfl⟩
      obtain rfl := List.length_eq_zero_iff.mp hlength
      rfl
  | case2 n c cs value hvalue ih =>
    have hdigit : (digitValue? c).isSome = true := by rw [hvalue]; rfl
    rw [Option.map_eq_some_iff]
    constructor
    · rintro ⟨⟨es, rest'⟩, htake, heq⟩
      obtain ⟨rfl, rfl⟩ := Prod.mk.inj heq
      obtain ⟨front, hlength, hdigits, rfl, rfl⟩ := ih.mp htake
      exact ⟨c :: front, congrArg (· + 1) hlength, List.forall_mem_cons.mpr ⟨hdigit, hdigits⟩, rfl,
        rfl⟩
    · rintro ⟨front, hlength, hdigits, hsplit, rfl⟩
      cases front with
      | nil => cases hlength
      | cons d front =>
        obtain ⟨rfl, rfl⟩ := List.cons.inj hsplit
        refine ⟨(front.map Char.toLower, rest), ih.mpr ⟨front, ?_, ?_, rfl, rfl⟩, rfl⟩
        · exact Nat.succ.inj hlength
        · exact (List.forall_mem_cons.mp hdigits).2
  | case3 n c cs hnone =>
    refine iff_of_false (Option.some_ne_none _).symm ?_
    rintro ⟨front, hlength, hdigits, hsplit, -⟩
    cases front with
    | nil => cases hlength
    | cons d front =>
      obtain ⟨rfl, rfl⟩ := List.cons.inj hsplit
      have hdigit := hdigits c List.mem_cons_self
      rw [hnone] at hdigit
      cases hdigit
  | case4 n =>
    refine iff_of_false (Option.some_ne_none _).symm ?_
    rintro ⟨front, hlength, -, hsplit, -⟩
    obtain ⟨rfl, -⟩ := List.append_eq_nil_iff.mp hsplit.symm
    cases hlength

/-- What is taken off the front are groups of digits with hyphens between them. -/
theorem takeGroups_eq_some_iff {ns : List Nat} {cs ds rest : List Char} :
    takeGroups ns cs = some (ds, rest) ↔ ∃ groups : List (List Char),
      groups.map List.length = ns ∧ AreDigits groups.flatten ∧
        cs = joinWith '-' groups ++ rest ∧ ds = groups.flatten.map Char.toLower := by
  -- the first of several groups ends in front of a hyphen
  have hfirst {group : List Char} {groups : List (List Char)} (hne : groups.map List.length ≠ [])
      (hdigits : AreDigits (group :: groups).flatten) (rest : List Char) :
      takeHex group.length (joinWith '-' (group :: groups) ++ rest) =
        some (group.map Char.toLower, '-' :: (joinWith '-' groups ++ rest)) := by
    refine takeHex_eq_some_iff.mpr ⟨group, rfl, (List.forall_mem_append.mp hdigits).1, ?_, rfl⟩
    rw [joinWith_cons (by rintro rfl; exact hne rfl), List.append_assoc, List.cons_append]
  fun_induction takeGroups ns cs generalizing ds rest with
  | case1 cs =>
    constructor
    · intro h
      obtain ⟨rfl, rfl⟩ := Prod.mk.inj (Option.some.inj h)
      exact ⟨[], rfl, List.forall_mem_nil _, rfl, rfl⟩
    · rintro ⟨groups, hlengths, -, rfl, rfl⟩
      obtain rfl := List.map_eq_nil_iff.mp hlengths
      rfl
  | case2 n cs =>
    rw [takeHex_eq_some_iff]
    constructor
    · rintro ⟨front, rfl, hdigits, rfl, rfl⟩
      exact ⟨[front], rfl, by simpa using hdigits, rfl, by simp⟩
    · rintro ⟨groups, hlengths, hdigits, rfl, rfl⟩
      obtain ⟨front, rfl, hlength⟩ := List.map_eq_singleton_iff.mp hlengths
      exact ⟨front, hlength, by simpa using hdigits, rfl, by simp⟩
  | case3 n ns cs hns es tail htake ih =>
    rw [Option.map_eq_some_iff]
    constructor
    · rintro ⟨⟨fs, rest'⟩, hmore, heq⟩
      obtain ⟨rfl, rfl⟩ := Prod.mk.inj heq
      obtain ⟨front, rfl, hdigits, rfl, rfl⟩ := takeHex_eq_some_iff.mp htake
      obtain ⟨groups, rfl, hgroups, rfl, rfl⟩ := ih.mp hmore
      refine ⟨front :: groups, rfl, List.forall_mem_append.mpr ⟨hdigits, hgroups⟩, ?_, by simp⟩
      rw [joinWith_cons (by rintro rfl; exact hns rfl), List.append_assoc, List.cons_append]
    · rintro ⟨groups, hlengths, hdigits, rfl, rfl⟩
      obtain ⟨group, groups, rfl, rfl, rfl⟩ := List.map_eq_cons_iff.mp hlengths
      rw [hfirst hns hdigits] at htake
      obtain ⟨rfl, hrest⟩ := Prod.mk.inj (Option.some.inj htake)
      obtain rfl := (List.cons.inj hrest).2
      refine ⟨(groups.flatten.map Char.toLower, rest), ih.mpr ⟨groups, rfl, ?_, rfl, rfl⟩, by simp⟩
      exact (List.forall_mem_append.mp hdigits).2
  | case4 cs n ns hns hno =>
    refine iff_of_false (Option.some_ne_none _).symm ?_
    rintro ⟨groups, hlengths, hdigits, rfl, rfl⟩
    obtain ⟨group, groups, rfl, rfl, rfl⟩ := List.map_eq_cons_iff.mp hlengths
    exact hno _ _ (hfirst hns hdigits rest)

/-! ## Layouts -/

theorem InGroups.length_eq {lengths : List Nat} {cs text : List Char}
    (h : InGroups lengths cs text) : cs.length = lengths.sum := by
  obtain ⟨groups, rfl, rfl, -⟩ := h
  rw [List.length_flatten]

/-- Several groups hold a hyphen. -/
theorem InGroups.hyphen_mem {n m : Nat} {ns : List Nat} {cs text : List Char}
    (h : InGroups (n :: m :: ns) cs text) : '-' ∈ text := by
  obtain ⟨groups, hlengths, -, rfl⟩ := h
  obtain ⟨group, groups, rfl, rfl, hrest⟩ := List.map_eq_cons_iff.mp hlengths
  rw [joinWith_cons (by rintro rfl; cases hrest)]
  exact List.mem_append_right _ List.mem_cons_self

/-- Groups of digits start with a digit. -/
theorem InGroups.exists_digit {n : Nat} {ns : List Nat} {cs text : List Char}
    (h : InGroups ((n + 1) :: ns) cs text) (hdigits : AreDigits cs) :
    ∃ d rest, text = d :: rest ∧ (digitValue? d).isSome = true := by
  obtain ⟨groups, hlengths, rfl, rfl⟩ := h
  obtain ⟨group, groups, rfl, hlength, -⟩ := List.map_eq_cons_iff.mp hlengths
  obtain ⟨d, group, rfl⟩ := List.exists_cons_of_length_eq_add_one hlength
  exact ⟨d, _, joinWith_cons_cons '-' d group groups, hdigits d List.mem_cons_self⟩

theorem readGroups_eq_some_iff {cs ds : List Char} : readGroups cs = some ds ↔
    ∃ digits, AreDigits digits ∧ InGroups groupLengths digits cs ∧ ds = digits.map Char.toLower := by
  rw [readGroups]
  constructor
  · intro h
    split at h
    next es htake =>
      obtain rfl := Option.some.inj h
      obtain ⟨groups, hlengths, hdigits, hcs, rfl⟩ := takeGroups_eq_some_iff.mp htake
      rw [List.append_nil] at hcs
      exact ⟨groups.flatten, hdigits, ⟨groups, hlengths, rfl, hcs⟩, rfl⟩
    next => cases h
  · rintro ⟨digits, hdigits, ⟨groups, hlengths, rfl, rfl⟩, rfl⟩
    rw [takeGroups_eq_some_iff.mpr ⟨groups, hlengths, hdigits, (List.append_nil _).symm, rfl⟩]

theorem layout_of_unwrapped {digits cs : List Char}
    (h : InGroups groupLengths digits (unwrapped cs)) : Layout digits cs := by
  unfold unwrapped at h
  split at h
  next rest =>
    split at h
    next hlast =>
      obtain ⟨text, rfl⟩ := List.getLast?_eq_some_iff.mp hlast
      rw [List.dropLast_concat] at h
      exact .braced h
    next => exact .hyphenated h
  next =>
    split at h
    next hmark =>
      have hlayout : Layout digits (cs.take 9 ++ cs.drop 9) := .urn hmark h
      rwa [List.take_append_drop] at hlayout
    next => exact .hyphenated h

/-- No letter of `urn:uuid:` is a digit where it begins, and neither is a brace. -/
theorem unwrapped_of_digit {d : Char} {rest : List Char} (hdigit : (digitValue? d).isSome = true) :
    unwrapped (d :: rest) = d :: rest := by
  have hbrace : d ≠ '{' := by rintro rfl; cases hdigit
  have hmark : ¬((d :: rest).take 9).map Char.toLower = "urn:uuid:".toList := by
    intro h
    obtain ⟨value, hvalue⟩ := Option.isSome_iff_exists.mp hdigit
    obtain ⟨hlt, hlower⟩ := toLower_eq_digitChar hvalue
    have hu : Nat.digitChar value = 'u' := hlower.symm.trans (List.cons.inj h).1
    interval_cases value <;> cases hu
  unfold unwrapped
  split
  next heq => exact absurd (List.cons.inj heq).1 hbrace
  next => exact if_neg hmark

theorem unwrapped_braced (text : List Char) : unwrapped ('{' :: text ++ ['}']) = text := by
  show (if (text ++ ['}']).getLast? = some '}' then (text ++ ['}']).dropLast else _) = text
  rw [if_pos List.getLast?_concat, List.dropLast_concat]

theorem unwrapped_urn {mark : List Char} (h : mark.map Char.toLower = "urn:uuid:".toList)
    (text : List Char) : unwrapped (mark ++ text) = text := by
  have hlength : mark.length = 9 := by rw [← List.length_map, h]; rfl
  have hbrace : ∀ rest, mark ++ text ≠ '{' :: rest := by
    intro rest heq
    cases mark with
    | nil => cases hlength
    | cons c cs =>
      rw [(List.cons.inj heq).1] at h
      cases h
  unfold unwrapped
  split
  next rest heq => exact absurd heq (hbrace rest)
  next =>
    rw [List.take_left' hlength, if_pos h, List.drop_left' hlength]

/-- In every layout but the first there are hyphens, and groups of digits are unwrapped. -/
theorem Layout.eq_or_unwrapped {digits cs : List Char} (h : Layout digits cs)
    (hdigits : AreDigits digits) :
    cs = digits ∨ '-' ∈ cs ∧ InGroups groupLengths digits (unwrapped cs) := by
  cases h with
  | plain => exact Or.inl rfl
  | hyphenated hgroups =>
    obtain ⟨d, rest, rfl, hdigit⟩ := hgroups.exists_digit hdigits
    exact Or.inr ⟨hgroups.hyphen_mem, by rwa [unwrapped_of_digit hdigit]⟩
  | @braced text hgroups =>
    have hmem : '-' ∈ '{' :: text ++ ['}'] :=
      List.mem_append_left _ (List.mem_cons_of_mem _ hgroups.hyphen_mem)
    exact Or.inr ⟨hmem, by rwa [unwrapped_braced]⟩
  | urn hmark hgroups =>
    exact Or.inr ⟨List.mem_append_right _ hgroups.hyphen_mem, by rwa [unwrapped_urn hmark]⟩

/-- What is not digits only is read in groups. -/
theorem read_of_hyphen_mem {s : String} (h : '-' ∈ s.toList) :
    read s = readGroups (unwrapped s.toList) := by
  rw [read]
  split
  next htake =>
    obtain ⟨front, -, hdigits, hfront, -⟩ := takeHex_eq_some_iff.mp htake
    rw [List.append_nil] at hfront
    cases hdigits '-' (hfront ▸ h)
  next => rfl

/-- A text is read just if it is in one of the layouts. -/
theorem read_eq_some_iff {s : String} {ds : List Char} :
    read s = some ds ↔ ∃ digits, Spells digits s ∧ ds = digits.map Char.toLower := by
  constructor
  · intro h
    rw [read] at h
    split at h
    next htake =>
      obtain rfl := Option.some.inj h
      obtain ⟨front, hlength, hdigits, hfront, rfl⟩ := takeHex_eq_some_iff.mp htake
      rw [List.append_nil] at hfront
      exact ⟨front, ⟨hlength, hdigits, hfront ▸ .plain⟩, rfl⟩
    next =>
      obtain ⟨digits, hdigits, hgroups, rfl⟩ := readGroups_eq_some_iff.mp h
      exact ⟨digits, ⟨hgroups.length_eq, hdigits, layout_of_unwrapped hgroups⟩, rfl⟩
  · rintro ⟨digits, ⟨hlength, hdigits, hlayout⟩, rfl⟩
    rcases hlayout.eq_or_unwrapped hdigits with hplain | ⟨hmem, hgroups⟩
    · have htake : takeHex 32 s.toList = some (digits.map Char.toLower, []) :=
        takeHex_eq_some_iff.mpr ⟨digits, hlength, hdigits, by rw [hplain, List.append_nil], rfl⟩
      rw [read, htake]
    · rw [read_of_hyphen_mem hmem]
      exact readGroups_eq_some_iff.mpr ⟨digits, hdigits, hgroups, rfl⟩

/-! ## What is written -/

/-- Digits are cut into groups of the lengths asked for. -/
theorem hyphenate_flatten : ∀ groups : List (List Char),
    hyphenate (groups.map List.length) groups.flatten = joinWith '-' groups
  | [] => rfl
  | [group] => List.append_nil group
  | group :: next :: groups => by
    have hrest := hyphenate_flatten (next :: groups)
    rw [joinWith_cons (List.cons_ne_nil _ _), ← hrest, List.map_cons, List.map_cons,
      List.flatten_cons, hyphenate, List.take_left, List.drop_left]
    exact List.cons_ne_nil _ _

theorem inGroups_hyphenate {ds : List Char} (h : ds.length = 32) :
    InGroups groupLengths ds (hyphenate groupLengths ds) := by
  have hlengths : (groupLengths.splitLengths ds).map List.length = groupLengths :=
    List.map_splitLengths_length _ _ (Nat.le_of_eq h.symm)
  have hflatten : (groupLengths.splitLengths ds).flatten = ds :=
    List.flatten_splitLengths _ _ (Nat.le_of_eq h)
  refine ⟨_, hlengths, hflatten, ?_⟩
  rw [← hyphenate_flatten, hlengths, hflatten]

namespace IsHex

variable {n : Nat} {ds : List Char}

theorem length_eq (h : IsHex n ds) : ds.length = n := by
  obtain ⟨values, rfl, -, rfl⟩ := h
  exact List.length_map _

theorem areDigits (h : IsHex n ds) : AreDigits ds :=
  h.forall_mem fun value hvalue => by rw [digitValue?_digitChar hvalue]; rfl

theorem map_toLower (h : IsHex n ds) : ds.map Char.toLower = ds := by
  have hlower : ∀ d ∈ ds, d.toLower = id d := h.forall_mem (by decide)
  rw [List.map_congr_left hlower, List.map_id]

/-- The written form of 32 digits in lower case is read as these digits. -/
theorem read_hyphenated (h : IsHex 32 ds) : read (hyphenated ds) = some ds := by
  have hgroups := inGroups_hyphenate h.length_eq
  refine read_eq_some_iff.mpr ⟨ds, ⟨h.length_eq, h.areDigits, ?_⟩, h.map_toLower.symm⟩
  rw [hyphenated, String.toList_ofList]
  exact .hyphenated hgroups

/-- The written form of 32 digits in lower case is the canonical one. -/
theorem isCanonical_hyphenated (h : IsHex 32 ds) : IsCanonical (hyphenated ds) := by
  obtain ⟨groups, hlengths, rfl, htext⟩ := inGroups_hyphenate h.length_eq
  have hlower : ∀ d ∈ groups.flatten, '0' ≤ d ∧ d ≤ '9' ∨ 'a' ≤ d ∧ d ≤ 'f' :=
    h.forall_mem (by decide)
  refine ⟨groups, hlengths, fun group hgroup c hc => ?_, ?_⟩
  · exact hlower c (List.mem_flatten.mpr ⟨group, hgroup, hc⟩)
  · rw [hyphenated, String.toList_ofList, htext]

end IsHex

end RowPolicy.Text.Uuid
