import Mathlib.Data.List.Sort
import RowPolicy.Proofs.HeaderValues
import RowPolicy.Proofs.NormalTenants

/-!
# Callers told by headers

The gateway in front tells who calls by three headers. A caller is got back from them as it is: its
id in decimal over the whole range, its tenant if that is an id that has been read before, and its
permissions in any order, repeated, with spaces and tabs around them and with nothing between some of
the commas. A caller without permissions may be told without the third header.

Main statements:

* `permissions_trim`: blanks at the ends of a list of permissions do not matter;
* `permissions_of_lists`: a value that lists permissions is read as the set of them;
* `caller_of_tells`: headers that tell of a caller are read as this caller.
-/

namespace RowPolicy.Gateway.Headers

/-- A text between runs of spaces and tabs. -/
def Padded (text value : List Char) : Prop :=
  ∃ lead trail, value = lead ++ text ++ trail ∧ (∀ c ∈ lead, IsPad c) ∧ ∀ c ∈ trail, IsPad c

/-- A text comes through a header as it is: it holds visible ASCII characters, with spaces and tabs
only inside. -/
structure Sendable (text : String) : Prop where
  visible : ∀ c ∈ text.toList, IsPad c ∨ '!' ≤ c ∧ c ≤ '~'
  filled : text ≠ ""
  bare : Text.Bare Text.isBlank text.toList

/-- Between the commas of a value stands one of the permissions or nothing, and each of them stands
somewhere. -/
def Lists (permissions : List String) (value : String) : Prop :=
  ∃ items, value.toList = Text.joinWith ',' items ∧
    (∀ item ∈ items, ∃ text : String, Padded text.toList item ∧
      (text = "" ∨ text ∈ permissions)) ∧
    ∀ permission ∈ permissions, ∃ item ∈ items, Padded permission.toList item

/-- The first header with a name has a text for its value, with spaces and tabs around it. -/
def Carries (headers : Headers) (name text : String) : Prop :=
  ∃ spelled value, headers.find? (isNamed name) = some (spelled, value) ∧
    Padded text.toList value.toList

/-- The headers tell of a caller. -/
structure Tells (headers : Headers) (caller : Caller) : Prop where
  id : headers.Carries callerId (Text.showInt64 caller.id)
  tenant : headers.Carries callerTenant caller.tenant
  permissions : (headers.find? (isNamed callerPermissions) = none ∧ caller.permissions = []) ∨
    ∃ spelled value, headers.find? (isNamed callerPermissions) = some (spelled, value) ∧
      Lists caller.permissions value

/-- Headers that tell of a caller, with the permissions in their order. -/
def ofCaller (caller : Caller) : Headers :=
  [(callerId, Text.showInt64 caller.id), (callerTenant, caller.tenant),
    (callerPermissions,
      String.ofList (Text.joinWith ',' (caller.permissions.map String.toList)))]

/-! ## Single values -/

/-- Blanks around a text do not matter when it is trimmed. -/
theorem trim_ofList_between {lead trail : List Char} (text : List Char)
    (hlead : ∀ c ∈ lead, Text.isBlank c = true) (htrail : ∀ c ∈ trail, Text.isBlank c = true) :
    Text.trim (String.ofList (lead ++ text ++ trail)) = Text.trim (String.ofList text) := by
  rw [Text.trim, Text.trim, Text.trimBy, Text.trimBy, String.toList_ofList, String.toList_ofList,
    Text.trim_between hlead htrail]

theorem Padded.refl (text : List Char) : Padded text text :=
  ⟨[], [], (List.append_nil text).symm, nofun, nofun⟩

theorem Padded.trim_eq {text : String} {value : List Char} (h : Padded text.toList value)
    (hbare : Text.Bare Text.isBlank text.toList) : Text.trim (String.ofList value) = text := by
  obtain ⟨lead, trail, rfl, hlead, htrail⟩ := h
  rw [trim_ofList_between _ (fun c hc => isBlank_of_isPad (hlead c hc))
      fun c hc => isBlank_of_isPad (htrail c hc),
    String.ofList_toList, Text.trim_eq_self hbare]

theorem Padded.visible {text value : List Char} (h : Padded text value)
    (hvisible : ∀ c ∈ text, IsPad c ∨ '!' ≤ c ∧ c ≤ '~') :
    ∀ c ∈ value, IsPad c ∨ '!' ≤ c ∧ c ≤ '~' := by
  obtain ⟨lead, trail, rfl, hlead, htrail⟩ := h
  intro c hc
  rw [List.mem_append, List.mem_append] at hc
  rcases hc with (hc | hc) | hc
  · exact Or.inl (hlead c hc)
  · exact hvisible c hc
  · exact Or.inl (htrail c hc)

theorem Carries.value?_eq {headers : Headers} {name text : String}
    (h : headers.Carries name text) (hsendable : Sendable text) :
    headers.value? name = some text := by
  obtain ⟨spelled, value, hfind, hpadded⟩ := h
  have hreadable : isReadable value = true :=
    isReadable_iff.mpr (hpadded.visible hsendable.visible)
  have htrim : Text.trim value = text := by
    rw [← String.ofList_toList (s := value)]
    exact hpadded.trim_eq hsendable.bare
  rw [value?, readable?_eq hfind, if_pos hreadable]
  dsimp only
  rw [htrim, if_neg fun hempty => hsendable.filled (String.isEmpty_iff.mp hempty)]

/-- A number is written with visible characters only. -/
theorem sendable_showInt64 (n : Int64) : Sendable (Text.showInt64 n) := by
  have hrange : ∀ c ∈ (Text.showInt64 n).toList, 33 ≤ c.toNat ∧ c.toNat ≤ 126 := by
    intro c hc
    rcases Text.mem_showInt64 hc with rfl | hdigit
    · decide
    · rw [Char.isDigit, Bool.and_eq_true, decide_eq_true_eq, decide_eq_true_eq] at hdigit
      have hge : 48 ≤ c.toNat := hdigit.1
      have hle : c.toNat ≤ 57 := hdigit.2
      omega
  refine ⟨fun c hc => Or.inr (hrange c hc), fun hempty => ?_, .of_forall fun c hc =>
    Text.isBlank_of_visible (hrange c hc).1 (hrange c hc).2⟩
  have hread := Text.readInt64_showInt64 n
  rw [hempty] at hread
  cases hread

/-- A tenant id that is read as itself comes through a header if its characters do. -/
theorem sendable_of_parse {kind : TenantKind} {tenant : TenantId}
    (hparse : kind.parse tenant = .ok tenant)
    (hvisible : ∀ c ∈ tenant.toList, IsPad c ∨ '!' ≤ c ∧ c ≤ '~') : Sendable tenant := by
  obtain ⟨-, hfilled, hbare, -⟩ := (TenantKind.parse_ok_iff.mp hparse).again
  exact ⟨hvisible, hfilled, hbare⟩

/-! ## Permissions -/

/-- Blanks at the ends of a text do not matter to its trimmed pieces. -/
theorem map_trim_splitOn_trim {sep : Char} (hsep : Text.isBlank sep = false) (value : String) :
    (Text.splitOn sep (Text.trim value)).map Text.trim =
      (Text.splitOn sep value).map Text.trim := by
  obtain ⟨lead, trail, hvalue, hlead, htrail⟩ :=
    Text.exists_append_trim Text.isBlank value.toList
  have hnot {run : List Char} (hrun : ∀ c ∈ run, Text.isBlank c = true) : sep ∉ run :=
    fun hmem => Bool.false_ne_true (hsep.symm.trans (hrun sep hmem))
  have hnone : ∀ c ∈ ([] : List Char), Text.isBlank c = true := nofun
  have hleft (piece : List Char) :
      Text.trim (String.ofList (lead ++ piece)) = Text.trim (String.ofList piece) := by
    have h := trim_ofList_between piece hlead hnone
    rwa [List.append_nil] at h
  have hright (piece : List Char) :
      Text.trim (String.ofList (piece ++ trail)) = Text.trim (String.ofList piece) := by
    have h := trim_ofList_between piece hnone htrail
    rwa [List.nil_append] at h
  rw [Text.splitOn, Text.splitOn, hvalue, Text.trim, Text.trimBy, String.toList_ofList]
  generalize Text.trimRight Text.isBlank (Text.trimLeft Text.isBlank value.toList) = inner
  calc ((Text.splitList sep inner).map String.ofList).map Text.trim
      = ((Text.splitList sep (lead ++ inner)).map String.ofList).map Text.trim := by
        rw [Text.splitList_append_left (hnot hlead)]
        cases Text.splitList sep inner with
        | nil => rfl
        | cons piece pieces => simp only [List.modifyHead_cons, List.map_cons, hleft]
    _ = ((Text.splitList sep (lead ++ inner ++ trail)).map String.ofList).map Text.trim := by
        obtain ⟨pieces, last, hinner, hsplit⟩ :=
          Text.splitList_append_right (hnot htrail) (lead ++ inner)
        rw [hsplit, hinner]
        simp only [List.map_append, List.map_cons, hright]

/-- Blanks at the ends of a list of permissions do not matter. -/
theorem permissions_trim (value : String) :
    permissions (Text.trim value) = permissions value := by
  rw [permissions, permissions, map_trim_splitOn_trim (by decide)]

theorem mem_permissions {permission value : String} : permission ∈ permissions value ↔
    permission ≠ "" ∧ ∃ item ∈ Text.splitList ',' value.toList,
      Text.trim (String.ofList item) = permission := by
  rw [permissions, mem_ordered, List.mem_filter, Text.splitOn, List.map_map, List.mem_map,
    Bool.not_eq_true', ← Bool.not_eq_true, String.isEmpty_iff, and_comm]
  rfl

section Listed

variable {permissions : List String} {value : String}
  (hsendable : ∀ permission ∈ permissions, Sendable permission ∧ ',' ∉ permission.toList)
include hsendable

/-- Nothing between two commas holds a comma. -/
theorem splitList_items {items : List (List Char)} (hne : items ≠ [])
    (hitems : ∀ item ∈ items, ∃ text : String, Padded text.toList item ∧
      (text = "" ∨ text ∈ permissions)) :
    Text.splitList ',' (Text.joinWith ',' items) = items := by
  have hpad : ¬IsPad ',' := by
    rintro (h | h) <;> cases h
  refine Text.splitList_joinWith hne fun item hitem hcomma => ?_
  obtain ⟨text, ⟨lead, trail, rfl, hlead, htrail⟩, htext⟩ := hitems item hitem
  rw [List.mem_append, List.mem_append] at hcomma
  rcases hcomma with (hcomma | hcomma) | hcomma
  · exact hpad (hlead _ hcomma)
  · rcases htext with rfl | hmem
    · cases hcomma
    · exact (hsendable text hmem).2 hcomma
  · exact hpad (htrail _ hcomma)

/-- A value that lists permissions is read as the set of them. -/
theorem permissions_of_lists (h : Lists permissions value)
    (hascending : permissions.Pairwise (· < ·)) :
    Headers.permissions value = permissions := by
  obtain ⟨items, hvalue, hitems, hall⟩ := h
  by_cases hne : items = []
  · subst hne
    have hnone : permissions = [] := List.eq_nil_iff_forall_not_mem.mpr fun permission hmem => by
      obtain ⟨item, hitem, -⟩ := hall permission hmem
      cases hitem
    rw [hnone, ← String.ofList_toList (s := value), hvalue]
    decide
  · refine List.Pairwise.eq_of_mem_iff (pairwise_ordered _) hascending fun permission => ?_
    rw [mem_permissions, hvalue, splitList_items hsendable hne hitems]
    constructor
    · rintro ⟨hfilled, item, hitem, rfl⟩
      obtain ⟨text, hpadded, rfl | hmem⟩ := hitems item hitem
      · exact absurd (hpadded.trim_eq ⟨nofun, nofun⟩) hfilled
      · rw [hpadded.trim_eq (hsendable text hmem).1.bare]
        exact hmem
    · intro hmem
      obtain ⟨item, hitem, hpadded⟩ := hall permission hmem
      have hone := (hsendable permission hmem).1
      exact ⟨hone.filled, item, hitem, hpadded.trim_eq hone.bare⟩

theorem Lists.isReadable_eq (h : Lists permissions value) : isReadable value = true := by
  obtain ⟨items, hvalue, hitems, -⟩ := h
  rw [isReadable_iff, hvalue]
  intro c hc
  rcases Text.mem_joinWith hc with rfl | ⟨item, hitem, hc⟩
  · exact Or.inr (by decide)
  · obtain ⟨text, hpadded, rfl | hmem⟩ := hitems item hitem
    · exact hpadded.visible nofun c hc
    · exact hpadded.visible (hsendable text hmem).1.visible c hc

end Listed

/-! ## Callers -/

section Callers

variable {gate : Gate} {caller : Caller}

theorem Tells.permissions_eq {headers : Headers} (h : headers.Tells caller)
    (hsendable : ∀ permission ∈ caller.permissions,
      Sendable permission ∧ ',' ∉ permission.toList)
    (hascending : caller.permissions.Pairwise (· < ·)) :
    ((headers.value? callerPermissions).map Headers.permissions).getD [] =
      caller.permissions := by
  rcases h.permissions with ⟨habsent, hnone⟩ | ⟨spelled, value, hfind, hlists⟩
  · rw [value?, readable?_of_absent habsent, hnone]
    rfl
  · have hread := permissions_of_lists hsendable hlists hascending
    rw [← permissions_trim] at hread
    rw [value?, readable?_eq hfind, if_pos (hlists.isReadable_eq hsendable)]
    dsimp only
    -- A value that counts as absent lists nothing.
    split
    next hempty =>
      have hnothing : Headers.permissions "" = [] := by decide
      rw [String.isEmpty_iff.mp hempty, hnothing] at hread
      exact hread
    next =>
      rw [Option.map_some, Option.getD_some]
      exact hread

theorem tells_ofCaller (caller : Caller) : (ofCaller caller).Tells caller := by
  have htenant (id : String) : ¬isNamed callerTenant (callerId, id) = true :=
    show ¬Text.eqIgnoringAsciiCase callerId callerTenant = true by decide
  have hpermissions (id : String) : ¬isNamed callerPermissions (callerId, id) = true :=
    show ¬Text.eqIgnoringAsciiCase callerId callerPermissions = true by decide
  have hlast (tenant : String) : ¬isNamed callerPermissions (callerTenant, tenant) = true :=
    show ¬Text.eqIgnoringAsciiCase callerTenant callerPermissions = true by decide
  have hfound (name value : String) : isNamed name (name, value) = true := beq_self_eq_true _
  refine ⟨⟨callerId, _, List.find?_cons_of_pos (hfound _ _), .refl _⟩,
    ⟨callerTenant, caller.tenant, ?_, .refl _⟩, Or.inr ⟨callerPermissions, _, ?_,
      caller.permissions.map String.toList, String.toList_ofList, fun item hitem => ?_,
      fun permission hmem => ⟨_, List.mem_map_of_mem hmem, .refl _⟩⟩⟩
  · rw [ofCaller, List.find?_cons_of_neg (htenant _), List.find?_cons_of_pos (hfound _ _)]
  · rw [ofCaller, List.find?_cons_of_neg (hpermissions _), List.find?_cons_of_neg (hlast _),
      List.find?_cons_of_pos (hfound _ _)]
  · obtain ⟨permission, hmem, rfl⟩ := List.mem_map.mp hitem
    exact ⟨permission, .refl _, Or.inr hmem⟩

/-- A caller comes through the headers of the gateway as it is. There are headers that tell of it,
and whichever do are read as this caller. -/
theorem caller_of_tells (hparse : gate.kind.parse caller.tenant = .ok caller.tenant)
    (hvisible : ∀ c ∈ caller.tenant.toList, IsPad c ∨ '!' ≤ c ∧ c ≤ '~')
    (hsendable : ∀ permission ∈ caller.permissions,
      Sendable permission ∧ ',' ∉ permission.toList)
    (hascending : caller.permissions.Pairwise (· < ·)) :
    (ofCaller caller).Tells caller ∧
      ∀ headers : Headers, headers.Tells caller → headers.caller gate = .ok (some caller) := by
  refine ⟨tells_ofCaller caller, fun headers htells => ?_⟩
  have hid := htells.id.value?_eq (sendable_showInt64 caller.id)
  have htenant := htells.tenant.value?_eq (sendable_of_parse hparse hvisible)
  rw [Headers.caller, hid]
  dsimp only
  rw [Text.readInt64_showInt64, htenant]
  dsimp only
  rw [Gate.parseTenant, hparse, htells.permissions_eq hsendable hascending]
  rfl

/-- The least id, a tenant with a sign and zeros, and permissions out of order with one of them twice
and nothing between some of the commas. -/
theorem caller_of_tells_disordered :
    let gate : Gate := { kind := .integer }
    let caller : Caller :=
      { id := -9223372036854775808, tenant := "+07", permissions := ["read all", "visit"] }
    let headers : Headers :=
      [("X-Caller-Id", " -9223372036854775808"), ("x-caller-tenant-id", "+07\t"),
        ("x-caller-permissions", " ,visit ,,  read all,visit, ")]
    gate.kind.parse caller.tenant = .ok caller.tenant ∧ headers.Tells caller ∧
      headers.caller gate = .ok (some caller) := by
  intro gate caller headers
  have hparse : gate.kind.parse caller.tenant = .ok caller.tenant := by decide +kernel
  have hsendable : ∀ permission ∈ caller.permissions,
      Sendable permission ∧ ',' ∉ permission.toList := by
    have hbare (text : String) (h : Text.trim text = text) :
        Text.Bare Text.isBlank text.toList := h ▸ Text.bare_toList_trim text
    refine List.forall_mem_cons.mpr ⟨?_, List.forall_mem_singleton.mpr ?_⟩
    · exact ⟨⟨by simp [IsPad], by decide, hbare _ (by decide +kernel)⟩, by decide⟩
    · exact ⟨⟨by simp [IsPad], by decide, hbare _ (by decide +kernel)⟩, by decide⟩
  have htells : headers.Tells caller := by
    refine ⟨⟨_, _, rfl, [' '], [], by decide, by simp [IsPad], nofun⟩,
      ⟨_, _, rfl, [], ['\t'], by decide, nofun, by simp [IsPad]⟩, Or.inr ⟨_, _, rfl, ?_⟩⟩
    have hgap : Padded [] [' '] := ⟨[' '], [], rfl, by simp [IsPad], nofun⟩
    have hvisit : Padded "visit".toList "visit ".toList :=
      ⟨[], [' '], by decide, nofun, by simp [IsPad]⟩
    have hread : Padded "read all".toList "  read all".toList :=
      ⟨[' ', ' '], [], by decide, by simp [IsPad], nofun⟩
    refine ⟨[[' '], "visit ".toList, [], "  read all".toList, "visit".toList, [' ']], by decide,
      ?_, ?_⟩
    · simp only [List.forall_mem_cons]
      exact ⟨⟨"", hgap, Or.inl rfl⟩, ⟨_, hvisit, Or.inr (by decide)⟩,
        ⟨"", .refl _, Or.inl rfl⟩, ⟨_, hread, Or.inr (by decide)⟩,
        ⟨_, .refl _, Or.inr (by decide)⟩, ⟨"", hgap, Or.inl rfl⟩, nofun⟩
    · refine List.forall_mem_cons.mpr ⟨⟨_, by decide, hread⟩, List.forall_mem_singleton.mpr ?_⟩
      exact ⟨_, by decide, hvisit⟩
  exact ⟨hparse, htells,
    (caller_of_tells hparse (by simp [caller, IsPad]) hsendable (by decide)).2 headers htells⟩

end Callers

end RowPolicy.Gateway.Headers
