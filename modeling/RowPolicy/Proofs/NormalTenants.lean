import RowPolicy.Proofs.NormalizedNames
import RowPolicy.Proofs.UuidLayouts
import RowPolicy.Tenant

/-!
# Tenant ids are normal forms

An id that has been read may be sent on and read again. This gives the same id, since reading trims
nothing off what is trimmed, and writes a UUID in one of the layouts that are read. Two spellings of
a UUID are read as one id just when their digits agree but for the case of letters, whatever layouts
they are in.

Main statements:

* `TenantKind.reads_uuid_iff`: what is read as a UUID is spelled in one of the layouts, and the
  digits are kept;
* `TenantKind.Reads.again`: an id is read as itself;
* `tenant_read_again`: both of these, said of `TenantKind.parse`.
-/

namespace RowPolicy

/-! ## Trimmed texts -/

namespace Text

theorem trim_eq_self {s : String} (h : Bare isBlank s.toList) : trim s = s := by
  rw [trim, trimBy, h.trim_eq, String.ofList_toList]

theorem bare_toList_trim (s : String) : Bare isBlank (trim s).toList := by
  rw [trim, trimBy, String.toList_ofList]
  exact bare_trim isBlank s.toList

/-- What is trimmed already is left as it is. -/
theorem trim_trim (s : String) : trim (trim s) = trim s := trim_eq_self (bare_toList_trim s)

namespace Uuid

theorem IsCanonical.ne_empty {text : String} (h : IsCanonical text) : text ≠ "" := by
  obtain ⟨groups, hlengths, -, htext⟩ := h
  have hhyphen : '-' ∈ text.toList :=
    htext ▸ InGroups.hyphen_mem ⟨groups, hlengths, rfl, rfl⟩
  rintro rfl
  cases hhyphen

theorem IsCanonical.bare {text : String} (h : IsCanonical text) : Bare isBlank text.toList := by
  obtain ⟨groups, -, hdigits, htext⟩ := h
  refine Bare.of_forall fun c hc => ?_
  have hrange : c.toNat = 45 ∨ 48 ≤ c.toNat ∧ c.toNat ≤ 57 ∨ 97 ≤ c.toNat ∧ c.toNat ≤ 102 := by
    rcases mem_joinWith (htext ▸ hc) with rfl | ⟨group, hgroup, hc⟩
    · exact Or.inl rfl
    · exact Or.inr (hdigits group hgroup c hc)
  exact isBlank_of_visible (by omega) (by omega)

end Uuid

end Text

/-! ## Ids -/

namespace TenantKind

/-- A text is read as a UUID just if it spells one; the id has its digits in lower case. -/
theorem reads_uuid_iff {raw : String} {tenant : TenantId} : Reads .uuid raw tenant ↔
    ∃ digits, Text.Uuid.Spells digits (Text.trim raw) ∧
      tenant = Text.Uuid.hyphenated (digits.map Char.toLower) := by
  constructor
  · intro h
    cases h with
    | uuid _ _ lowered hread =>
      obtain ⟨digits, hspells, rfl⟩ := Text.Uuid.read_eq_some_iff.mp hread
      exact ⟨digits, hspells, rfl⟩
  · rintro ⟨digits, hspells, rfl⟩
    have hread : Text.Uuid.read (Text.trim raw) = some (digits.map Char.toLower) :=
      Text.Uuid.read_eq_some_iff.mpr ⟨digits, hspells, rfl⟩
    refine .uuid raw (Bool.eq_false_iff.mpr fun hempty => ?_) _ hread
    rw [String.isEmpty_iff.mp hempty] at hread
    cases hread

/-- An id is not empty and has no white space at its ends, and it is read as itself. A UUID is
written in the canonical way. -/
theorem Reads.again {kind : TenantKind} {raw : String} {tenant : TenantId}
    (h : kind.Reads raw tenant) :
    kind.Reads tenant tenant ∧ tenant ≠ "" ∧ Text.Bare Text.isBlank tenant.toList ∧
      (kind = .uuid → Text.Uuid.IsCanonical tenant) := by
  have hne (filled : (Text.trim raw).isEmpty = false) : Text.trim raw ≠ "" := fun hempty => by
    rw [hempty] at filled
    cases filled
  cases h with
  | string _ filled =>
    have hagain : Reads .string (Text.trim raw) (Text.trim (Text.trim raw)) :=
      .string _ (by rw [Text.trim_trim]; exact filled)
    rw [Text.trim_trim] at hagain
    exact ⟨hagain, hne filled, Text.bare_toList_trim raw, nofun⟩
  | integer _ filled n hread =>
    have hagain : Reads .integer (Text.trim raw) (Text.trim (Text.trim raw)) :=
      .integer _ (by rw [Text.trim_trim]; exact filled) n (by rw [Text.trim_trim]; exact hread)
    rw [Text.trim_trim] at hagain
    exact ⟨hagain, hne filled, Text.bare_toList_trim raw, nofun⟩
  | uuid _ filled digits hread =>
    have hhex := Text.Uuid.isHex_of_read hread
    have hcanonical := hhex.isCanonical_hyphenated
    have htrim := Text.trim_eq_self hcanonical.bare
    refine ⟨.uuid _ ?_ digits ?_, hcanonical.ne_empty, hcanonical.bare, fun _ => hcanonical⟩
    · rw [htrim]
      exact Bool.eq_false_iff.mpr fun hempty => hcanonical.ne_empty (String.isEmpty_iff.mp hempty)
    · rw [htrim]
      exact hhex.read_hyphenated

/-- Spellings of UUIDs are read as one id just when their digits agree but for the case of letters.
-/
theorem hyphenated_eq_iff {digits otherDigits : List Char} {text other : String}
    (h : Text.Uuid.Spells digits text) (hother : Text.Uuid.Spells otherDigits other) :
    Text.Uuid.hyphenated (otherDigits.map Char.toLower) =
        Text.Uuid.hyphenated (digits.map Char.toLower) ↔
      otherDigits.map Char.toLower = digits.map Char.toLower := by
  have hhex := Text.Uuid.isHex_of_read (Text.Uuid.read_eq_some_iff.mpr ⟨digits, h, rfl⟩)
  have hotherHex := Text.Uuid.isHex_of_read
    (Text.Uuid.read_eq_some_iff.mpr ⟨otherDigits, hother, rfl⟩)
  rw [Text.Uuid.hyphenated, Text.Uuid.hyphenated, String.ofList_inj,
    Text.Uuid.hyphenate_inj hotherHex hhex]

end TenantKind

/-- What is read as a tenant id is read as itself again, is not empty and has no white space at its
ends. A UUID is written as five groups of digits in lower case, and the id of another spelling is
the same just when the digits agree but for the case of letters, whatever layouts the two are in. -/
theorem tenant_read_again {kind : TenantKind} {raw : String} {tenant : TenantId}
    (h : kind.parse raw = .ok tenant) :
    kind.parse tenant = .ok tenant ∧ tenant ≠ "" ∧ Text.Bare Text.isBlank tenant.toList ∧
      (kind = .uuid → Text.Uuid.IsCanonical tenant ∧
        ∃ digits, Text.Uuid.Spells digits (Text.trim raw) ∧
          ∀ other another otherDigits, kind.parse other = .ok another →
            Text.Uuid.Spells otherDigits (Text.trim other) →
            (another = tenant ↔ otherDigits.map Char.toLower = digits.map Char.toLower)) := by
  have hreads := TenantKind.parse_ok_iff.mp h
  obtain ⟨hagain, hne, hbare, hcanonical⟩ := hreads.again
  refine ⟨TenantKind.parse_ok_iff.mpr hagain, hne, hbare, ?_⟩
  rintro rfl
  obtain ⟨digits, hspells, rfl⟩ := TenantKind.reads_uuid_iff.mp hreads
  refine ⟨hcanonical rfl, digits, hspells, fun other another otherDigits hother hdigits => ?_⟩
  have hread : TenantKind.uuid.Reads other
      (Text.Uuid.hyphenated (otherDigits.map Char.toLower)) :=
    TenantKind.reads_uuid_iff.mpr ⟨otherDigits, hdigits, rfl⟩
  obtain rfl := Except.ok.inj (hother.symm.trans (TenantKind.parse_ok_iff.mpr hread))
  exact TenantKind.hyphenated_eq_iff hspells hdigits

/-- One UUID in braces and behind `URN:UUID:`, with letters of either case and white space around. -/
theorem tenant_read_again_inBraces :
    let braced := "\u00A0\x7b0F8FAD5B-d9cb-469F-A165-70867728950E\x7d"
    let marked := "URN:UUID:0f8fad5b-D9CB-469f-a165-70867728950e"
    let tenant := "0f8fad5b-d9cb-469f-a165-70867728950e"
    TenantKind.uuid.parse braced = .ok tenant ∧ TenantKind.uuid.parse tenant = .ok tenant ∧
      Text.Uuid.IsCanonical tenant ∧ TenantKind.uuid.parse marked = .ok tenant ∧
      ∃ digits otherDigits, Text.Uuid.Spells digits (Text.trim braced) ∧
        Text.Uuid.Spells otherDigits (Text.trim marked) ∧
        otherDigits.map Char.toLower = digits.map Char.toLower := by
  intro braced marked tenant
  have hbraced : TenantKind.uuid.parse braced = .ok tenant := by decide +kernel
  have hmarked : TenantKind.uuid.parse marked = .ok tenant := by decide +kernel
  obtain ⟨hagain, -, -, hcanonical⟩ := tenant_read_again hbraced
  obtain ⟨hform, digits, hspells, hiff⟩ := hcanonical rfl
  obtain ⟨otherDigits, hother, -⟩ :=
    TenantKind.reads_uuid_iff.mp (TenantKind.parse_ok_iff.mp hmarked)
  exact ⟨hbraced, hagain, hform, hmarked, digits, otherDigits, hspells, hother,
    (hiff marked tenant otherDigits hmarked hother).mp rfl⟩

end RowPolicy
