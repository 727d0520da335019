import Mathlib.Data.Nat.Digits.Defs
import Mathlib.Tactic.IntervalCases
import Mathlib.Tactic.Ring
import RowPolicy.Text.Uuid

/-!
# Spellings of UUIDs

A UUID is a number of 128 bits. Whichever layout it is written in, reading it gives the 32 digits of
that number in lower case, and writing them puts hyphens between them that can be taken out again.
So what is written for two spellings is the same just when the numbers are.

Main statements:

* `Uuid.isHex_of_read`: what is read from any layout are 32 digits in lower case;
* `Uuid.hyphenate_inj`: what is written tells the digits;
* `Uuid.hyphenated_eq_iff_number?`: the written forms of two spellings agree just when they spell
  the same number.
-/

namespace RowPolicy.Text

/-! ## Hexadecimal digits -/

/-- A digit in lower case is the one that is written for its value. -/
theorem toLower_eq_digitChar {c : Char} {value : Nat} (h : digitValue? c = some value) :
    value < 16 ∧ c.toLower = Nat.digitChar value := by
  have hchar : c = Char.ofNat c.toNat := (Char.ofNat_toNat c).symm
  have hrange : (48 ≤ c.toNat ∧ c.toNat ≤ 57 ∧ value = c.toNat - 48) ∨
      (97 ≤ c.toNat ∧ c.toNat ≤ 102 ∧ value = c.toNat - 87) ∨
      (65 ≤ c.toNat ∧ c.toNat ≤ 70 ∧ value = c.toNat - 55) := by
    rw [digitValue?] at h
    simp only [Bool.and_eq_true, decide_eq_true_eq] at h
    split at h
    next hdigit => exact Or.inl ⟨hdigit.1, hdigit.2, (Option.some.inj h).symm⟩
    next =>
      split at h
      next hlower => exact Or.inr (Or.inl ⟨hlower.1, hlower.2, (Option.some.inj h).symm⟩)
      next =>
        split at h
        next hupper => exact Or.inr (Or.inr ⟨hupper.1, hupper.2, (Option.some.inj h).symm⟩)
        next => cases h
  -- 22 characters are digits
  generalize c.toNat = code at hchar hrange
  subst hchar
  rcases hrange with ⟨hfrom, hto, rfl⟩ | ⟨hfrom, hto, rfl⟩ | ⟨hfrom, hto, rfl⟩ <;>
    interval_cases code <;> decide

theorem digitValue?_digitChar {value : Nat} (h : value < 16) :
    digitValue? (Nat.digitChar value) = some value := by
  interval_cases value <;> rfl

namespace Uuid

/-- A run of `n` hexadecimal digits in lower case. -/
def IsHex (n : Nat) (ds : List Char) : Prop :=
  ∃ values : List Nat, values.length = n ∧ (∀ value ∈ values, value < 16) ∧
    ds = values.map Nat.digitChar

namespace IsHex

variable {n m : Nat} {ds es : List Char}

theorem append (hds : IsHex n ds) (hes : IsHex m es) : IsHex (n + m) (ds ++ es) := by
  obtain ⟨values, rfl, hvalues, rfl⟩ := hds
  obtain ⟨others, rfl, hothers, rfl⟩ := hes
  exact ⟨values ++ others, List.length_append, List.forall_mem_append.mpr ⟨hvalues, hothers⟩,
    List.map_append.symm⟩

theorem forall_mem {p : Char → Prop} (hds : IsHex n ds)
    (h : ∀ value < 16, p (Nat.digitChar value)) : ∀ d ∈ ds, p d := by
  obtain ⟨values, -, hvalues, rfl⟩ := hds
  intro d hd
  obtain ⟨value, hvalue, rfl⟩ := List.mem_map.mp hd
  exact h value (hvalues value hvalue)

theorem ne_hyphen (hds : IsHex n ds) : ∀ d ∈ ds, d ≠ '-' := hds.forall_mem (by decide)

end IsHex

/-! ## Layouts -/

theorem isHex_of_takeHex {n : Nat} {cs ds rest : List Char} (h : takeHex n cs = some (ds, rest)) :
    IsHex n ds := by
  fun_induction takeHex n cs generalizing ds rest with
  | case1 =>
    obtain ⟨rfl, rfl⟩ := Prod.mk.inj (Option.some.inj h)
    exact ⟨[], rfl, nofun, rfl⟩
  | case2 n c cs value hvalue ih =>
    obtain ⟨⟨es, _⟩, htake, heq⟩ := Option.map_eq_some_iff.mp h
    obtain ⟨rfl, rfl⟩ := Prod.mk.inj heq
    obtain ⟨hlt, hlower⟩ := toLower_eq_digitChar hvalue
    obtain ⟨values, rfl, hvalues, rfl⟩ := ih htake
    exact ⟨value :: values, rfl, List.forall_mem_cons.mpr ⟨hlt, hvalues⟩, by rw [hlower]; rfl⟩
  | case3 => cases h
  | case4 => cases h

theorem isHex_of_takeGroups {ns : List Nat} {cs ds rest : List Char}
    (h : takeGroups ns cs = some (ds, rest)) : IsHex ns.sum ds := by
  fun_induction takeGroups ns cs generalizing ds rest with
  | case1 =>
    obtain ⟨rfl, rfl⟩ := Prod.mk.inj (Option.some.inj h)
    exact ⟨[], rfl, nofun, rfl⟩
  | case2 n cs => exact isHex_of_takeHex h
  | case3 n ns cs _ es _ htake ih =>
    obtain ⟨⟨fs, _⟩, hmore, heq⟩ := Option.map_eq_some_iff.mp h
    obtain ⟨rfl, rfl⟩ := Prod.mk.inj heq
    exact (isHex_of_takeHex htake).append (ih hmore)
  | case4 => cases h

/-- Whichever layout a UUID is written in, its 32 digits are read in lower case. -/
theorem isHex_of_read {s : String} {ds : List Char} (h : read s = some ds) : IsHex 32 ds := by
  rw [read] at h
  split at h
  next htake =>
    obtain rfl := Option.some.inj h
    exact isHex_of_takeHex htake
  next =>
    rw [readGroups] at h
    split at h
    next htake =>
      obtain rfl := Option.some.inj h
      exact isHex_of_takeGroups htake
    next => cases h

/-- The digits are what is written without the hyphens. -/
theorem filter_hyphenate {ds : List Char} (h : ∀ d ∈ ds, d ≠ '-') (ns : List Nat) :
    (hyphenate ns ds).filter (· ≠ '-') = ds := by
  have hkeep {es : List Char} (hes : ∀ d ∈ es, d ≠ '-') : es.filter (· ≠ '-') = es :=
    List.filter_eq_self.mpr fun d hd => decide_eq_true (hes d hd)
  fun_induction hyphenate ns ds with
  | case1 => exact hkeep h
  | case2 => exact hkeep h
  | case3 n ns ds _ ih =>
    have hfront : (ds.take n).filter (· ≠ '-') = ds.take n :=
      hkeep fun d hd => h d (List.mem_of_mem_take hd)
    rw [List.filter_append, hfront, List.filter_cons_of_neg (by simp),
      ih fun d hd => h d (List.mem_of_mem_drop hd), List.take_append_drop]

theorem hyphenate_inj {n : Nat} {ds es : List Char} (hds : IsHex n ds) (hes : IsHex n es)
    (ns : List Nat) : hyphenate ns ds = hyphenate ns es ↔ ds = es := by
  refine ⟨fun h => ?_, fun h => by rw [h]⟩
  rw [← filter_hyphenate hds.ne_hyphen ns, h, filter_hyphenate hes.ne_hyphen ns]

/-! ## Numbers -/

/-- The number of 128 bits that a text spells. -/
def number? (s : String) : Option (BitVec 128) :=
  ((read s).bind (readDigits 16)).map (BitVec.ofNat 128)

theorem readDigitsFrom_digitChar {values : List Nat} (h : ∀ value ∈ values, value < 16) (n : Nat) :
    readDigitsFrom 16 n (values.map Nat.digitChar) =
      some (Nat.ofDigits 16 (values.reverse ++ [n])) := by
  induction values generalizing n with
  | nil => rfl
  | cons value values ih =>
    obtain ⟨hlt, hvalues⟩ := List.forall_mem_cons.mp h
    rw [List.map_cons, readDigitsFrom, digitValue?_digitChar hlt]
    dsimp only
    rw [if_pos hlt, ih hvalues, List.reverse_cons, Nat.ofDigits_append, Nat.ofDigits_append,
      Nat.ofDigits_append]
    simp only [Nat.ofDigits_singleton, List.length_append, List.length_reverse,
      List.length_singleton]
    rw [Nat.pow_succ]
    congr 1
    ring

theorem readDigits_digitChar {values : List Nat} (hvalues : ∀ value ∈ values, value < 16)
    (hne : values ≠ []) :
    readDigits 16 (values.map Nat.digitChar) = some (Nat.ofDigits 16 values.reverse) := by
  rw [readDigits, if_neg (by simpa using hne), readDigitsFrom_digitChar hvalues,
    Nat.ofDigits_append_zero]

/-- 32 digits fit into 128 bits. -/
theorem toNat_ofDigits {values : List Nat} (hlength : values.length = 32)
    (hvalues : ∀ value ∈ values, value < 16) :
    (BitVec.ofNat 128 (Nat.ofDigits 16 values)).toNat = Nat.ofDigits 16 values := by
  have hlt : Nat.ofDigits 16 values < 16 ^ values.length :=
    Nat.ofDigits_lt_base_pow_length (by decide) hvalues
  rw [hlength] at hlt
  exact Nat.mod_eq_of_lt hlt

/-- Numbers of 128 bits agree if all 32 digits do. -/
theorem number_inj {ds es : List Char} (hds : IsHex 32 ds) (hes : IsHex 32 es) :
    (readDigits 16 ds).map (BitVec.ofNat 128) = (readDigits 16 es).map (BitVec.ofNat 128) ↔
      ds = es := by
  refine ⟨fun h => ?_, fun h => by rw [h]⟩
  obtain ⟨values, hlength, hvalues, rfl⟩ := hds
  obtain ⟨others, hlength', hothers, rfl⟩ := hes
  rw [readDigits_digitChar hvalues (List.ne_nil_of_length_eq_add_one hlength),
    readDigits_digitChar hothers (List.ne_nil_of_length_eq_add_one hlength'), Option.map_some,
    Option.map_some, Option.some.injEq, ← BitVec.toNat_inj] at h
  -- the first digit counts most, while digit lists start with the one that counts least
  rw [← List.length_reverse] at hlength hlength'
  have hvalues : ∀ value ∈ values.reverse, value < 16 := fun value hvalue =>
    hvalues value (List.mem_reverse.mp hvalue)
  have hothers : ∀ value ∈ others.reverse, value < 16 := fun value hvalue =>
    hothers value (List.mem_reverse.mp hvalue)
  rw [toNat_ofDigits hlength hvalues, toNat_ofDigits hlength' hothers] at h
  have hreverse : values.reverse = others.reverse :=
    Nat.ofDigits_inj_of_len_eq (by decide) (hlength.trans hlength'.symm) hvalues hothers h
  rw [List.reverse_inj.mp hreverse]

/-- The written forms of two spellings agree just when they spell one number. -/
theorem hyphenated_eq_iff_number? {s t : String} {ds es : List Char} (hds : read s = some ds)
    (hes : read t = some es) : hyphenated ds = hyphenated es ↔ number? s = number? t := by
  rw [hyphenated, hyphenated, String.ofList_inj,
    hyphenate_inj (isHex_of_read hds) (isHex_of_read hes), number?, number?, hds, hes,
    Option.bind_some, Option.bind_some, number_inj (isHex_of_read hds) (isHex_of_read hes)]

end Uuid

end RowPolicy.Text
