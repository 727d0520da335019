/-!
# Integers in text

The decimal spelling of a 64-bit integer: an optional sign and at least one ASCII digit, the value
between `-2^63` and `2^63 - 1`. Leading zeros and `+` are accepted when reading and never written.

`readDigits` reads a run of digits in any base up to sixteen; `readInt64` is the decimal reader with
sign and range. It reads back what `showInt64` writes (`readInt64_showInt64`).
-/

namespace RowPolicy.Text

/-- The value of a digit character, letters of either case standing for ten to fifteen. -/
def digitValue? (c : Char) : Option Nat :=
  if '0' ≤ c && c ≤ '9' then some (c.toNat - 48)
  else if 'a' ≤ c && c ≤ 'f' then some (c.toNat - 87)
  else if 'A' ≤ c && c ≤ 'F' then some (c.toNat - 55)
  else none

/-- The number read so far, extended by each digit in turn; `none` at the first character that is no
digit of the base. -/
def readDigitsFrom (base : Nat) : Nat → List Char → Option Nat
  | n, [] => some n
  | n, c :: cs =>
    match digitValue? c with
    | some d => if d < base then readDigitsFrom base (n * base + d) cs else none
    | none => none

/-- A nonempty run of digits of the base. -/
def readDigits (base : Nat) (cs : List Char) : Option Nat :=
  if cs.isEmpty then none else readDigitsFrom base 0 cs

/-- An integer as a 64-bit integer, when it is one. -/
def int64? (n : Int) : Option Int64 :=
  if -9223372036854775808 ≤ n ∧ n ≤ 9223372036854775807 then some (Int64.ofInt n) else none

/-- Reads an optional sign and digits of the base as a 64-bit integer. -/
def readSigned (base : Nat) (cs : List Char) : Option Int64 :=
  match cs with
  | '-' :: ds => (readDigits base ds).bind fun n => int64? (-(n : Int))
  | '+' :: ds => (readDigits base ds).bind fun n => int64? n
  | ds => (readDigits base ds).bind fun n => int64? n

/-- Reads a 64-bit integer in decimal. -/
def readInt64 (s : String) : Option Int64 := readSigned 10 s.toList

/-- The decimal spelling of a 64-bit integer. -/
def showInt64 (n : Int64) : String := toString n.toInt

/-! ## Reading what was written -/

theorem digitValue?_of_isDigit {c : Char} (h : c.isDigit = true) :
    digitValue? c = some (c.toNat - 48) ∧ c.toNat - 48 < 10 := by
  rw [Char.isDigit, Bool.and_eq_true, decide_eq_true_eq, decide_eq_true_eq] at h
  have hrange : '0' ≤ c ∧ c ≤ '9' := h
  refine ⟨by simp [digitValue?, hrange], ?_⟩
  have hle : c.toNat ≤ 57 := h.2
  omega

theorem readDigitsFrom_of_isDigit {cs : List Char} : ∀ {n : Nat}, (∀ c ∈ cs, c.isDigit = true) →
    readDigitsFrom 10 n cs = some (Nat.ofDigitChars 10 cs n) := by
  induction cs with
  | nil => intro n _; rfl
  | cons c cs ih =>
    intro n h
    obtain ⟨hvalue, hlt⟩ := digitValue?_of_isDigit (h c List.mem_cons_self)
    rw [readDigitsFrom, hvalue, Nat.ofDigitChars_cons]
    dsimp only
    rw [if_pos hlt, ih fun d hd => h d (List.mem_cons_of_mem _ hd), Nat.mul_comm]
    rfl

theorem readDigits_toDigits (n : Nat) : readDigits 10 (Nat.toDigits 10 n) = some n := by
  have hdigits : ∀ c ∈ Nat.toDigits 10 n, c.isDigit = true := fun c =>
    Nat.isDigit_of_mem_toDigits (by decide) (by decide)
  rw [readDigits, if_neg, readDigitsFrom_of_isDigit hdigits, Nat.ofDigitChars_ten_toDigits]
  rw [List.isEmpty_iff]
  exact Nat.toDigits_ne_nil

theorem readSigned_toDigits (n : Nat) : readSigned 10 (Nat.toDigits 10 n) = int64? n := by
  have hread := readDigits_toDigits n
  have hdigits : ∀ c ∈ Nat.toDigits 10 n, c.isDigit = true := fun c =>
    Nat.isDigit_of_mem_toDigits (by decide) (by decide)
  generalize Nat.toDigits 10 n = cs at hread hdigits
  rw [readSigned.eq_def]
  -- A sign is no digit.
  split
  next => exact absurd (hdigits '-' List.mem_cons_self) (by decide)
  next => exact absurd (hdigits '+' List.mem_cons_self) (by decide)
  next => rw [hread, Option.bind_some]

theorem int64?_toInt (n : Int64) : int64? n.toInt = some n := by
  have hle := n.le_toInt
  have hlt := n.toInt_lt
  rw [int64?, if_pos (by omega), Int64.ofInt_toInt]

/-- A number is written with digits and a sign. -/
theorem mem_showInt64 {n : Int64} {c : Char} (h : c ∈ (showInt64 n).toList) :
    c = '-' ∨ c.isDigit = true := by
  have hdigits (m : Nat) (hc : c ∈ (Nat.repr m).toList) : c.isDigit = true := by
    rw [Nat.repr_eq_ofList_toDigits, String.toList_ofList] at hc
    exact Nat.isDigit_of_mem_toDigits (by decide) (by decide) hc
  rw [showInt64] at h
  cases hn : n.toInt with
  | ofNat m =>
    rw [hn] at h
    exact Or.inr (hdigits m h)
  | negSucc m =>
    rw [hn] at h
    replace h : c ∈ ("-" ++ Nat.repr (m + 1)).toList := h
    rw [String.toList_append, List.mem_append] at h
    exact h.imp (fun hsign => List.mem_singleton.mp hsign) (hdigits (m + 1))

/-- What is written is read back. -/
theorem readInt64_showInt64 (n : Int64) : readInt64 (showInt64 n) = some n := by
  have hback := int64?_toInt n
  rw [readInt64, showInt64]
  cases hn : n.toInt with
  | ofNat m =>
    rw [hn] at hback
    show readSigned 10 (Nat.repr m).toList = _
    rw [Nat.repr_eq_ofList_toDigits, String.toList_ofList, readSigned_toDigits]
    exact hback
  | negSucc m =>
    rw [hn] at hback
    show readSigned 10 ("-" ++ Nat.repr (m + 1)).toList = _
    rw [Nat.repr_eq_ofList_toDigits, String.toList_append, String.toList_ofList,
      String.toList_ofList]
    show (readDigits 10 (Nat.toDigits 10 (m + 1))).bind _ = _
    rw [readDigits_toDigits, Option.bind_some]
    exact hback

end RowPolicy.Text
