import RowPolicy.Text.CaseTable

/-!
# Lower case

`lowerCase` is the full, locale-free lower-casing of Unicode. Each character is lowered on its own
with one exception: a capital sigma becomes the final form `ς` when a cased letter stands before it
and none after it, where ignorable characters (combining marks, apostrophes) are looked through on
both sides; everywhere else it becomes `σ`.
-/

namespace RowPolicy.Text

/-- Whether a code point lies in one of the ranges. -/
def inRanges (ranges : List (Nat × Nat)) (n : Nat) : Bool :=
  ranges.any fun r => decide (r.1 ≤ n) && decide (n ≤ r.2)

/-- Whether a character is looked through in the search for a cased neighbour. -/
def isIgnorable (c : Char) : Bool := inRanges ignorableRanges c.toNat

/-- Whether a character is a cased letter. -/
def isCased (c : Char) : Bool := inRanges casedRanges c.toNat

/-- Whether the nearest character that is not looked through is a cased letter. -/
def meetsCased (cs : List Char) : Bool :=
  match cs.dropWhile isIgnorable with
  | c :: _ => isCased c
  | [] => false

/-- The lower-case form of one character, the sigma's position left out of account. -/
def lowerChar (c : Char) : List Char :=
  if c.toNat < 128 then [c.toLower]
  else if c.toNat = 0x130 then ['i', Char.ofNat 0x307]
  else
    match loweringRuns.find? fun r =>
        decide (r.1 ≤ c.toNat) && decide (c.toNat ≤ r.2.1) && (c.toNat - r.1) % r.2.2.1 == 0 with
    | some r => [Char.ofNat ((c.toNat : Int) + r.2.2.2).toNat]
    | none => [c]

/-- Lower-cases `rest`, where `seen` holds the characters before it, nearest first. -/
def lowerFrom (seen : List Char) : List Char → List Char
  | [] => []
  | c :: rest =>
    (if c = 'Σ' then [if meetsCased seen && !meetsCased rest then 'ς' else 'σ'] else lowerChar c) ++
      lowerFrom (c :: seen) rest

/-- The lower-case form of a text. -/
def lowerCase (s : String) : String := String.ofList (lowerFrom [] s.toList)

/-- Whether two texts agree when the letters A to Z are taken for their lower-case forms. -/
def eqIgnoringAsciiCase (s t : String) : Bool :=
  s.toList.map Char.toLower == t.toList.map Char.toLower

/-- Only letters change in lower case, and they become letters in lower case. -/
theorem eq_of_toLower_eq {c d : Char} (h : c.toLower = d) (hd : d.toNat < 97) : c = d := by
  unfold Char.toLower at h
  split at h
  next hupper =>
    have hval : (c.val + 32).toNat = d.toNat := congrArg Char.toNat h
    have hge : 65 ≤ c.val.toNat := hupper.1
    have hle : c.val.toNat ≤ 90 := hupper.2
    rw [UInt32.toNat_add, show (32 : UInt32).toNat = 32 from rfl] at hval
    omega
  next => exact h

end RowPolicy.Text
