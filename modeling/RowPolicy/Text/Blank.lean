/-!
# White space

`isBlank` is the Unicode property White_Space, `trim` removes blank characters from both ends of a
text. Inside a text nothing changes: `trim` only ever drops a run of blanks in front and one behind.

Main statements: what is left of a text trimmed in front starts with no character of the class
(`head_trimLeft`). Only runs of the class are taken off (`exists_append_trim`), and they are taken
off whole (`trim_between`, `trim_append`), so a text is trimmed to nothing just if it is blank
(`isEmpty_trim_iff`).
-/

namespace RowPolicy.Text

/-- The characters with the Unicode property White_Space. -/
def isBlank (c : Char) : Bool :=
  let n := c.toNat
  (9 ≤ n && n ≤ 13) || n == 32 || n == 0x85 || n == 0xA0 || n == 0x1680 ||
    (0x2000 ≤ n && n ≤ 0x200A) || n == 0x2028 || n == 0x2029 || n == 0x202F || n == 0x205F ||
    n == 0x3000

/-- A list without its leading members that satisfy `p`. -/
def trimLeft (p : Char → Bool) (cs : List Char) : List Char := cs.dropWhile p

/-- A list without its trailing members that satisfy `p`. -/
def trimRight (p : Char → Bool) (cs : List Char) : List Char := (cs.reverse.dropWhile p).reverse

/-- A text without the characters at either end that satisfy `p`. -/
def trimBy (p : Char → Bool) (s : String) : String :=
  String.ofList (trimRight p (trimLeft p s.toList))

/-- A text without the white space at either end. -/
def trim (s : String) : String := trimBy isBlank s

/-- No visible ASCII character is blank. -/
theorem isBlank_of_visible {c : Char} (hge : 33 ≤ c.toNat) (hle : c.toNat ≤ 126) :
    isBlank c = false := by
  simp only [isBlank, Bool.or_eq_false_iff, Bool.and_eq_false_iff, decide_eq_false_iff_not,
    beq_eq_false_iff_ne]
  omega

theorem head_trimLeft {p : Char → Bool} {cs : List Char} {c : Char}
    (h : (trimLeft p cs).head? = some c) : p c = false := by
  induction cs with
  | nil => simp [trimLeft] at h
  | cons d ds ih =>
    unfold trimLeft at h ih
    rw [List.dropWhile_cons] at h
    split at h
    · exact ih h
    · next hd =>
      obtain rfl : d = c := by simpa using h
      simpa using hd

/-- A list is a run of members of the class, what is left when it is trimmed, and another run. -/
theorem exists_append_trim (p : Char → Bool) (cs : List Char) : ∃ lead trail,
    cs = lead ++ trimRight p (trimLeft p cs) ++ trail ∧
      (∀ c ∈ lead, p c = true) ∧ ∀ c ∈ trail, p c = true := by
  refine ⟨cs.takeWhile p, ((trimLeft p cs).reverse.takeWhile p).reverse, ?_, ?_, ?_⟩
  · rw [trimRight, List.append_assoc, ← List.reverse_append, List.takeWhile_append_dropWhile,
      List.reverse_reverse, trimLeft, List.takeWhile_append_dropWhile]
  · exact fun c hc => List.all_eq_true.mp List.all_takeWhile c hc
  · exact fun c hc => List.all_eq_true.mp List.all_takeWhile c (List.mem_reverse.mp hc)

/-- Where nothing of the class stands, there is nothing to be trimmed. -/
theorem trimLeft_of_forall {p : Char → Bool} {cs : List Char} (h : ∀ c ∈ cs, p c = false) :
    trimLeft p cs = cs := by
  cases cs with
  | nil => rfl
  | cons c rest => exact List.dropWhile_cons_of_neg (by simp [h c List.mem_cons_self])

/-- Runs of members of the class around a list do not matter to what is left. -/
theorem trim_between {p : Char → Bool} {lead inner trail : List Char}
    (hlead : ∀ c ∈ lead, p c = true) (htrail : ∀ c ∈ trail, p c = true) :
    trimRight p (trimLeft p (lead ++ inner ++ trail)) = trimRight p (trimLeft p inner) := by
  rw [trimLeft, List.append_assoc, List.dropWhile_append_of_pos hlead, List.dropWhile_append]
  split
  next hnone =>
    have htrailing : (trail ++ []).dropWhile p = [] := List.dropWhile_append_of_pos htrail
    rw [List.append_nil] at htrailing
    rw [trimLeft, List.isEmpty_iff.mp hnone, htrailing]
  next =>
    rw [trimRight, List.reverse_append,
      List.dropWhile_append_of_pos fun c hc => htrail c (List.mem_reverse.mp hc)]
    rfl

/-- Of a list between two runs of members of the class, just the list is left. -/
theorem trim_append {p : Char → Bool} {lead inner trail : List Char}
    (hlead : ∀ c ∈ lead, p c = true) (hinner : ∀ c ∈ inner, p c = false)
    (htrail : ∀ c ∈ trail, p c = true) :
    trimRight p (trimLeft p (lead ++ inner ++ trail)) = inner := by
  have hback : trimLeft p inner.reverse = inner.reverse :=
    trimLeft_of_forall fun c hc => hinner c (List.mem_reverse.mp hc)
  rw [trim_between hlead htrail, trimLeft_of_forall hinner, trimRight, ← trimLeft, hback,
    List.reverse_reverse]

/-- Nothing is left of a text just if it is blank. -/
theorem isEmpty_trim_iff {s : String} :
    (trim s).isEmpty = true ↔ ∀ c ∈ s.toList, isBlank c = true := by
  rw [String.isEmpty_iff, trim, trimBy, String.ofList_eq_empty_iff]
  constructor
  · intro hnone
    obtain ⟨lead, trail, hsplit, hlead, htrail⟩ := exists_append_trim isBlank s.toList
    rw [hnone, List.append_nil] at hsplit
    intro c hc
    rw [hsplit, List.mem_append] at hc
    exact hc.elim (hlead c) (htrail c)
  · intro hblank
    have htrimmed : trimRight isBlank (trimLeft isBlank (s.toList ++ [] ++ [])) = [] :=
      trim_append hblank nofun nofun
    rwa [List.append_nil, List.append_nil] at htrimmed

end RowPolicy.Text
