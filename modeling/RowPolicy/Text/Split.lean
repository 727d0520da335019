/-!
# Splitting texts

`splitOn` cuts a text at every separator character and always yields at least one piece; pieces
without the separator are got back from the text that they are joined to (`splitList_joinWith`). What
is put in front of a text or behind it goes to the first or last piece (`splitList_append_left`,
`splitList_append_right`). `splitAtFirst` cuts once, at the first occurrence of a separator text: no
earlier one overlaps the part before the cut (`splitAtFirst_eq_some_iff`).
-/

namespace RowPolicy.Text

/-- The pieces between separators, in order. -/
def splitList (sep : Char) : List Char → List (List Char)
  | [] => [[]]
  | c :: cs =>
    if c = sep then [] :: splitList sep cs
    else
      match splitList sep cs with
      | [] => [[c]]
      | piece :: pieces => (c :: piece) :: pieces

/-- The pieces of a text between separator characters, in order. -/
def splitOn (sep : Char) (s : String) : List String := (splitList sep s.toList).map String.ofList

/-- Pieces put together again with a separator between neighbours. -/
def joinWith (sep : Char) : List (List Char) → List Char
  | [] => []
  | [piece] => piece
  | piece :: pieces => piece ++ sep :: joinWith sep pieces

/-- The part after the last separator, or the whole list when there is none. -/
def afterLast (sep : Char) (cs : List Char) : List Char := (cs.reverse.takeWhile (· != sep)).reverse

/-- Cuts at the first place where `sep` occurs, and drops `sep` there. -/
def splitAtFirst (sep : List Char) : List Char → Option (List Char × List Char)
  | [] => if sep.isEmpty then some ([], []) else none
  | c :: cs =>
    if sep.isPrefixOf (c :: cs) then some ([], (c :: cs).drop sep.length)
    else (splitAtFirst sep cs).map fun (before, after) => (c :: before, after)

theorem splitList_ne_nil (sep : Char) (cs : List Char) : splitList sep cs ≠ [] := by
  cases cs with
  | nil => simp [splitList]
  | cons c cs =>
    unfold splitList
    split
    · simp
    · split <;> simp

theorem joinWith_cons_cons (sep c : Char) (piece : List Char) (pieces : List (List Char)) :
    joinWith sep ((c :: piece) :: pieces) = c :: joinWith sep (piece :: pieces) := by
  cases pieces <;> rfl

theorem joinWith_cons {sep : Char} {piece : List Char} {pieces : List (List Char)}
    (h : pieces ≠ []) : joinWith sep (piece :: pieces) = piece ++ sep :: joinWith sep pieces := by
  obtain ⟨next, rest, rfl⟩ := List.exists_cons_of_ne_nil h
  rfl

/-- Between pieces stands the separator and nothing else. -/
theorem mem_joinWith {sep c : Char} {pieces : List (List Char)} (h : c ∈ joinWith sep pieces) :
    c = sep ∨ ∃ piece ∈ pieces, c ∈ piece := by
  induction pieces with
  | nil => cases h
  | cons piece pieces ih =>
    by_cases hlast : pieces = []
    · subst hlast
      exact Or.inr ⟨piece, List.mem_cons_self, h⟩
    · rw [joinWith_cons hlast, List.mem_append, List.mem_cons] at h
      rcases h with hpiece | hsep | hrest
      · exact Or.inr ⟨piece, List.mem_cons_self, hpiece⟩
      · exact Or.inl hsep
      · exact (ih hrest).imp_right fun ⟨other, hmem, hc⟩ => ⟨other, List.mem_cons_of_mem _ hmem, hc⟩

theorem splitList_of_not_mem {sep : Char} {piece : List Char} (h : sep ∉ piece) :
    splitList sep piece = [piece] := by
  induction piece with
  | nil => rfl
  | cons c cs ih =>
    obtain ⟨hne, hrest⟩ := not_or.mp (mt List.mem_cons.mpr h)
    rw [splitList, if_neg (Ne.symm hne), ih hrest]

theorem splitList_append {sep : Char} {piece : List Char} (h : sep ∉ piece) (rest : List Char) :
    splitList sep (piece ++ sep :: rest) = piece :: splitList sep rest := by
  induction piece with
  | nil => rw [List.nil_append, splitList, if_pos rfl]
  | cons c cs ih =>
    obtain ⟨hne, hrest⟩ := not_or.mp (mt List.mem_cons.mpr h)
    rw [List.cons_append, splitList, if_neg (Ne.symm hne), ih hrest]

/-- Pieces in which the separator does not occur are got back from the text they are joined to. -/
theorem splitList_joinWith {sep : Char} {pieces : List (List Char)} (hne : pieces ≠ [])
    (h : ∀ piece ∈ pieces, sep ∉ piece) : splitList sep (joinWith sep pieces) = pieces := by
  induction pieces with
  | nil => exact absurd rfl hne
  | cons piece rest ih =>
    obtain ⟨hpiece, hrest⟩ := List.forall_mem_cons.mp h
    by_cases hlast : rest = []
    · subst hlast
      exact splitList_of_not_mem hpiece
    · rw [joinWith_cons hlast, splitList_append hpiece, ih hlast hrest]

/-- What stands in front of a text, without the separator in it, goes to the first piece. -/
theorem splitList_append_left {sep : Char} {lead : List Char} (h : sep ∉ lead) (cs : List Char) :
    splitList sep (lead ++ cs) = (splitList sep cs).modifyHead (lead ++ ·) := by
  obtain ⟨piece, pieces, hcs⟩ := List.exists_cons_of_ne_nil (splitList_ne_nil sep cs)
  rw [hcs, List.modifyHead_cons]
  induction lead with
  | nil => exact hcs
  | cons c rest ih =>
    obtain ⟨hne, hrest⟩ := not_or.mp (mt List.mem_cons.mpr h)
    rw [List.cons_append, splitList, if_neg (Ne.symm hne), ih hrest]
    rfl

/-- What stands behind a text, without the separator in it, goes to the last piece. -/
theorem splitList_append_right {sep : Char} {trail : List Char} (h : sep ∉ trail)
    (cs : List Char) : ∃ pieces last, splitList sep cs = pieces ++ [last] ∧
      splitList sep (cs ++ trail) = pieces ++ [last ++ trail] := by
  induction cs with
  | nil => exact ⟨[], [], rfl, splitList_of_not_mem h⟩
  | cons c cs ih =>
    obtain ⟨pieces, last, hcs, htrail⟩ := ih
    rw [List.cons_append, splitList, splitList, hcs, htrail]
    by_cases hsep : c = sep
    · rw [if_pos hsep, if_pos hsep]
      exact ⟨[] :: pieces, last, rfl, rfl⟩
    · rw [if_neg hsep, if_neg hsep]
      cases pieces with
      | nil => exact ⟨[], c :: last, rfl, rfl⟩
      | cons piece pieces => exact ⟨(c :: piece) :: pieces, last, rfl, rfl⟩

/-- A separator that is met within its own length behind a part is met in that part and in the
separator short of its last character. -/
theorem infix_of_prefix_append {sep before after : List Char} (hbefore : before ≠ [])
    (h : sep <+: before ++ sep ++ after) : sep <:+: before ++ sep.dropLast := by
  have hshort : before ++ sep.dropLast <+: before ++ sep ++ after :=
    ((List.prefix_append_right_inj before).mpr (List.dropLast_prefix sep)).trans
      (List.prefix_append _ after)
  have hlength : sep.length ≤ (before ++ sep.dropLast).length := by
    have hpos : 0 < before.length := List.length_pos_iff.mpr hbefore
    rw [List.length_append, List.length_dropLast]
    omega
  exact (List.prefix_of_prefix_length_le h hshort hlength).isInfix

/-- A text is cut at a separator that occurs nowhere earlier, not even across the cut. -/
theorem splitAtFirst_eq_some_iff {sep : List Char} (hsep : sep ≠ []) :
    ∀ {cs before after : List Char}, splitAtFirst sep cs = some (before, after) ↔
      cs = before ++ sep ++ after ∧ ¬ sep <:+: before ++ sep.dropLast
  | [], before, after => by
    rw [splitAtFirst, if_neg (by simpa using hsep)]
    simp [hsep]
  | c :: cs, before, after => by
    simp only [splitAtFirst, List.isPrefixOf_iff_prefix]
    split
    next hstart =>
      -- here the text begins with a separator, and only the empty part stands before it
      have hcut : c :: cs = sep ++ (c :: cs).drop sep.length :=
        (List.prefix_iff_eq_append.mp hstart).symm
      have hnone : ¬ sep <:+: [] ++ sep.dropLast := fun h => by
        have hlength := h.length_le
        have hpos : 0 < sep.length := List.length_pos_iff.mpr hsep
        rw [List.nil_append, List.length_dropLast] at hlength
        omega
      rw [Option.some.injEq, Prod.mk.injEq]
      constructor
      · rintro ⟨rfl, rfl⟩
        exact ⟨hcut, hnone⟩
      · rintro ⟨htext, hfirst⟩
        have hempty : before = [] := Decidable.byContradiction fun hbefore =>
          hfirst (infix_of_prefix_append hbefore (htext ▸ hstart))
        subst hempty
        rw [hcut, List.nil_append] at htext
        exact ⟨rfl, List.append_cancel_left htext⟩
    next hstart =>
      rw [Option.map_eq_some_iff]
      constructor
      · rintro ⟨⟨rest, after'⟩, hrest, heq⟩
        obtain ⟨rfl, rfl⟩ := Prod.mk.inj heq
        obtain ⟨htext, hfirst⟩ := (splitAtFirst_eq_some_iff hsep).mp hrest
        refine ⟨by rw [htext]; rfl, fun hmet => ?_⟩
        rcases List.infix_cons_iff.mp hmet with hmet | hmet
        · -- met at the front, the separator would begin the text
          refine hstart (hmet.trans ?_)
          rw [htext, List.append_assoc]
          exact (List.prefix_cons_inj c).mpr ((List.prefix_append_right_inj rest).mpr
            ((List.dropLast_prefix sep).trans (List.prefix_append sep after')))
        · exact hfirst hmet
      · rintro ⟨htext, hfirst⟩
        cases before with
        | nil =>
          rw [htext] at hstart
          exact absurd (List.prefix_append sep after) hstart
        | cons b rest =>
          obtain ⟨rfl, htail⟩ := List.cons.inj htext
          refine ⟨(rest, after), (splitAtFirst_eq_some_iff hsep).mpr ⟨htail, fun hmet => ?_⟩, rfl⟩
          exact hfirst (List.infix_cons_iff.mpr (Or.inr hmet))

/-- A text in which the separator occurs is cut. -/
theorem isSome_splitAtFirst {sep : List Char} :
    ∀ {cs : List Char}, sep <:+: cs → (splitAtFirst sep cs).isSome
  | [], h => by
    rw [List.infix_nil.mp h]
    rfl
  | c :: cs, h => by
    simp only [splitAtFirst, List.isPrefixOf_iff_prefix]
    split
    next => rfl
    next hstart =>
      rw [Option.isSome_map]
      exact isSome_splitAtFirst ((List.infix_cons_iff.mp h).resolve_left hstart)

end RowPolicy.Text
