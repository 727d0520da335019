/-!
# Sorted lists without repeats

`insertOrdered` keeps an ascending list ascending and adds a member once; `ordered` sorts a list
that way. Text is ordered by code point.

Main statements: membership is what was there before and the new member (`mem_insertOrdered`,
`mem_ordered`). A list without repeats is only rearranged (`ordered_perm`). Where the order is a
strict total one, what comes out is ascending (`pairwise_ordered`), so no member occurs twice
(`nodup_ordered`).
-/

namespace RowPolicy

variable {α : Type} [LT α] [DecidableLT α] [DecidableEq α]

/-- Puts `a` before the first larger member, unless it is there already. -/
def insertOrdered (a : α) : List α → List α
  | [] => [a]
  | b :: bs => if a = b then b :: bs else if a < b then a :: b :: bs else b :: insertOrdered a bs

/-- The members of a list in ascending order, each once. -/
def ordered (xs : List α) : List α := xs.foldr insertOrdered []

theorem mem_insertOrdered {a x : α} {xs : List α} :
    x ∈ insertOrdered a xs ↔ x = a ∨ x ∈ xs := by
  induction xs with
  | nil => simp [insertOrdered]
  | cons b bs ih =>
    unfold insertOrdered
    split
    · next h => subst h; simp
    · split
      · simp
      · simp only [List.mem_cons, ih]
        exact or_left_comm

theorem mem_ordered {x : α} {xs : List α} : x ∈ ordered xs ↔ x ∈ xs := by
  induction xs with
  | nil => simp [ordered]
  | cons b bs ih =>
    have : ordered (b :: bs) = insertOrdered b (ordered bs) := rfl
    rw [this, mem_insertOrdered, ih, List.mem_cons]

theorem insertOrdered_perm {a : α} {xs : List α} (h : a ∉ xs) :
    (insertOrdered a xs).Perm (a :: xs) := by
  induction xs with
  | nil => exact List.Perm.refl _
  | cons b bs ih =>
    obtain ⟨hne, hrest⟩ := not_or.mp (mt List.mem_cons.mpr h)
    rw [insertOrdered, if_neg hne]
    split
    · exact List.Perm.refl _
    · exact ((ih hrest).cons b).trans (List.Perm.swap a b bs)

/-- A list without repeats keeps its members when it is sorted. -/
theorem ordered_perm {xs : List α} (h : xs.Nodup) : (ordered xs).Perm xs := by
  induction xs with
  | nil => exact List.Perm.refl _
  | cons b bs ih =>
    obtain ⟨hnew, hrest⟩ := List.nodup_cons.mp h
    exact (insertOrdered_perm (mt mem_ordered.mp hnew)).trans ((ih hrest).cons b)

section Ascending

variable [Trans (α := α) (· < ·) (· < ·) (· < ·)] [Std.Trichotomous (α := α) (· < ·)]

theorem pairwise_insertOrdered {a : α} {xs : List α} (h : xs.Pairwise (· < ·)) :
    (insertOrdered a xs).Pairwise (· < ·) := by
  induction xs with
  | nil => exact List.pairwise_singleton _ a
  | cons b bs ih =>
    obtain ⟨hfirst, hrest⟩ := List.pairwise_cons.mp h
    unfold insertOrdered
    split
    next => exact h
    next hne =>
      split
      next hlt =>
        refine List.pairwise_cons.mpr ⟨List.forall_mem_cons.mpr ⟨hlt, fun c hc => ?_⟩, h⟩
        exact Trans.trans hlt (hfirst c hc)
      next hnot =>
        have hlt : b < a := by
          rcases Std.Trichotomous.rel_or_eq_or_rel_swap (r := (· < ·)) (a := a) (b := b) with
            hlt | heq | hlt
          · exact absurd hlt hnot
          · exact absurd heq hne
          · exact hlt
        refine List.pairwise_cons.mpr ⟨fun c hc => ?_, ih hrest⟩
        rcases mem_insertOrdered.mp hc with rfl | hc
        · exact hlt
        · exact hfirst c hc

theorem pairwise_ordered (xs : List α) : (ordered xs).Pairwise (· < ·) := by
  induction xs with
  | nil => exact List.Pairwise.nil
  | cons b bs ih => exact pairwise_insertOrdered ih

theorem nodup_ordered [Std.Irrefl (α := α) (· < ·)] (xs : List α) : (ordered xs).Nodup := by
  refine (pairwise_ordered xs).imp ?_
  rintro a _ hlt rfl
  exact Std.Irrefl.irrefl a hlt

end Ascending

end RowPolicy
