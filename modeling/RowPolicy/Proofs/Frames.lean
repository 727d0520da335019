import Mathlib.Data.List.Induction
import RowPolicy.Program

/-!
# Frames step by step

What a frame has come to after some steps: what it holds, and its progress. A program is followed
from its last step back, so that every statement about the steps of a frame is one about each of its
moments.

Main statements:

* `performed_concat`: one more step is performed with what the frame holds by then;
* `performed_drop_of_none`, `performed_drop_of_some`: dropping a name undoes the oldest thing that
  is held under it, and nothing else.
-/

namespace RowPolicy

/-- Steps of one kind, followed from the last one back. -/
theorem frame_induction {kind : Step → Prop}
    {motive : (steps : List Step) → (∀ step ∈ steps, kind step) → Prop}
    (nil : motive [] nofun)
    (concat : ∀ steps step hbefore hsteps, kind step → motive steps hbefore →
      motive (steps ++ [step]) hsteps)
    (steps : List Step) (hsteps : ∀ step ∈ steps, kind step) : motive steps hsteps := by
  induction steps using List.reverseRecOn with
  | nil => exact nil
  | append_singleton steps step ih =>
    have hbefore : ∀ other ∈ steps, kind other :=
      fun other hmem => hsteps other (List.mem_append_left _ hmem)
    have hstep : kind step := hsteps step (List.mem_append_right _ (List.mem_singleton_self step))
    exact concat steps step hbefore hsteps hstep (ih hbefore)

section
variable {engine : Engine} {progress : Progress} {steps : List Step}

/-- What a frame holds after some steps, and how far it has come. -/
def performed (engine : Engine) (progress : Progress) (steps : List Step) : Held × Progress :=
  (performAll engine [] progress steps).2

theorem performAll_concat (held : Held) (progress : Progress) (steps : List Step) (step : Step) :
    (performAll engine held progress (steps ++ [step])).2 =
      (step.perform engine (performAll engine held progress steps).2.1
        (performAll engine held progress steps).2.2).2 := by
  induction steps generalizing held progress with
  | nil => rfl
  | cons first rest ih =>
    rw [List.cons_append, performAll, performAll]
    exact ih ..

theorem performed_concat (step : Step) :
    performed engine progress (steps ++ [step]) =
      (step.perform engine (performed engine progress steps).1
        (performed engine progress steps).2).2 := by
  rw [performed, performAll_concat, performed]

theorem performed_drop (name : String) :
    performed engine progress (steps ++ [.drop name]) =
      match (performed engine progress steps).1.find? (·.1 = name) with
      | some entry => ((performed engine progress steps).1.eraseP (·.1 = name),
          (performed engine progress steps).2.undo entry.2)
      | none => performed engine progress steps := by
  rw [performed_concat, Step.perform, Held.take?_eq]
  cases (performed engine progress steps).1.find? (·.1 = name) <;> rfl

/-! ## What a frame holds for a list of items -/

section
variable {ι : Type} {pending : List ι} {hold : ι → String × Guard} {name : String}

theorem find?_held (hheld : (performed engine progress steps).1 = pending.map hold) :
    (performed engine progress steps).1.find? (·.1 = name) =
      (pending.find? fun item => (hold item).1 = name).map hold := by
  rw [hheld, List.find?_map]
  rfl

/-- A name that nothing is held under is dropped in vain. -/
theorem performed_drop_of_none (hheld : (performed engine progress steps).1 = pending.map hold)
    (hfind : (pending.find? fun item => (hold item).1 = name) = none) :
    performed engine progress (steps ++ [.drop name]) = performed engine progress steps := by
  rw [performed_drop, find?_held hheld, hfind]
  rfl

/-- Dropping a name undoes what is held for the first item under it. -/
theorem performed_drop_of_some (hheld : (performed engine progress steps).1 = pending.map hold)
    {item : ι} (hfind : (pending.find? fun item => (hold item).1 = name) = some item) :
    performed engine progress (steps ++ [.drop name]) =
      ((pending.eraseP fun item => (hold item).1 = name).map hold,
        (performed engine progress steps).2.undo (hold item).2) := by
  rw [performed_drop, find?_held hheld, hfind, hheld, List.eraseP_map]
  rfl

end

end

end RowPolicy
