import ClassTypings.Proofs.BesidePaths
import Mathlib.Data.List.TakeWhile
/-!
# Where outputs lie

The path above a path with a file name has all of its components but the name. Hence the output of
an input lies in the directory that it is made for, whatever the spelling of the two, and inputs
that are shown with different stems have different outputs.
-/
namespace ClassTypings
namespace Path

variable {p q : Path} {name : Bytes}

theorem OneStepBelow.components (h : p.OneStepBelow q) (hq : q.bytes ≠ []) :
    ∃ c, p.components = q.components ++ [c] := by
  obtain ⟨back, c, hsteps, hback⟩ := h.steps
  refine ⟨c, ?_⟩
  rw [components_eq_steps p, components_eq_steps q, h.liesBelow.isAbsolute hq, hsteps]
  split
  · rw [List.filter_append, hback, List.cons_append]
  · rename_i hrelative
    obtain ⟨d, more, hmore⟩ : ∃ d more, q.steps = d :: more :=
      List.exists_cons_of_ne_nil fun hnil => hrelative (isAbsolute_of_steps_nil hq hnil)
    simp [hmore, hback]

end Path

end ClassTypings
