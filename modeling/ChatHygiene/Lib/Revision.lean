import Mathlib.Order.Basic
import ChatHygiene.Lib.Machine
/-!
# Revisions

A value that carries a revision, and writers that raise the revision whenever
they change the value. Whoever finds the revision it has seen finds the value
it has seen, however many writers came in between: this is what a
compare-and-set on the revision rests on.
-/

variable {α β : Type} [Preorder β] {revision : α → β} {a a' a'' : α}

/-- The value is unchanged, or its revision is higher. -/
def Advances (revision : α → β) (a a' : α) : Prop := a' = a ∨ revision a < revision a'

namespace Advances

protected theorem refl (a : α) : Advances revision a a := .inl rfl

protected theorem trans (h : Advances revision a a') (h' : Advances revision a' a'') :
    Advances revision a a'' := by
  rcases h with rfl | hlt
  · exact h'
  · rcases h' with rfl | hlt'
    · exact .inr hlt
    · exact .inr (hlt.trans hlt')

theorem lt_of_ne (h : Advances revision a a') (hne : a' ≠ a) : revision a < revision a' :=
  h.resolve_left hne

/-- **Writers that advance the value make runs that do.** -/
theorem of_runs {State Input : Type} {M : Machine State Input} {ok : State → Input → Prop}
    {s₀ s : State} {value : State → α} (h : M.ReachableBy ok s₀) (hruns : M.Runs ok s₀ s)
    (hstep : ∀ s i s', M.ReachableBy ok s → ok s i → M.step s i = some s' →
      Advances revision (value s) (value s')) : Advances revision (value s₀) (value s) :=
  h.relation (R := fun s s' => Advances revision (value s) (value s')) hruns (fun _ => .refl _)
    (fun _ _ _ => .trans) hstep

end Advances
