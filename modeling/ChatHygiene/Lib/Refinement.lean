import ChatHygiene.Lib.Machine
/-!
# Refinement

A machine refines another one if each of its steps is a step of the other one,
or none as far as the other one can see. What holds in every reachable state of
the other machine then holds of what is seen of it.
-/

namespace Machine

variable {State Input State' Input' State'' Input'' : Type}

/-- A refinement with steps that are not seen. -/
structure Refines (M : Machine State Input) (M' : Machine State' Input') (proj : State → State') :
    Prop where
  init : ∀ s, M.init s → M'.init (proj s)
  step : ∀ s i s', M.step s i = some s' → proj s' = proj s ∨ ∃ j, M'.step (proj s) j = some (proj s')

variable {M : Machine State Input} {M' : Machine State' Input'} {M'' : Machine State'' Input''}
  {proj : State → State'} {proj' : State' → State''}

/-- **What is seen of a reachable state is reachable.** -/
theorem Refines.reachable (h : M.Refines M' proj) {s : State} (hs : M.Reachable s) :
    M'.Reachable (proj s) := by
  refine hs.invariant (P := fun s => M'.Reachable (proj s))
    (fun s hinit => ⟨_, h.init s hinit, .refl _⟩) fun s i s' _ ih _ hstep => ?_
  rcases h.step s i s' hstep with hsame | ⟨j, hj⟩
  · rw [hsame]
    exact ih
  · exact ih.step trivial hj

theorem Refines.trans (h : M.Refines M' proj) (h' : M'.Refines M'' proj') :
    M.Refines M'' (proj' ∘ proj) where
  init s hs := h'.init _ (h.init s hs)
  step s i s' hstep := by
    rcases h.step s i s' hstep with hsame | ⟨j, hj⟩
    · exact .inl (congrArg proj' hsame)
    · exact h'.step _ j _ hj

end Machine
