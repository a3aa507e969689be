import ChatHygiene.Lib.Machine
/-!
# Two runs side by side

A machine taken twice steps in lockstep on pairs of inputs. A property of two
runs is then an invariant of one run of the pair, and a secret is kept when
inputs that differ in the secret alone keep the two states related.
-/

namespace Machine

variable {State Input : Type} {M : Machine State Input}

/-- Two copies of a machine, from one initial state: both take a step or neither does. -/
def twice (M : Machine State Input) : Machine (State × State) (Input × Input) where
  init s := M.init s.1 ∧ s.2 = s.1
  step s i := (M.step s.1 i.1).bind fun s₁ => (M.step s.2 i.2).map fun s₂ => (s₁, s₂)

theorem twice_step {s s' : State × State} {i : Input × Input} (h : M.twice.step s i = some s') :
    M.step s.1 i.1 = some s'.1 ∧ M.step s.2 i.2 = some s'.2 := by
  obtain ⟨s₁, h₁, h⟩ := Option.bind_eq_some_iff.1 h
  obtain ⟨s₂, h₂, rfl⟩ := Option.map_eq_some_iff.1 h
  exact ⟨h₁, h₂⟩

/-- **Unwinding.** Where alike inputs take a state to one state, two runs on alike inputs from one
state end in one state. -/
theorem twice_eq {alike : State → Input → Input → Prop} {s : State} {t : State × State}
    (h : M.twice.Runs (fun s i => alike s.1 i.1 i.2) (s, s) t)
    (hstep : ∀ s i i' t t', alike s i i' → M.step s i = some t → M.step s i' = some t' → t' = t) :
    t.2 = t.1 := by
  refine h.invariant (P := fun s => s.2 = s.1) rfl ?_
  intro s i s' heq halike hs'
  obtain ⟨h₁, h₂⟩ := twice_step hs'
  rw [heq] at h₂
  exact hstep _ _ _ _ _ halike h₁ h₂

end Machine
