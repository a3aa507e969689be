import Mathlib.Logic.Basic
/-!
# Executable machines and their runs

A machine with a partial, executable step: `step s i = some s'` when input `i`
is enabled at `s` and leads to `s'`. `Reachable` is what some list of inputs
leads to, so a concrete run is a list of inputs evaluated by `run`, and an
invariant is proved once per input.
-/

/-- A machine given by its initial states and an executable partial step. -/
structure Machine (State Input : Type) where
  init : State → Prop
  step : State → Input → Option State

namespace Machine

variable {State Input : Type} (M : Machine State Input)

/-- The state a list of inputs leads to, if every input is enabled in its turn. -/
def run : List Input → State → Option State
  | [], s => some s
  | i :: is, s => (M.step s i).bind (run is)

/-- `s'` is reached from `s` by inputs that all meet `ok` at the state they are taken in. -/
inductive Runs (ok : State → Input → Prop) : State → State → Prop where
  | refl (s : State) : Runs ok s s
  | tail {s₀ s s' : State} (i : Input) : Runs ok s₀ s → ok s i → M.step s i = some s' →
      Runs ok s₀ s'

/-- Reached from an initial state by inputs that all meet `ok`. -/
def ReachableBy (ok : State → Input → Prop) (s : State) : Prop :=
  ∃ s₀, M.init s₀ ∧ M.Runs ok s₀ s

/-- Reached from an initial state by any inputs. -/
def Reachable (s : State) : Prop := M.ReachableBy (fun _ _ => True) s

variable {M} {ok ok' : State → Input → Prop}

theorem Runs.mono {s₀ s : State} (h : M.Runs ok s₀ s) (hok : ∀ s i, ok s i → ok' s i) :
    M.Runs ok' s₀ s := by
  induction h with
  | refl => exact .refl _
  | tail i _ hi hstep ih => exact ih.tail i (hok _ _ hi) hstep

theorem Runs.trans {s₀ s₁ s₂ : State} (h : M.Runs ok s₀ s₁) (h' : M.Runs ok s₁ s₂) :
    M.Runs ok s₀ s₂ := by
  induction h' with
  | refl => exact h
  | tail i _ hi hstep ih => exact ih.tail i hi hstep

/-- **The invariant rule, along a run.** -/
theorem Runs.invariant {P : State → Prop} {s₀ s : State} (h : M.Runs ok s₀ s) (h₀ : P s₀)
    (hstep : ∀ s i s', P s → ok s i → M.step s i = some s' → P s') : P s := by
  induction h with
  | refl => exact h₀
  | tail i _ hi hs ih => exact hstep _ _ _ ih hi hs

/-- What each step relates, a run relates. -/
theorem Runs.relation {R : State → State → Prop} {s₀ s : State} (h : M.Runs ok s₀ s)
    (hrefl : ∀ s, R s s) (htrans : ∀ a b c, R a b → R b c → R a c)
    (hstep : ∀ s i s', ok s i → M.step s i = some s' → R s s') : R s₀ s := by
  induction h with
  | refl => exact hrefl _
  | tail i _ hi hs ih => exact htrans _ _ _ ih (hstep _ _ _ hi hs)

/-- **The invariant rule.** What holds initially and is kept by every step taken from a reachable
state holds in every reachable state. -/
theorem ReachableBy.invariant {P : State → Prop} {s : State} (h : M.ReachableBy ok s)
    (h₀ : ∀ s, M.init s → P s)
    (hstep : ∀ s i s', M.ReachableBy ok s → P s → ok s i → M.step s i = some s' → P s') :
    P s := by
  obtain ⟨s₀, hinit, hrun⟩ := h
  induction hrun with
  | refl => exact h₀ _ hinit
  | tail i hr hi hs ih => exact hstep _ _ _ ⟨s₀, hinit, hr⟩ ih hi hs

theorem ReachableBy.step {s s' : State} {i : Input} (h : M.ReachableBy ok s) (hi : ok s i)
    (hs : M.step s i = some s') : M.ReachableBy ok s' :=
  h.imp fun _ ⟨h₀, hr⟩ => ⟨h₀, hr.tail i hi hs⟩

/-- What each step from a reachable state relates, a run from one relates. -/
theorem ReachableBy.relation {R : State → State → Prop} {s₀ s : State} (h₀ : M.ReachableBy ok s₀)
    (h : M.Runs ok s₀ s) (hrefl : ∀ s, R s s) (htrans : ∀ a b c, R a b → R b c → R a c)
    (hstep : ∀ s i s', M.ReachableBy ok s → ok s i → M.step s i = some s' → R s s') : R s₀ s := by
  induction h with
  | refl => exact hrefl _
  | tail i hr hi hs ih =>
    exact htrans _ _ _ ih (hstep _ _ _ (h₀.imp fun _ ⟨hinit, hr₀⟩ => ⟨hinit, hr₀.trans hr⟩) hi hs)

theorem ReachableBy.mono {s : State} (h : M.ReachableBy ok s) (hok : ∀ s i, ok s i → ok' s i) :
    M.ReachableBy ok' s :=
  h.imp fun _ ⟨h₀, hr⟩ => ⟨h₀, hr.mono hok⟩

theorem ReachableBy.reachable {s : State} (h : M.ReachableBy ok s) : M.Reachable s :=
  h.mono fun _ _ _ => trivial

/-- **History can be kept of every run.** A machine that follows another one step by step reaches a
state over each state the other one reaches. -/
theorem ReachableBy.follow {State' : Type} {M' : Machine State' Input} {proj : State' → State}
    {s : State} (h : M.Reachable s) (hinit : ∀ s, M.init s → ∃ t, M'.init t ∧ proj t = s)
    (hstep : ∀ t i s', M.step (proj t) i = some s' → ∃ t', M'.step t i = some t' ∧ proj t' = s') :
    ∃ t, M'.Reachable t ∧ proj t = s := by
  refine h.invariant (P := fun s => ∃ t, M'.Reachable t ∧ proj t = s) (fun s hs => ?_)
    (fun s i s' _ ih _ hs => ?_)
  · obtain ⟨t, ht, hproj⟩ := hinit s hs
    exact ⟨t, ⟨t, ht, .refl t⟩, hproj⟩
  · obtain ⟨t, ht, rfl⟩ := ih
    obtain ⟨t', ht', hproj⟩ := hstep t i s' hs
    exact ⟨t', ht.step trivial ht', hproj⟩

/-! ## Evaluated runs -/

/-- A run found by evaluation. -/
theorem runs_of_run {s s' : State} {is : List Input} (h : M.run is s = some s') :
    M.Runs (fun _ _ => True) s s' := by
  induction is generalizing s with
  | nil => cases h; exact .refl _
  | cons i is ih =>
    obtain ⟨t, ht, h⟩ := Option.bind_eq_some_iff.1 h
    exact ((Runs.refl s).tail i trivial ht).trans (ih h)

/-- What a run found by evaluation ends in is reachable. -/
theorem reachable_of_run {s₀ : State} (is : List Input) (p : State → Bool) (h₀ : M.init s₀)
    (h : (M.run is s₀).any p = true) : ∃ s, M.Reachable s ∧ p s = true := by
  obtain ⟨s, hs, hp⟩ := (Option.any_eq_true p _).1 h
  exact ⟨s, ⟨s₀, h₀, runs_of_run hs⟩, hp⟩

section

variable (M) (ok) [∀ s i, Decidable (ok s i)]

/-- The state a list of inputs leads to, if every input is enabled and meets `ok` in its turn. -/
def runWhile : List Input → State → Option State
  | [], s => some s
  | i :: is, s => if ok s i then (M.step s i).bind (runWhile is) else none

variable {M}

theorem runs_of_runWhile {s s' : State} {is : List Input} (h : M.runWhile ok is s = some s') :
    M.Runs ok s s' := by
  induction is generalizing s with
  | nil => cases h; exact .refl _
  | cons i is ih =>
    obtain ⟨hi, h⟩ := Option.ite_none_right_eq_some.1 h
    obtain ⟨t, ht, h⟩ := Option.bind_eq_some_iff.1 h
    exact ((Runs.refl s).tail i hi ht).trans (ih h)

/-- What a restricted run found by evaluation ends in is reached by such inputs. -/
theorem reachableBy_of_runWhile {s₀ : State} (is : List Input) (p : State → Bool)
    (h₀ : M.init s₀) (h : (M.runWhile ok is s₀).any p = true) :
    ∃ s, M.ReachableBy ok s ∧ p s = true := by
  obtain ⟨s, hs, hp⟩ := (Option.any_eq_true p _).1 h
  exact ⟨s, ⟨s₀, h₀, runs_of_runWhile ok hs⟩, hp⟩

end

end Machine
