import Mathlib.Logic.Basic
/-!
# Programs that can crash

A program makes atomic calls on a store and can be stopped between any two of
them. Its outcome lists the steps it takes, so that a contract speaks of every
step on the way as well as of the end.
-/

namespace Crash

variable {Store Err α β : Type}

/-- What a run does: the calls that change the store, each with the store before and after it, the
store at the end, and the result. -/
structure Outcome (Store Err α : Type) where
  steps : List (Store × Store)
  final : Store
  result : Except Err α

def Prog (Store Err α : Type) : Type := Store → Outcome Store Err α

namespace Prog

instance : Monad (Prog Store Err) where
  pure a s := ⟨[], s, .ok a⟩
  bind x f s :=
    match (x s).result with
    | .ok a => ⟨(x s).steps ++ (f a (x s).final).steps, (f a (x s).final).final,
        (f a (x s).final).result⟩
    | .error e => ⟨(x s).steps, (x s).final, .error e⟩

/-- A call that only looks at the store. -/
def look (f : Store → Except Err α) : Prog Store Err α := fun s => ⟨[], s, f s⟩

/-- A call that changes the store, or fails and leaves it as it is. -/
def call (f : Store → Except Err Store) : Prog Store Err Unit := fun s =>
  match f s with
  | .ok s' => ⟨[(s, s')], s', .ok ()⟩
  | .error e => ⟨[], s, .error e⟩

protected def throw (e : Err) : Prog Store Err α := fun s => ⟨[], s, .error e⟩

/-- Runs a program for every element of a list, in turn. -/
def each (g : β → Prog Store Err Unit) : List β → Prog Store Err Unit
  | [] => pure ()
  | b :: bs => do
    g b
    each g bs

/-- The store when the run is stopped after so many steps, or at its end. -/
def stoppedAfter (x : Prog Store Err α) (s : Store) : Nat → Store
  | 0 => s
  | n + 1 =>
    match (x s).steps[n]? with
    | some step => step.2
    | none => (x s).final

/-! ## Contracts -/

/-- From `s`, every step is an `R`, and the end is a `Q`. -/
structure Runs (x : Prog Store Err α) (s : Store) (R : Store → Store → Prop)
    (Q : Except Err α → Store → Prop) : Prop where
  steps : ∀ step ∈ (x s).steps, R step.1 step.2
  final : Q (x s).result (x s).final

/-- A contract for what follows a successful run; a failed run ends here. -/
def Then (f : α → Prog Store Err β) (R : Store → Store → Prop) (Q : Except Err β → Store → Prop) :
    Except Err α → Store → Prop
  | .ok a, s => Runs (f a) s R Q
  | .error e, s => Q (.error e) s

namespace Runs

variable {x : Prog Store Err α} {s : Store} {R : Store → Store → Prop}
  {Q P : Except Err α → Store → Prop}

protected theorem pure {a : α} (h : Q (.ok a) s) : Runs (pure a : Prog Store Err α) s R Q :=
  ⟨fun _ hstep => absurd hstep List.not_mem_nil, h⟩

protected theorem throw {e : Err} (h : Q (.error e) s) : Runs (Prog.throw e) s R Q :=
  ⟨fun _ hstep => absurd hstep List.not_mem_nil, h⟩

protected theorem look {f : Store → Except Err α} (h : Q (f s) s) : Runs (look f) s R Q :=
  ⟨fun _ hstep => absurd hstep List.not_mem_nil, h⟩

/-- **The rule of a call.** -/
protected theorem call {f : Store → Except Err Store} {Q : Except Err Unit → Store → Prop}
    (hok : ∀ s', f s = .ok s' → R s s' ∧ Q (.ok ()) s')
    (herror : ∀ e, f s = .error e → Q (.error e) s) : Runs (call f) s R Q := by
  cases hf : f s with
  | ok s' =>
    obtain ⟨hR, hQ⟩ := hok s' hf
    refine ⟨fun step hstep => ?_, ?_⟩
    · simp only [Prog.call, hf, List.mem_singleton] at hstep
      rw [hstep]
      exact hR
    · simp only [Prog.call, hf]
      exact hQ
  | error e =>
    refine ⟨fun step hstep => ?_, ?_⟩
    · simp only [Prog.call, hf, List.not_mem_nil] at hstep
    · simp only [Prog.call, hf]
      exact herror e hf

theorem mono (h : Runs x s R Q) (hQ : ∀ r s', Q r s' → P r s') : Runs x s R P :=
  ⟨h.steps, hQ _ _ h.final⟩

/-- **The rule of composition.** -/
protected theorem bind {f : α → Prog Store Err β} {Q : Except Err β → Store → Prop}
    (h : Runs x s R (Then f R Q)) : Runs (x >>= f) s R Q := by
  obtain ⟨hsteps, hfinal⟩ := h
  cases hresult : (x s).result with
  | ok a =>
    rw [hresult] at hfinal
    obtain ⟨hsteps', hfinal'⟩ := hfinal
    refine ⟨fun step hstep => ?_, ?_⟩
    · simp only [Bind.bind, hresult, List.mem_append] at hstep
      exact hstep.elim (hsteps step) (hsteps' step)
    · simp only [Bind.bind, hresult]
      exact hfinal'
  | error e =>
    rw [hresult] at hfinal
    refine ⟨fun step hstep => ?_, ?_⟩
    · simp only [Bind.bind, hresult] at hstep
      exact hsteps step hstep
    · simp only [Bind.bind, hresult]
      exact hfinal

/-- A look ahead of what follows. -/
theorem bind_look {g : Store → Except Err α} {f : α → Prog Store Err β}
    {Q : Except Err β → Store → Prop} (h : Then f R Q (g s) s) : Runs (Prog.look g >>= f) s R Q :=
  .bind (.look h)

/-- **The rule of a loop**: `I` is what holds before the rest of the list. -/
protected theorem each {g : β → Prog Store Err Unit} {I : List β → Store → Prop}
    {Q : Except Err Unit → Store → Prop} (bs : List β)
    (hstep : ∀ b bs s, I (b :: bs) s → Runs (g b) s R fun r s' =>
      match r with
      | .ok () => I bs s'
      | .error e => Q (.error e) s')
    (hend : ∀ s, I [] s → Q (.ok ()) s) (h : I bs s) : Runs (Prog.each g bs) s R Q := by
  induction bs generalizing s with
  | nil => exact .pure (hend s h)
  | cons b bs ih =>
    refine .bind ((hstep b bs s h).mono fun r s' hr => ?_)
    cases r with
    | ok u => exact ih hr
    | error e => exact hr

/-- **What every step and the end establish holds wherever the run is stopped.** -/
theorem stoppedAfter {C : Store → Prop} (h : Runs x s (fun _ s' => C s') fun _ s' => C s')
    (hs : C s) (n : Nat) : C (x.stoppedAfter s n) := by
  cases n with
  | zero => exact hs
  | succ n =>
    simp only [Prog.stoppedAfter]
    split
    · next step hstep => exact h.steps step (List.mem_of_getElem? hstep)
    · exact h.final

end Runs

end Prog

end Crash
