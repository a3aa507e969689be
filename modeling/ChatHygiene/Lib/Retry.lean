import Mathlib.Algebra.Order.BigOperators.Group.List
import Mathlib.Algebra.Order.Ring.Nat
import Mathlib.Data.List.Forall2
/-!
# Retry loops

A loop makes one call for each entry of a schedule. Its body decides from the
entry and the answer whether to return, to sleep and go on, or to panic; a loop
that runs out of entries panics too. The steps of a run are listed in order, so
that a run stopped on the way is a prefix of them.
-/

namespace Retry

variable {κ σ δ ε ρ : Type}

inductive Step (κ δ : Type) where
  | call (request : κ)
  | sleep (delay : δ)
  deriving DecidableEq, Repr

/-- What the body decides about the answer to its call. -/
inductive Decision (δ ρ : Type) where
  | done (result : ρ)
  | sleep (delay : δ)
  | panicked (message : String)
  deriving DecidableEq, Repr

inductive Ending (ρ : Type) where
  | returned (result : ρ)
  | panicked (message : String)
  deriving DecidableEq, Repr

structure Run (κ δ ρ : Type) where
  steps : List (Step κ δ)
  ending : Ending ρ
  deriving DecidableEq, Repr

/-- The loop over the entries left, from the attempt of that number on. -/
def loop (request : κ) (unreachable : String) (body : σ → ε → Decision δ ρ) (answers : Nat → ε) :
    List σ → Nat → Run κ δ ρ
  | [], _ => ⟨[], .panicked unreachable⟩
  | entry :: entries, attempt =>
    match body entry (answers attempt) with
    | .done result => ⟨[.call request], .returned result⟩
    | .panicked message => ⟨[.call request], .panicked message⟩
    | .sleep delay =>
      let rest := loop request unreachable body answers entries (attempt + 1)
      ⟨.call request :: .sleep delay :: rest.steps, rest.ending⟩

def calls : List (Step κ δ) → List κ :=
  List.filterMap fun
    | .call request => some request
    | .sleep _ => none

def sleeps : List (Step κ δ) → List δ :=
  List.filterMap fun
    | .call _ => none
    | .sleep delay => some delay

@[simp] theorem calls_nil : calls ([] : List (Step κ δ)) = [] := rfl

@[simp] theorem calls_call (request : κ) (steps : List (Step κ δ)) :
    calls (.call request :: steps) = request :: calls steps := rfl

@[simp] theorem calls_sleep (delay : δ) (steps : List (Step κ δ)) :
    calls (.sleep delay :: steps) = calls steps := rfl

@[simp] theorem sleeps_nil : sleeps ([] : List (Step κ δ)) = [] := rfl

@[simp] theorem sleeps_call (request : κ) (steps : List (Step κ δ)) :
    sleeps (.call request :: steps) = sleeps steps := rfl

@[simp] theorem sleeps_sleep (delay : δ) (steps : List (Step κ δ)) :
    sleeps (.sleep delay :: steps) = delay :: sleeps steps := rfl

/-! ## What the schedule allows -/

variable {R : σ → δ → Prop} {schedule : List σ} {steps steps' : List (Step κ δ)}

/-- The steps keep to the schedule: at most one call for each entry and a last one, and the sleeps
are those its entries allow, in order. -/
structure Within (R : σ → δ → Prop) (schedule : List σ) (steps : List (Step κ δ)) : Prop where
  calls : (calls steps).length ≤ schedule.length + 1
  sleeps : List.Forall₂ R (schedule.take (sleeps steps).length) (sleeps steps)

/-- A run that is stopped has kept to the schedule so far. -/
theorem Within.of_stopped (h : Within R schedule steps') (hstop : steps <+: steps') :
    Within R schedule steps := by
  have hcalls : Retry.calls steps <+: Retry.calls steps' := hstop.filterMap _
  have hsleeps : Retry.sleeps steps <+: Retry.sleeps steps' := hstop.filterMap _
  refine ⟨hcalls.length_le.trans h.calls, ?_⟩
  have htake := List.forall₂_take (Retry.sleeps steps).length h.sleeps
  rw [List.take_take, Nat.min_eq_left hsleeps.length_le, ← List.prefix_iff_eq_take.1 hsleeps]
    at htake
  exact htake

theorem Within.sleeps_le (h : Within R schedule steps) :
    (Retry.sleeps steps).length ≤ schedule.length := by
  have hlength := h.sleeps.length_eq
  rw [List.length_take] at hlength
  omega

/-- How long the steps take when no call takes longer than `perCall`. -/
def time (perCall : Nat) (steps : List (Step κ Nat)) : Nat :=
  (calls steps).length * perCall + (sleeps steps).sum

/-- **The total of the sleeps** is bounded by their number and the longest of them. -/
theorem Within.total_le {R : σ → Nat → Prop} {steps : List (Step κ Nat)} {longest : Nat}
    (h : Within R schedule steps) (hlongest : ∀ entry delay, R entry delay → delay ≤ longest) :
    (Retry.sleeps steps).sum ≤ schedule.length * longest := by
  have heach : ∀ delay ∈ Retry.sleeps steps, delay ≤ longest := by
    intro delay hdelay
    obtain ⟨i, hi, rfl⟩ := List.getElem_of_mem hdelay
    have hi' : i < (schedule.take (Retry.sleeps steps).length).length := by
      rw [h.sleeps.length_eq]
      exact hi
    exact hlongest _ _ (h.sleeps.get hi' hi)
  calc (Retry.sleeps steps).sum
      ≤ (Retry.sleeps steps).length * longest := List.sum_le_card_nsmul _ _ heach
    _ ≤ schedule.length * longest := Nat.mul_le_mul_right _ h.sleeps_le

theorem Within.time_le {R : σ → Nat → Prop} {steps : List (Step κ Nat)} {longest : Nat}
    (h : Within R schedule steps) (hlongest : ∀ entry delay, R entry delay → delay ≤ longest)
    (perCall : Nat) :
    time perCall steps ≤ (schedule.length + 1) * perCall + schedule.length * longest :=
  Nat.add_le_add (Nat.mul_le_mul_right _ h.calls) (h.total_le hlongest)

/-! ## Bodies that keep to it -/

/-- A body that, under the entries of the schedule, sleeps as they allow and does not panic, and
that returns at the last attempt. -/
structure Disciplined (R : σ → δ → Prop) (schedule : List σ) (body : Option σ → ε → Decision δ ρ) :
    Prop where
  sleeps : ∀ entry ∈ schedule, ∀ answer delay, body (some entry) answer = .sleep delay →
    R entry delay
  quiet : ∀ entry answer message, body (some entry) answer ≠ .panicked message
  last : ∀ answer, ∃ result, body none answer = .done result

variable {request : κ} {unreachable : String} {answers : Nat → ε}

section

variable {body : Option σ → ε → Decision δ ρ}

theorem Disciplined.tail {entry : σ} (h : Disciplined R (entry :: schedule) body) :
    Disciplined R schedule body :=
  ⟨fun entry' hentry => h.sleeps entry' (List.mem_cons_of_mem _ hentry), h.quiet, h.last⟩

/-- **The run of a disciplined body keeps to the schedule.** -/
theorem Disciplined.within (h : Disciplined R schedule body) (attempt : Nat) :
    Within R schedule
      (loop request unreachable body answers (schedule.map some ++ [none]) attempt).steps := by
  induction schedule generalizing attempt with
  | nil =>
    obtain ⟨result, hlast⟩ := h.last (answers attempt)
    simp only [List.map_nil, List.nil_append, loop, hlast]
    exact ⟨by simp, by simp⟩
  | cons entry schedule ih =>
    simp only [List.map_cons, List.cons_append, loop]
    cases hbody : body (some entry) (answers attempt) with
    | done result => exact ⟨by simp, by simp⟩
    | panicked message => exact absurd hbody (h.quiet _ _ _)
    | sleep delay =>
      have hrest := ih h.tail (attempt + 1)
      refine ⟨?_, ?_⟩
      · have hcalls := hrest.calls
        simp only [calls_call, calls_sleep, List.length_cons]
        omega
      · simp only [sleeps_call, sleeps_sleep, List.length_cons, List.take_succ_cons]
        exact .cons (h.sleeps _ List.mem_cons_self _ _ hbody) hrest.sleeps

/-- **The run of a disciplined body returns**: neither the body nor the end of the loop panics. -/
theorem Disciplined.returns (h : Disciplined R schedule body) (attempt : Nat) :
    ∃ result, (loop request unreachable body answers (schedule.map some ++ [none])
      attempt).ending = .returned result := by
  induction schedule generalizing attempt with
  | nil =>
    obtain ⟨result, hlast⟩ := h.last (answers attempt)
    simp only [List.map_nil, List.nil_append, loop, hlast]
    exact ⟨result, rfl⟩
  | cons entry schedule ih =>
    simp only [List.map_cons, List.cons_append, loop]
    cases hbody : body (some entry) (answers attempt) with
    | done result => exact ⟨result, rfl⟩
    | panicked message => exact absurd hbody (h.quiet _ _ _)
    | sleep delay => exact ih h.tail (attempt + 1)

end

/-- **What a run returns** is what the body makes of the last answer, under the entry of that
attempt. -/
theorem loop_returned {body : σ → ε → Decision δ ρ} {entries : List σ} {attempt : Nat} {result : ρ}
    (h : (loop request unreachable body answers entries attempt).ending = .returned result) :
    ∃ n entry, entries[n]? = some entry ∧ body entry (answers (attempt + n)) = .done result := by
  induction entries generalizing attempt with
  | nil => cases h
  | cons entry entries ih =>
    simp only [loop] at h
    cases hbody : body entry (answers attempt) with
    | done result' =>
      simp only [hbody] at h
      cases h
      exact ⟨0, entry, rfl, hbody⟩
    | panicked message =>
      simp only [hbody] at h
      cases h
    | sleep delay =>
      simp only [hbody] at h
      obtain ⟨n, entry', hentry, hdone⟩ := ih h
      refine ⟨n + 1, entry', hentry, ?_⟩
      have hattempt : attempt + (n + 1) = attempt + 1 + n := by omega
      rw [hattempt]
      exact hdone

end Retry
