import Mathlib.Logic.Relation
import Mathlib.Order.Defs.Unbundled
/-!
# Transactions

A transaction reads and writes a store and may fail; a failed transaction
leaves the store as it was. This file reads a transaction in four ways: by
inversion (`bind_ok_iff` and its companions, what a successful run went
through), by what every successful run relates (`Respects`), by the writes it
is made of (`Through`), and by its total contract (`Yields`: it succeeds, and
what holds afterwards).
-/

/-- A program over a store that may fail. -/
abbrev Txn (Store Err : Type) (α : Type) := StateT Store (Except Err) α

namespace Txn

variable {Store Err α β : Type}

/-- The rows a query returns. -/
def read (f : Store → α) : Txn Store Err α := fun s => .ok (f s, s)

/-- One write. -/
def write (f : Store → Store) : Txn Store Err Unit := fun s => .ok ((), f s)

/-- A loop over a list, in order. -/
def forEach (g : α → Txn Store Err Unit) : List α → Txn Store Err Unit
  | [] => pure ()
  | a :: l => do
    g a
    forEach g l

/-- The store and the result after the transaction ends: committed on success, rolled back on
failure. -/
def commit (x : Txn Store Err α) (s : Store) : Store × Except Err α :=
  match x s with
  | .ok (a, s') => (s', .ok a)
  | .error e => (s, .error e)

/-! ## Inversion -/

theorem bind_ok_iff {x : Txn Store Err α} {f : α → Txn Store Err β} {s : Store} {r : β × Store} :
    (x >>= f) s = .ok r ↔ ∃ a s', x s = .ok (a, s') ∧ f a s' = .ok r := by
  change (x s >>= fun p => f p.1 p.2) = .ok r ↔ _
  cases hx : x s with
  | error e => simp [bind, Except.bind]
  | ok p =>
    constructor
    · exact fun h => ⟨p.1, p.2, rfl, h⟩
    · rintro ⟨a, s', h, h'⟩
      cases h
      exact h'

theorem bind_of_ok {x : Txn Store Err α} {f : α → Txn Store Err β} {s s' : Store} {a : α}
    (h : x s = .ok (a, s')) : (x >>= f) s = f a s' := by
  change (x s >>= fun p => f p.1 p.2) = _
  rw [h]
  rfl

theorem bind_of_error {x : Txn Store Err α} {f : α → Txn Store Err β} {s : Store} {e : Err}
    (h : x s = .error e) : (x >>= f) s = .error e := by
  change (x s >>= fun p => f p.1 p.2) = _
  rw [h]
  rfl

theorem pure_ok_iff {a : α} {s : Store} {r : α × Store} :
    (pure a : Txn Store Err α) s = .ok r ↔ (a, s) = r := by
  change Except.ok (a, s) = .ok r ↔ _
  simp

theorem throw_ok_iff {e : Err} {s : Store} {r : α × Store} :
    (throw e : Txn Store Err α) s = .ok r ↔ False := by
  change Except.error e = .ok r ↔ _
  simp

theorem read_ok_iff {f : Store → α} {s : Store} {r : α × Store} :
    (read f : Txn Store Err α) s = .ok r ↔ (f s, s) = r := by
  change Except.ok (f s, s) = .ok r ↔ _
  simp

theorem write_ok_iff {f : Store → Store} {s : Store} {r : Unit × Store} :
    (write f : Txn Store Err Unit) s = .ok r ↔ ((), f s) = r := by
  change Except.ok ((), f s) = .ok r ↔ _
  simp

/-- What is past a guard. -/
theorem guard_ok_iff {c : Prop} [Decidable c] {e : Err} {f : α → Txn Store Err β}
    {x : Txn Store Err β} {s : Store} {r : β × Store} :
    (if c then throw e >>= f else x) s = .ok r ↔ ¬c ∧ x s = .ok r := by
  by_cases hc : c
  · simp only [hc, if_true, not_true_eq_false, false_and, iff_false]
    intro h
    cases h
  · simp only [hc, if_false, not_false_eq_true, true_and]

@[simp] theorem read_apply (f : Store → α) (s : Store) :
    (read f : Txn Store Err α) s = .ok (f s, s) := rfl

@[simp] theorem pure_apply (a : α) (s : Store) : (pure a : Txn Store Err α) s = .ok (a, s) := rfl

@[simp] theorem throw_apply (e : Err) (s : Store) :
    (throw e : Txn Store Err α) s = .error e := rfl

@[simp] theorem read_bind_apply (f : Store → α) (g : α → Txn Store Err β) (s : Store) :
    (read f >>= g) s = g (f s) s := rfl

@[simp] theorem pure_bind_apply (a : α) (g : α → Txn Store Err β) (s : Store) :
    ((pure a : Txn Store Err α) >>= g) s = g a s := rfl

/-! ## What every successful run relates -/

/-- Every successful run ends in a store `R`-related to the one it began in. -/
def Respects (R : Store → Store → Prop) (x : Txn Store Err α) : Prop :=
  ∀ s a s', x s = .ok (a, s') → R s s'

namespace Respects

variable {R : Store → Store → Prop} {x : Txn Store Err α} {f : α → Txn Store Err β}

/-- One run. -/
theorem of_ok (h : Respects R x) {s s' : Store} {a : α} (hx : x s = .ok (a, s')) : R s s' :=
  h s a s' hx

theorem mono {R' : Store → Store → Prop} (h : Respects R x) (hR : ∀ s s', R s s' → R' s s') :
    Respects R' x :=
  fun s a s' hx => hR s s' (h s a s' hx)

protected theorem pure [Std.Refl R] (a : α) : Respects R (pure a : Txn Store Err α) := by
  intro s b s' h
  cases h
  exact refl s

protected theorem throw (e : Err) : Respects R (throw e : Txn Store Err α) := by
  intro s b s' h
  cases h

/-- Nothing comes after a failure. -/
protected theorem throw_bind (e : Err) (f : α → Txn Store Err β) :
    Respects R (throw e >>= f : Txn Store Err β) := by
  intro s b s' h
  cases h

protected theorem read [Std.Refl R] (g : Store → α) : Respects R (read g : Txn Store Err α) := by
  intro s b s' h
  cases h
  exact refl s

protected theorem bind [IsTrans Store R] (hx : Respects R x) (hf : ∀ a, Respects R (f a)) :
    Respects R (x >>= f) := by
  intro s b s'' h
  obtain ⟨a, s', h₁, h₂⟩ := bind_ok_iff.1 h
  exact trans_of R (hx _ _ _ h₁) (hf a _ _ _ h₂)

protected theorem ite {c : Prop} [Decidable c] {y : Txn Store Err α} (hx : c → Respects R x)
    (hy : ¬c → Respects R y) : Respects R (if c then x else y) := by
  split
  · next h => exact hx h
  · next h => exact hy h

/-- A loop respects what its body does. -/
theorem forEach [Std.Refl R] [IsTrans Store R] {g : α → Txn Store Err Unit} {l : List α}
    (h : ∀ a ∈ l, Respects R (g a)) : Respects R (Txn.forEach g l) := by
  induction l with
  | nil => exact Respects.pure _
  | cons a l ih =>
    exact (h a (by simp)).bind fun _ => ih fun b hb => h b (by simp [hb])

/-- What a transaction respects, its commit relates, also when it is rolled back. -/
theorem commit [Std.Refl R] (h : Respects R x) (s : Store) : R s (commit x s).1 := by
  unfold Txn.commit
  split
  · next a s' hx => exact h _ _ _ hx
  · exact refl s

end Respects

/-- A transaction that only reads respects everything reflexive. -/
theorem Respects.of_readOnly {R : Store → Store → Prop} [Std.Refl R] {x : Txn Store Err α}
    (h : Respects Eq x) : Respects R x :=
  h.mono fun s _ e => e ▸ refl s

/-- A query in front is run where the rest is. -/
theorem bind_ok_of_readOnly {x : Txn Store Err α} {f : α → Txn Store Err β} {s : Store}
    {r : β × Store} (hx : Respects Eq x) (h : (x >>= f) s = .ok r) :
    ∃ a, x s = .ok (a, s) ∧ f a s = .ok r := by
  obtain ⟨a, s', h₁, h₂⟩ := bind_ok_iff.1 h
  obtain rfl : s = s' := hx.of_ok h₁
  exact ⟨a, h₁, h₂⟩

/-! ## What every successful run returns -/

/-- Every successful run returns a value of which `P` holds. -/
def Returns (P : α → Prop) (x : Txn Store Err α) : Prop :=
  ∀ s a s', x s = .ok (a, s') → P a

namespace Returns

variable {P : β → Prop} {x : Txn Store Err α} {f : α → Txn Store Err β}

protected theorem pure {b : β} (h : P b) : Returns P (pure b : Txn Store Err β) := by
  intro s b' s' hb
  cases hb
  exact h

/-- What a sequence returns is up to its second part. -/
protected theorem bind (hf : ∀ a, Returns P (f a)) : Returns P (x >>= f) := by
  intro s b s'' h
  obtain ⟨a, s', -, h⟩ := bind_ok_iff.1 h
  exact hf a _ _ _ h

protected theorem ite {c : Prop} [Decidable c] {x y : Txn Store Err β} (hx : c → Returns P x)
    (hy : ¬c → Returns P y) : Returns P (if c then x else y) := by
  split
  · next h => exact hx h
  · next h => exact hy h

end Returns

/-! ## What every successful run leaves -/

/-- Every successful run ends in a store of which `Q` holds. -/
def Leaves (Q : Store → Prop) (x : Txn Store Err α) : Prop :=
  ∀ s a s', x s = .ok (a, s') → Q s'

namespace Leaves

variable {Q : Store → Prop} {x : Txn Store Err α} {f : α → Txn Store Err β}

protected theorem throw (e : Err) : Leaves Q (throw e : Txn Store Err α) := by
  intro s a s' h
  cases h

/-- What the first part of a sequence leaves is still there if the second part keeps it. -/
theorem bind_left {R : Store → Store → Prop} (hx : Leaves Q x)
    (hkept : ∀ s s', R s s' → Q s → Q s') (hf : ∀ a, Respects R (f a)) : Leaves Q (x >>= f) := by
  intro s b s'' h
  obtain ⟨a, s', h₁, h₂⟩ := bind_ok_iff.1 h
  exact hkept s' s'' (hf a _ _ _ h₂) (hx _ _ _ h₁)

theorem bind_right (hf : ∀ a, Leaves Q (f a)) : Leaves Q (x >>= f) := by
  intro s b s'' h
  obtain ⟨a, s', -, h⟩ := bind_ok_iff.1 h
  exact hf a _ _ _ h

protected theorem ite {c : Prop} [Decidable c] {y : Txn Store Err α} (hx : c → Leaves Q x)
    (hy : ¬c → Leaves Q y) : Leaves Q (if c then x else y) := by
  split
  · next h => exact hx h
  · next h => exact hy h

end Leaves

/-! ## The writes a transaction is made of -/

/-- `s'` is reached from `s` by writes that carry a label in `L`, where `rel l` says what a write
labelled `l` may do. -/
def Through {Label : Type} (rel : Label → Store → Store → Prop) (L : Label → Prop) :
    Store → Store → Prop :=
  Relation.ReflTransGen fun s s' => ∃ l, L l ∧ rel l s s'

namespace Through

variable {Label : Type} {rel : Label → Store → Store → Prop} {L L' : Label → Prop}

instance : Std.Refl (Through rel L) := ⟨fun _ => .refl⟩

instance : IsTrans Store (Through rel L) := ⟨fun _ _ _ => .trans⟩

theorem single {s s' : Store} (l : Label) (hl : L l) (h : rel l s s') : Through rel L s s' :=
  Relation.ReflTransGen.single ⟨l, hl, h⟩

theorem mono {s s' : Store} (h : Through rel L s s') (hL : ∀ l, L l → L' l) :
    Through rel L' s s' := by
  induction h with
  | refl => exact refl _
  | tail _ hstep ih =>
    obtain ⟨l, hl, hr⟩ := hstep
    exact trans_of (Through rel L') ih (single l (hL l hl) hr)

/-- **What each write relates, the writes of a transaction relate.** -/
theorem relation {R : Store → Store → Prop} [Std.Refl R] [IsTrans Store R]
    (hR : ∀ l s s', L l → rel l s s' → R s s') {s s' : Store} (h : Through rel L s s') :
    R s s' := by
  induction h with
  | refl => exact refl _
  | tail _ hstep ih =>
    obtain ⟨l, hl, hr⟩ := hstep
    exact trans_of R ih (hR l _ _ hl hr)

end Through

/-- Fewer labels, a stronger statement. -/
theorem Respects.through_mono {Label : Type} {rel : Label → Store → Store → Prop}
    {L L' : Label → Prop} {x : Txn Store Err α} (h : Respects (Through rel L) x)
    (hL : ∀ l, L l → L' l) : Respects (Through rel L') x :=
  h.mono fun _ _ ht => ht.mono hL

/-! ## Success -/

/-- The transaction commits when run in `s`. -/
def Succeeds (x : Txn Store Err α) (s : Store) : Prop := ∃ r, x s = .ok r

theorem succeeds_bind_iff {x : Txn Store Err α} {f : α → Txn Store Err β} {s : Store} :
    Succeeds (x >>= f) s ↔ ∃ a s', x s = .ok (a, s') ∧ Succeeds (f a) s' := by
  simp only [Succeeds, bind_ok_iff]
  constructor
  · rintro ⟨r, a, s', h₁, h₂⟩
    exact ⟨a, s', h₁, r, h₂⟩
  · rintro ⟨a, s', h₁, r, h₂⟩
    exact ⟨r, a, s', h₁, h₂⟩

theorem succeeds_bind {x : Txn Store Err α} {f : α → Txn Store Err β} {s : Store}
    (hx : Succeeds x s) (hf : ∀ a s', x s = .ok (a, s') → Succeeds (f a) s') :
    Succeeds (x >>= f) s := by
  obtain ⟨⟨a, s'⟩, h⟩ := hx
  exact succeeds_bind_iff.2 ⟨a, s', h, hf a s' h⟩

theorem commit_of_ok {x : Txn Store Err α} {s s' : Store} {a : α} (h : x s = .ok (a, s')) :
    commit x s = (s', .ok a) := by
  simp [commit, h]

theorem commit_of_error {x : Txn Store Err α} {s : Store} {e : Err} (h : x s = .error e) :
    commit x s = (s, .error e) := by
  simp [commit, h]

/-- A transaction that fails changes nothing. -/
theorem commit_fst_of_not_succeeds {x : Txn Store Err α} {s : Store} (h : ¬Succeeds x s) :
    (commit x s).1 = s := by
  cases hx : x s with
  | error e => rw [commit_of_error hx]
  | ok r => exact absurd ⟨r, hx⟩ h

/-- What holds of the store as it is and of what every successful run leaves, holds of what the
commit leaves. -/
theorem commit_cases {x : Txn Store Err α} {s : Store} {P : Store → Prop} (h : P s)
    (hok : ∀ a s', x s = .ok (a, s') → P s') : P (commit x s).1 := by
  cases hx : x s with
  | error e =>
    rw [commit_of_error hx]
    exact h
  | ok r =>
    rw [commit_of_ok hx]
    exact hok r.1 r.2 hx

/-- A result that is returned is one of a run that commits. -/
theorem ok_of_commit {x : Txn Store Err α} {s : Store} {a : α} (h : (commit x s).2 = .ok a) :
    x s = .ok (a, (commit x s).1) := by
  cases hx : x s with
  | error e =>
    rw [commit_of_error hx] at h
    cases h
  | ok r =>
    obtain ⟨b, s'⟩ := r
    rw [commit_of_ok hx] at h ⊢
    obtain rfl := Except.ok.inj h
    rfl

/-- The commit of a transaction that writes nothing. -/
theorem commit_fst_of_readOnly {x : Txn Store Err α} (h : Respects Eq x) (s : Store) :
    (commit x s).1 = s :=
  (h.commit s).symm

/-- The transaction commits whatever store it is run in. -/
def Total (x : Txn Store Err α) : Prop := ∀ s, Succeeds x s

namespace Total

variable {x : Txn Store Err α} {f : α → Txn Store Err β}

protected theorem pure (a : α) : Total (pure a : Txn Store Err α) := fun s => ⟨(a, s), rfl⟩

protected theorem read (g : Store → α) : Total (read g : Txn Store Err α) := fun s => ⟨(g s, s), rfl⟩

protected theorem bind (hx : Total x) (hf : ∀ a, Total (f a)) : Total (x >>= f) := by
  intro s
  obtain ⟨⟨a, s'⟩, h⟩ := hx s
  exact succeeds_bind_iff.2 ⟨a, s', h, hf a s'⟩

protected theorem ite {c : Prop} [Decidable c] {y : Txn Store Err α} (hx : Total x)
    (hy : Total y) : Total (if c then x else y) := by
  split
  · exact hx
  · exact hy

end Total

/-! ## Total contracts -/

/-- The transaction commits when run in `s`, and `Q` holds of its result and the store it ends
in. -/
def Yields (x : Txn Store Err α) (s : Store) (Q : α → Store → Prop) : Prop :=
  ∃ a s', x s = .ok (a, s') ∧ Q a s'

namespace Yields

variable {x : Txn Store Err α} {f : α → Txn Store Err β} {s : Store} {Q : α → Store → Prop}
  {P : β → Store → Prop}

theorem mono {Q' : α → Store → Prop} (h : Yields x s Q) (hQ : ∀ a s', Q a s' → Q' a s') :
    Yields x s Q' := by
  obtain ⟨a, s', hx, hq⟩ := h
  exact ⟨a, s', hx, hQ a s' hq⟩

/-- The rule of sequencing. -/
protected theorem bind (h : Yields x s Q) (hf : ∀ a s', Q a s' → Yields (f a) s' P) :
    Yields (x >>= f) s P := by
  obtain ⟨a, s', hx, hq⟩ := h
  obtain ⟨b, s'', hf, hp⟩ := hf a s' hq
  exact ⟨b, s'', bind_ok_iff.2 ⟨a, s', hx, hf⟩, hp⟩

protected theorem pure {a : α} (h : Q a s) : Yields (pure a : Txn Store Err α) s Q :=
  ⟨a, s, rfl, h⟩

protected theorem read {g : Store → α} (h : Q (g s) s) :
    Yields (read g : Txn Store Err α) s Q :=
  ⟨g s, s, rfl, h⟩

theorem bind_pure {a : α} (h : Yields (f a) s P) : Yields (pure a >>= f) s P := h

/-- What is in front is run. -/
theorem bind_of_ok {a : α} {s' : Store} (hx : x s = .ok (a, s')) (h : Yields (f a) s' P) :
    Yields (x >>= f) s P := by
  obtain ⟨b, s'', hf, hp⟩ := h
  exact ⟨b, s'', (Txn.bind_of_ok hx).trans hf, hp⟩

/-- A query changes nothing. -/
theorem bind_read {g : Store → α} (h : Yields (f (g s)) s P) : Yields (read g >>= f) s P := h

theorem succeeds (h : Yields x s Q) : Succeeds x s := by
  obtain ⟨a, s', hx, -⟩ := h
  exact ⟨(a, s'), hx⟩

/-- A contract says what any successful run does, since there is only one run. -/
theorem of_ok (h : Yields x s Q) {a : α} {s' : Store} (hx : x s = .ok (a, s')) : Q a s' := by
  obtain ⟨b, t, hb, hq⟩ := h
  obtain ⟨rfl, rfl⟩ := Prod.mk.inj (Except.ok.inj (hb.symm.trans hx))
  exact hq

/-- What a transaction respects is part of its contract, once it succeeds. -/
theorem of_respects {R : Store → Store → Prop} (h : Succeeds x s) (hR : Respects R x) :
    Yields x s fun _ s' => R s s' := by
  obtain ⟨⟨a, s'⟩, hx⟩ := h
  exact ⟨a, s', hx, hR s a s' hx⟩

/-- What a transaction respects may be added to its contract. -/
theorem and_respects {R : Store → Store → Prop} (h : Yields x s Q) (hR : Respects R x) :
    Yields x s fun a s' => Q a s' ∧ R s s' := by
  obtain ⟨a, s', hx, hq⟩ := h
  exact ⟨a, s', hx, hq, hR s a s' hx⟩

/-- The rule of loops: `I` is kept by every turn. -/
protected theorem forEach {g : α → Txn Store Err Unit} {l : List α} {I : Store → Prop}
    (h : ∀ a ∈ l, ∀ t, I t → Yields (g a) t fun _ => I) (hI : I s) :
    Yields (Txn.forEach g l) s fun _ => I := by
  induction l generalizing s with
  | nil => exact Yields.pure hI
  | cons a l ih =>
    exact (h a (by simp) s hI).bind fun _ t ht => ih (fun b hb => h b (by simp [hb])) ht

end Yields

/-! ## Failure -/

/-- The transaction is rolled back when run in `s`. -/
def Fails (x : Txn Store Err α) (s : Store) : Prop := ¬Succeeds x s

theorem fails_throw (e : Err) (s : Store) : Fails (throw e : Txn Store Err α) s := by
  rintro ⟨r, h⟩
  cases h

/-- A transaction fails if its first part does. -/
theorem fails_bind_left {x : Txn Store Err α} {s : Store} (h : Fails x s)
    (f : α → Txn Store Err β) : Fails (x >>= f) s := by
  intro hs
  obtain ⟨a, s', hx, -⟩ := succeeds_bind_iff.1 hs
  exact h ⟨_, hx⟩

/-- A transaction whose first part succeeds fails if the second does wherever the first can end. -/
theorem Yields.fails_bind {x : Txn Store Err α} {f : α → Txn Store Err β} {s : Store}
    {Q : α → Store → Prop} (h : Yields x s Q) (hf : ∀ a s', Q a s' → Fails (f a) s') :
    Fails (x >>= f) s := by
  rintro hs
  obtain ⟨a, s', hx, hrest⟩ := succeeds_bind_iff.1 hs
  exact hf a s' (h.of_ok hx) hrest

theorem fails_bind_pure {a : α} {f : α → Txn Store Err β} {s : Store} (h : Fails (f a) s) :
    Fails (pure a >>= f) s := h

/-- A transaction fails if what it goes on with after a query does. -/
theorem fails_bind_read {g : Store → α} {f : α → Txn Store Err β} {s : Store}
    (h : Fails (f (g s)) s) : Fails (read g >>= f) s := h

/-- A transaction fails if what it goes on with does. -/
theorem fails_bind_right {x : Txn Store Err α} {f : α → Txn Store Err β} {s : Store}
    (h : ∀ a s', x s = .ok (a, s') → Fails (f a) s') : Fails (x >>= f) s := by
  intro hs
  obtain ⟨a, s', hx, hf⟩ := succeeds_bind_iff.1 hs
  exact h a s' hx hf

end Txn
