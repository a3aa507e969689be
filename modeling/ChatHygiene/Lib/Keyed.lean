import Mathlib.Data.List.Nodup
/-!
# Insert or ignore

A table numbers its rows and has a unique key. An insert gives a new row the
next number, and is dropped when its key is taken. Whether a sequence of inserts
leaves them all in the table is a matter of their keys alone.
-/

namespace Keyed

variable {α β κ : Type} [DecidableEq κ] (make : α → Nat → β) (keyOf : β → κ) (key : α → κ)

/-- The rows and the last number given, after an insert. -/
def insertOrIgnore (s : List β × Nat) (a : α) : List β × Nat :=
  if s.1.any fun b => keyOf b = key a then s else (s.1 ++ [make a (s.2 + 1)], s.2 + 1)

/-- The rows of the items under the numbers that follow. -/
def numbered : Nat → List α → List β
  | _, [] => []
  | n, a :: as => make a (n + 1) :: numbered (n + 1) as

variable {make keyOf key} {rows : List β} {n : Nat} {a : α} {as : List α}

theorem insertOrIgnore_of_untaken (h : ∀ b ∈ rows, keyOf b ≠ key a) :
    insertOrIgnore make keyOf key (rows, n) a = (rows ++ [make a (n + 1)], n + 1) := by
  refine if_neg fun htaken => ?_
  obtain ⟨b, hb, hkey⟩ := List.any_eq_true.1 htaken
  exact h b hb (of_decide_eq_true hkey)

/-- **Inserts under keys of their own all stay**, in order. -/
theorem foldl_insertOrIgnore (hmake : ∀ a n, keyOf (make a n) = key a)
    (hnodup : (as.map key).Nodup) (h : ∀ a ∈ as, ∀ b ∈ rows, keyOf b ≠ key a) :
    as.foldl (insertOrIgnore make keyOf key) (rows, n) =
      (rows ++ numbered make n as, n + as.length) := by
  induction as generalizing rows n with
  | nil => simp [numbered]
  | cons a as ih =>
    rw [List.map_cons, List.nodup_cons] at hnodup
    have huntaken : ∀ c ∈ as, ∀ b ∈ rows ++ [make a (n + 1)], keyOf b ≠ key c := by
      intro c hc b hb
      rcases List.mem_append.1 hb with hb | hb
      · exact h c (List.mem_cons_of_mem _ hc) b hb
      · -- the row of the first insert has its key, which no later one has
        rw [List.mem_singleton.1 hb, hmake]
        exact fun hkey => hnodup.1 (hkey ▸ List.mem_map_of_mem hc)
    rw [List.foldl_cons, insertOrIgnore_of_untaken (h a List.mem_cons_self), ih hnodup.2 huntaken,
      numbered, List.append_assoc, List.singleton_append, List.length_cons]
    congr 1
    omega

/-! ## Numbered rows -/

theorem mem_numbered {b : β} (h : b ∈ numbered make n as) : ∃ a ∈ as, ∃ m, n < m ∧ b = make a m := by
  induction as generalizing n with
  | nil => cases h
  | cons a as ih =>
    rcases List.mem_cons.1 h with rfl | h
    · exact ⟨a, List.mem_cons_self, n + 1, Nat.lt_succ_self n, rfl⟩
    · obtain ⟨c, hc, m, hm, hb⟩ := ih h
      exact ⟨c, List.mem_cons_of_mem _ hc, m, by omega, hb⟩

/-- The rows of some of the items are the rows that satisfy what the items do. -/
theorem map_filter_numbered {γ : Type} {f : β → γ} {g : α → γ} {p : β → Bool} {q : α → Bool}
    (hp : ∀ a n, p (make a n) = q a) (h : ∀ a n, f (make a n) = g a) :
    ((numbered make n as).filter p).map f = (as.filter q).map g := by
  induction as generalizing n with
  | nil => rfl
  | cons a as ih =>
    rw [numbered, List.filter_cons, List.filter_cons, hp]
    split
    · rw [List.map_cons, List.map_cons, h, ih]
    · exact ih

end Keyed
