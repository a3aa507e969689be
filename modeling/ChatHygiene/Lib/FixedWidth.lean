import Mathlib.Data.Char
import Mathlib.Data.List.Lex
import Mathlib.Tactic.Ring
/-!
# Numerals of a fixed width

A text made of numerals of fixed widths is ordered as the numbers are, from the
first one on. Numerals of different widths stand for the digits of a fraction:
cut short and followed by a character that comes before every digit, they are
ordered as fractions.
-/

namespace FixedWidth

/-- The last `width` digits of a number. -/
def padded : Nat → Nat → List Char
  | 0, _ => []
  | width + 1, n => padded width (n / 10) ++ [(n % 10).digitChar]

variable {a b c d : List Char} {width more m n r s : Nat}

@[simp] theorem length_padded (width n : Nat) : (padded width n).length = width := by
  induction width generalizing n with
  | zero => rfl
  | succ width ih => rw [padded, List.length_append, ih, List.length_singleton]

/-! ## Texts, from the first difference on -/

/-- The first difference decides, between texts of one length. -/
theorem append_lt_append (hlength : a.length = b.length) (h : a < b) : a ++ c < b ++ d := by
  induction a generalizing b with
  | nil =>
    rw [List.eq_nil_of_length_eq_zero hlength.symm] at h
    exact absurd h (List.lt_irrefl _)
  | cons x a ih =>
    cases b with
    | nil => cases hlength
    | cons y b =>
      rcases List.cons_lt_cons_iff.1 h with hxy | ⟨rfl, hab⟩
      · exact List.cons_lt_cons_iff.2 (.inl hxy)
      · exact List.cons_lt_cons_iff.2 (.inr ⟨rfl, ih (Nat.succ_inj.1 hlength) hab⟩)

theorem digitChar_lt {i j : Nat} (hj : j < 10) (h : i < j) : i.digitChar < j.digitChar := by
  have hall : ∀ j < 10, ∀ i < j, i.digitChar < j.digitChar := by decide
  exact hall j hj i h

/-- **Numerals are ordered as their numbers are.** -/
theorem padded_lt (hn : n < 10 ^ width) (h : m < n) : padded width m < padded width n := by
  induction width generalizing m n with
  | zero => omega
  | succ width ih =>
    rw [padded, padded]
    by_cases hhigh : m / 10 < n / 10
    · exact append_lt_append (by simp) (ih (by omega) hhigh)
    · have hsame : m / 10 = n / 10 := by omega
      rw [hsame]
      refine List.append_left_lt (List.cons_lt_cons_iff.2 (.inl ?_))
      exact digitChar_lt (by omega) (by omega)

/-- A numeral is its first digits and its last ones. -/
theorem padded_add (hr : r < 10 ^ more) :
    padded (width + more) (m * 10 ^ more + r) = padded width m ++ padded more r := by
  induction more generalizing r with
  | zero => simp [padded, Nat.lt_one_iff.1 hr]
  | succ more ih =>
    have hvalue : m * 10 ^ (more + 1) + r = 10 * (m * 10 ^ more) + r := by
      rw [Nat.pow_succ]
      ring
    have hhigh : (m * 10 ^ (more + 1) + r) / 10 = m * 10 ^ more + r / 10 := by omega
    have hlow : (m * 10 ^ (more + 1) + r) % 10 = r % 10 := by omega
    rw [Nat.add_succ, padded, padded, hhigh, hlow, ih (by omega), List.append_assoc]

/-- One field of a text and the rest of it. -/
theorem field_lt (hn : n < 10 ^ width) (h : m < n ∨ m = n ∧ a < b) :
    padded width m ++ a < padded width n ++ b := by
  rcases h with h | ⟨rfl, h⟩
  · exact append_lt_append (by simp) (padded_lt hn h)
  · exact List.append_left_lt h

/-- A digit follows every character that comes before zero. -/
theorem lt_padded {x : Char} (hx : x < '0') (hwidth : 0 < width) : x :: a < padded width n ++ b := by
  obtain ⟨k, rfl⟩ : ∃ k, width = k + 1 := ⟨width - 1, by omega⟩
  clear hwidth
  induction k generalizing n b with
  | zero =>
    have hdigit : ∀ i < 10, '0' ≤ i.digitChar := by decide
    exact List.cons_lt_cons_iff.2 (.inl (lt_of_lt_of_le hx (hdigit _ (Nat.mod_lt _ (by omega)))))
  | succ k ih =>
    rw [padded, List.append_assoc]
    exact ih

/-! ## Fractions -/

/-- **Digits that are cut short are ordered as fractions.** `m` of `width` digits and `n` of `width'`
digits stand for the fractions over `unit` and `unit'`, and a character before zero ends both. -/
theorem fraction_lt {x : Char} {width' : Nat} (hx : x < '0') (hn : n < 10 ^ width')
    (h : m * 10 ^ width' < n * 10 ^ width) :
    padded width m ++ x :: a < padded width' n ++ x :: b := by
  rcases Nat.le_total width width' with hle | hle
  · obtain ⟨more, rfl⟩ := Nat.exists_eq_add_of_le hle
    -- the first digits of the longer numeral, and the rest of them
    have hpos : 0 < 10 ^ more := Nat.pow_pos (by omega)
    have hsplit : n / 10 ^ more * 10 ^ more + n % 10 ^ more = n := Nat.div_add_mod' n _
    have hrest : n % 10 ^ more < 10 ^ more := Nat.mod_lt _ hpos
    rw [← hsplit, padded_add hrest, List.append_assoc]
    rw [Nat.pow_add] at h hn
    have hless : m * 10 ^ more < n := by
      refine Nat.lt_of_mul_lt_mul_right (a := 10 ^ width) ?_
      calc m * 10 ^ more * 10 ^ width = m * (10 ^ width * 10 ^ more) := by ring
        _ < n * 10 ^ width := h
    refine field_lt (Nat.div_lt_of_lt_mul (by rwa [Nat.mul_comm])) ?_
    rcases Nat.lt_or_ge m (n / 10 ^ more) with hlt | hge
    · exact .inl hlt
    · have hbound : n / 10 ^ more * 10 ^ more ≤ m * 10 ^ more := Nat.mul_le_mul_right _ hge
      have hquotient : m ≤ n / 10 ^ more := (Nat.le_div_iff_mul_le hpos).2 (Nat.le_of_lt hless)
      refine .inr ⟨Nat.le_antisymm hquotient hge, lt_padded hx ?_⟩
      rcases Nat.eq_zero_or_pos more with rfl | hmore
      · simp only [Nat.pow_zero, Nat.mul_one, Nat.div_one] at hless hge
        omega
      · exact hmore
  · obtain ⟨more, rfl⟩ := Nat.exists_eq_add_of_le hle
    have hpos : 0 < 10 ^ more := Nat.pow_pos (by omega)
    have hsplit : m / 10 ^ more * 10 ^ more + m % 10 ^ more = m := Nat.div_add_mod' m _
    have hrest : m % 10 ^ more < 10 ^ more := Nat.mod_lt _ hpos
    rw [← hsplit, padded_add hrest, List.append_assoc]
    refine field_lt hn (.inl ?_)
    rw [Nat.div_lt_iff_lt_mul hpos]
    refine Nat.lt_of_mul_lt_mul_right (a := 10 ^ width') ?_
    calc m * 10 ^ width' < n * 10 ^ (width' + more) := h
      _ = n * 10 ^ more * 10 ^ width' := by rw [Nat.pow_add]; ring

end FixedWidth
