import Mathlib.Data.List.Basic
import Mathlib.Data.String.Basic
/-!
# Fields of a text

A text made of fields with a separator between them is read from either end, as
long as the fields at that end are free of the separator. Numerals are free of
everything but digits and a sign.
-/

namespace Fields

variable {α : Type} {sep : α} {a a' b b' : List α}

/-! ## Cutting -/

/-- The first field is up to the first separator. -/
theorem cut_first (ha : sep ∉ a) (ha' : sep ∉ a') (h : a ++ sep :: b = a' ++ sep :: b') :
    a = a' ∧ b = b' := by
  induction a generalizing a' with
  | nil =>
    cases a' with
    | nil => exact ⟨rfl, (List.cons.inj h).2⟩
    | cons x a' => exact absurd (List.cons.inj h).1 fun hx => ha' (hx ▸ List.mem_cons_self)
  | cons x a ih =>
    cases a' with
    | nil => exact absurd (List.cons.inj h).1 fun hx => ha (hx ▸ List.mem_cons_self)
    | cons y a' =>
      obtain ⟨rfl, hrest⟩ := List.cons.inj h
      obtain ⟨rfl, hb⟩ := ih (fun hmem => ha (List.mem_cons_of_mem _ hmem))
        (fun hmem => ha' (List.mem_cons_of_mem _ hmem)) hrest
      exact ⟨rfl, hb⟩

/-- The last field is from the last separator on. -/
theorem cut_last (hb : sep ∉ b) (hb' : sep ∉ b') (h : a ++ sep :: b = a' ++ sep :: b') :
    a = a' ∧ b = b' := by
  have hreverse : b.reverse ++ sep :: a.reverse = b'.reverse ++ sep :: a'.reverse := by
    simpa using congrArg List.reverse h
  obtain ⟨hlast, hfirst⟩ := cut_first (by simpa using hb) (by simpa using hb') hreverse
  exact ⟨List.reverse_injective hfirst, List.reverse_injective hlast⟩

/-! ## Numerals -/

theorem toList_natRepr_injective {m n : Nat} (h : m.repr.toList = n.repr.toList) : m = n := by
  rw [Nat.toList_repr, Nat.toList_repr] at h
  have hvalue := congrArg (Nat.ofDigitChars 10 · 0) h
  simpa [Nat.ofDigitChars_toDigits] using hvalue

theorem isDigit_of_mem_natRepr {n : Nat} {c : Char} (h : c ∈ n.repr.toList) : c.isDigit = true := by
  rw [Nat.toList_repr] at h
  exact Nat.isDigit_of_mem_toDigits (by omega) (by omega) h

/-- A numeral is a sign and digits. -/
theorem mem_intRepr {n : Int} {c : Char} (h : c ∈ n.repr.toList) : c = '-' ∨ c.isDigit = true := by
  rw [Int.repr_eq_if] at h
  split at h
  · exact .inr (isDigit_of_mem_natRepr h)
  · rw [String.toList_append, List.mem_append] at h
    rcases h with h | h
    · exact .inl (by simpa using h)
    · exact .inr (isDigit_of_mem_natRepr h)

theorem toList_intRepr_injective {m n : Int} (h : m.repr.toList = n.repr.toList) : m = n := by
  have hsign : ¬('-'.isDigit = true) := by decide
  have hminus : "-".toList = ['-'] := by decide
  rw [Int.repr_eq_if, Int.repr_eq_if] at h
  split at h
  · split at h
    · have hnat := toList_natRepr_injective h
      omega
    · -- only one of the numerals has a sign
      rw [String.toList_append, hminus] at h
      have hmem : '-' ∈ m.toNat.repr.toList := h ▸ List.mem_cons_self
      exact absurd (isDigit_of_mem_natRepr hmem) hsign
  · split at h
    · rw [String.toList_append, hminus] at h
      have hmem : '-' ∈ n.toNat.repr.toList := h ▸ List.mem_cons_self
      exact absurd (isDigit_of_mem_natRepr hmem) hsign
    · rw [String.toList_append, String.toList_append] at h
      have hnat := toList_natRepr_injective (List.append_cancel_left h)
      omega

end Fields
