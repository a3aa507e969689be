import Mathlib.Data.List.DropRight
import Mathlib.Data.List.Induction
import Mathlib.Tactic.IntervalCases
/-!
# Words and numerals

Text as its characters: the words of a line, what is left of it when it is
trimmed, and decimal numerals. A run of digits is the numeral of its value once
its leading zeros are gone.
-/

namespace Text

/-- The Unicode property `White_Space`. -/
def isWhitespace (c : Char) : Bool :=
  (0x9 ≤ c.toNat && c.toNat ≤ 0xD) || (0x2000 ≤ c.toNat && c.toNat ≤ 0x200A) ||
    [0x20, 0x85, 0xA0, 0x1680, 0x2028, 0x2029, 0x202F, 0x205F, 0x3000].contains c.toNat

/-- The longest runs of characters that are not whitespace. -/
def words (cs : List Char) : List (List Char) :=
  (cs.splitOnP isWhitespace).filter (· ≠ [])

/-- What is left without whitespace on either end. -/
def trim (cs : List Char) : List Char :=
  (cs.dropWhile isWhitespace).rdropWhile isWhitespace

/-! ## Words -/

/-- A character is of a word, and a word is one if all its characters are. -/
structure IsWord (w : List Char) : Prop where
  ne_nil : w ≠ []
  solid : ∀ c ∈ w, isWhitespace c = false

theorem words_of_isWord {w : List Char} (h : IsWord w) : words w = [w] := by
  rw [words, List.splitOnP_eq_singleton h.solid]
  simp [h.ne_nil]

theorem words_append_space {w : List Char} (h : IsWord w) (cs : List Char) :
    words (w ++ ' ' :: cs) = w :: words cs := by
  rw [words, List.splitOnP_append_cons_of_forall_mem h.solid ' ' (by decide), List.filter_cons_of_pos]
  · rfl
  · simp [h.ne_nil]

/-! ## Numerals -/

variable {d : Char} {ds : List Char}

theorem isDigit_bounds (h : d.isDigit = true) : 48 ≤ d.toNat ∧ d.toNat ≤ 57 := by
  simp only [Char.isDigit, Bool.and_eq_true, decide_eq_true_eq] at h
  exact ⟨h.1, h.2⟩

theorem value_lt_ten (h : d.isDigit = true) : d.toNat - '0'.toNat < 10 := by
  have hbounds := isDigit_bounds h
  have hzero : '0'.toNat = 48 := rfl
  omega

/-- The digit of its value is the digit. -/
theorem digitChar_of_isDigit (h : d.isDigit = true) : (d.toNat - '0'.toNat).digitChar = d := by
  have hbounds := isDigit_bounds h
  have hzero : '0'.toNat = 48 := rfl
  refine Char.toNat_inj.1 ?_
  rw [Nat.toNat_digitChar_of_lt_ten (value_lt_ten h)]
  omega

theorem value_pos (h : d.isDigit = true) (hne : d ≠ '0') : 0 < d.toNat - '0'.toNat := by
  by_contra hnot
  have hvalue := digitChar_of_isDigit h
  rw [Nat.eq_zero_of_not_pos hnot] at hvalue
  exact hne hvalue.symm

/-- A numeral that does not start with a zero is the numeral of its value. -/
theorem toDigits_value (hd : d.isDigit = true) (hne : d ≠ '0') (hds : ∀ c ∈ ds, c.isDigit = true) :
    0 < Nat.ofDigitChars 10 (d :: ds) 0 ∧
      Nat.toDigits 10 (Nat.ofDigitChars 10 (d :: ds) 0) = d :: ds := by
  induction ds using List.reverseRecOn with
  | nil =>
    have hlt := value_lt_ten hd
    have hpos := value_pos hd hne
    simp only [Nat.ofDigitChars_cons, Nat.ofDigitChars_nil, Nat.mul_zero, Nat.zero_add]
    refine ⟨hpos, ?_⟩
    rw [Nat.toDigits_of_lt_base hlt, digitChar_of_isDigit hd]
  | append_singleton ds c ih =>
    have hc := hds c (by simp)
    have hlt := value_lt_ten hc
    obtain ⟨hpos, hdigits⟩ := ih fun c hc => hds c (by simp [hc])
    rw [← List.cons_append, Nat.ofDigitChars_append, Nat.ofDigitChars_cons, Nat.ofDigitChars_nil]
    refine ⟨by omega, ?_⟩
    rw [← Nat.toDigits_append_toDigits (by omega) hpos hlt, hdigits, Nat.toDigits_of_lt_base hlt,
      digitChar_of_isDigit hc]

/-- Leading zeros do not count. -/
theorem value_dropWhile (ds : List Char) :
    Nat.ofDigitChars 10 (ds.dropWhile (· = '0')) 0 = Nat.ofDigitChars 10 ds 0 := by
  induction ds with
  | nil => rfl
  | cons d ds ih =>
    by_cases hd : d = '0'
    · rw [List.dropWhile_cons_of_pos (by simp [hd]), ih, hd, Nat.ofDigitChars_cons, Nat.sub_self,
        Nat.mul_zero, Nat.zero_add]
    · rw [List.dropWhile_cons_of_neg (by simp [hd])]

/-- **A run of digits is the numeral of its value, up to leading zeros.** -/
theorem toDigits_ofDigitChars (hds : ∀ c ∈ ds, c.isDigit = true) :
    Nat.toDigits 10 (Nat.ofDigitChars 10 ds 0) =
      if ds.dropWhile (· = '0') = [] then ['0'] else ds.dropWhile (· = '0') := by
  rw [← value_dropWhile ds]
  cases hdrop : ds.dropWhile (· = '0') with
  | nil => rfl
  | cons d rest =>
    have hmem (c : Char) (hc : c ∈ d :: rest) : c.isDigit = true :=
      hds c ((List.dropWhile_sublist _).subset (hdrop ▸ hc))
    have hne : d ≠ '0' := by
      have hhead := List.head_dropWhile_not (fun c : Char => decide (c = '0'))
        (l := ds) (by simp [hdrop])
      simpa [hdrop] using hhead
    rw [if_neg (by simp)]
    exact (toDigits_value (hmem d (by simp)) hne fun c hc => hmem c (by simp [hc])).2

/-- A numeral is a word. -/
theorem isWord_toDigits (n : Nat) : IsWord (Nat.toDigits 10 n) where
  ne_nil := Nat.toDigits_ne_nil
  solid c hc := by
    have hdigit := Nat.isDigit_of_mem_toDigits (by omega) (by omega) hc
    rw [← digitChar_of_isDigit hdigit]
    have hlt := value_lt_ten hdigit
    generalize c.toNat - '0'.toNat = n at hlt
    interval_cases n <;> decide

end Text
