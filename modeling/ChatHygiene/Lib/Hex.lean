import Mathlib.Data.List.Basic
/-!
# Hexadecimal

Bytes written as two lower-case digits each, and read back. `Lawful` says what
a pair of functions has to do to be such a codec; `encode` and `decodeToSlice`
are one.
-/

namespace Hex

/-- A lower-case hexadecimal digit. -/
def isDigit (b : UInt8) : Bool := (0x30 ≤ b && b ≤ 0x39) || (0x61 ≤ b && b ≤ 0x66)

/-- Two digits are written for a byte, what is written is read back, and every digit is read. -/
structure Lawful (encode : List UInt8 → List UInt8)
    (decodeToSlice : List UInt8 → Nat → Option (List UInt8)) : Prop where
  length_encode : ∀ bs, (encode bs).length = 2 * bs.length
  digits_encode : ∀ bs, ∀ b ∈ encode bs, isDigit b = true
  decode_encode : ∀ bs, decodeToSlice (encode bs) bs.length = some bs
  decode_digits : ∀ digits n, digits.length = 2 * n → (∀ b ∈ digits, isDigit b = true) →
    ∃ bs, decodeToSlice digits n = some bs

/-- The digit of a value. -/
def digit (n : UInt8) : UInt8 := if n < 10 then 0x30 + n else 0x57 + n

/-- The value of a digit, in either case. -/
def value (b : UInt8) : Option UInt8 :=
  if 0x30 ≤ b ∧ b ≤ 0x39 then some (b - 0x30)
  else if 0x61 ≤ b ∧ b ≤ 0x66 then some (b - 0x57)
  else if 0x41 ≤ b ∧ b ≤ 0x46 then some (b - 0x37)
  else none

def encode (bs : List UInt8) : List UInt8 := bs.flatMap fun b => [digit (b / 16), digit (b % 16)]

/-- The bytes of pairs of digits, as many as the slice has room for. -/
def decodeToSlice : List UInt8 → Nat → Option (List UInt8)
  | [], 0 => some []
  | high :: low :: digits, n + 1 => do
    let h ← value high
    let l ← value low
    let rest ← decodeToSlice digits n
    some ((16 * h + l) :: rest)
  | _, _ => none

theorem digit_spec {n : UInt8} (h : n < 16) :
    isDigit (digit n) = true ∧ value (digit n) = some n := by
  have hall : ∀ k < 16, isDigit (digit (UInt8.ofNat k)) = true ∧
      value (digit (UInt8.ofNat k)) = some (UInt8.ofNat k) := by decide
  have hn := hall n.toNat h
  rw [UInt8.ofNat_toNat] at hn
  exact hn

/-- A byte is made of its halves. -/
theorem halves (b : UInt8) : b / 16 < 16 ∧ b % 16 < 16 ∧ 16 * (b / 16) + b % 16 = b := by
  have hb := b.toNat_lt
  refine ⟨?_, ?_, UInt8.toNat_inj.1 ?_⟩
  · rw [UInt8.lt_iff_toNat_lt, UInt8.toNat_div]
    change b.toNat / 16 < 16
    omega
  · rw [UInt8.lt_iff_toNat_lt, UInt8.toNat_mod]
    change b.toNat % 16 < 16
    omega
  · rw [UInt8.toNat_add, UInt8.toNat_mul, UInt8.toNat_div, UInt8.toNat_mod]
    change (16 * (b.toNat / 16) % 256 + b.toNat % 16) % 256 = b.toNat
    omega

theorem value_of_isDigit {b : UInt8} (h : isDigit b = true) : ∃ n, value b = some n := by
  simp only [isDigit, Bool.or_eq_true, Bool.and_eq_true, decide_eq_true_eq] at h
  unfold value
  split
  · exact ⟨_, rfl⟩
  · next hno =>
    rcases h with h | h
    · exact absurd h hno
    · rw [if_pos h]
      exact ⟨_, rfl⟩

theorem encode_cons (b : UInt8) (bs : List UInt8) :
    encode (b :: bs) = digit (b / 16) :: digit (b % 16) :: encode bs := rfl

/-- **The codec is one.** -/
theorem lawful : Lawful encode decodeToSlice where
  length_encode bs := by
    induction bs with
    | nil => rfl
    | cons b bs ih =>
      simp only [encode_cons, List.length_cons, ih]
      omega
  digits_encode bs b hb := by
    obtain ⟨c, -, hc⟩ := List.mem_flatMap.1 hb
    obtain ⟨hhigh, hlow, -⟩ := halves c
    rcases List.mem_cons.1 hc with rfl | hc
    · exact (digit_spec hhigh).1
    · rw [List.mem_singleton.1 hc]
      exact (digit_spec hlow).1
  decode_encode bs := by
    induction bs with
    | nil => rfl
    | cons b bs ih =>
      obtain ⟨hhigh, hlow, hbyte⟩ := halves b
      rw [encode_cons, List.length_cons]
      simp only [decodeToSlice, (digit_spec hhigh).2, (digit_spec hlow).2, ih, Option.bind_eq_bind,
        Option.bind_some, hbyte]
  decode_digits digits n := by
    intro hlength hdigits
    induction n generalizing digits with
    | zero =>
      rw [List.length_eq_zero_iff.1 hlength]
      exact ⟨[], rfl⟩
    | succ n ih =>
      match digits, hlength with
      | high :: low :: digits, hlength =>
        simp only [List.length_cons] at hlength
        obtain ⟨h, hh⟩ := value_of_isDigit (hdigits high (by simp))
        obtain ⟨l, hl⟩ := value_of_isDigit (hdigits low (by simp))
        obtain ⟨bs, hbs⟩ := ih digits (by omega) fun b hb => hdigits b (by simp [hb])
        refine ⟨(16 * h + l) :: bs, ?_⟩
        simp only [decodeToSlice, hh, hl, hbs, Option.bind_eq_bind, Option.bind_some]

end Hex
