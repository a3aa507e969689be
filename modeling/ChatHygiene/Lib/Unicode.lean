import Mathlib.Data.Nat.Notation
/-!
# UTF-16

Text as UTF-16 code units: one for a character of the basic plane and a
surrogate pair for any other. No unit that begins a character is one that ends
a pair, so a run of units that is well formed lies on the boundaries of the
characters.
-/

namespace Utf16

/-- The code units of a character. -/
def encodeChar (c : Char) : List Nat :=
  if c.toNat < 0x10000 then [c.toNat]
  else [0xD800 + (c.toNat - 0x10000) / 0x400, 0xDC00 + (c.toNat - 0x10000) % 0x400]

/-- The code units of a text. -/
def encode (cs : List Char) : List Nat := cs.flatMap encodeChar

/-- The first unit of a surrogate pair. -/
def isHigh (u : Nat) : Bool := 0xD800 ≤ u && u ≤ 0xDBFF

/-- The second unit of a surrogate pair. -/
def isLow (u : Nat) : Bool := 0xDC00 ≤ u && u ≤ 0xDFFF

/-- The text of a run of code units, unless a surrogate is alone. -/
def decode : List Nat → Option (List Char)
  | [] => some []
  | u :: us =>
    if isHigh u then
      match us with
      | low :: us =>
        if isLow low then
          (decode us).map (Char.ofNat (0x10000 + 0x400 * (u - 0xD800) + (low - 0xDC00)) :: ·)
        else none
      | [] => none
    else if isLow u then none
    else (decode us).map (Char.ofNat u :: ·)

variable {c d : Char} {cs v : List Char} {u : Nat} {us xs ys : List Nat}

theorem encode_cons (c : Char) (cs : List Char) : encode (c :: cs) = encodeChar c ++ encode cs := rfl

@[simp] theorem encode_append (cs ds : List Char) : encode (cs ++ ds) = encode cs ++ encode ds :=
  List.flatMap_append

/-- What the units of a character are. -/
theorem encodeChar_cases (c : Char) :
    (encodeChar c = [c.toNat] ∧ isHigh c.toNat = false ∧ isLow c.toNat = false) ∨
      ∃ high low, encodeChar c = [high, low] ∧ isHigh high = true ∧ isLow low = true ∧
        0x10000 + 0x400 * (high - 0xD800) + (low - 0xDC00) = c.toNat := by
  have hvalid : c.toNat < 0xD800 ∨ 0xDFFF < c.toNat ∧ c.toNat < 0x110000 := c.valid
  unfold encodeChar
  by_cases hbasic : c.toNat < 0x10000
  · rw [if_pos hbasic]
    refine .inl ⟨rfl, ?_, ?_⟩
    · simp only [isHigh, Bool.and_eq_false_iff, decide_eq_false_iff_not]
      omega
    · simp only [isLow, Bool.and_eq_false_iff, decide_eq_false_iff_not]
      omega
  · rw [if_neg hbasic]
    refine .inr ⟨_, _, rfl, ?_, ?_, ?_⟩
    · simp only [isHigh, Bool.and_eq_true, decide_eq_true_eq]
      omega
    · simp only [isLow, Bool.and_eq_true, decide_eq_true_eq]
      omega
    · omega

/-- No unit is both. -/
theorem isLow_of_isHigh (h : isHigh u = true) : isLow u = false := by
  simp only [isHigh, Bool.and_eq_true, decide_eq_true_eq] at h
  simp only [isLow, Bool.and_eq_false_iff, decide_eq_false_iff_not]
  omega

/-- A character does not begin with the second unit of a pair. -/
theorem encodeChar_eq_cons (h : encodeChar c = u :: us) : isLow u = false := by
  rcases encodeChar_cases c with ⟨hc, -, hlow⟩ | ⟨high, low, hc, hhigh, -⟩
  · rw [hc] at h
    obtain ⟨rfl, -⟩ := List.cons.inj h
    exact hlow
  · rw [hc] at h
    obtain ⟨rfl, -⟩ := List.cons.inj h
    exact isLow_of_isHigh hhigh

theorem encodeChar_ne_nil (c : Char) : encodeChar c ≠ [] := by
  rcases encodeChar_cases c with ⟨hc, -⟩ | ⟨high, low, hc, -⟩
  · rw [hc]
    exact List.cons_ne_nil _ _
  · rw [hc]
    exact List.cons_ne_nil _ _

theorem decode_encodeChar_append (c : Char) (us : List Nat) :
    decode (encodeChar c ++ us) = (decode us).map (c :: ·) := by
  rcases encodeChar_cases c with ⟨hc, hhigh, hlow⟩ | ⟨high, low, hc, hhigh, hlow, hvalue⟩
  · rw [hc, List.singleton_append, decode.eq_def]
    simp [hhigh, hlow, Char.ofNat_toNat]
  · rw [hc, List.cons_append, List.singleton_append, decode.eq_def]
    simp only [hhigh, hlow, if_true, hvalue, Char.ofNat_toNat]

/-- **What is encoded is decoded.** -/
theorem decode_encode (cs : List Char) : decode (encode cs) = some cs := by
  induction cs with
  | nil => rfl
  | cons c cs ih => rw [encode_cons, decode_encodeChar_append, ih, Option.map_some]

theorem toNat_ofNat_of_basic (hhigh : isHigh u = false) (hlow : isLow u = false)
    (h : u < 0x10000) : (Char.ofNat u).toNat = u := by
  simp only [isHigh, Bool.and_eq_false_iff, decide_eq_false_iff_not] at hhigh
  simp only [isLow, Bool.and_eq_false_iff, decide_eq_false_iff_not] at hlow
  have hvalid : u.isValidChar := by
    unfold Nat.isValidChar
    omega
  rw [Char.ofNat, dif_pos hvalid]
  rfl

/-- **What is decoded is encoded**, among units of sixteen bits. -/
theorem encode_of_decode (hunits : ∀ u ∈ us, u < 0x10000) (h : decode us = some cs) :
    encode cs = us := by
  induction us using decode.induct generalizing cs with
  | case1 =>
    cases h
    rfl
  | case2 u hhigh low us hlow ih =>
    rw [decode.eq_def] at h
    simp only [hhigh, hlow, if_true] at h
    obtain ⟨ds, hds, rfl⟩ := Option.map_eq_some_iff.1 h
    simp only [isHigh, isLow, Bool.and_eq_true, decide_eq_true_eq] at hhigh hlow
    have hvalid : (0x10000 + 0x400 * (u - 0xD800) + (low - 0xDC00)).isValidChar := by
      unfold Nat.isValidChar
      omega
    have hvalue : (Char.ofNat (0x10000 + 0x400 * (u - 0xD800) + (low - 0xDC00))).toNat =
        0x10000 + 0x400 * (u - 0xD800) + (low - 0xDC00) := by
      rw [Char.ofNat, dif_pos hvalid]
      rfl
    have hpair : encodeChar (Char.ofNat (0x10000 + 0x400 * (u - 0xD800) + (low - 0xDC00))) =
        [u, low] := by
      rw [encodeChar, hvalue, if_neg (by omega)]
      simp only [List.cons.injEq, and_true]
      omega
    rw [encode_cons, hpair, ih (fun v hv => hunits v (by simp [hv])) hds]
    rfl
  | case3 u hhigh low us hlow =>
    rw [decode.eq_def] at h
    simp [hhigh, hlow] at h
  | case4 u hhigh =>
    rw [decode.eq_def] at h
    simp [hhigh] at h
  | case5 u us hhigh hlow =>
    rw [decode.eq_def] at h
    simp [hhigh, hlow] at h
  | case6 u us hhigh hlow ih =>
    rw [decode.eq_def] at h
    simp only [hhigh, hlow, if_false, Bool.false_eq_true] at h
    obtain ⟨ds, hds, rfl⟩ := Option.map_eq_some_iff.1 h
    have hbasic := hunits u (by simp)
    have hvalue := toNat_ofNat_of_basic (by simpa using hhigh) (by simpa using hlow) hbasic
    rw [encode_cons, encodeChar, hvalue, if_pos hbasic,
      ih (fun v hv => hunits v (by simp [hv])) hds]
    rfl

/-- Every unit has sixteen bits. -/
theorem lt_of_mem_encode (h : u ∈ encode cs) : u < 0x10000 := by
  obtain ⟨c, -, hu⟩ := List.mem_flatMap.1 h
  have hvalid : c.toNat < 0xD800 ∨ 0xDFFF < c.toNat ∧ c.toNat < 0x110000 := c.valid
  unfold encodeChar at hu
  by_cases hbasic : c.toNat < 0x10000
  · rw [if_pos hbasic, List.mem_singleton] at hu
    omega
  · rw [if_neg hbasic, List.mem_cons, List.mem_singleton] at hu
    omega

/-- The units of the first character tell it. -/
theorem encodeChar_append_inj (h : encodeChar c ++ xs = encodeChar d ++ ys) : c = d ∧ xs = ys := by
  rcases encodeChar_cases c with ⟨hc, hhigh, hlow⟩ | ⟨high, low, hc, hhigh, hlow, hvalue⟩
  · rcases encodeChar_cases d with ⟨hd, -, -⟩ | ⟨high', low', hd, hhigh', -, -⟩
    · rw [hc, hd] at h
      obtain ⟨hcode, hrest⟩ := List.cons.inj h
      exact ⟨Char.toNat_inj.1 hcode, hrest⟩
    · rw [hc, hd] at h
      obtain ⟨hcode, -⟩ := List.cons.inj h
      rw [hcode, hhigh'] at hhigh
      cases hhigh
  · rcases encodeChar_cases d with ⟨hd, hhigh', -⟩ | ⟨high', low', hd, -, -, hvalue'⟩
    · rw [hc, hd] at h
      obtain ⟨hcode, -⟩ := List.cons.inj h
      rw [← hcode, hhigh] at hhigh'
      cases hhigh'
    · rw [hc, hd] at h
      obtain ⟨rfl, hlows⟩ := List.cons.inj h
      obtain ⟨rfl, hrest⟩ := List.cons.inj hlows
      exact ⟨Char.toNat_inj.1 (hvalue.symm.trans hvalue'), hrest⟩

/-- A text that begins with the units of another one begins with it. -/
theorem encode_eq_append (h : encode cs = encode v ++ ys) : ∃ ds, cs = v ++ ds ∧ encode ds = ys := by
  induction v generalizing cs with
  | nil => exact ⟨cs, rfl, h⟩
  | cons d v ih =>
    cases cs with
    | nil =>
      rw [encode_cons, List.append_assoc] at h
      exact absurd (List.append_eq_nil_iff.1 h.symm).1 (encodeChar_ne_nil d)
    | cons c cs =>
      rw [encode_cons, encode_cons, List.append_assoc] at h
      obtain ⟨rfl, hrest⟩ := encodeChar_append_inj h
      obtain ⟨ds, rfl, hds⟩ := ih hrest
      exact ⟨ds, rfl, hds⟩

/-- **Where the units of a text occur in those of another one, the text does**, unless it is
empty. -/
theorem encode_eq_append_append (hv : v ≠ []) (h : encode cs = xs ++ (encode v ++ ys)) :
    ∃ a ds, cs = a ++ (v ++ ds) ∧ encode a = xs ∧ encode ds = ys := by
  induction cs generalizing xs with
  | nil =>
    obtain ⟨-, h⟩ := List.append_eq_nil_iff.1 h.symm
    obtain ⟨hnil, -⟩ := List.append_eq_nil_iff.1 h
    obtain ⟨d, v, rfl⟩ := List.exists_cons_of_ne_nil hv
    exact absurd (List.append_eq_nil_iff.1 hnil).1 (encodeChar_ne_nil d)
  | cons c cs ih =>
    cases xs with
    | nil =>
      obtain ⟨ds, hcs, hds⟩ := encode_eq_append h
      exact ⟨[], ds, hcs, rfl, hds⟩
    | cons x xs =>
      rw [encode_cons] at h
      rcases encodeChar_cases c with ⟨hc, -⟩ | ⟨high, low, hc, -, hlow, -⟩
      · rw [hc] at h
        obtain ⟨rfl, hrest⟩ := List.cons.inj h
        obtain ⟨a, ds, rfl, ha, hds⟩ := ih hrest
        refine ⟨c :: a, ds, rfl, ?_, hds⟩
        rw [encode_cons, hc, ha]
        rfl
      · rw [hc] at h
        obtain ⟨rfl, hlows⟩ := List.cons.inj h
        cases xs with
        | nil =>
          -- the text would begin with the second unit of a pair
          obtain ⟨d, v, rfl⟩ := List.exists_cons_of_ne_nil hv
          obtain ⟨u, us, hd⟩ := List.exists_cons_of_ne_nil (encodeChar_ne_nil d)
          rw [encode_cons, hd] at hlows
          obtain ⟨rfl, -⟩ := List.cons.inj hlows
          rw [encodeChar_eq_cons hd] at hlow
          cases hlow
        | cons y xs =>
          obtain ⟨rfl, hrest⟩ := List.cons.inj hlows
          obtain ⟨a, ds, rfl, ha, hds⟩ := ih hrest
          refine ⟨c :: a, ds, rfl, ?_, hds⟩
          rw [encode_cons, hc, ha]
          rfl

end Utf16
