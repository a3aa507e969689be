import ChatHygiene.Verification.Arithmetic
/-!
# The challenge codec

What a challenge asks, apart from how it is written: an expression whose parts
are all between 0 and 99. The generator, the parser of stored expressions and
the judge of replies agree on its text and on its answer.
-/

namespace ChatHygiene

/-! ## Expressions -/

/-- An expression in the order in which it is evaluated. -/
inductive Expr where
  | operand (n : Int)
  | binary (left : Expr) (operator : Operator) (right : Expr)

namespace Expr

def value : Expr → Int
  | .operand n => n
  | .binary left operator right => operator.apply left.value right.value

/-- No part of the expression has a value outside of `0..=99`. -/
def Bounded : Expr → Prop
  | .operand n => 0 ≤ n ∧ n ≤ 99
  | .binary left operator right => left.Bounded ∧ right.Bounded ∧
    0 ≤ operator.apply left.value right.value ∧ operator.apply left.value right.value ≤ 99

/-- How `a o b o' c` is read: multiplication first, then from the left. -/
def reading (a : Int) (o : Operator) (b : Int) (o' : Operator) (c : Int) : Expr :=
  match o, o' with
  | .add, .multiply | .subtract, .multiply =>
    .binary (.operand a) o (.binary (.operand b) .multiply (.operand c))
  | _, _ => .binary (.binary (.operand a) o (.operand b)) o' (.operand c)

end Expr

/-- The text asks for a number: it is a bounded expression as the format writes it. -/
def Asks (s : String) (answer : Int) : Prop :=
  ∃ a o b o' c, s = expressionText a o b o' c ∧ (Expr.reading a o b o' c).Bounded ∧
    (Expr.reading a o b o' c).value = answer

section

variable {a b c : Int} {o o' : Operator}

theorem inBounds_iff {n : Int} : inBounds n = true ↔ 0 ≤ n ∧ n ≤ 99 := by
  simp [inBounds]

/-- **The bounds that are checked are those of every part of the expression.** -/
theorem boundedAnswer_eq_some_iff (ha : inBounds a = true) (hb : inBounds b = true)
    (hc : inBounds c = true) {n : Int} : boundedAnswer a o b o' c = some n ↔
      (Expr.reading a o b o' c).Bounded ∧ (Expr.reading a o b o' c).value = n := by
  rw [inBounds_iff] at ha hb hc
  cases o <;> cases o' <;>
    simp [boundedAnswer, Operator.precedence, Expr.reading, Expr.Bounded, Expr.value, inBounds_iff,
      ha, hb, hc, and_assoc]

/-- The operands of a bounded expression are bounded. -/
theorem Expr.operands_of_bounded (h : (Expr.reading a o b o' c).Bounded) :
    inBounds a = true ∧ inBounds b = true ∧ inBounds c = true := by
  simp only [inBounds_iff]
  cases o <;> cases o' <;> simp only [Expr.reading, Expr.Bounded] at h <;> omega

end

/-! ## Text -/

open Text (IsWord words)

theorem toList_toString (n : Nat) : (toString (n : Int)).toList = Nat.toDigits 10 n :=
  Nat.toList_repr

theorem isWord_symbol (o : Operator) : IsWord o.symbol.toList := by
  have hword (c : Char) (hc : Text.isWhitespace c = false) : IsWord [c] :=
    ⟨List.cons_ne_nil c [], by simpa only [List.forall_mem_singleton] using hc⟩
  cases o
  · exact hword '+' rfl
  · exact hword '-' rfl
  · exact hword '×' rfl

theorem isWord_toString {n : Int} (h : inBounds n = true) : IsWord (toString n).toList := by
  obtain ⟨k, rfl⟩ := Int.eq_ofNat_of_zero_le (inBounds_iff.1 h).1
  rw [toList_toString]
  exact Text.isWord_toDigits k

/-- The parts of the text are its words. -/
theorem splitWhitespace_expressionText {a b c : Int} {o o' : Operator} (ha : inBounds a = true)
    (hb : inBounds b = true) (hc : inBounds c = true) :
    splitWhitespace (expressionText a o b o' c) =
      [toString a, o.symbol, toString b, o'.symbol, toString c] := by
  have htext : (expressionText a o b o' c).toList =
      (toString a).toList ++ ' ' :: (o.symbol.toList ++ ' ' :: ((toString b).toList ++
        ' ' :: (o'.symbol.toList ++ ' ' :: (toString c).toList))) := by
    have hpieces : expressionText a o b o' c = toString a ++ " " ++ o.symbol ++ " " ++
      toString b ++ " " ++ o'.symbol ++ " " ++ toString c := rfl
    rw [hpieces]
    simp only [String.toList_append, List.append_assoc]
    rfl
  rw [splitWhitespace, htext, Text.words_append_space (isWord_toString ha),
    Text.words_append_space (isWord_symbol o), Text.words_append_space (isWord_toString hb),
    Text.words_append_space (isWord_symbol o'), Text.words_of_isWord (isWord_toString hc)]
  simp only [List.map_cons, List.map_nil, String.ofList_toList]

theorem parseOperator_symbol (o : Operator) : parseOperator o.symbol = some o := by
  cases o <;> rfl

theorem parseI32_toString {n : Nat} (h : n ≤ 2147483647) :
    parseI32 (toString (n : Int)) = some (n : Int) := by
  have hdigit {d : Char} (hd : d ∈ Nat.toDigits 10 n) : d.isDigit = true :=
    Nat.isDigit_of_mem_toDigits (by omega) (by omega) hd
  have hall : (Nat.toDigits 10 n).all (·.isDigit) = true := List.all_eq_true.2 fun d hd => hdigit hd
  unfold parseI32
  rw [toList_toString]
  -- a numeral starts with a digit, so neither sign is taken for one
  split
  · next cs hcs =>
    have hminus := hdigit (d := '-') (by simp [hcs])
    cases hminus
  · next cs hcs =>
    have hplus := hdigit (d := '+') (by simp [hcs])
    cases hplus
  · rw [parseDigits, if_pos ⟨Nat.toDigits_ne_nil, hall⟩, Option.bind_some,
      Nat.ofDigitChars_ten_toDigits, if_pos h]

theorem parseOperand_toString {n : Int} (h : inBounds n = true) :
    parseOperand (toString n) = some n := by
  obtain ⟨hlow, hhigh⟩ := inBounds_iff.1 h
  obtain ⟨k, rfl⟩ := Int.eq_ofNat_of_zero_le hlow
  rw [parseOperand, parseI32_toString (by omega), Option.bind_some, if_pos h]

theorem inBounds_of_parseOperand {s : String} {n : Int} (h : parseOperand s = some n) :
    inBounds n = true := by
  obtain ⟨m, -, h⟩ := Option.bind_eq_some_iff.1 h
  split at h
  · next hm =>
    cases h
    exact hm
  · cases h

theorem symbol_injective {o o' : Operator} (h : o.symbol = o'.symbol) : o = o' := by
  have hparsed := parseOperator_symbol o
  rw [h, parseOperator_symbol o'] at hparsed
  exact (Option.some.inj hparsed).symm

theorem toString_injective {m n : Int} (hm : inBounds m = true) (hn : inBounds n = true)
    (h : toString m = toString n) : m = n := by
  have hparsed := parseOperand_toString hm
  rw [h, parseOperand_toString hn] at hparsed
  exact (Option.some.inj hparsed).symm

/-- **A text asks for one number at most.** -/
theorem Asks.unique {s : String} {m n : Int} (hm : Asks s m) (hn : Asks s n) : m = n := by
  obtain ⟨a, o, b, o', c, rfl, hbounded, rfl⟩ := hm
  obtain ⟨a₁, o₁, b₁, o₁', c₁, htext, hbounded₁, rfl⟩ := hn
  obtain ⟨ha, hb, hc⟩ := Expr.operands_of_bounded hbounded
  obtain ⟨ha₁, hb₁, hc₁⟩ := Expr.operands_of_bounded hbounded₁
  have hwords := congrArg splitWhitespace htext
  rw [splitWhitespace_expressionText ha hb hc, splitWhitespace_expressionText ha₁ hb₁ hc₁] at hwords
  simp only [List.cons.injEq, and_true] at hwords
  obtain ⟨hwa, hwo, hwb, hwo', hwc⟩ := hwords
  rw [toString_injective ha ha₁ hwa, symbol_injective hwo, toString_injective hb hb₁ hwb,
    symbol_injective hwo', toString_injective hc hc₁ hwc]

namespace ArithmeticVerifier

variable {R : Type} {p : Primitives} {v : ArithmeticVerifier R}

/-- **A stored expression is accepted if and only if it asks for a number.** -/
theorem answerHmacForExpression_eq_some_iff {s hmac : String} :
    v.answerHmacForExpression p s = some hmac ↔
      ∃ answer, Asks s answer ∧ hmac = v.answerHmac p (toString answer) := by
  constructor
  · intro h
    unfold answerHmacForExpression at h
    split at h
    · next part₀ part₁ part₂ part₃ part₄ hparts =>
      simp only [bind, Option.bind_eq_some_iff] at h
      obtain ⟨a, ha, o, -, b, hb, o', -, c, hc, h⟩ := h
      split at h
      · cases h
      · next hcanonical =>
        obtain ⟨answer, hanswer, h⟩ := Option.bind_eq_some_iff.1 h
        obtain ⟨hbounded, hvalue⟩ := (boundedAnswer_eq_some_iff (inBounds_of_parseOperand ha)
          (inBounds_of_parseOperand hb) (inBounds_of_parseOperand hc)).1 hanswer
        refine ⟨answer, ⟨a, o, b, o', c, ?_, hbounded, hvalue⟩, ?_⟩
        · exact (not_not.1 hcanonical).symm
        · exact (Option.some.inj h).symm
    · cases h
  · rintro ⟨answer, ⟨a, o, b, o', c, rfl, hbounded, hvalue⟩, rfl⟩
    obtain ⟨ha, hb, hc⟩ := Expr.operands_of_bounded hbounded
    have hanswer := (boundedAnswer_eq_some_iff ha hb hc).2 ⟨hbounded, hvalue⟩
    unfold answerHmacForExpression
    rw [splitWhitespace_expressionText ha hb hc]
    simp only [parseOperand_toString ha, parseOperand_toString hb, parseOperand_toString hc,
      parseOperator_symbol, hanswer, bind, pure, Option.bind_some, ne_eq, not_true, if_false]

/-! ## Generation -/

theorem randomOperand_inBounds [RngCore R] (rng : R) : inBounds (randomOperand rng).1 = true := by
  have hlt := (RngCore.randomRange 100 rng).1.isLt
  refine inBounds_iff.2 ⟨Int.natCast_nonneg _, ?_⟩
  change ((RngCore.randomRange 100 rng).1 : Int) ≤ 99
  omega

/-- A candidate asks for the number it comes with. -/
theorem randomCandidate_asks [RngCore R] {rng : R} {expression : String} {answer : Int}
    (h : (randomCandidate rng).1 = some (expression, answer)) : Asks expression answer := by
  unfold randomCandidate at h
  obtain ⟨n, hanswer, hcandidate⟩ := Option.map_eq_some_iff.1 h
  obtain ⟨rfl, rfl⟩ := Prod.mk.inj hcandidate
  obtain ⟨hbounded, hvalue⟩ := (boundedAnswer_eq_some_iff (randomOperand_inBounds _)
    (randomOperand_inBounds _) (randomOperand_inBounds _)).1 hanswer
  exact ⟨_, _, _, _, _, rfl, hbounded, hvalue⟩

theorem findCandidate_asks [RngCore R] {attempts : Nat} {rng : R} {expression : String}
    {answer : Int} (h : (findCandidate attempts rng).1 = some (expression, answer)) :
    Asks expression answer := by
  induction attempts generalizing rng with
  | zero => cases h
  | succ attempts ih =>
    unfold findCandidate at h
    split at h
    · next candidate rng' hcandidate =>
      have hfirst := congrArg Prod.fst hcandidate
      exact randomCandidate_asks (hfirst.trans h)
    · exact ih h

theorem fallback_asks : Asks fallbackExpression fallbackAnswer :=
  ⟨7, .add, 5, .subtract, 3, rfl, by simp [Expr.reading, Expr.Bounded, Expr.value, Operator.apply], rfl⟩

/-- **A generated challenge asks for the number whose HMAC it carries.** -/
theorem generate_asks [RngCore R] (v : ArithmeticVerifier R) (now : DateTime) :
    ∃ answer, Asks (v.generate p now).1.expression answer ∧
      (v.generate p now).1.answerHmac = v.answerHmac p (toString answer) := by
  unfold generate
  cases hfound : findCandidate maxRandomCandidates v.rng with
  | mk candidate rng =>
    cases candidate with
    | none => exact ⟨fallbackAnswer, fallback_asks, rfl⟩
    | some candidate =>
      obtain ⟨expression, answer⟩ := candidate
      have hasks := findCandidate_asks (congrArg Prod.fst hfound)
      exact ⟨answer, hasks, rfl⟩

end ArithmeticVerifier

/-! ## Replies -/

/-- What the codec relies on: hexadecimal can be read back, and no two messages have one MAC. -/
structure Primitives.Lawful (p : Primitives) : Prop where
  hexDecode_hexEncode : ∀ bytes, p.hexDecode (p.hexEncode bytes) = some bytes
  mac_injective : ∀ key, Function.Injective (p.mac key)

/-- The reply is a number: once it is normalised and trimmed, digits with at most one plus sign in
front. -/
def Denotes (p : Primitives) (raw : String) (n : Int) : Prop :=
  ∃ digits : List Char, digits ≠ [] ∧ (∀ d ∈ digits, d.isDigit = true) ∧
    (Text.trim (p.nfkc raw).toList = digits ∨ Text.trim (p.nfkc raw).toList = '+' :: digits) ∧
    (Nat.ofDigitChars 10 digits 0 : Int) = n

section

variable {R : Type} {p : Primitives} {v : ArithmeticVerifier R} {raw : String}

/-- The numeral of a number that is not negative. -/
theorem toString_natCast (n : Nat) : toString (n : Int) = String.ofList (Nat.toDigits 10 n) := rfl

/-- What is left of digits without their leading zeros is a numeral. -/
theorem ofList_canonical {ds : List Char} (hds : ∀ d ∈ ds, d.isDigit = true) :
    (if ds.dropWhile (· = '0') = [] then "0" else String.ofList (ds.dropWhile (· = '0'))) =
      toString (Nat.ofDigitChars 10 ds 0 : Int) := by
  rw [toString_natCast, Text.toDigits_ofDigitChars hds]
  split <;> rfl

theorem stripPlus_of_digits {ds : List Char} (hds : ∀ d ∈ ds, d.isDigit = true) :
    stripPlus ds = ds := by
  cases ds with
  | nil => rfl
  | cons d ds =>
    unfold stripPlus
    split
    · next unsigned hplus =>
      have hdigit := hds d (by simp)
      rw [(List.cons.inj hplus).1] at hdigit
      cases hdigit
    · rfl

theorem stripPlus_eq (cs : List Char) : cs = stripPlus cs ∨ cs = '+' :: stripPlus cs := by
  unfold stripPlus
  split
  · exact .inr rfl
  · exact .inl rfl

/-- **A reply is normalised if and only if it is a number, and then to its numeral.** -/
theorem normalizeAnswer_eq_some_iff {s : String} :
    normalizeAnswer p raw = some s ↔ ∃ n, Denotes p raw n ∧ s = toString n := by
  unfold normalizeAnswer
  dsimp only
  constructor
  · intro h
    split at h
    · cases h
    · next hvalue =>
      simp only [not_or, not_not, List.all_eq_true] at hvalue
      obtain ⟨hne, hdigits⟩ := hvalue
      refine ⟨_, ⟨_, hne, hdigits, stripPlus_eq _, rfl⟩, ?_⟩
      rw [← ofList_canonical hdigits]
      exact (Option.some.inj h).symm
  · rintro ⟨n, ⟨ds, hne, hdigits, htrim, rfl⟩, rfl⟩
    have hstrip : stripPlus (Text.trim (p.nfkc raw).toList) = ds := by
      rcases htrim with htrim | htrim
      · rw [htrim, stripPlus_of_digits hdigits]
      · rw [htrim]
        rfl
    rw [hstrip, if_neg (by simp [hne, List.all_eq_true.2 hdigits]), ofList_canonical hdigits]

theorem Denotes.nonneg {n : Int} (h : Denotes p raw n) : 0 ≤ n := by
  obtain ⟨ds, -, -, -, rfl⟩ := h
  exact Int.natCast_nonneg _

theorem ofDigitChars_toString (n : Nat) :
    Nat.ofDigitChars 10 (toString (n : Int)).toList 0 = n := by
  rw [toList_toString, Nat.ofDigitChars_ten_toDigits]

theorem verifySlice_iff {tag expectedTag : ByteArray} :
    ArithmeticVerifier.verifySlice tag expectedTag = true ↔ tag = expectedTag := by
  unfold ArithmeticVerifier.verifySlice
  rw [decide_eq_true_iff]
  exact ⟨ByteArray.ext, congrArg _⟩

/-- **A reply is correct if and only if it denotes the answer that is signed.** -/
theorem evaluate_answerHmac (hp : p.Lawful) {answer : Int} (hanswer : 0 ≤ answer) :
    v.evaluate p raw (v.answerHmac p (toString answer)) = .correct ↔ Denotes p raw answer := by
  obtain ⟨k, rfl⟩ := Int.eq_ofNat_of_zero_le hanswer
  unfold ArithmeticVerifier.evaluate ArithmeticVerifier.answerHmac
  rw [hp.hexDecode_hexEncode]
  constructor
  · intro h
    cases hreply : normalizeAnswer p raw with
    | none =>
      rw [hreply] at h
      cases h
    | some s =>
      rw [hreply] at h
      obtain ⟨n, hdenotes, rfl⟩ := normalizeAnswer_eq_some_iff.1 hreply
      dsimp only at h
      split at h
      · next htag =>
        have hsame := String.toByteArray_inj.1 (hp.mac_injective v.key (verifySlice_iff.1 htag))
        obtain ⟨m, rfl⟩ := Int.eq_ofNat_of_zero_le hdenotes.nonneg
        have hvalue := congrArg (fun s => Nat.ofDigitChars 10 s.toList 0) hsame
        simp only [ofDigitChars_toString] at hvalue
        rw [← hvalue]
        exact hdenotes
      · cases h
  · intro hdenotes
    rw [normalizeAnswer_eq_some_iff.2 ⟨_, hdenotes, rfl⟩]
    dsimp only
    rw [if_pos (verifySlice_iff.2 rfl)]

theorem Asks.nonneg {s : String} {answer : Int} (h : Asks s answer) : 0 ≤ answer := by
  obtain ⟨a, o, b, o', c, -, hbounded, rfl⟩ := h
  cases o <;> cases o' <;> exact hbounded.2.2.1

/-- **The challenge codec.** Every generated challenge is accepted by any verifier with the same
key, which returns the HMAC that was generated; an expression is accepted if and only if it is the
canonical text of a bounded expression; and a reply is correct against the HMAC of an expression if
and only if it denotes its value. -/
theorem challenge_codec [RngCore R] (hp : p.Lawful) (v : ArithmeticVerifier R) :
    (∀ now (v' : ArithmeticVerifier R), v'.key = v.key →
      v'.answerHmacForExpression p (v.generate p now).1.expression =
        some (v.generate p now).1.answerHmac) ∧
    (∀ s, (v.answerHmacForExpression p s).isSome = true ↔ ∃ answer, Asks s answer) ∧
    ∀ s hmac, v.answerHmacForExpression p s = some hmac → ∀ answer, Asks s answer →
      ∀ raw, v.evaluate p raw hmac = .correct ↔ Denotes p raw answer := by
  refine ⟨fun now v' hkey => ?_, fun s => ?_, fun s hmac hs answer hasks raw => ?_⟩
  · obtain ⟨answer, hasks, hhmac⟩ := ArithmeticVerifier.generate_asks (p := p) v now
    refine ArithmeticVerifier.answerHmacForExpression_eq_some_iff.2 ⟨answer, hasks, ?_⟩
    rw [hhmac, ArithmeticVerifier.answerHmac, ArithmeticVerifier.answerHmac, hkey]
  · rw [Option.isSome_iff_exists]
    constructor
    · rintro ⟨hmac, hs⟩
      obtain ⟨answer, hasks, -⟩ := ArithmeticVerifier.answerHmacForExpression_eq_some_iff.1 hs
      exact ⟨answer, hasks⟩
    · rintro ⟨answer, hasks⟩
      exact ⟨_, ArithmeticVerifier.answerHmacForExpression_eq_some_iff.2 ⟨answer, hasks, rfl⟩⟩
  · obtain ⟨answer', hasks', rfl⟩ := ArithmeticVerifier.answerHmacForExpression_eq_some_iff.1 hs
    obtain rfl := hasks.unique hasks'
    exact evaluate_answerHmac hp hasks.nonneg

end

/-! ## A verifier -/

namespace Sample

def hexChars (byte : UInt8) : List Char :=
  [(byte.toNat / 16).digitChar, (byte.toNat % 16).digitChar]

def hexValue (c : Char) : Option Nat :=
  if c.isDigit then some (c.toNat - 48)
  else if 'a' ≤ c ∧ c ≤ 'f' then some (c.toNat - 87)
  else if 'A' ≤ c ∧ c ≤ 'F' then some (c.toNat - 55)
  else none

def hexBytes : List Char → Option (List UInt8)
  | [] => some []
  | high :: low :: cs => do
    let high ← hexValue high
    let low ← hexValue low
    let bytes ← hexBytes cs
    pure (UInt8.ofNat (16 * high + low) :: bytes)
  | [_] => none

/-- Text that is normal already, and a MAC that can be read. -/
def primitives : Primitives where
  nfkc := id
  mac key message := key ++ message
  hexEncode bytes := String.ofList (bytes.data.toList.flatMap hexChars)
  hexDecode s := (hexBytes s.toList).map fun bytes => ⟨bytes.toArray⟩

theorem hexValue_digitChar {n : Nat} (h : n < 16) : hexValue n.digitChar = some n := by
  interval_cases n <;> rfl

theorem hexBytes_flatMap (bytes : List UInt8) : hexBytes (bytes.flatMap hexChars) = some bytes := by
  induction bytes with
  | nil => rfl
  | cons byte bytes ih =>
    have hlt := byte.toNat_lt
    have hhigh := hexValue_digitChar (n := byte.toNat / 16) (by omega)
    have hlow := hexValue_digitChar (n := byte.toNat % 16) (by omega)
    have hbyte : 16 * (byte.toNat / 16) + byte.toNat % 16 = byte.toNat := by omega
    rw [List.flatMap_cons]
    change (hexValue _).bind _ = _
    rw [hhigh, Option.bind_some]
    change (hexValue _).bind _ = _
    rw [hlow, Option.bind_some]
    change (hexBytes (bytes.flatMap hexChars)).bind _ = _
    rw [ih, Option.bind_some, hbyte]
    simp

theorem primitives_lawful : primitives.Lawful where
  hexDecode_hexEncode bytes := by
    simp [primitives, hexBytes_flatMap]
  mac_injective key m m' h := (ByteArray.append_right_inj key).1 h

instance : RngCore Unit where
  randomRange _ _ rng := (0, rng)

def arithmeticVerifier : ArithmeticVerifier Unit := .new () "key"

end Sample

theorem challenge_codec_seven : ∃ hmac,
    Sample.arithmeticVerifier.answerHmacForExpression Sample.primitives "7 + 5 - 3" = some hmac ∧
    Sample.arithmeticVerifier.evaluate Sample.primitives " +09" hmac = .correct := by
  obtain ⟨-, haccepted, hreply⟩ := challenge_codec Sample.primitives_lawful Sample.arithmeticVerifier
  have hasks : Asks "7 + 5 - 3" 9 := ArithmeticVerifier.fallback_asks
  obtain ⟨hmac, hhmac⟩ := Option.isSome_iff_exists.1 ((haccepted _).2 ⟨9, hasks⟩)
  refine ⟨hmac, hhmac, (hreply _ _ hhmac 9 hasks _).2 ⟨['0', '9'], by simp, by simp [Char.isDigit], ?_, rfl⟩⟩
  exact .inr (by decide)

end ChatHygiene
