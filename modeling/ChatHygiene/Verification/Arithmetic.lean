import ChatHygiene.Lib.Text
import ChatHygiene.Processing.Preparer
import ChatHygiene.Verification
/-!
# Arithmetic challenges

The verifier that generates a challenge, judges an answer to it, and signs a
stored expression again. Normalisation, the MAC and hexadecimal belong to other
crates and are parameters.
-/

namespace ChatHygiene

/-- What the verifier uses of other crates. -/
structure Primitives where
  nfkc : String → String
  /-- HMAC-SHA256 of a message under a key. -/
  mac : ByteArray → ByteArray → ByteArray
  hexEncode : ByteArray → String
  hexDecode : String → Option ByteArray

/-- A source of random numbers: one below a bound, and the source after it is drawn. -/
class RngCore (R : Type) where
  randomRange (bound : Nat) [NeZero bound] : R → Fin bound × R

structure ArithmeticVerifier (R : Type) where
  rng : R
  key : ByteArray
  keyVersion : Int

inductive Operator where
  | add
  | subtract
  | multiply
  deriving DecidableEq, Repr

namespace Operator

def symbol : Operator → String
  | .add => "+"
  | .subtract => "-"
  | .multiply => "×"

/-- The numbers are too small for the arithmetic of `i32` to overflow. -/
def apply (left : Int) : Operator → Int → Int
  | .add, right => left + right
  | .subtract, right => left - right
  | .multiply, right => left * right

def precedence : Operator → Nat
  | .add | .subtract => 1
  | .multiply => 2

end Operator

/-- The format of a challenge. -/
def expressionText (first : Int) (firstOperator : Operator) (second : Int)
    (secondOperator : Operator) (third : Int) : String :=
  s!"{first} {firstOperator.symbol} {second} {secondOperator.symbol} {third}"

/-- `(0..=99).contains`. -/
def inBounds (n : Int) : Bool := 0 ≤ n && n ≤ 99

def boundedAnswer (first : Int) (firstOperator : Operator) (second : Int)
    (secondOperator : Operator) (third : Int) : Option Int :=
  let (intermediate, answer) :=
    if secondOperator.precedence > firstOperator.precedence then
      let intermediate := secondOperator.apply second third
      (intermediate, firstOperator.apply first intermediate)
    else
      let intermediate := firstOperator.apply first second
      (intermediate, secondOperator.apply intermediate third)
  if inBounds intermediate && inBounds answer then some answer else none

/-! ## Generation -/

section

variable {R : Type} [RngCore R]

def randomOperand (rng : R) : Int × R :=
  let (n, rng) := RngCore.randomRange 100 rng
  ((n : Nat), rng)

def randomOperator (rng : R) : Operator × R :=
  let (n, rng) := RngCore.randomRange 3 rng
  match n with
  | 0 => (.add, rng)
  | 1 => (.subtract, rng)
  | _ => (.multiply, rng)

def randomCandidate (rng : R) : Option (String × Int) × R :=
  let (first, rng) := randomOperand rng
  let (second, rng) := randomOperand rng
  let (third, rng) := randomOperand rng
  let (firstOperator, rng) := randomOperator rng
  let (secondOperator, rng) := randomOperator rng
  ((boundedAnswer first firstOperator second secondOperator third).map fun answer =>
    (expressionText first firstOperator second secondOperator third, answer), rng)

/-- The first of at most so many candidates that is one. -/
def findCandidate : Nat → R → Option (String × Int) × R
  | 0, rng => (none, rng)
  | attempts + 1, rng =>
    match randomCandidate rng with
    | (some candidate, rng) => (some candidate, rng)
    | (none, rng) => findCandidate attempts rng

def maxRandomCandidates : Nat := 100

def fallbackExpression : String := "7 + 5 - 3"

def fallbackAnswer : Int := 9

end

/-! ## Answers -/

/-- `strip_prefix('+')`, if there is one. -/
def stripPlus : List Char → List Char
  | '+' :: unsigned => unsigned
  | value => value

/-- What a reply says, as the digits of a number without leading zeros. -/
def normalizeAnswer (p : Primitives) (raw : String) : Option String :=
  let value := stripPlus (Text.trim (p.nfkc raw).toList)
  if value = [] ∨ ¬value.all (·.isDigit) then none
  else
    let canonical := value.dropWhile (· = '0')
    some (if canonical = [] then "0" else String.ofList canonical)

/-! ## Stored expressions -/

def parseDigits (cs : List Char) : Option Nat :=
  if cs ≠ [] ∧ cs.all (·.isDigit) then some (Nat.ofDigitChars 10 cs 0) else none

/-- `str::parse::<i32>`: an optional sign and digits, within the range of the type. -/
def parseI32 (value : String) : Option Int :=
  match value.toList with
  | '-' :: cs => (parseDigits cs).bind fun n => if n ≤ 2147483648 then some (-(n : Int)) else none
  | '+' :: cs => (parseDigits cs).bind fun n => if n ≤ 2147483647 then some (n : Int) else none
  | cs => (parseDigits cs).bind fun n => if n ≤ 2147483647 then some (n : Int) else none

def parseOperand (value : String) : Option Int :=
  (parseI32 value).bind fun operand => if inBounds operand then some operand else none

def parseOperator (value : String) : Option Operator :=
  match value with
  | "+" => some .add
  | "-" => some .subtract
  | "×" => some .multiply
  | _ => none

def splitWhitespace (s : String) : List String :=
  (Text.words s.toList).map String.ofList

namespace ArithmeticVerifier

variable {R : Type} (p : Primitives)

/-- The verifier of the legacy key, which is configured as text. -/
def new (rng : R) (key : String) : ArithmeticVerifier R := ⟨rng, key.toByteArray, 0⟩

def newWithKeyVersion (rng : R) (key : ByteArray) (keyVersion : Int) : ArithmeticVerifier R :=
  ⟨rng, key, keyVersion⟩

def answerHmac (v : ArithmeticVerifier R) (answer : String) : String :=
  p.hexEncode (p.mac v.key answer.toByteArray)

/-- Recomputes an answer HMAC from a strictly canonical persisted expression. -/
def answerHmacForExpression (v : ArithmeticVerifier R) (expression : String) : Option String := do
  match splitWhitespace expression with
  | [part₀, part₁, part₂, part₃, part₄] =>
    let first ← parseOperand part₀
    let firstOperator ← parseOperator part₁
    let second ← parseOperand part₂
    let secondOperator ← parseOperator part₃
    let third ← parseOperand part₄
    if expressionText first firstOperator second secondOperator third ≠ expression then none
    else
      let answer ← boundedAnswer first firstOperator second secondOperator third
      pure (v.answerHmac p (toString answer))
  | _ => none

/-- How many answers a challenge grants. -/
def maxAttempts : Nat := 3

/-- Generates a challenge; the verifier goes on with what is left of its random numbers. -/
def generate [RngCore R] (v : ArithmeticVerifier R) (now : DateTime) :
    GeneratedChallenge × ArithmeticVerifier R :=
  let (candidate, rng) := findCandidate maxRandomCandidates v.rng
  let (expression, answer) := candidate.getD (fallbackExpression, fallbackAnswer)
  (⟨expression, v.answerHmac p (toString answer), v.keyVersion, now, now + DateTime.seconds 120,
    maxAttempts, rfl⟩, { v with rng := rng })

/-- A tag is verified byte by byte. -/
def verifySlice (tag expectedTag : ByteArray) : Bool := tag.data = expectedTag.data

def evaluate (v : ArithmeticVerifier R) (raw expectedHmac : String) : AnswerKind :=
  match normalizeAnswer p raw with
  | none => .nonNumeric
  | some answer =>
    match p.hexDecode expectedHmac with
    | none => .incorrect
    | some expectedTag =>
      if verifySlice (p.mac v.key answer.toByteArray) expectedTag then .correct else .incorrect

/-- The verifier as the preparation of events uses it. -/
def toChallengeVerifier [RngCore R] (v : ArithmeticVerifier R) : ChallengeVerifier where
  keyVersion := v.keyVersion
  generate now := (v.generate p now).1
  evaluate := v.evaluate p

/-- The verifier as the key upgrade uses it. -/
def toChallengeSigner (v : ArithmeticVerifier R) : ChallengeSigner where
  keyVersion := v.keyVersion
  answerHmacForExpression := v.answerHmacForExpression p

end ArithmeticVerifier

end ChatHygiene
