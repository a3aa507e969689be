import ChatHygiene.Storage.Repositories
/-!
# The challenge key upgrade

At startup every open challenge signed under the legacy key is signed again
under the current one, in one transaction. The signer is a parameter: what it
returns for an expression, if it accepts the expression.
-/

namespace ChatHygiene

open Txn (read forEach)

/-- `LEGACY_CHALLENGE_HMAC_KEY_VERSION`. -/
def legacyChallengeHmacKeyVersion : Int := 0

/-- `CURRENT_KEY_VERSION`. -/
def currentKeyVersion : Int := 1

structure ChallengeSigner where
  keyVersion : Int
  answerHmacForExpression : String → Option String

/-- `closed_at IS NULL AND hmac_key_version != ? ORDER BY id`. -/
def activeChallengesNotOnVersion (targetVersion : Int) : Uow (List ChallengeRecord) :=
  read fun db =>
    ((db.challenge.rows.filter fun c => c.closedAt.isNone && c.hmacKeyVersion ≠ targetVersion).map
      ChallengeRow.toChallengeRecord).insertionSort fun a b => a.id ≤ b.id

/-- Replaces one open challenge HMAC using a version-checked compare-and-swap. -/
def replaceChallengeHmac (challengeId : Nat) (fromVersion toVersion : Int)
    (answerHmac : String) : Uow Unit := do
  let affected ← Uow.updateChallenge
    (fun c => c.id = challengeId && c.closedAt.isNone && c.hmacKeyVersion = fromVersion)
    (fun c => { c with answerHmac := answerHmac, hmacKeyVersion := toVersion })
    ⟨fun _ => rfl, fun _ => rfl, fun _ h => h, fun _ _ h h' => ⟨h, h'⟩⟩
  updateOne affected

def upgradeChallengeHmac (signer : ChallengeSigner) (challenge : ChallengeRecord) : Uow Unit := do
  if challenge.hmacKeyVersion ≠ legacyChallengeHmacKeyVersion then
    throw (.invalidData
      s!"unsupported active challenge HMAC source version {challenge.hmacKeyVersion}")
  match signer.answerHmacForExpression challenge.expression with
  | none => throw (.invalidData "persisted challenge expression is invalid")
  | some answerHmac =>
    replaceChallengeHmac challenge.id challenge.hmacKeyVersion currentKeyVersion answerHmac

/-- Signs every open legacy challenge again and counts them. -/
def upgradeActiveChallengeHmacs (signer : ChallengeSigner) : Uow Nat := do
  if signer.keyVersion ≠ currentKeyVersion then
    throw (.invalidData s!"challenge HMAC signer version {signer.keyVersion} is not current")
  let challenges ← activeChallengesNotOnVersion currentKeyVersion
  forEach (upgradeChallengeHmac signer) challenges
  pure challenges.length

end ChatHygiene
