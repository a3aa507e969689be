import ChatHygiene.Detection.Normalize
import ChatHygiene.Processing.Preparer
/-!
# Rules

Each rule that a message meets adds its weight to the score, which is capped.
The configuration is loaded from a file that belongs to the program, and a
loaded one names a version and phrases.
-/

namespace ChatHygiene

/-- `from_score`. -/
def Decision.fromScore (score : Nat) : Decision :=
  if score = 100 then .spam else if 50 ≤ score ∧ score ≤ 99 then .suspicious else .allow

namespace Detection

structure RuleWeights where
  maliciousDomainExact : UInt8
  repeatedPromoTemplate : UInt8
  telegramInviteLink : UInt8
  solicitationPhrase : UInt8
  walletOrPaymentDestination : UInt8
  taskInvestmentAirdropPhrase : UInt8
  moreThanTwoLinks : UInt8
  contactPlusSolicitation : UInt8
  spacingOrMixedScriptEvasion : UInt8
  excessiveMentionsOrEmoji : UInt8
  ordinaryUrl : UInt8

structure RuleConfig where
  version : String
  weights : RuleWeights
  solicitationPhrases : List String
  taskInvestmentAirdropPhrases : List String

structure RuleDetector where
  config : RuleConfig
  checksum : String

structure DetectionContext where
  maliciousDomains : List String
  priorDistinctSendersForHash : Nat

structure Accumulator where
  score : Nat
  reasons : List String
  matchedRules : List String

/-- The sum saturates at the bound of `u16`. -/
def Accumulator.add (a : Accumulator) (ruleId : String) (score : UInt8) (reason : String) :
    Accumulator where
  score := min (a.score + score.toNat) 65535
  reasons := a.reasons ++ [reason]
  matchedRules := a.matchedRules ++ [ruleId]

/-- A rule adds its score if the message meets it. -/
def Accumulator.addIf (a : Accumulator) (met : Bool) (ruleId : String) (score : UInt8)
    (reason : String) : Accumulator :=
  if met then a.add ruleId score reason else a

def Accumulator.finish (a : Accumulator) (version checksum : String)
    (normalized : NormalizedContent) : DetectionResult where
  decision := .fromScore (min a.score 100)
  score := min a.score 100
  reasons := a.reasons
  matchedRules := a.matchedRules
  detectorName := "rule"
  detectorVersion := s!"{version}:{checksum}"
  normalizedHash := normalized.normalizedHash
  score_le := Nat.min_le_right _ _

def containsPhrase (text : List Char) (phrases : List String) : Bool :=
  phrases.any fun phrase => containsText text phrase.toList

/-- `eq_ignore_ascii_case`. -/
def eqIgnoreAsciiCase (a b : List Char) : Bool := a.map Char.toLower = b.map Char.toLower

def domainIsMalicious (p : TextPrimitives) (domain : String) (context : DetectionContext) : Bool :=
  (context.maliciousDomains.filterMap fun candidate => p.domainToAscii candidate.toList).any
    fun candidate => eqIgnoreAsciiCase candidate domain.toList

def RuleDetector.detect (detector : RuleDetector) (p : TextPrimitives) (message : MessageContent)
    (context : DetectionContext) : DetectionResult :=
  let normalized := p.normalize message
  let weights := detector.config.weights
  let solicitation := containsPhrase normalized.text detector.config.solicitationPhrases
  let taskScam := containsPhrase normalized.text detector.config.taskInvestmentAirdropPhrases
  let maliciousLink := normalized.links.any fun link => domainIsMalicious p link.domain context
  let telegramInvite := normalized.links.any (·.telegramInvite)
  let accumulator : Accumulator := ⟨0, [], []⟩
  let accumulator := accumulator.addIf maliciousLink "malicious_domain_exact"
    weights.maliciousDomainExact "message contains a configured malicious domain"
  let accumulator := accumulator.addIf
    (2 ≤ context.priorDistinctSendersForHash && (solicitation || taskScam))
    "repeated_promo_template" weights.repeatedPromoTemplate
    "promotional template repeated across distinct senders"
  let accumulator := accumulator.addIf telegramInvite "telegram_invite_link"
    weights.telegramInviteLink "message contains a Telegram invite link"
  let accumulator := accumulator.addIf solicitation "solicitation_phrase"
    weights.solicitationPhrase "message contains solicitation language"
  let accumulator := accumulator.addIf (p.isWallet normalized.text) "wallet_or_payment_destination"
    weights.walletOrPaymentDestination "message contains a wallet or payment destination"
  let accumulator := accumulator.addIf taskScam "task_investment_airdrop_phrase"
    weights.taskInvestmentAirdropPhrase "message contains task, investment, or airdrop language"
  let accumulator := accumulator.addIf (2 < normalized.links.length) "more_than_two_links"
    weights.moreThanTwoLinks "message contains more than two distinct links"
  let accumulator := accumulator.addIf (normalized.contact && solicitation)
    "contact_plus_solicitation" weights.contactPlusSolicitation
    "contact information accompanies solicitation language"
  let accumulator := accumulator.addIf normalized.evasion "spacing_or_mixed_script_evasion"
    weights.spacingOrMixedScriptEvasion
    "message uses spacing, zero-width, or mixed-script evasion"
  let accumulator := accumulator.addIf (3 < normalized.mentionCount || 8 ≤ normalized.emojiCount)
    "excessive_mentions_or_emoji" weights.excessiveMentionsOrEmoji
    "message contains excessive mentions or emoji"
  let accumulator := accumulator.addIf
    (normalized.links.any fun link =>
      !link.telegramInvite && !domainIsMalicious p link.domain context)
    "ordinary_url" weights.ordinaryUrl "message contains an ordinary URL"
  accumulator.finish detector.config.version detector.checksum normalized

end Detection

end ChatHygiene
