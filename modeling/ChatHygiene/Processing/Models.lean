import ChatHygiene.Storage.Models
/-!
# Recorded facts

What preparation freezes of an update, body-free: the identities, the mode it
was prepared in and the action to apply. A recorded event is one of these
under its update id, and a later application reads nothing else of the update.
-/

namespace ChatHygiene

inductive Decision where
  | allow
  | suspicious
  | spam
  deriving DecidableEq, Repr

structure DetectionFacts where
  decision : Decision
  score : Nat
  reasons : List String
  matchedRules : List String
  detectorName : String
  detectorVersion : String
  normalizedHash : String
  error : Option String
  deriving DecidableEq, Repr

inductive InboundOutcome where
  | startChallenge (expression answerHmac : String) (hmacKeyVersion : Int)
      (createdAt expiresAt : DateTime) (maxAttempts : Nat)
  | retain
  | correct (challengeId : Nat)
  | incorrect (challengeId : Nat) (exhausted : Bool) (attemptsRemaining : Nat)
      (blockExpiresAt : Option DateTime)
  | expired (challengeId : Nat)
  | spam
  deriving DecidableEq, Repr

inductive PreparedSender where
  | businessBot
  | implicit
  deriving DecidableEq, Repr

inductive PreparedAction where
  | connectionChanged (ownerUserId : Int) (ownerChatId : Option Int) (enabled : Bool)
      (rights : BusinessRights)
  | inbound (detection : DetectionFacts) (outcome : InboundOutcome) (dryRunSpam : Bool)
  | activeInbound
  | blockedInbound
  | blockedFailOpen
  | manualOwner
  | botMessage (sender : PreparedSender)
  | messagesDeleted (messageIds : List Int)
  | ignore
  deriving DecidableEq, Repr

structure LifecycleFacts where
  connectionId : Option String
  chatId : Option Int
  userId : Option Int
  messageId : Option Int
  mediaGroupId : Option String
  contactDisplayName : Option String
  contactUsername : Option String
  ownerUserId : Option Int
  ownerChatId : Option Int
  eventKind : String
  dryRun : Bool
  stateBefore : Option ConversationState
  occurredAt : DateTime
  action : PreparedAction
  deriving DecidableEq, Repr

/-- `legacy_attempts_remaining`: the value that stands for an absent count. -/
def legacyAttemptsRemaining : Nat := 255

namespace LifecycleFacts

/-- The conversation the facts name, if they name one. -/
def optionalKey (facts : LifecycleFacts) : Option ConversationKey :=
  match facts.connectionId, facts.chatId with
  | some connectionId, some chatId => some ⟨connectionId, chatId⟩
  | _, _ => none

end LifecycleFacts

end ChatHygiene
