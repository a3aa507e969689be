import ChatHygiene.Health
import ChatHygiene.Telegram.Models
/-!
# Preparation

Preparation reads the store once and turns a raw update into the facts that
will be recorded. The detector's verdict and the verifier are parameters: a
verdict is any result with a score of at most 100, a generated challenge any
with three attempts.
-/

namespace ChatHygiene

open Txn (read)

/-- A detector's verdict on one message. -/
structure DetectionResult where
  decision : Decision
  score : Nat
  reasons : List String
  matchedRules : List String
  detectorName : String
  detectorVersion : String
  normalizedHash : String
  /-- Scores are capped when they are added up. -/
  score_le : score ≤ 100

inductive AnswerKind where
  | correct
  | incorrect
  | nonNumeric
  deriving DecidableEq, Repr

structure GeneratedChallenge where
  expression : String
  answerHmac : String
  hmacKeyVersion : Int
  createdAt : DateTime
  expiresAt : DateTime
  maxAttempts : Nat
  /-- Every generated challenge grants three attempts. -/
  maxAttempts_eq : maxAttempts = 3

/-- The verifier: its key version, the next challenge it generates at an instant, and how it
judges a raw answer against a stored HMAC. -/
structure ChallengeVerifier where
  keyVersion : Int
  generate : DateTime → GeneratedChallenge
  evaluate : String → String → AnswerKind

/-- What preparing one update depends on besides the store: the detector's verdict, the verifier,
two readings of the clock and the configured default mode. -/
structure EventPreparer where
  detection : Except String DetectionResult
  verifier : ChallengeVerifier
  now : DateTime
  /-- The clock when the end of a block is computed. -/
  blockNow : DateTime
  destructiveMode : Bool

def DetectionFacts.ofResult (result : DetectionResult) : DetectionFacts where
  decision := result.decision
  score := result.score
  reasons := result.reasons
  matchedRules := result.matchedRules
  detectorName := result.detectorName
  detectorVersion := result.detectorVersion
  normalizedHash := result.normalizedHash
  error := none

def DetectionFacts.failed (error : String) : DetectionFacts where
  decision := .allow
  score := 0
  reasons := []
  matchedRules := []
  detectorName := "error"
  detectorVersion := "unavailable"
  normalizedHash := "unavailable"
  error := some error

def RawEventKind.rawEventName : RawEventKind → String
  | .businessConnectionChanged => "BUSINESS_CONNECTION_CHANGED"
  | .inboundMessage => "INBOUND_MESSAGE"
  | .editedInboundMessage => "EDITED_INBOUND_MESSAGE"
  | .manualOwnerMessage => "MANUAL_OWNER_MESSAGE"
  | .botBusinessMessage => "BOT_BUSINESS_MESSAGE"
  | .implicitOwnerMessage => "IMPLICIT_OWNER_MESSAGE"
  | .messagesDeleted => "MESSAGES_DELETED"
  | .ownerClaim => "OWNER_CLAIM"
  | .ownerStart => "OWNER_START"
  | .ownerCommand => "OWNER_COMMAND"
  | .ignored => "IGNORED"

def requiresKnownConnection : RawEventKind → Bool
  | .inboundMessage | .editedInboundMessage | .manualOwnerMessage | .botBusinessMessage
  | .implicitOwnerMessage | .messagesDeleted => true
  | _ => false

def PreparedAction.createsConversation : PreparedAction → Bool
  | .inbound .. | .blockedInbound | .blockedFailOpen | .manualOwner | .botMessage _
  | .messagesDeleted _ => true
  | _ => false

/-- The stored mode, or the configured default. -/
def runtimeDestructiveMode (default : Bool) : Uow Bool :=
  read fun db => db.destructiveMode.getD default

def ownerChatForUser (ownerUserId : Int) : Uow (Option Int) := do
  match ← loadOwnerLifecycleState with
  | .pending => pure (some ownerUserId)
  | .ready (.claimed storedUserId ownerChatId _ _ _) =>
    pure (if storedUserId = ownerUserId then some ownerChatId else none)
  | .ready .unclaimed => pure none

/-- The Owner of the only configured connection, and the chat to reach them at. -/
def singleConnectionOwner : Uow (Option Int × Option Int) := do
  match ← findSingleBusinessConnection with
  | none => pure (none, none)
  | some connection => pure (some connection.ownerUserId, ← ownerChatForUser connection.ownerUserId)

def traceOwnerIdentity (raw : RawBusinessEvent) : Uow (Option Int × Option Int) := do
  match raw.connection with
  | some connection => pure (some connection.ownerUserId, connection.ownerChatId)
  | none =>
    match raw.connectionId with
    | none => singleConnectionOwner
    | some connectionId =>
      match ← findBusinessConnection connectionId with
      | none => singleConnectionOwner
      | some connection =>
        pure (some connection.ownerUserId, ← ownerChatForUser connection.ownerUserId)

def traceStateBefore (raw : RawBusinessEvent) : Uow (Option ConversationState) :=
  match raw.connectionId, raw.chatId with
  | some connectionId, some chatId => do
    let conversation ← findConversation ⟨connectionId, chatId⟩
    pure (conversation.map (·.state))
  | _, _ => pure none

def knownBusinessConnection (raw : RawBusinessEvent) : Uow Bool := do
  match raw.connectionId with
  | none => pure false
  | some connectionId => pure (← findBusinessConnection connectionId).isSome

structure BusinessAvailability where
  reply : Bool
  destructive : Bool
  deriving DecidableEq, Repr

def businessAvailability (key : ConversationKey) : Uow BusinessAvailability := do
  match ← findBusinessConnection key.connectionId with
  | none => pure ⟨false, false⟩
  | some connection =>
    if !connection.enabled then pure ⟨false, false⟩
    else pure ⟨connection.rights.canReply,
      connection.rights.canReadMessages && connection.rights.canDeleteAllMessages⟩

def eventKey (raw : RawBusinessEvent) : Uow ConversationKey :=
  match raw.connectionId, raw.chatId with
  | none, _ => throw (.invalidEvent "connection ID is missing")
  | some _, none => throw (.invalidEvent "chat ID is missing")
  | some connectionId, some chatId => pure ⟨connectionId, chatId⟩

namespace EventPreparer

variable (preparer : EventPreparer)

def generatedChallenge : InboundOutcome :=
  let challenge := preparer.verifier.generate preparer.now
  .startChallenge challenge.expression challenge.answerHmac challenge.hmacKeyVersion
    challenge.createdAt challenge.expiresAt challenge.maxAttempts

/-- How an answer to the open challenge is judged. -/
def answerOutcome (challenge : ChallengeRecord) (rawAnswer : String) (destructiveMode : Bool) :
    InboundOutcome :=
  match preparer.verifier.evaluate rawAnswer challenge.answerHmac with
  | .correct => .correct challenge.id
  | .incorrect | .nonNumeric =>
    let attemptsUsed := challenge.attemptsUsed + 1
    let exhausted : Bool := challenge.maxAttempts ≤ attemptsUsed
    .incorrect challenge.id exhausted (challenge.maxAttempts - attemptsUsed)
      (if exhausted && destructiveMode then some (preparer.blockNow + DateTime.hours 24)
        else none)

def safeOutcome (rawKind : RawEventKind) (state : ConversationState) (key : ConversationKey)
    (content : Option MessageContent) (destructiveMode : Bool) : Uow InboundOutcome := do
  match state with
  | .new => pure preparer.generatedChallenge
  | .verifyPending =>
    match ← activeChallenge key with
    | none => throw (.invalidEvent "VERIFY_PENDING conversation has no active challenge")
    | some challenge =>
      if challenge.expiresAt ≤ preparer.now then pure (.expired challenge.id)
      else if rawKind = .editedInboundMessage then pure .retain
      else if challenge.hmacKeyVersion ≠ preparer.verifier.keyVersion then
        throw (.invalidEvent "challenge HMAC key version does not match verifier")
      else
        pure (preparer.answerOutcome challenge ((content.bind (·.text)).getD "") destructiveMode)
  | .verifiedWaitingOwner => pure .retain
  | .active | .tempSoftBlocked | .spamSoftBlocked =>
    throw (.invalidEvent "checked state reached safe inbound preparation")

/-- The verdict as facts. A failed detector allows the message. -/
def detectionFacts : DetectionFacts :=
  match preparer.detection with
  | .ok result => .ofResult result
  | .error error => .failed error

def prepareInbound (raw : RawBusinessEvent) (runtimeDestructiveMode : Bool) :
    Uow PreparedAction := do
  let key ← eventKey raw
  let conversation ← findConversation key
  let state := (conversation.map (·.state)).getD .new
  if state = .active then pure .activeInbound
  else
    let availability ← businessAvailability key
    let destructiveMode := runtimeDestructiveMode && availability.destructive
    if state.blocked then
      pure (if destructiveMode then .blockedInbound else .blockedFailOpen)
    else
      let detection := preparer.detectionFacts
      let isSpam : Bool := detection.decision = .spam
      let dryRunSpam := isSpam && !destructiveMode
      if isSpam && destructiveMode then pure (.inbound detection .spam dryRunSpam)
      else if (isSpam && state = .verifyPending) ||
          ((state = .new || state = .verifyPending) && !availability.reply) then
        pure (.inbound detection .retain dryRunSpam)
      else
        let outcome ← preparer.safeOutcome raw.kind state key raw.content destructiveMode
        pure (.inbound detection outcome dryRunSpam)

/-- The action an update of a known connection is prepared as. -/
def prepareAction (raw : RawBusinessEvent) (destructiveMode : Bool) : Uow PreparedAction := do
  if requiresKnownConnection raw.kind && !(← knownBusinessConnection raw) then pure .ignore
  else
    match raw.kind with
    | .inboundMessage | .editedInboundMessage => preparer.prepareInbound raw destructiveMode
    | .manualOwnerMessage => pure .manualOwner
    | .botBusinessMessage => pure (.botMessage .businessBot)
    | .implicitOwnerMessage => pure (.botMessage .implicit)
    | .messagesDeleted => pure (.messagesDeleted raw.deletedMessageIds)
    | .businessConnectionChanged | .ownerClaim | .ownerStart | .ownerCommand | .ignored =>
      pure .ignore

/-- Converts transient content into a body-free durable lifecycle event. -/
def prepare (updateId : Int) (raw : RawBusinessEvent) : Uow PreparedEvent := do
  let destructiveMode ← runtimeDestructiveMode preparer.destructiveMode
  let (ownerUserId, ownerChatId) ← traceOwnerIdentity raw
  let stateBefore ← traceStateBefore raw
  let action ← preparer.prepareAction raw destructiveMode
  let stateBefore :=
    match stateBefore with
    | some state => some state
    | none => if action.createsConversation then some .new else none
  pure
    { updateId := updateId
      eventType :=
        if raw.kind = .businessConnectionChanged then .businessConnectionChanged else .lifecycle
      occurredAt := raw.occurredAt
      facts :=
        { connectionId := raw.connectionId
          chatId := raw.chatId
          userId := raw.chatId
          messageId := raw.messageId
          mediaGroupId := raw.mediaGroupId
          contactDisplayName := if destructiveMode then none else raw.contactDisplayName
          contactUsername := if destructiveMode then none else raw.contactUsername
          ownerUserId := ownerUserId
          ownerChatId := ownerChatId
          eventKind := raw.kind.rawEventName
          dryRun := !destructiveMode && !(raw.kind = .ownerClaim || raw.kind = .ignored)
          stateBefore := stateBefore
          occurredAt := raw.occurredAt
          action := action } }

end EventPreparer

end ChatHygiene
