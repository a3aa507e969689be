import ChatHygiene.Domain.State
import ChatHygiene.Lib.Table
/-!
# Stored values

The values the store holds and the operations pass around. An instant is a
number of nanoseconds, a Telegram id an integer, and a local autoincrement id
a natural number. A JSON column is modelled by the value it encodes: the four
Business rights, an outbox payload (one constructor a kind, so that the kind
column and the payload always agree), and the facts of a recorded event.
-/

namespace ChatHygiene

/-- An instant, in nanoseconds since the epoch. -/
abbrev DateTime := Int

namespace DateTime

def seconds (n : Int) : Int := n * 1000000000

def hours (n : Int) : Int := seconds (n * 3600)

def days (n : Int) : Int := hours (n * 24)

/-- Whole seconds since the epoch. -/
def timestamp (t : DateTime) : Int := t / 1000000000

end DateTime

structure ConversationKey where
  connectionId : String
  chatId : Int
  deriving DecidableEq, Repr

structure Conversation where
  key : ConversationKey
  userId : Int
  state : ConversationState
  createdAt : DateTime
  updatedAt : DateTime
  blockExpiresAt : Option DateTime
  blockReason : Option String
  blockCount : Nat
  stateVersion : Nat
  deriving DecidableEq, Repr

inductive MessageDirection where
  | inbound
  | outbound
  deriving DecidableEq, Repr

inductive SenderKind where
  | external
  | owner
  | businessBot
  | implicit
  deriving DecidableEq, Repr

structure LedgerMessage where
  key : ConversationKey
  messageId : Int
  direction : MessageDirection
  senderKind : SenderKind
  manualOwnerReply : Bool
  sentAt : DateTime
  deletedAt : Option DateTime
  eligibleForDeletion : Bool
  mediaGroupId : Option String
  deriving DecidableEq, Repr

/-- A message the ledger has just seen: not deleted, and eligible for deletion. -/
def LedgerMessage.new (key : ConversationKey) (messageId : Int) (direction : MessageDirection)
    (senderKind : SenderKind) (manualOwnerReply : Bool) (sentAt : DateTime) : LedgerMessage where
  key := key
  messageId := messageId
  direction := direction
  senderKind := senderKind
  manualOwnerReply := manualOwnerReply
  sentAt := sentAt
  deletedAt := none
  eligibleForDeletion := true
  mediaGroupId := none

inductive DeliveryStatus where
  | pending
  | sent
  | uncertain
  | closed
  deriving DecidableEq, Repr

structure ChallengeRecord where
  id : Nat
  key : ConversationKey
  expression : String
  answerHmac : String
  hmacKeyVersion : Int
  createdAt : DateTime
  expiresAt : DateTime
  attemptsUsed : Nat
  maxAttempts : Nat
  promptMessageId : Option Int
  deliveryStatus : DeliveryStatus
  deriving DecidableEq, Repr

/-- A challenge before its row is inserted: the store gives it its id. -/
def ChallengeRecord.pending (key : ConversationKey) (expression answerHmac : String)
    (hmacKeyVersion : Int) (createdAt expiresAt : DateTime) : ChallengeRecord where
  id := 0
  key := key
  expression := expression
  answerHmac := answerHmac
  hmacKeyVersion := hmacKeyVersion
  createdAt := createdAt
  expiresAt := expiresAt
  attemptsUsed := 0
  maxAttempts := 3
  promptMessageId := none
  deliveryStatus := .pending

/-- A stored challenge: the record the queries return, and the column `closed_at`, which they
only filter by. -/
structure ChallengeRow extends ChallengeRecord where
  closedAt : Option DateTime
  deriving DecidableEq, Repr

/-! ## Connections and the Owner -/

structure BusinessRights where
  canReply : Bool
  canReadMessages : Bool
  canDeleteSentMessages : Bool
  canDeleteAllMessages : Bool
  deriving DecidableEq, Repr

namespace BusinessRights

/-- All four rights. -/
def complete (r : BusinessRights) : Bool :=
  r.canReply && r.canReadMessages && r.canDeleteSentMessages && r.canDeleteAllMessages

/-- The rights two snapshots agree on. -/
def inter (r s : BusinessRights) : BusinessRights where
  canReply := r.canReply && s.canReply
  canReadMessages := r.canReadMessages && s.canReadMessages
  canDeleteSentMessages := r.canDeleteSentMessages && s.canDeleteSentMessages
  canDeleteAllMessages := r.canDeleteAllMessages && s.canDeleteAllMessages

/-- `r` grants nothing that `s` does not. -/
instance : LE BusinessRights where
  le r s := (r.canReply → s.canReply) ∧ (r.canReadMessages → s.canReadMessages) ∧
    (r.canDeleteSentMessages → s.canDeleteSentMessages) ∧
    (r.canDeleteAllMessages → s.canDeleteAllMessages)

instance (r s : BusinessRights) : Decidable (r ≤ s) :=
  inferInstanceAs (Decidable (_ ∧ _ ∧ _ ∧ _))

theorem le_refl (r : BusinessRights) : r ≤ r := ⟨id, id, id, id⟩

theorem inter_le_left (r s : BusinessRights) : r.inter s ≤ r := by
  simp +contextual [LE.le, inter]

end BusinessRights

inductive ReconciliationState where
  | pending
  | confirmed
  deriving DecidableEq, Repr

structure BusinessConnectionRecord where
  connectionId : String
  ownerUserId : Int
  rights : BusinessRights
  enabled : Bool
  connectionEstablishedAt : Option Int
  stateRevision : Nat
  reconciliationState : ReconciliationState
  updatedAt : DateTime
  deriving DecidableEq, Repr

inductive OwnerChatSource where
  | legacyFallback
  | claim
  | businessConnection
  | privateMessage
  deriving DecidableEq, Repr

inductive OwnerIdentity where
  | unclaimed
  | claimed (ownerUserId ownerChatId : Int) (ownerChatSource : OwnerChatSource)
      (connectionFloorEstablishedAt : Option Int) (boundAt : DateTime)
  deriving DecidableEq, Repr

/-- The owner singleton: not yet initialised, or an identity. -/
inductive OwnerLifecycleState where
  | pending
  | ready (identity : OwnerIdentity)
  deriving DecidableEq, Repr

structure BusinessConnectionCandidate where
  connectionId : String
  businessUserId : Int
  userChatId : Option Int
  rights : BusinessRights
  enabled : Bool
  connectionEstablishedAt : Int
  stateRevision : Nat
  observedAt : DateTime
  deriving DecidableEq, Repr

structure CandidateGuard where
  overflowEstablishedAt : Option Int
  stateRevision : Nat
  deriving DecidableEq, Repr

inductive GlobalReconciliationState where
  | pending
  | ready
  | authFailed
  deriving DecidableEq, Repr

structure TelegramReconciliationState where
  state : GlobalReconciliationState
  stateRevision : Nat
  updatedAt : DateTime
  deriving DecidableEq, Repr

/-! ## Outbox actions -/

inductive OutboxActionKind where
  | sendChallenge
  | editChallenge
  | readBusinessMessage
  | deleteBusinessMessages
  | sendOwnerMessage
  | sendPrivateMessage
  | proposedDestructiveAction
  deriving DecidableEq, Repr

def OutboxActionKind.asStr : OutboxActionKind → String
  | .sendChallenge => "SEND_CHALLENGE"
  | .editChallenge => "EDIT_CHALLENGE"
  | .readBusinessMessage => "READ_BUSINESS_MESSAGE"
  | .deleteBusinessMessages => "DELETE_BUSINESS_MESSAGES"
  | .sendOwnerMessage => "SEND_OWNER_MESSAGE"
  | .sendPrivateMessage => "SEND_PRIVATE_MESSAGE"
  | .proposedDestructiveAction => "PROPOSED_DESTRUCTIVE_ACTION"

/-- Reads a message or deletes messages: what cleanup does. -/
def OutboxActionKind.destructive : OutboxActionKind → Bool
  | .readBusinessMessage | .deleteBusinessMessages => true
  | _ => false

/-- The status text of a challenge edit. -/
inductive ChallengeStatus where
  | success
  | incorrect
  | exhausted
  | exhaustedDryRun
  | expired
  deriving DecidableEq, Repr

inductive OwnerAlert where
  | challengeSendUncertain
  | businessRightsUnavailable
  | detectorFailed
  deriving DecidableEq, Repr

def OwnerAlert.asStr : OwnerAlert → String
  | .challengeSendUncertain => "challenge_send_uncertain"
  | .businessRightsUnavailable => "business_rights_unavailable"
  | .detectorFailed => "detector_failed"

inductive PrivateMessageKind where
  | ownerSetupGuide
  | ownerClaimRejected
  deriving DecidableEq, Repr

def PrivateMessageKind.asStr : PrivateMessageKind → String
  | .ownerSetupGuide => "OWNER_SETUP_GUIDE"
  | .ownerClaimRejected => "OWNER_CLAIM_REJECTED"

inductive TraceStatus where
  | applied
  | queued
  | skippedDryRun
  | retained
  | ignored
  deriving DecidableEq, Repr

structure TraceAction where
  name : String
  status : TraceStatus
  deriving DecidableEq, Repr

structure TraceDetection where
  decision : String
  score : Nat
  reasons : List String
  matchedRules : List String
  failed : Bool
  deriving DecidableEq, Repr

structure TraceVerification where
  result : String
  attemptsRemaining : Option Nat
  deriving DecidableEq, Repr

structure ProcessingTrace where
  updateId : Int
  contactId : Option Int
  contactDisplayName : Option String
  contactUsername : Option String
  messageId : Option Int
  event : String
  stateBefore : Option ConversationState
  stateAfter : Option ConversationState
  detection : Option TraceDetection
  verification : TraceVerification
  actions : List TraceAction
  deriving DecidableEq, Repr

/-- The text of an owner message: a reply, the recent errors, or a dry-run trace. Errors and traces
are kept as the data they are rendered from. -/
inductive OwnerText where
  | plain (text : String)
  | errors (entries : List (DateTime × String × String))
  | trace (trace : ProcessingTrace)
  deriving DecidableEq, Repr

structure OwnerAlertPayload where
  alert : Option OwnerAlert
  message : Option OwnerText
  challengeId : Option Nat
  ownerChatId : Option Int
  ownerUserId : Option Int
  deriving DecidableEq, Repr

/-- The payload of an action, which determines its kind. -/
inductive OutboxPayload where
  | sendChallenge (challengeId : Nat) (expression : String) (expiresAt : DateTime)
      (attemptsRemaining : Nat)
  | editChallenge (challengeId : Nat) (status : ChallengeStatus) (attemptsRemaining : Option Nat)
  | readBusinessMessage (messageId : Int)
  | deleteBusinessMessages (messageIds : List Int)
  | sendOwnerMessage (payload : OwnerAlertPayload)
  | sendPrivateMessage (chatId : Int) (messageKind : PrivateMessageKind)
  | proposedDestructiveAction (reason : String) (score hours : Option Nat)
  deriving DecidableEq, Repr

def OutboxPayload.kind : OutboxPayload → OutboxActionKind
  | .sendChallenge .. => .sendChallenge
  | .editChallenge .. => .editChallenge
  | .readBusinessMessage _ => .readBusinessMessage
  | .deleteBusinessMessages _ => .deleteBusinessMessages
  | .sendOwnerMessage _ => .sendOwnerMessage
  | .sendPrivateMessage .. => .sendPrivateMessage
  | .proposedDestructiveAction .. => .proposedDestructiveAction

inductive OutboxStatus where
  | pending
  | retry
  | succeeded
  | uncertain
  | permanentFailure
  deriving DecidableEq, Repr

/-- `status IN ('PENDING', 'RETRY')`. -/
def OutboxStatus.unfinished : OutboxStatus → Bool
  | .pending | .retry => true
  | _ => false

structure OutboxActionRow where
  id : Nat
  sourceUpdateId : Int
  key : Option ConversationKey
  payload : OutboxPayload
  idempotencyKey : String
  status : OutboxStatus
  attempts : Nat
  nextAttemptAt : Option DateTime
  lastError : Option String
  createdAt : DateTime
  updatedAt : DateTime
  claimedAt : Option DateTime
  deriving DecidableEq, Repr

/-- A claimed action as the dispatcher holds it. -/
structure OutboxActionRecord where
  id : Nat
  sourceUpdateId : Int
  key : Option ConversationKey
  payload : OutboxPayload
  status : OutboxStatus
  attempts : Nat
  interrupted : Bool
  nextAttemptAt : Option DateTime
  createdAt : DateTime
  updatedAt : DateTime
  deriving DecidableEq, Repr

def OutboxActionRow.kind (a : OutboxActionRow) : OutboxActionKind := a.payload.kind

def OutboxActionRecord.kind (a : OutboxActionRecord) : OutboxActionKind := a.payload.kind

/-- The record a query returns for a row. -/
def OutboxActionRow.toRecord (r : OutboxActionRow) : OutboxActionRecord where
  id := r.id
  sourceUpdateId := r.sourceUpdateId
  key := r.key
  payload := r.payload
  status := r.status
  attempts := r.attempts
  interrupted := false
  nextAttemptAt := r.nextAttemptAt
  createdAt := r.createdAt
  updatedAt := r.updatedAt

structure NewOutboxAction where
  sourceUpdateId : Int
  key : Option ConversationKey
  payload : OutboxPayload
  idempotencyKey : String
  createdAt : DateTime
  deriving DecidableEq, Repr

/-! ## Audits -/

structure NewAuditEvent where
  sourceUpdateId : Option Int
  key : Option ConversationKey
  eventKind : String
  stateBefore : Option ConversationState
  stateAfter : Option ConversationState
  score : Option Nat
  reasons : Option (List String)
  ruleIds : Option (List String)
  normalizedHash : Option String
  ruleVersion : Option String
  errorCode : Option String
  errorMessage : Option String
  occurredAt : DateTime
  deriving DecidableEq, Repr

structure AuditEvent extends NewAuditEvent where
  id : Nat
  deriving DecidableEq, Repr

end ChatHygiene
