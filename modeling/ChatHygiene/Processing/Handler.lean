import ChatHygiene.Processing.Preparer
import ChatHygiene.Processing.Trace
/-!
# Application

The handler applies the facts of one recorded event to the store, inside the
transaction that marks the event applied. It never looks at the update again:
what it decides, it decides from the facts and the stored rows.
-/

namespace ChatHygiene

open Txn (read forEach)

namespace LifecycleFacts

def key (facts : LifecycleFacts) : Uow ConversationKey :=
  match facts.connectionId, facts.chatId with
  | none, _ => throw (.application "connection ID is missing")
  | some _, none => throw (.application "chat ID is missing")
  | some connectionId, some chatId => pure ⟨connectionId, chatId⟩

def requireUserId (facts : LifecycleFacts) : Uow Int :=
  match facts.userId with
  | none => throw (.application "user ID is missing")
  | some userId => pure userId

def requireMessageId (facts : LifecycleFacts) : Uow Int :=
  match facts.messageId with
  | none => throw (.application "message ID is missing")
  | some messageId => pure messageId

end LifecycleFacts

/-! ## What an application enqueues and logs -/

/-- The idempotency key of an action of one update on one conversation. -/
def actionIdempotencyKey (updateId : Int) (kind : OutboxActionKind) (key : ConversationKey)
    (batchIndex : Nat) : String :=
  s!"{updateId}:{kind.asStr}:{key.connectionId}:{key.chatId}:{batchIndex}"

def enqueueAction (updateId : Int) (key : ConversationKey) (payload : OutboxPayload)
    (batchIndex : Nat) (now : DateTime) : Uow Unit := do
  let _ ← enqueueOutboxAction
    { sourceUpdateId := updateId
      key := some key
      payload := payload
      idempotencyKey := actionIdempotencyKey updateId payload.kind key batchIndex
      createdAt := now }

def enqueueChallengeEdit (updateId : Int) (key : ConversationKey) (challengeId : Nat)
    (status : ChallengeStatus) (attemptsRemaining : Option Nat) (now : DateTime) : Uow Unit :=
  enqueueAction updateId key (.editChallenge challengeId status attemptsRemaining) 0 now

def enqueueRead (updateId : Int) (key : ConversationKey) (messageId : Int) (now : DateTime) :
    Uow Unit :=
  enqueueAction updateId key (.readBusinessMessage messageId) 0 now

def enqueueDelete (updateId : Int) (key : ConversationKey) (messageIds : List Int)
    (now : DateTime) : Uow Unit :=
  forEach (fun (batch : List Int × Nat) =>
    enqueueAction updateId key (.deleteBusinessMessages batch.1) batch.2 now)
    (deleteMessageBatches messageIds).zipIdx

def recordInbound (facts : LifecycleFacts) (key : ConversationKey) : Uow Unit := do
  let messageId ← facts.requireMessageId
  let _ ← recordMessage
    { LedgerMessage.new key messageId .inbound .external false facts.occurredAt with
      mediaGroupId := facts.mediaGroupId }

def insertDetectionAudit (updateId : Int) (key : ConversationKey)
    (stateBefore stateAfter : ConversationState) (detection : DetectionFacts)
    (occurredAt : DateTime) : Uow Unit := do
  let _ ← insertAuditEvent
    { sourceUpdateId := some updateId
      key := some key
      eventKind := "detection"
      stateBefore := some stateBefore
      stateAfter := some stateAfter
      score := some detection.score
      reasons := some detection.reasons
      ruleIds := some detection.matchedRules
      normalizedHash := some detection.normalizedHash
      ruleVersion := some detection.detectorVersion
      errorCode := detection.error.map fun _ => "detector_failed"
      errorMessage := detection.error
      occurredAt := occurredAt }

/-- An audit that names only its update, a kind and an error. -/
def NewAuditEvent.bare (sourceUpdateId : Option Int) (eventKind : String)
    (errorCode errorMessage : Option String) (occurredAt : DateTime) : NewAuditEvent where
  sourceUpdateId := sourceUpdateId
  key := none
  eventKind := eventKind
  stateBefore := none
  stateAfter := none
  score := none
  reasons := none
  ruleIds := none
  normalizedHash := none
  ruleVersion := none
  errorCode := errorCode
  errorMessage := errorMessage
  occurredAt := occurredAt

def insertOwnerIdentityAudit (updateId : Int) (errorCode : String) (occurredAt : DateTime) :
    Uow Unit := do
  let _ ← insertAuditEvent
    (.bare (some updateId) "owner_identity_security" (some errorCode) none occurredAt)

/-! ## Conversation outcomes -/

def setTransition (conversation : Conversation) (event : TransitionEvent) (now : DateTime) :
    Uow Conversation :=
  match transition conversation.state event with
  | .ok state => pure { conversation with state := state, updatedAt := now }
  | .error error => throw (.application error.message)

def applyChallengeStart (updateId : Int) (facts : LifecycleFacts) (key : ConversationKey)
    (conversation : Conversation) (expression answerHmac : String) (hmacKeyVersion : Int)
    (createdAt expiresAt : DateTime) (maxAttempts : Nat) : Uow Conversation := do
  if maxAttempts ≠ 3 then throw (.application "challenge max attempts must be three")
  let challengeId ← createChallenge
    (.pending key expression answerHmac hmacKeyVersion createdAt expiresAt)
  let conversation ← setTransition conversation .safeFirstInbound facts.occurredAt
  enqueueAction updateId key (.sendChallenge challengeId expression expiresAt maxAttempts) 0
    facts.occurredAt
  pure conversation

def applyIncorrectAnswer (updateId : Int) (facts : LifecycleFacts) (key : ConversationKey)
    (conversation : Conversation) (challengeId : Nat) (exhausted : Bool)
    (attemptsRemaining : Nat) (blockExpiresAt : Option DateTime) : Uow Conversation := do
  let attemptsUsed ← incrementChallengeAttempts challengeId
  if !exhausted then
    let attemptsRemaining :=
      if attemptsRemaining = legacyAttemptsRemaining then 3 - attemptsUsed else attemptsRemaining
    enqueueChallengeEdit updateId key challengeId .incorrect (some attemptsRemaining)
      facts.occurredAt
    pure conversation
  else
    let _ ← closeChallenge challengeId facts.occurredAt
    match blockExpiresAt with
    | some expiresAt =>
      let conversation ← setTransition conversation .verificationExhausted facts.occurredAt
      enqueueChallengeEdit updateId key challengeId .exhausted (some 0) facts.occurredAt
      pure { conversation with
        blockExpiresAt := some expiresAt
        blockReason := some "verification_exhausted"
        blockCount := conversation.blockCount + 1 }
    | none =>
      let conversation ← setTransition conversation .challengeExpired facts.occurredAt
      enqueueAction updateId key
        (.proposedDestructiveAction "verification_exhausted" none (some 24)) 1 facts.occurredAt
      enqueueChallengeEdit updateId key challengeId .exhaustedDryRun (some 0) facts.occurredAt
      pure conversation

def applySpam (updateId : Int) (facts : LifecycleFacts) (key : ConversationKey)
    (conversation : Conversation) : Uow Conversation := do
  let conversation ← setTransition conversation .spamDetected facts.occurredAt
  let _ ← closeActiveChallenge key facts.occurredAt
  let messageId ← facts.requireMessageId
  enqueueRead updateId key messageId facts.occurredAt
  let deletionIds ← eligibleDeletionIds key
  enqueueDelete updateId key deletionIds facts.occurredAt
  pure { conversation with
    blockReason := some "spam"
    blockCount := conversation.blockCount + 1 }

/-- A challenge that is settled by one message: closed, with its transition and its edit. -/
def applySettled (updateId : Int) (facts : LifecycleFacts) (key : ConversationKey)
    (conversation : Conversation) (challengeId : Nat) (event : TransitionEvent)
    (status : ChallengeStatus) : Uow Conversation := do
  let _ ← closeChallenge challengeId facts.occurredAt
  let conversation ← setTransition conversation event facts.occurredAt
  enqueueChallengeEdit updateId key challengeId status none facts.occurredAt
  pure conversation

def applyInboundOutcome (updateId : Int) (facts : LifecycleFacts) (key : ConversationKey)
    (conversation : Conversation) : InboundOutcome → Uow Conversation
  | .startChallenge expression answerHmac hmacKeyVersion createdAt expiresAt maxAttempts =>
    applyChallengeStart updateId facts key conversation expression answerHmac hmacKeyVersion
      createdAt expiresAt maxAttempts
  | .retain => pure conversation
  | .correct challengeId =>
    applySettled updateId facts key conversation challengeId .verificationSucceeded .success
  | .incorrect challengeId exhausted attemptsRemaining blockExpiresAt =>
    applyIncorrectAnswer updateId facts key conversation challengeId exhausted attemptsRemaining
      blockExpiresAt
  | .expired challengeId =>
    applySettled updateId facts key conversation challengeId .challengeExpired .expired
  | .spam => applySpam updateId facts key conversation

/-- What an application proposes instead of acting, and what it alerts of. -/
def enqueueDetectionActions (updateId : Int) (facts : LifecycleFacts) (key : ConversationKey)
    (detection : DetectionFacts) (dryRunSpam : Bool) : Uow Unit := do
  if dryRunSpam then
    enqueueAction updateId key (.proposedDestructiveAction "spam" (some detection.score) none) 0
      facts.occurredAt
  if detection.error.isSome then
    enqueueAction updateId key
      (.sendOwnerMessage ⟨some .detectorFailed, none, none, none, none⟩) 0 facts.occurredAt

def applyInbound (updateId : Int) (facts : LifecycleFacts) (detection : DetectionFacts)
    (outcome : InboundOutcome) (dryRunSpam : Bool) : Uow Unit := do
  let key ← facts.key
  let userId ← facts.requireUserId
  let conversation ← getOrCreateConversation key userId facts.occurredAt
  let stateBefore := conversation.state
  recordInbound facts key
  enqueueDetectionActions updateId facts key detection dryRunSpam
  let conversation ← applyInboundOutcome updateId facts key conversation outcome
  if conversation.state ≠ stateBefore ∨ conversation.updatedAt ≠ facts.occurredAt then
    saveConversation { conversation with updatedAt := facts.occurredAt }
      conversation.stateVersion
  insertDetectionAudit updateId key stateBefore conversation.state detection facts.occurredAt

/-! ## The other actions -/

def applyBlockedInbound (updateId : Int) (facts : LifecycleFacts) : Uow Unit := do
  let key ← facts.key
  let messageId ← facts.requireMessageId
  let userId ← facts.requireUserId
  let conversation ← getOrCreateConversation key userId facts.occurredAt
  recordInbound facts key
  enqueueRead updateId key messageId facts.occurredAt
  let deletionIds ← eligibleDeletionIds key
  enqueueDelete updateId key deletionIds facts.occurredAt
  saveConversation { conversation with updatedAt := facts.occurredAt } conversation.stateVersion

def applyBlockedFailOpen (facts : LifecycleFacts) : Uow Unit := do
  let key ← facts.key
  let userId ← facts.requireUserId
  let conversation ← getOrCreateConversation key userId facts.occurredAt
  recordInbound facts key
  saveConversation { conversation with updatedAt := facts.occurredAt } conversation.stateVersion

/-- The conversation after an Owner message: active, and no longer blocked. -/
def manualOwnerState (conversation : Conversation) (now : DateTime) : Uow Conversation :=
  if conversation.state ≠ .active then
    setTransition conversation
      (if conversation.state = .spamSoftBlocked then .ownerInitiatedMessage
        else .manualOwnerReply) now
  else pure conversation

def applyManualOwner (facts : LifecycleFacts) : Uow Unit := do
  let key ← facts.key
  let userId ← facts.requireUserId
  let conversation ← getOrCreateConversation key userId facts.occurredAt
  let messageId ← facts.requireMessageId
  let _ ← recordMessage
    (.new key messageId .outbound .owner true facts.occurredAt)
  let _ ← closeActiveChallenge key facts.occurredAt
  let conversation ← manualOwnerState conversation facts.occurredAt
  saveConversation { conversation with
    blockExpiresAt := none
    blockReason := none
    updatedAt := facts.occurredAt } conversation.stateVersion

def PreparedSender.senderKind : PreparedSender → SenderKind
  | .businessBot => .businessBot
  | .implicit => .implicit

def applyBotMessage (facts : LifecycleFacts) (sender : PreparedSender) : Uow Unit := do
  let key ← facts.key
  let userId ← facts.requireUserId
  let _ ← getOrCreateConversation key userId facts.occurredAt
  let messageId ← facts.requireMessageId
  let _ ← recordMessage
    (.new key messageId .outbound sender.senderKind false facts.occurredAt)

def applyDeletions (facts : LifecycleFacts) (messageIds : List Int) : Uow Unit := do
  let key ← facts.key
  let userId ← facts.requireUserId
  let conversation ← getOrCreateConversation key userId facts.occurredAt
  forEach (fun messageId => do
    let _ ← markMessageDeleted key messageId facts.occurredAt) messageIds
  let replies ← activeOwnerReplyIds key
  if conversation.state = .active ∧ replies = [] then
    let conversation ← setTransition conversation .allOwnerRepliesDeleted facts.occurredAt
    saveConversation conversation conversation.stateVersion

def applyConnectionChange (updateId : Int) (connectionId : String) (ownerUserId : Int)
    (ownerChatId : Option Int) (enabled : Bool) (rights : BusinessRights)
    (occurredAt : DateTime) : Uow Unit := do
  let connection : BusinessConnectionRecord :=
    { connectionId := connectionId
      ownerUserId := ownerUserId
      rights := rights
      enabled := enabled
      connectionEstablishedAt := none
      stateRevision := 0
      reconciliationState := .pending
      updatedAt := occurredAt }
  match ← loadOwnerLifecycleState with
  | .pending => upsertBusinessConnection connection
  | .ready .unclaimed =>
    insertOwnerIdentityAudit updateId "connection_received_before_owner_claim" occurredAt
  | .ready (.claimed storedUserId storedChatId ownerChatSource _ _) =>
    if storedUserId ≠ ownerUserId then
      insertOwnerIdentityAudit updateId "connection_owner_mismatch" occurredAt
    else
      match ownerChatId with
      | none => upsertBusinessConnection connection
      | some ownerChatId =>
        if ownerChatSource ≠ .legacyFallback ∧ ownerChatId ≠ storedChatId then
          insertOwnerIdentityAudit updateId "connection_owner_chat_mismatch" occurredAt
        let _ ← promoteOwnerChat ownerUserId ownerChatId .businessConnection
        upsertBusinessConnection connection

/-- The state a trace reports. -/
def traceStateAfter (key : Option ConversationKey) : Uow (Option ConversationState) :=
  read fun db => key.bind fun key => (db.conversation.lookup key).map (·.state)

/-- The dry-run trace of an event, sent to the Owner. -/
def enqueueDryRunTrace (event : PreparedEvent) (facts : LifecycleFacts) : Uow Unit := do
  if !facts.dryRun then pure ()
  else
    match facts.ownerUserId with
    | none => pure ()
    | some ownerUserId =>
      let ownerChatId := facts.ownerChatId.getD ownerUserId
      let key := facts.optionalKey
      let stateAfter ← traceStateAfter key
      let sourceActions ← listOutboxActionsForUpdate event.updateId
      let trace := ProcessingTrace.fromLifecycle event.updateId facts stateAfter
        (sourceActions.map (·.payload))
      let _ ← enqueueOutboxAction
        { sourceUpdateId := event.updateId
          key := key
          payload := .sendOwnerMessage ⟨none, some (.trace trace), none, some ownerChatId, none⟩
          idempotencyKey := s!"{event.updateId}:DRY_RUN_TRACE"
          createdAt := facts.occurredAt }

def applyPreparedAction (updateId : Int) (facts : LifecycleFacts) : PreparedAction → Uow Unit
  | .connectionChanged ownerUserId ownerChatId enabled rights =>
    match facts.connectionId with
    | none => throw (.application "connection ID is missing")
    | some connectionId =>
      applyConnectionChange updateId connectionId ownerUserId ownerChatId enabled rights
        facts.occurredAt
  | .inbound detection outcome dryRunSpam =>
    applyInbound updateId facts detection outcome dryRunSpam
  | .activeInbound | .ignore => pure ()
  | .blockedInbound => applyBlockedInbound updateId facts
  | .blockedFailOpen => applyBlockedFailOpen facts
  | .manualOwner => applyManualOwner facts
  | .botMessage sender => applyBotMessage facts sender
  | .messagesDeleted messageIds => applyDeletions facts messageIds

/-- `LifecycleHandler::apply`. -/
def LifecycleHandler.apply (event : PreparedEvent) : Uow Unit := do
  applyPreparedAction event.updateId event.facts event.facts.action
  enqueueDryRunTrace event event.facts

end ChatHygiene
