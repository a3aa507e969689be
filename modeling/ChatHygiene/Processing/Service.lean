import ChatHygiene.Events.Recorder
import ChatHygiene.Owner
/-!
# The processing engine

The transactions of the one worker that processes updates: connection
triggers with the authoritative lookup between their two transactions, the
startup reconciliation of the trusted connection, Owner starts, commands and
claims. A lookup is awaited outside any transaction, so each of these is a
snapshot, an answer, and a transaction that goes on from both.
-/

namespace ChatHygiene

open Txn (read forEach)

/-! ## Answers of an authoritative lookup -/

def authoritativeCandidate (connection : AuthoritativeBusinessConnection)
    (observedAt : DateTime) : BusinessConnectionCandidate where
  connectionId := connection.connectionId
  businessUserId := connection.businessUserId
  userChatId := connection.userChatId
  rights := connection.rights
  enabled := connection.enabled
  connectionEstablishedAt := connection.connectionEstablishedAt
  stateRevision := 0
  observedAt := observedAt

def AuthoritativeLookupError.isTransient : AuthoritativeLookupError → Bool
  | .transientExhausted => true
  | _ => false

/-- The reconciliation of an answer through the revisions of a snapshot. -/
def reconcileThrough (snapshot : ConnectionReconciliationSnapshot)
    (candidate : BusinessConnectionCandidate) : Uow TrustedConnectionWrite :=
  reconcileAuthoritativeTrustedConnection candidate snapshot.trustedRevision
    snapshot.candidateRevision snapshot.guardRevision

/-- The retirement of a connection that was not found. -/
def retireThrough (snapshot : ConnectionReconciliationSnapshot) (connectionId : String) :
    Uow TrustedConnectionWrite :=
  retireTrustedConnectionNotFound connectionId (snapshot.trustedRevision.getD 0)

inductive TrustedStartupReconciliation where
  | converged
  | pending (transient : Bool)
  | authenticationFailed
  deriving DecidableEq, Repr

/-- The second half of `reconcile_trusted_current_state`, once the lookup of `connectionId` has been
answered. -/
def reconcileTrustedCurrentState (connectionId : String)
    (snapshot : ConnectionReconciliationSnapshot) (answer : LookupAnswer)
    (observedAt : DateTime) : Uow TrustedStartupReconciliation :=
  match answer with
  | .error .connectionNotFound => do
    let outcome ← retireThrough snapshot connectionId
    pure (if outcome = .reconciled then .converged else .pending true)
  | .error .botAuthentication => do
    let _ ← setTelegramAuthFailed observedAt
    pure .authenticationFailed
  | .error error => pure (.pending error.isTransient)
  | .ok authoritative =>
    if authoritative.connectionId ≠ connectionId then pure (.pending false)
    else do
      let outcome ← reconcileThrough snapshot (authoritativeCandidate authoritative observedAt)
      pure (match outcome with
        | .installed | .reconciled | .replaced => .converged
        | .ambiguous | .revisionConflict | .userConflict | .generationConflict => .pending true)

/-! ## Connection triggers -/

/-- How a trigger's transaction ends: committed, or rolled back and tried again later. -/
inductive TriggerApplication where
  | commit
  | retry (transient : Bool)
  deriving DecidableEq, Repr

/-- A retried trigger is rolled back. -/
def rollbackRetry (x : Uow TriggerApplication) : Uow TriggerApplication := fun db =>
  match x db with
  | .ok (.retry transient, _) => .ok (.retry transient, db)
  | result => result

def markConnectionTriggerApplied (updateId : Int) (appliedAt : DateTime) : Uow Unit := do
  let affected ← markApplied updateId appliedAt
  if affected ≠ 1 then
    throw (.invalidStatus "connection trigger changed during application")

def insertConnectionAudit (updateId : Int) (eventKind : String) (occurredAt : DateTime) :
    Uow Unit := do
  let _ ← insertAuditEvent (.bare (some updateId) eventKind none none occurredAt)

/-- What a trigger reads before its lookup: the Owner and the revisions. `none` while the Owner is
pending. -/
def triggerSnapshot (connectionId : String) :
    Uow (Option (OwnerIdentity × ConnectionReconciliationSnapshot)) := do
  match ← loadOwnerLifecycleState with
  | .pending => pure none
  | .ready owner =>
    let snapshot ← connectionReconciliationSnapshot connectionId
    pure (some (owner, snapshot))

/-- Goes on with a trigger only while the Owner is the one its snapshot saw. -/
def withExpectedOwner (expectedOwner : OwnerIdentity) (next : Uow TriggerApplication) :
    Uow TriggerApplication := do
  match ← loadOwnerLifecycleState with
  | .pending => pure (.retry false)
  | .ready currentOwner =>
    if currentOwner ≠ expectedOwner then pure (.retry true) else next

/-- `apply_connection_not_found`. -/
def applyConnectionNotFound (updateId : Int) (connectionId : String)
    (expectedOwner : OwnerIdentity) (snapshot : ConnectionReconciliationSnapshot)
    (now : DateTime) : Uow TriggerApplication :=
  rollbackRetry <| withExpectedOwner expectedOwner do
    match ← retireThrough snapshot connectionId with
    | .reconciled =>
      markConnectionTriggerApplied updateId now
      pure .commit
    | .revisionConflict => pure (.retry true)
    | .userConflict | .generationConflict => pure (.retry false)
    | .installed | .replaced | .ambiguous =>
      throw (.invalidEvent "unexpected connection-not-found outcome")

/-- `CANDIDATE_LIMIT`, the capacity the worker prunes to. -/
def candidateLimit : Nat := 256

def applyUnclaimedConnectionTrigger (candidate : BusinessConnectionCandidate)
    (snapshot : ConnectionReconciliationSnapshot) (updateId : Int)
    (occurredAt serviceNow : DateTime) : Uow TriggerApplication := do
  match ← applyAuthoritativeCandidate candidate snapshot.candidateRevision with
  | .revisionConflict => pure (.retry true)
  | outcome =>
    if outcome = .userConflict ∨ outcome = .generationConflict then
      insertConnectionAudit updateId "connection_candidate_conflict" occurredAt
    let _ ← pruneConnectionCandidates (serviceNow - candidateRetention) candidateLimit
    pure .commit

/-- A legacy delivery chat is replaced by the one Telegram reports. -/
def promoteReportedChat (authoritative : AuthoritativeBusinessConnection) (ownerUserId : Int)
    (ownerChatSource : OwnerChatSource) : Uow Unit :=
  match authoritative.userChatId with
  | some ownerChatId =>
    if ownerChatSource = .legacyFallback then do
      let _ ← promoteOwnerChat ownerUserId ownerChatId .businessConnection
    else pure ()
  | none => pure ()

def applyClaimedConnectionTrigger (authoritative : AuthoritativeBusinessConnection)
    (candidate : BusinessConnectionCandidate) (snapshot : ConnectionReconciliationSnapshot)
    (ownerUserId : Int) (ownerChatSource : OwnerChatSource) (updateId : Int)
    (occurredAt : DateTime) : Uow TriggerApplication := do
  let matchingTrusted : Bool := snapshot.trustedConnectionId = some candidate.connectionId
  if authoritative.businessUserId = ownerUserId then
    match ← reconcileThrough snapshot candidate with
    | .revisionConflict => pure (.retry true)
    | .userConflict | .generationConflict =>
      if matchingTrusted then pure (.retry false)
      else
        insertConnectionAudit updateId "connection_generation_rejected" occurredAt
        pure .commit
    | .installed | .reconciled | .replaced | .ambiguous =>
      promoteReportedChat authoritative ownerUserId ownerChatSource
      pure .commit
  else if matchingTrusted then pure (.retry false)
  else
    insertConnectionAudit updateId "connection_owner_mismatch" occurredAt
    pure .commit

/-- `apply_authoritative_connection_trigger`. -/
def applyAuthoritativeConnectionTrigger (updateId : Int) (occurredAt : DateTime)
    (expectedOwner : OwnerIdentity) (snapshot : ConnectionReconciliationSnapshot)
    (authoritative : AuthoritativeBusinessConnection) (serviceNow : DateTime) :
    Uow TriggerApplication :=
  rollbackRetry <| withExpectedOwner expectedOwner do
    let candidate := authoritativeCandidate authoritative serviceNow
    let application ← match expectedOwner with
      | .unclaimed =>
        applyUnclaimedConnectionTrigger candidate snapshot updateId occurredAt serviceNow
      | .claimed ownerUserId _ ownerChatSource _ _ =>
        applyClaimedConnectionTrigger authoritative candidate snapshot ownerUserId ownerChatSource
          updateId occurredAt
    match application with
    | .retry transient => pure (.retry transient)
    | .commit =>
      markConnectionTriggerApplied updateId serviceNow
      pure .commit

/-- What `reconcile_connection_trigger` does with the answer to its lookup. -/
def reconcileConnectionTrigger (updateId : Int) (connectionId : String) (occurredAt : DateTime)
    (owner : OwnerIdentity) (snapshot : ConnectionReconciliationSnapshot) (answer : LookupAnswer)
    (now : DateTime) : Uow TriggerApplication :=
  match answer with
  | .ok authoritative =>
    applyAuthoritativeConnectionTrigger updateId occurredAt owner snapshot authoritative now
  | .error .connectionNotFound =>
    applyConnectionNotFound updateId connectionId owner snapshot now
  | .error .botAuthentication => do
    let _ ← setTelegramAuthFailed now
    pure (.retry false)
  | .error error => pure (.retry error.isTransient)

/-- Opens the global gate once no trigger is left to reconcile. -/
def publishReadyIfDrained (startupPending : Option String) (now : DateTime) : Uow Unit := do
  if startupPending.isSome then pure ()
  else
    let global ← loadTelegramReconciliationState
    if global.state ≠ .pending then pure ()
    else
      let remaining ← read fun db => db.processedUpdate.rows.countP fun u =>
        u.status = .recorded && u.eventType = .businessConnectionChanged
      if remaining ≠ 0 then pure ()
      else
        let _ ← transitionTelegramReconciliationReady global.stateRevision now

/-! ## Business events -/

/-- A Business event that arrives before the Owner is claimed is stripped of everything but its
update id and instant. -/
def makePreclaimBusinessEventInert (raw : RawBusinessEvent) : Uow RawBusinessEvent := do
  if !raw.isBusinessMessage then pure raw
  else
    match ← loadOwnerLifecycleState with
    | .ready .unclaimed =>
      pure
        { kind := .ignored
          connectionId := none
          chatId := none
          messageId := none
          mediaGroupId := none
          content := none
          deletedMessageIds := []
          connection := none
          contactDisplayName := none
          contactUsername := none
          occurredAt := raw.occurredAt }
    | _ => pure raw

/-- The reading transaction of `process`. -/
def prepareUpdate (preparer : EventPreparer) (updateId : Int) (raw : RawBusinessEvent) :
    Uow PreparedEvent := do
  let raw ← makePreclaimBusinessEventInert raw
  preparer.prepare updateId raw

/-- What the Owner is told of someone who writes for the first time. -/
structure NewContactNotice where
  ownerUserId : Int
  ownerChatId : Int
  contactChatId : Int
  username : Option String
  deriving DecidableEq, Repr

def firstContactNotice (raw : RawBusinessEvent) : Uow (Option NewContactNotice) :=
  match raw.kind, raw.connectionId, raw.chatId with
  | .inboundMessage, some connectionId, some contactChatId => do
    match ← findBusinessConnection connectionId with
    | none => pure none
    | some connection =>
      match ← ownerChatForUser connection.ownerUserId with
      | none => pure none
      | some ownerChatId =>
        match ← findConversation ⟨connectionId, contactChatId⟩ with
        | some _ => pure none
        | none =>
          pure (some ⟨connection.ownerUserId, ownerChatId, contactChatId, raw.contactUsername⟩)
  | _, _, _ => pure none

/-- The notice the reading transaction of `process` finds. It is kept in memory and never stored. -/
def noticeOfUpdate (raw : RawBusinessEvent) : Uow (Option NewContactNotice) := do
  let raw ← makePreclaimBusinessEventInert raw
  firstContactNotice raw

/-! ## Owner updates -/

def receiptForStatus : UpdateStatus → Uow RecordReceipt
  | .recorded => pure .duplicateRecorded
  | .applied => pure .duplicateApplied
  | .failed => throw (.invalidStatus "FAILED")

/-- Goes on with an Owner update unless it has a receipt already. -/
def withoutReceipt (updateId : Int) (next : Uow RecordReceipt) : Uow RecordReceipt := do
  let status : Option UpdateStatus ←
    read fun db => (db.processedUpdate.lookup updateId).map (·.status)
  match status with
  | some status => receiptForStatus status
  | none => next

/-- The redacted row of an Owner update, applied as it is inserted. -/
def insertRedactedUpdate (updateId : Int) (eventType : EventType) (occurredAt : DateTime) :
    Uow Unit :=
  Uow.insertUpdate
    { updateId := updateId
      eventType := eventType
      event := none
      status := .applied
      receivedAt := occurredAt
      appliedAt := some occurredAt }

def insertOwnerClaimAudit (updateId : Int) (success : Bool) (occurredAt : DateTime) :
    Uow Unit := do
  let _ ← insertAuditEvent
    (if success then .bare (some updateId) "OWNER_CLAIMED" none none occurredAt
      else .bare (some updateId) "SECURITY" (some "OWNER_CLAIM_REJECTED")
        (some "owner claim rejected") occurredAt)

def enqueueDirectOwnerMessage (updateId ownerChatId : Int) (message : OwnerText)
    (occurredAt : DateTime) (suffix : String) : Uow Unit := do
  let _ ← enqueueOutboxAction
    { sourceUpdateId := updateId
      key := none
      payload := .sendOwnerMessage ⟨none, some message, none, some ownerChatId, none⟩
      idempotencyKey := s!"{updateId}:{suffix}"
      createdAt := occurredAt }

def enqueuePrivateMessage (updateId chatId : Int) (messageKind : PrivateMessageKind)
    (occurredAt : DateTime) : Uow Unit := do
  let _ ← enqueueOutboxAction
    { sourceUpdateId := updateId
      key := none
      payload := .sendPrivateMessage chatId messageKind
      idempotencyKey := s!"{updateId}:{messageKind.asStr}"
      createdAt := occurredAt }

structure OwnerCommandSnapshot where
  fromUserId : Option Int
  chatId : Option Int
  messageId : Option Int
  privateChat : Bool
  /-- The command the text parses to. -/
  command : Except OwnerCommandParseError OwnerCommand
  repliedSample : Option LabeledMessageBody

def OwnerCommandSnapshot.source (snapshot : OwnerCommandSnapshot) : OwnerCommandSource where
  fromUserId := snapshot.fromUserId.getD 0
  chatId := snapshot.chatId.getD 0
  privateChat := snapshot.privateChat
  repliedSample := snapshot.repliedSample

/-- The deletions a command asks for, in batches. -/
def enqueueOwnerTelegramActions (updateId : Int) (actions : List OwnerTelegramAction)
    (occurredAt : DateTime) : Uow Unit :=
  forEach (fun
    | .deleteBusinessMessages key messageIds => enqueueDelete updateId key messageIds occurredAt)
    actions

/-- The result of a command as the reply to it and what it enqueues. -/
def CommandResult.execution : CommandResult → OwnerCommandExecution
  | .ok execution => execution
  | .error error => .plain (.plain s!"error={error.message}")

def executeCommand (snapshot : OwnerCommandSnapshot) (owner : AuthorizedOwner)
    (occurredAt : DateTime) (defaultDestructiveMode : Bool) : Uow OwnerCommandExecution :=
  match snapshot.command with
  | .error error => pure (.plain (.plain s!"error={error.message}"))
  | .ok command => do
    let result ←
      executeAuthorized command snapshot.source owner occurredAt defaultDestructiveMode
    pure result.execution

def enqueueOwnerCommandTrace (updateId ownerChatId : Int) (ownerMessageId : Option Int)
    (occurredAt : DateTime) : Uow Unit := do
  let sourceActions ← listOutboxActionsForUpdate updateId
  let trace := ProcessingTrace.ownerCommand updateId ownerChatId ownerMessageId
    (sourceActions.map (·.payload))
  enqueueDirectOwnerMessage updateId ownerChatId (.trace trace) occurredAt "DRY_RUN_TRACE"

/-- `process_owner_command`. -/
def processOwnerCommand (updateId : Int) (snapshot : OwnerCommandSnapshot)
    (occurredAt : DateTime) (defaultDestructiveMode : Bool) : Uow RecordReceipt :=
  withoutReceipt updateId do
    let destructiveMode ← runtimeDestructiveMode defaultDestructiveMode
    insertRedactedUpdate updateId .ownerCommand occurredAt
    match ← authorize snapshot.source occurredAt with
    | none => pure .recorded
    | some owner =>
      let execution ← executeCommand snapshot owner occurredAt defaultDestructiveMode
      enqueueOwnerTelegramActions updateId execution.telegramActions occurredAt
      enqueueDirectOwnerMessage updateId owner.ownerChatId execution.response occurredAt
        "OWNER_COMMAND_REPLY"
      if !destructiveMode then
        enqueueOwnerCommandTrace updateId owner.ownerChatId snapshot.messageId occurredAt
      pure .recorded

/-- The sender of a start is the claimed Owner, in the chat on record. -/
def isOwnerStart (fromUserId chatId : Int) : OwnerIdentity → Bool
  | .claimed ownerUserId ownerChatId ownerChatSource _ _ =>
    ownerUserId = fromUserId && (ownerChatSource = .legacyFallback || ownerChatId = chatId)
  | .unclaimed => false

/-- `process_owner_start`: the Owner's start is a `/help`; another sender gets the setup guide while
the installation is unclaimed, which is when the service can set up a claim. -/
def processOwnerStart (updateId : Int) (snapshot : OwnerCommandSnapshot)
    (occurredAt : DateTime) (defaultDestructiveMode : Bool) : Uow RecordReceipt := do
  let fromUserId ← match snapshot.fromUserId.filter (0 < ·) with
    | some fromUserId => pure fromUserId
    | none => throw (.invalidEvent "owner Start user is invalid")
  let chatId ← match snapshot.chatId.filter (0 < ·) with
    | some chatId => pure chatId
    | none => throw (.invalidEvent "owner Start chat is invalid")
  if !snapshot.privateChat then throw (.invalidEvent "owner Start shape is invalid")
  withoutReceipt updateId do
    let owner ← loadOwnerIdentity
    if isOwnerStart fromUserId chatId owner then
      processOwnerCommand updateId { snapshot with command := .ok .help } occurredAt
        defaultDestructiveMode
    else
      insertRedactedUpdate updateId .ownerStart occurredAt
      if owner = .unclaimed then
        enqueuePrivateMessage updateId chatId .ownerSetupGuide occurredAt
      pure .recorded

/-! ## Claims -/

structure OwnerClaimSnapshot where
  owner : OwnerIdentity
  global : TelegramReconciliationState
  guard : CandidateGuard
  candidates : List BusinessConnectionCandidate
  deriving DecidableEq, Repr

structure ValidOwnerClaim where
  fromUserId : Int
  ownerChatId : Int
  messageDate : Int
  occurredAt : DateTime
  deriving DecidableEq, Repr

/-- A rejected claim is audited and, when it has a chat to reply to, answered. -/
def recordOwnerClaimRejection (updateId : Int) (replyChatId : Option Int)
    (occurredAt : DateTime) : Uow RecordReceipt :=
  withoutReceipt updateId do
    insertRedactedUpdate updateId .ownerClaim occurredAt
    insertOwnerClaimAudit updateId false occurredAt
    match replyChatId with
    | some chatId => enqueuePrivateMessage updateId chatId .ownerClaimRejected occurredAt
    | none => pure ()
    pure .recorded

def snapshotOwnerClaim (claimantUserId : Int) (serviceNow : DateTime) :
    Uow OwnerClaimSnapshot := do
  let owner ← loadOwnerIdentity
  let global ← loadTelegramReconciliationState
  let guard ← loadCandidateGuard
  let candidates ← candidatesForUser claimantUserId
  pure ⟨owner, global, guard,
    candidates.filter fun c => serviceNow - candidateRetention ≤ c.observedAt⟩

/-- The candidate whose current state is looked up before a claim, if it is the only one. -/
def OwnerClaimSnapshot.lookupTarget (snapshot : OwnerClaimSnapshot) : Option String :=
  match snapshot.candidates with
  | [candidate] =>
    if snapshot.global.state = .ready ∧ snapshot.guard.overflowEstablishedAt = none then
      some candidate.connectionId
    else none
  | _ => none

def claimGenerationFloor (messageDate : Int) (snapshot : OwnerClaimSnapshot)
    (guard : CandidateGuard) (candidates : List BusinessConnectionCandidate) : Int :=
  ((snapshot.candidates ++ candidates).map (·.connectionEstablishedAt) ++
    snapshot.guard.overflowEstablishedAt.toList ++
    guard.overflowEstablishedAt.toList).foldl max messageDate

def tryPromoteClaimCandidate (snapshot : OwnerClaimSnapshot)
    (global : TelegramReconciliationState) (guard : CandidateGuard)
    (candidates : List BusinessConnectionCandidate)
    (authoritative : Option AuthoritativeBusinessConnection) (serviceNow : DateTime) :
    Uow Bool :=
  match snapshot.candidates, candidates, authoritative with
  | [snapshotCandidate], [candidate], some authoritative =>
    if snapshot.global.state ≠ .ready ∨ global.state ≠ .ready ∨
        snapshot.global.stateRevision ≠ global.stateRevision ∨ snapshot.guard ≠ guard ∨
        guard.overflowEstablishedAt.isSome ∨
        snapshotCandidate.connectionId ≠ candidate.connectionId ∨
        snapshotCandidate.stateRevision ≠ candidate.stateRevision ∨ !authoritative.enabled ∨
        authoritative.connectionId ≠ candidate.connectionId ∨
        authoritative.businessUserId ≠ candidate.businessUserId ∨
        authoritative.connectionEstablishedAt ≠ candidate.connectionEstablishedAt then
      pure false
    else do
      let outcome ← promoteClaimCandidate (authoritativeCandidate authoritative serviceNow)
        candidate.stateRevision guard.stateRevision
      pure (outcome = .installed)
  | _, _, _ => pure false

def claimConnectionState : Option AuthoritativeBusinessConnection → String
  | none => "missing"
  | some authoritative =>
    if authoritative.rights.complete then "enabled" else "rights_incomplete"

/-- What becomes of the candidates once the Owner is bound, and how the reply describes it. -/
def settleClaimCandidates (promoted : Bool) (guard : CandidateGuard)
    (candidates : List BusinessConnectionCandidate)
    (authoritative : Option AuthoritativeBusinessConnection) (fromUserId : Int) :
    Uow String := do
  if promoted then
    let _ ← clearConnectionCandidates
    pure (claimConnectionState authoritative)
  else if guard.overflowEstablishedAt = none ∧ 2 ≤ candidates.length then
    let _ ← deleteConnectionCandidatesForOtherUsers fromUserId
    pure "ambiguous"
  else
    let _ ← clearConnectionCandidates
    pure "missing"

/-- `commit_owner_claim`. `answer` is the lookup of the snapshot's candidate, if there was one. -/
def commitOwnerClaim (updateId : Int) (claim : ValidOwnerClaim) (snapshot : OwnerClaimSnapshot)
    (answer : Option LookupAnswer) (serviceNow : DateTime) : Uow RecordReceipt :=
  withoutReceipt updateId do
    match ← loadOwnerIdentity with
    | .claimed .. =>
      insertRedactedUpdate updateId .ownerClaim claim.occurredAt
      insertOwnerClaimAudit updateId false claim.occurredAt
      enqueuePrivateMessage updateId claim.ownerChatId .ownerClaimRejected claim.occurredAt
      pure .recorded
    | .unclaimed =>
      let authoritative := answer.bind Except.toOption
      let global ← loadTelegramReconciliationState
      let guardBeforePrune ← loadCandidateGuard
      let candidatesBeforePrune ← candidatesForUser claim.fromUserId
      let floor := claimGenerationFloor claim.messageDate snapshot guardBeforePrune
        candidatesBeforePrune
      let _ ← pruneConnectionCandidates (serviceNow - candidateRetention) candidateLimit
      let guard ← loadCandidateGuard
      let candidates ← candidatesForUser claim.fromUserId
      let _ ← claimOwner claim.fromUserId claim.ownerChatId floor serviceNow
      match answer with
      | some (.error .botAuthentication) =>
        let _ ← setTelegramAuthFailed serviceNow
      | _ => pure ()
      let promoted ← tryPromoteClaimCandidate snapshot global guard candidates authoritative
        serviceNow
      let connectionState ←
        settleClaimCandidates promoted guard candidates authoritative claim.fromUserId
      insertRedactedUpdate updateId .ownerClaim claim.occurredAt
      insertOwnerClaimAudit updateId true claim.occurredAt
      enqueueDirectOwnerMessage updateId claim.ownerChatId
        (.plain s!"claim succeeded connection={connectionState}") claim.occurredAt
        "OWNER_CLAIM_CONFIRMATION"
      pure .recorded

end ChatHygiene
