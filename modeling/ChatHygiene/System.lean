import ChatHygiene.Lib.Machine
import ChatHygiene.Processing.Service
import ChatHygiene.Retention
import ChatHygiene.Telegram.Outbox
import ChatHygiene.Verification
/-!
# The running service

The service is one worker that processes updates, one dispatcher that empties
the outbox, and the database they share through one connection. A step is a
transaction of one of them, or what happens between two transactions: a lookup
or a request is answered, a transaction fails, the process crashes or starts
again. Any two transactions of one procedure can be separated by steps of the
other party, and the process can crash at every point.

The worker's and the dispatcher's phases hold what a procedure carries from
one transaction to the next. Two of their fields, and `World.preparedIn`, are
history: the database an action was claimed in and the database an event was
prepared in. No step reads them.
-/

namespace ChatHygiene

open Txn (commit)

/-- What the worker is about to do. The phases up to `recovered` are `prepare_runtime`. -/
inductive WorkerPhase where
  | down
  | normalized
  | ownerReady
  | startupLookup (connectionId : String) (snapshot : ConnectionReconciliationSnapshot)
  | recovering (remaining : List ProcessedUpdate)
  | recovered
  | idle
  | prepared (event : PreparedEvent) (preparedIn : Database)
  | recorded (updateId : Int)
  | triggered (updateId : Int) (connectionId : String) (occurredAt : DateTime)
  | triggerLookup (updateId : Int) (connectionId : String) (occurredAt : DateTime)
      (owner : OwnerIdentity) (snapshot : ConnectionReconciliationSnapshot)
  | startupRetry (connectionId : String) (snapshot : ConnectionReconciliationSnapshot)
  | claimLookup (updateId : Int) (claim : ValidOwnerClaim) (snapshot : OwnerClaimSnapshot)

/-- The workers have been started. -/
def WorkerPhase.serving : WorkerPhase → Bool
  | .down | .normalized | .ownerReady | .startupLookup .. | .recovering _ | .recovered => false
  | _ => true

/-- A dispatch: the claimed action, the instant of the dispatch, and the database after the
claim. -/
structure Dispatch where
  action : OutboxActionRecord
  now : DateTime
  claimedIn : Database

inductive DispatcherPhase where
  | idle
  | claimed (dispatch : Dispatch)
  | loading (dispatch : Dispatch)
  | calling (dispatch : Dispatch) (call : Call)
  | finishing (dispatch : Dispatch) (finish : Finish)

structure World where
  db : Database
  /-- The configured default of the destructive mode. -/
  settings : Bool
  worker : WorkerPhase
  startupPending : Option String
  dispatcher : DispatcherPhase
  /-- The database in which the facts recorded under an update id were prepared. -/
  preparedIn : Int → Option Database

/-! ## Inputs -/

/-- A step of the worker. -/
inductive WorkerOp where
  /-- `normalize_startup_reconciliation`, with the settings of this start. -/
  | boot (settings : Bool) (now : DateTime)
  | initializeOwner (now : DateTime)
  /-- The snapshot before the startup lookup, or no lookup without a trusted connection. -/
  | startupSnapshot
  | startupAnswer (answer : LookupAnswer) (now : DateTime)
  /-- One event of `recover_recorded_events`. -/
  | recoverNext (now : DateTime)
  | serve (signer : ChallengeSigner)
  | prepare (updateId : Int) (raw : RawBusinessEvent) (preparer : EventPreparer)
  | record
  | apply (now : DateTime)
  /-- The transaction the worker is in is rolled back by a storage failure. -/
  | storageFailure
  | triggerSnapshot
  | triggerAnswer (answer : LookupAnswer) (now : DateTime)
  /-- A recorded trigger is tried again. -/
  | retryTrigger (updateId : Int)
  | startupRetrySnapshot
  | startupRetryAnswer (answer : LookupAnswer) (now : DateTime)
  | publishReady (now : DateTime)
  | ownerCommand (updateId : Int) (snapshot : OwnerCommandSnapshot) (occurredAt : DateTime)
  | ownerStart (updateId : Int) (snapshot : OwnerCommandSnapshot) (occurredAt : DateTime)
  | ownerClaimRejected (updateId : Int) (replyChatId : Option Int) (occurredAt : DateTime)
  | ownerClaim (updateId : Int) (claim : ValidOwnerClaim) (tokenMatches : Bool) (now : DateTime)
  | claimAnswer (answer : Option LookupAnswer) (now : DateTime)
  | expire (now : DateTime)
  | purge (now : DateTime)

/-- A step of the dispatcher. -/
inductive DispatcherOp where
  | claim (now : DateTime)
  | check
  | load
  | respond (response : TelegramResponse)
  | finish
  | storageFailure

inductive Op where
  | worker (op : WorkerOp)
  | dispatcher (op : DispatcherOp)
  | crash

/-! ## Steps of the worker -/

namespace World

/-- The transaction commits or is rolled back, and the worker goes on from its result. -/
def commitWorker {α : Type} (w : World) (x : Uow α) (next : Except Error α → WorkerPhase) :
    World :=
  { w with db := (commit x w.db).1, worker := next (commit x w.db).2 }

/-- The same for a transaction whose result does not matter. -/
def commitIdle {α : Type} (w : World) (x : Uow α) : World :=
  w.commitWorker x fun _ => .idle

/-- A startup transaction that fails ends the process. -/
def orDown {α : Type} (next : α → WorkerPhase) : Except Error α → WorkerPhase
  | .ok a => next a
  | .error _ => .down

/-- A transaction that fails leaves the worker idle. -/
def orIdle {α : Type} (next : α → WorkerPhase) : Except Error α → WorkerPhase
  | .ok a => next a
  | .error _ => .idle

/-- The snapshot before the startup lookup, if there is a trusted connection to look up. -/
def startupTarget : Uow (Option (String × ConnectionReconciliationSnapshot)) := do
  match ← loadSingleTrustedConnection with
  | none => pure none
  | some trusted =>
    let snapshot ← connectionReconciliationSnapshot trusted.connectionId
    pure (some (trusted.connectionId, snapshot))

/-- Where startup goes after its lookup. -/
def afterStartupLookup (w : World) (connectionId : String)
    (result : Except Error TrustedStartupReconciliation) : World :=
  match result with
  | .ok .converged =>
    { w with worker := .recovering (recordedUpdates w.db), startupPending := none }
  | .ok (.pending _) =>
    { w with worker := .recovering (recordedUpdates w.db), startupPending := some connectionId }
  | .ok .authenticationFailed | .error _ => { w with worker := .down }

/-- The worker goes on with a recorded event: a trigger is reconciled, any other is applied. -/
def afterRecord (w : World) (event : PreparedEvent) (preparedIn : Database)
    (result : Except Error RecordReceipt) : World :=
  match result with
  | .error _ | .ok .duplicateApplied => { w with worker := .idle }
  | .ok receipt =>
    { w with
      worker :=
        if event.eventType = .businessConnectionChanged then
          match event.facts.connectionId with
          | some connectionId => .triggered event.updateId connectionId event.occurredAt
          | none => .idle
        else .recorded event.updateId
      preparedIn :=
        if receipt = .recorded then Function.update w.preparedIn event.updateId (some preparedIn)
        else w.preparedIn }

/-- The recorded trigger with an update id. -/
def recordedTrigger (w : World) (updateId : Int) : Option (String × DateTime) := do
  let row ← w.db.processedUpdate.lookup updateId
  let event ← row.event
  let connectionId ← event.facts.connectionId
  if row.status = .recorded ∧ row.isTrigger then some (connectionId, event.occurredAt) else none

def stepWorker (w : World) (op : WorkerOp) : Option World :=
  match w.worker, op with
  | .down, .boot settings now =>
    some { w.commitWorker (normalizeStartupReconciliation now) (orDown fun _ => .normalized) with
      settings := settings
      startupPending := none }
  | .normalized, .initializeOwner now =>
    some (w.commitWorker (initializeOrLoadOwnerIdentity now) (orDown fun _ => .ownerReady))
  | .ownerReady, .startupSnapshot =>
    some (w.commitWorker startupTarget (orDown fun target =>
      match target with
      | some (connectionId, snapshot) => .startupLookup connectionId snapshot
      | none => .recovering (recordedUpdates w.db)))
  | .startupLookup connectionId snapshot, .startupAnswer answer now =>
    if answer.validFor connectionId then
      let x := reconcileTrustedCurrentState connectionId snapshot answer now
      some (({ w with db := (commit x w.db).1 } : World).afterStartupLookup connectionId
        (commit x w.db).2)
    else none
  | .recovering (u :: us), .recoverNext now =>
    if u.isTrigger then some { w with worker := .recovering us }
    else
      some (w.commitWorker (applyRecordedEvent u.updateId now) (orDown fun _ => .recovering us))
  | .recovering [], .recoverNext _ => some { w with worker := .recovered }
  | .recovered, .serve signer =>
    some (w.commitWorker (upgradeActiveChallengeHmacs signer) (orDown fun _ => .idle))
  | .idle, .prepare updateId raw preparer =>
    if raw.WellFormed then
      match prepareUpdate { preparer with destructiveMode := w.settings } updateId raw w.db with
      | .ok (event, _) => some { w with worker := .prepared event w.db }
      | .error _ => some w
    else none
  | .prepared event preparedIn, .record =>
    let x := recordPreparedEvent event
    some (({ w with db := (commit x w.db).1 } : World).afterRecord event preparedIn
      (commit x w.db).2)
  | .recorded updateId, .apply now => some (w.commitIdle (applyRecordedEvent updateId now))
  | .triggered updateId connectionId occurredAt, .triggerSnapshot =>
    some (w.commitWorker (triggerSnapshot connectionId) (orIdle fun target =>
      match target with
      | some (owner, snapshot) =>
        .triggerLookup updateId connectionId occurredAt owner snapshot
      | none => .idle))
  | .triggerLookup updateId connectionId occurredAt owner snapshot, .triggerAnswer answer now =>
    if answer.validFor connectionId then
      some (w.commitIdle
        (reconcileConnectionTrigger updateId connectionId occurredAt owner snapshot answer now))
    else none
  | .idle, .retryTrigger updateId =>
    (w.recordedTrigger updateId).map fun (connectionId, occurredAt) =>
      { w with worker := .triggered updateId connectionId occurredAt }
  | .idle, .startupRetrySnapshot =>
    w.startupPending.map fun connectionId =>
      w.commitWorker (connectionReconciliationSnapshot connectionId) (orIdle fun snapshot =>
        .startupRetry connectionId snapshot)
  | .startupRetry connectionId snapshot, .startupRetryAnswer answer now =>
    if answer.validFor connectionId then
      let x := reconcileTrustedCurrentState connectionId snapshot answer now
      let pending := match (commit x w.db).2 with
        | .ok .converged => none
        | _ => w.startupPending
      some { w.commitIdle x with startupPending := pending }
    else none
  | .idle, .publishReady now => some (w.commitIdle (publishReadyIfDrained w.startupPending now))
  | .idle, .ownerCommand updateId snapshot occurredAt =>
    some (w.commitIdle (processOwnerCommand updateId snapshot occurredAt w.settings))
  | .idle, .ownerStart updateId snapshot occurredAt =>
    some (w.commitIdle (processOwnerStart updateId snapshot occurredAt w.settings))
  | .idle, .ownerClaimRejected updateId replyChatId occurredAt =>
    some (w.commitIdle (recordOwnerClaimRejection updateId replyChatId occurredAt))
  | .idle, .ownerClaim updateId claim tokenMatches now =>
    match snapshotOwnerClaim claim.fromUserId now w.db with
    | .error _ => some w
    | .ok (snapshot, _) =>
      if snapshot.owner ≠ .unclaimed ∨ !tokenMatches then
        some (w.commitIdle
          (recordOwnerClaimRejection updateId (some claim.ownerChatId) claim.occurredAt))
      else some { w with worker := .claimLookup updateId claim snapshot }
  | .claimLookup updateId claim snapshot, .claimAnswer answer now =>
    let answered : Bool :=
      match snapshot.lookupTarget, answer with
      | some connectionId, some answer => answer.validFor connectionId
      | none, none => true
      | _, _ => false
    if answered then some (w.commitIdle (commitOwnerClaim updateId claim snapshot answer now))
    else none
  | .idle, .expire now => some (w.commitIdle (expireDueState now))
  | .idle, .purge now => some (w.commitIdle (purgeHistory now))
  | phase, .storageFailure =>
    if phase.serving then some { w with worker := .idle } else some { w with worker := .down }
  | _, _ => none

/-! ## Steps of the dispatcher -/

/-- The dispatcher goes on from the result of a check. -/
def advance (dispatch : Dispatch) : Except Error Progress → DispatcherPhase
  | .ok .loadChallenge => .loading dispatch
  | .ok (.call call) => .calling dispatch call
  | .ok (.finish finish) => .finishing dispatch finish
  | .error _ => .idle

def commitDispatcher {α : Type} (w : World) (x : Uow α)
    (next : Except Error α → DispatcherPhase) : World :=
  { w with db := (commit x w.db).1, dispatcher := next (commit x w.db).2 }

/-- The phase after a claim: a dispatch of the claimed action, or none. -/
def afterClaim (now : DateTime) (claimedIn : Database) :
    Except Error (Option OutboxActionRecord) → DispatcherPhase
  | .ok (some action) => .claimed ⟨action, now, claimedIn⟩
  | _ => .idle

def stepDispatcher (w : World) (op : DispatcherOp) : Option World :=
  match w.dispatcher, op with
  | .idle, .claim now =>
    let x := claimDueOutboxAction now
    some (w.commitDispatcher x (afterClaim now (commit x w.db).1))
  | .claimed dispatch, .check =>
    some (w.commitDispatcher (executeCheck dispatch.action) (advance dispatch))
  | .loading dispatch, .load =>
    some (w.commitDispatcher (executeChallenge dispatch.action) (advance dispatch))
  | .calling dispatch call, .respond response =>
    let finish := finishOfResponse dispatch.action call response dispatch.now
    some { w with dispatcher := .finishing dispatch finish }
  | .finishing dispatch finish, .finish =>
    some (w.commitDispatcher (finishDispatch dispatch.action dispatch.now finish) fun _ => .idle)
  | _, .storageFailure => some { w with dispatcher := .idle }
  | _, _ => none

/-- The process stops: what is not in the database is gone. -/
def crash (w : World) : World :=
  { w with worker := .down, startupPending := none, dispatcher := .idle }

def step (w : World) : Op → Option World
  | .worker op => w.stepWorker op
  | .dispatcher op => if w.worker.serving then w.stepDispatcher op else none
  | .crash => some w.crash

end World

/-! ## The machine -/

/-- The tables of a migrated, empty database. -/
def Tables.migrated (now : DateTime) : Tables where
  businessConnection := .empty
  conversation := .empty
  messageLedger := .empty
  challenge := .empty
  challengeSeq := 0
  processedUpdate := .empty
  outboxAction := .empty
  outboxSeq := 0
  auditEvent := .empty
  auditSeq := 0
  destructiveMode := none
  ownerIdentity := .pending
  candidate := .empty
  guard := ⟨none, 0⟩
  reconciliation := ⟨.ready, 0, now⟩

theorem Tables.migrated_consistent (now : DateTime) : (Tables.migrated now).Consistent where
  conversations := by constructor <;> simp [Tables.migrated, Table.empty]
  updates := by constructor <;> simp [Tables.migrated, Table.empty]

def Database.migrated (now : DateTime) : Database :=
  ⟨Tables.migrated now, Tables.migrated_consistent now⟩

/-- The service before its first start. -/
def World.initial (now : DateTime) : World where
  db := .migrated now
  settings := false
  worker := .down
  startupPending := none
  dispatcher := .idle
  preparedIn _ := none

/-- The service as a machine. -/
def service : Machine World Op where
  init w := ∃ now, w = World.initial now
  step := World.step

/-! ## Sample inputs

A service with one Owner, who claims it and connects it. Concrete runs are put together from
these. -/

namespace Sample

def rights : BusinessRights := ⟨true, true, true, true⟩

def verifier (verdict : AnswerKind) : ChallengeVerifier where
  keyVersion := currentKeyVersion
  generate now := ⟨"1 + 1 + 1", "hmac", currentKeyVersion, now, now + DateTime.seconds 120, 3, rfl⟩
  evaluate _ _ := verdict

/-- The preparer at an instant, with the decision of the detector and the verdict on an answer. -/
def preparer (decision : Decision) (verdict : AnswerKind) (now : DateTime) : EventPreparer where
  detection := .ok ⟨decision, 0, [], [], "rules", "1", "hash", by decide⟩
  verifier := verifier verdict
  now := now
  blockNow := now
  destructiveMode := false

def signer : ChallengeSigner := ⟨currentKeyVersion, fun _ => some "hmac"⟩

def raw (kind : RawEventKind) (connectionId : String) (chatId messageId : Option Int)
    (text : Option String) (occurredAt : DateTime) : RawBusinessEvent where
  kind := kind
  connectionId := some connectionId
  chatId := chatId
  messageId := messageId
  mediaGroupId := none
  content := some ⟨text⟩
  deletedMessageIds := []
  connection := none
  contactDisplayName := none
  contactUsername := none
  occurredAt := occurredAt

/-- The service starts, without a trusted connection to look up. -/
def start (settings : Bool) : List Op :=
  [.worker (.boot settings 0), .worker (.initializeOwner 0), .worker .startupSnapshot,
    .worker (.recoverNext 0), .worker (.serve signer), .worker (.publishReady 0)]

/-- The Owner claims the service. -/
def claim : List Op :=
  [.worker (.ownerClaim 1 ⟨7, 7, 100, 1⟩ true 1), .worker (.claimAnswer none 1)]

/-- What Telegram finds of the Owner's connection. -/
def found (connectionId : String) (establishedAt : Int) : LookupAnswer :=
  .ok ⟨connectionId, 7, some 7, establishedAt, rights, true⟩

/-- An update says that a connection has changed, and a lookup says how. -/
def trigger (updateId : Int) (connectionId : String) (answer : LookupAnswer) (now : DateTime) :
    List Op :=
  [.worker (.prepare updateId
      (raw .businessConnectionChanged connectionId none none none now)
      (preparer .allow .correct now)),
    .worker .record, .worker .triggerSnapshot, .worker (.triggerAnswer answer now)]

/-- The service is started, claimed and connected. -/
def connected (settings : Bool) : List Op :=
  start settings ++ claim ++ trigger 2 "c" (found "c" 200) 2

/-- A message of the chat is prepared and recorded. -/
def receive (updateId chatId messageId : Int) (kind : RawEventKind) (decision : Decision)
    (verdict : AnswerKind) (now : DateTime) : List Op :=
  [.worker (.prepare updateId
      (raw kind "c" (some chatId) (some messageId) (some "3") now)
      (preparer decision verdict now)),
    .worker .record]

/-- A message of the chat is prepared, recorded and applied. -/
def message (updateId chatId messageId : Int) (kind : RawEventKind) (decision : Decision)
    (verdict : AnswerKind) (now : DateTime) : List Op :=
  receive updateId chatId messageId kind decision verdict now ++ [.worker (.apply now)]

/-- The oldest due action is dispatched, and Telegram accepts its request. -/
def dispatch (now : DateTime) : List Op :=
  [.dispatcher (.claim now), .dispatcher .check, .dispatcher (.respond (.ok 1)), .dispatcher .finish]

def command (updateId : Int) (command : OwnerCommand) (now : DateTime) : List Op :=
  [.worker (.ownerCommand updateId ⟨some 7, some 7, none, true, .ok command, none⟩ now)]

end Sample

end ChatHygiene
