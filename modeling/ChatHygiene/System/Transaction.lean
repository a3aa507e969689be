import ChatHygiene.Footprint.Service
import ChatHygiene.Footprint.Frame
import ChatHygiene.System
/-!
# What a step of the service commits

Every step commits at most one transaction that writes. `Transaction` lists
these, `Commits` says which step commits which, and `after_writes` bounds what
each writes and enqueues. An invariant of the database is then a property that
the statements of each transaction keep; a transaction whose targets it does
not depend on keeps it for that reason alone.
-/

namespace ChatHygiene

open Txn (Respects commit)

/-- The transactions of the worker and of the dispatcher that write. -/
inductive Transaction where
  | normalize (now : DateTime)
  | initializeOwner (now : DateTime)
  | startup (connectionId : String) (snapshot : ConnectionReconciliationSnapshot)
      (answer : LookupAnswer) (now : DateTime)
  | apply (updateId : Int) (now : DateTime)
  | upgrade (signer : ChallengeSigner)
  | record (event : PreparedEvent)
  | trigger (updateId : Int) (connectionId : String) (occurredAt : DateTime)
      (owner : OwnerIdentity) (snapshot : ConnectionReconciliationSnapshot)
      (answer : LookupAnswer) (now : DateTime)
  | publishReady (startupPending : Option String) (now : DateTime)
  | ownerCommand (updateId : Int) (snapshot : OwnerCommandSnapshot) (occurredAt : DateTime)
      (default : Bool)
  | ownerStart (updateId : Int) (snapshot : OwnerCommandSnapshot) (occurredAt : DateTime)
      (default : Bool)
  | ownerClaimRejected (updateId : Int) (replyChatId : Option Int) (occurredAt : DateTime)
  | ownerClaim (updateId : Int) (claim : ValidOwnerClaim) (snapshot : OwnerClaimSnapshot)
      (answer : Option LookupAnswer) (now : DateTime)
  | expire (now : DateTime)
  | purge (now : DateTime)
  | claim (now : DateTime)
  | finish (action : OutboxActionRecord) (now : DateTime) (result : Finish)

namespace Transaction

/-- The database after the transaction is committed or rolled back. -/
def after : Transaction → Database → Database
  | .normalize now, db => (commit (normalizeStartupReconciliation now) db).1
  | .initializeOwner now, db => (commit (initializeOrLoadOwnerIdentity now) db).1
  | .startup connectionId snapshot answer now, db =>
    (commit (reconcileTrustedCurrentState connectionId snapshot answer now) db).1
  | .apply updateId now, db => (commit (applyRecordedEvent updateId now) db).1
  | .upgrade signer, db => (commit (upgradeActiveChallengeHmacs signer) db).1
  | .record event, db => (commit (recordPreparedEvent event) db).1
  | .trigger updateId connectionId occurredAt owner snapshot answer now, db =>
    (commit (reconcileConnectionTrigger updateId connectionId occurredAt owner snapshot answer now)
      db).1
  | .publishReady startupPending now, db => (commit (publishReadyIfDrained startupPending now) db).1
  | .ownerCommand updateId snapshot occurredAt default, db =>
    (commit (processOwnerCommand updateId snapshot occurredAt default) db).1
  | .ownerStart updateId snapshot occurredAt default, db =>
    (commit (processOwnerStart updateId snapshot occurredAt default) db).1
  | .ownerClaimRejected updateId replyChatId occurredAt, db =>
    (commit (recordOwnerClaimRejection updateId replyChatId occurredAt) db).1
  | .ownerClaim updateId validClaim snapshot answer now, db =>
    (commit (commitOwnerClaim updateId validClaim snapshot answer now) db).1
  | .expire now, db => (commit (expireDueState now) db).1
  | .purge now, db => (commit (purgeHistory now) db).1
  | .claim now, db => (commit (claimDueOutboxAction now) db).1
  | .finish action now result, db => (commit (finishDispatch action now result) db).1

/-- What the transaction may write to. -/
@[simp] def targets : Transaction → List Target
  | .normalize _ => [.reconciliation, .connection]
  | .initializeOwner _ => [.owner]
  | .startup .. => startupTargets
  | .apply .. => .update :: handlerTargets
  | .upgrade _ => [.challenge]
  | .record _ => [.record, .connection]
  | .trigger .. => triggerTargets
  | .publishReady .. => [.reconciliation]
  | .ownerCommand .. | .ownerStart .. => ownerCommandTargets
  | .ownerClaimRejected .. => [.update, .audit, .enqueue]
  | .ownerClaim .. => claimTargets
  | .expire _ => expiryTargets
  | .purge _ => [.ledger, .audit, .outbox, .purgeUpdate]
  | .claim _ => [.outbox]
  | .finish .. => finishTargets

/-- What the transaction may enqueue when it is run in `db`. -/
def Enqueues (db : Database) : Transaction → NewOutboxAction → Prop
  | .apply updateId _, a => ∃ row event, db.processedUpdate.lookup updateId = some row ∧
      row.status = .recorded ∧ row.event = some event ∧
      a.Of event.updateId (event.facts.action.cleans = true)
  | .ownerCommand updateId snapshot _ _, a => a.Of updateId (snapshot.isReset = true)
  | .ownerStart updateId .., a | .ownerClaimRejected updateId .., a | .ownerClaim updateId .., a =>
    a.Of updateId False
  | .expire _, a => a.IsExpiryEdit
  | .finish action .., a => a.IsAlert action.id
  | _, _ => False

end Transaction

/-- No recorded event changes a connection: preparation produces none that does. -/
def Database.NoConnectionChange (db : Database) : Prop :=
  ∀ row ∈ db.processedUpdate.rows, row.status = .recorded → ∀ event, row.event = some event →
    ∀ o c e r, event.facts.action ≠ .connectionChanged o c e r

/-- What applying a recorded event writes. -/
theorem applyRecordedEvent_after_writes {db : Database} (h : db.NoConnectionChange)
    (updateId : Int) (now : DateTime) :
    WritesTo (.update :: handlerTargets) ((Transaction.apply updateId now).Enqueues db) db
      (commit (applyRecordedEvent updateId now) db).1 := by
  cases hx : applyRecordedEvent updateId now db with
  | error error =>
    rw [Txn.commit_of_error hx]
    exact refl _
  | ok r =>
    rw [Txn.commit_of_ok hx]
    rcases applyRecordedEvent_ok hx with ⟨-, hsame⟩ |
      ⟨-, row, event, db₁, hrow, hrecorded, hevent, happly, hmark⟩
    · rw [hsame]
      exact refl _
    · have hwrites : Respects (WritesTo (.update :: handlerTargets)
          (NewOutboxAction.Of event.updateId (event.facts.action.cleans = true)))
          (LifecycleHandler.apply event) :=
        apply_writes (by simp) event (h row (Table.mem_of_lookup hrow) hrecorded event hevent)
      have hof (a : NewOutboxAction)
          (ha : a.Of event.updateId (event.facts.action.cleans = true)) :
          (Transaction.apply updateId now).Enqueues db a :=
        ⟨row, event, hrow, hrecorded, hevent, ha⟩
      exact trans_of (WritesTo _ _)
        ((hwrites _ _ _ happly).mono fun st hst => hst.mono (fun _ => id) hof)
        (markApplied_writes (by simp) _ _ _ _ _ hmark)

/-- **What a transaction writes.** -/
theorem Transaction.after_writes {db : Database} (h : db.NoConnectionChange) (x : Transaction) :
    WritesTo x.targets (x.Enqueues db) db (x.after db) := by
  cases x with
  | apply updateId now => exact applyRecordedEvent_after_writes h updateId now
  | normalize now => exact Respects.commit (normalizeStartupReconciliation_writes (by simp [targets]) now) db
  | initializeOwner now => exact Respects.commit (initializeOrLoadOwnerIdentity_writes (by simp [targets]) now) db
  | startup connectionId snapshot answer now =>
    exact Respects.commit (reconcileTrustedCurrentState_writes (fun _ ht => ht) _ _ _ _) db
  | upgrade signer => exact Respects.commit (upgradeActiveChallengeHmacs_writes (by simp [targets]) signer) db
  | record event => exact Respects.commit (recordPreparedEvent_writes (by simp [targets]) event) db
  | trigger updateId connectionId occurredAt owner snapshot answer now =>
    exact Respects.commit (reconcileConnectionTrigger_writes (fun _ ht => ht) _ _ _ _ _ _ _) db
  | publishReady startupPending now =>
    exact Respects.commit (publishReadyIfDrained_writes (by simp [targets]) startupPending now) db
  | ownerCommand updateId snapshot occurredAt default =>
    exact Respects.commit (processOwnerCommand_writes (fun _ ht => ht) _ _ _) db
  | ownerStart updateId snapshot occurredAt default =>
    exact Respects.commit (processOwnerStart_writes (fun _ ht => ht) _ _ _) db
  | ownerClaimRejected updateId replyChatId occurredAt =>
    exact Respects.commit (recordOwnerClaimRejection_writes (fun _ ht => ht) _ _) db
  | ownerClaim updateId claim snapshot answer now =>
    exact Respects.commit (commitOwnerClaim_writes (fun _ ht => ht) _ _ _ _) db
  | expire now => exact Respects.commit (expireDueState_writes (fun _ ht => ht) (fun _ ha => ha) now) db
  | purge now => exact Respects.commit (purgeHistory_writes (fun _ ht => ht) now) db
  | claim now => exact Respects.commit (claimDueOutboxAction_writes (by simp [targets]) now) db
  | finish action now result =>
    exact Respects.commit (finishDispatch_writes (fun _ ht => ht) action (fun _ ha => ha) now result)
      db

theorem Transaction.after_frame {db : Database} (h : db.NoConnectionChange) (x : Transaction) :
    Frame x.targets db.toTables (x.after db).toTables :=
  (x.after_writes h).frame

/-! ## Steps -/

theorem ProcessedUpdate.eventType_of_isTrigger {u : ProcessedUpdate}
    (h : u.isTrigger = true) : u.eventType = .businessConnectionChanged := by
  unfold ProcessedUpdate.isTrigger at h
  simp only [Bool.and_eq_true, decide_eq_true_eq] at h
  exact h.1

/-- The worker neither holds an event nor waits for an answer. -/
def WorkerPhase.rests : WorkerPhase → Bool
  | .down | .normalized | .ownerReady | .recovering _ | .recovered | .idle => true
  | _ => false

/-- What is left of recovery in a phase. -/
def WorkerPhase.remaining : WorkerPhase → Option (List ProcessedUpdate)
  | .recovering us => some us
  | .recovered => some []
  | _ => none

/-- The startup lookup is over. -/
def WorkerPhase.started : WorkerPhase → Bool
  | .down | .normalized | .ownerReady | .startupLookup .. => false
  | _ => true

namespace World

/-- The step commits the transaction. -/
inductive Commits (w : World) : Op → Transaction → Prop where
  | boot {settings now} (h : w.worker = .down) :
    Commits w (.worker (.boot settings now)) (.normalize now)
  | initializeOwner {now} (h : w.worker = .normalized) :
    Commits w (.worker (.initializeOwner now)) (.initializeOwner now)
  | startup {connectionId snapshot answer now} (h : w.worker = .startupLookup connectionId snapshot)
      (hvalid : answer.validFor connectionId = true) :
    Commits w (.worker (.startupAnswer answer now)) (.startup connectionId snapshot answer now)
  | recover {u us now} (h : w.worker = .recovering (u :: us)) (htrigger : u.isTrigger = false) :
    Commits w (.worker (.recoverNext now)) (.apply u.updateId now)
  | serve {signer} (h : w.worker = .recovered) :
    Commits w (.worker (.serve signer)) (.upgrade signer)
  | record {event preparedIn} (h : w.worker = .prepared event preparedIn) :
    Commits w (.worker .record) (.record event)
  | apply {updateId now} (h : w.worker = .recorded updateId) :
    Commits w (.worker (.apply now)) (.apply updateId now)
  | trigger {updateId connectionId occurredAt owner snapshot answer now}
      (h : w.worker = .triggerLookup updateId connectionId occurredAt owner snapshot)
      (hvalid : answer.validFor connectionId = true) :
    Commits w (.worker (.triggerAnswer answer now))
      (.trigger updateId connectionId occurredAt owner snapshot answer now)
  | startupRetry {connectionId snapshot answer now}
      (h : w.worker = .startupRetry connectionId snapshot)
      (hvalid : answer.validFor connectionId = true) :
    Commits w (.worker (.startupRetryAnswer answer now))
      (.startup connectionId snapshot answer now)
  | publishReady {now} (h : w.worker = .idle) :
    Commits w (.worker (.publishReady now)) (.publishReady w.startupPending now)
  | ownerCommand {updateId snapshot occurredAt} (h : w.worker = .idle) :
    Commits w (.worker (.ownerCommand updateId snapshot occurredAt))
      (.ownerCommand updateId snapshot occurredAt w.settings)
  | ownerStart {updateId snapshot occurredAt} (h : w.worker = .idle) :
    Commits w (.worker (.ownerStart updateId snapshot occurredAt))
      (.ownerStart updateId snapshot occurredAt w.settings)
  | ownerClaimRejected {updateId replyChatId occurredAt} (h : w.worker = .idle) :
    Commits w (.worker (.ownerClaimRejected updateId replyChatId occurredAt))
      (.ownerClaimRejected updateId replyChatId occurredAt)
  | ownerClaimRefused {updateId claim tokenMatches now} (h : w.worker = .idle) :
    Commits w (.worker (.ownerClaim updateId claim tokenMatches now))
      (.ownerClaimRejected updateId (some claim.ownerChatId) claim.occurredAt)
  | ownerClaim {updateId claim snapshot answer now}
      (h : w.worker = .claimLookup updateId claim snapshot) :
    Commits w (.worker (.claimAnswer answer now)) (.ownerClaim updateId claim snapshot answer now)
  | expire {now} (h : w.worker = .idle) : Commits w (.worker (.expire now)) (.expire now)
  | purge {now} (h : w.worker = .idle) : Commits w (.worker (.purge now)) (.purge now)
  | claim {now} (h : w.dispatcher = .idle) : Commits w (.dispatcher (.claim now)) (.claim now)
  | finish {dispatch result} (h : w.dispatcher = .finishing dispatch result) :
    Commits w (.dispatcher .finish) (.finish dispatch.action dispatch.now result)

theorem startupTarget_readOnly : Respects Eq startupTarget := by
  refine loadSingleTrustedConnection_readOnly.bind fun trusted => ?_
  cases trusted with
  | none => exact .pure _
  | some trusted => exact (connectionReconciliationSnapshot_readOnly _).bind fun _ => .pure _

theorem triggerSnapshot_readOnly (connectionId : String) :
    Respects Eq (triggerSnapshot connectionId) := by
  refine (Respects.read _).bind fun state => ?_
  cases state with
  | pending => exact .pure _
  | ready owner => exact (connectionReconciliationSnapshot_readOnly _).bind fun _ => .pure _

@[simp] theorem afterRecord_db (w : World) (event : PreparedEvent) (preparedIn : Database)
    (result : Except Error RecordReceipt) : (w.afterRecord event preparedIn result).db = w.db := by
  unfold afterRecord
  split <;> rfl

@[simp] theorem afterRecord_dispatcher (w : World) (event : PreparedEvent) (preparedIn : Database)
    (result : Except Error RecordReceipt) :
    (w.afterRecord event preparedIn result).dispatcher = w.dispatcher := by
  unfold afterRecord
  split <;> rfl

@[simp] theorem afterRecord_startupPending (w : World) (event : PreparedEvent)
    (preparedIn : Database) (result : Except Error RecordReceipt) :
    (w.afterRecord event preparedIn result).startupPending = w.startupPending := by
  unfold afterRecord
  split <;> rfl

theorem recordedTrigger_eq_some {w : World} {updateId : Int} {connectionId : String} {occurredAt : DateTime}
    (h : w.recordedTrigger updateId = some (connectionId, occurredAt)) :
    ∃ row event, w.db.processedUpdate.lookup updateId = some row ∧ row.event = some event ∧
      event.facts.connectionId = some connectionId ∧ row.status = .recorded ∧
      row.isTrigger = true := by
  unfold recordedTrigger at h
  obtain ⟨row, hrow, h⟩ := Option.bind_eq_some_iff.1 h
  obtain ⟨event, hevent, h⟩ := Option.bind_eq_some_iff.1 h
  obtain ⟨id, hid, h⟩ := Option.bind_eq_some_iff.1 h
  obtain ⟨⟨hrecorded, htrigger⟩, h⟩ := Option.ite_none_right_eq_some.1 h
  obtain ⟨rfl, -⟩ := Prod.mk.inj (Option.some.inj h)
  exact ⟨row, event, hrow, hevent, hid, hrecorded, htrigger⟩

/-- What the worker takes on without a commit: an event it has prepared, or a lookup. -/
inductive TakesOn (w : World) : WorkerOp → WorkerPhase → Prop where
  | startupLookup {connectionId snapshot} (hw : w.worker = .ownerReady)
    (hread : startupTarget w.db = .ok (some (connectionId, snapshot), w.db)) :
    TakesOn w .startupSnapshot (.startupLookup connectionId snapshot)
  | prepared {updateId raw preparer event db'} (hw : w.worker = .idle) (hraw : raw.WellFormed)
    (hprepare : prepareUpdate { preparer with destructiveMode := w.settings } updateId raw w.db =
      .ok (event, db')) :
    TakesOn w (.prepare updateId raw preparer) (.prepared event w.db)
  | triggerLookup {updateId connectionId occurredAt owner snapshot}
    (hw : w.worker = .triggered updateId connectionId occurredAt)
    (hread : triggerSnapshot connectionId w.db = .ok (some (owner, snapshot), w.db)) :
    TakesOn w .triggerSnapshot (.triggerLookup updateId connectionId occurredAt owner snapshot)
  | triggered {updateId connectionId occurredAt} (hw : w.worker = .idle)
    (hrecorded : w.recordedTrigger updateId = some (connectionId, occurredAt)) :
    TakesOn w (.retryTrigger updateId) (.triggered updateId connectionId occurredAt)
  | startupRetry {connectionId snapshot} (hw : w.worker = .idle)
    (hpending : w.startupPending = some connectionId) :
    TakesOn w .startupRetrySnapshot (.startupRetry connectionId snapshot)
  | claimLookup {updateId claim tokenMatches now snapshot} (hw : w.worker = .idle) :
    TakesOn w (.ownerClaim updateId claim tokenMatches now) (.claimLookup updateId claim snapshot)

/-- A step of the worker: it comes to rest, with at most one transaction committed, it takes something
on, or it records what it has prepared. -/
inductive WorkerStep (w w' : World) (op : WorkerOp) : Prop where
  | rests (hrests : w'.worker.rests = true)
    (hlisted : ∀ us, w'.worker.remaining = some us →
      (∃ us, w.worker = .recovering us) ∨ us = recordedUpdates w'.db)
    (hdispatcher : w'.dispatcher = w.dispatcher)
    (hhistory : w'.preparedIn = w.preparedIn)
    (hsettings : w'.settings = w.settings ∨ ∃ now, op = .boot w'.settings now)
    (hstartup : w'.startupPending = w.startupPending ∨ w.worker.started = false ∨
      ∃ answer now, op = .startupRetryAnswer answer now)
    (hdb : w'.db = w.db ∨ ∃ x, w.Commits (.worker op) x ∧ (∀ event, x ≠ .record event) ∧
      w'.db = x.after w.db)
  | takesOn (phase : WorkerPhase) (htakes : w.TakesOn op phase)
    (hw' : w' = { w with worker := phase })
  | records (event : PreparedEvent) (preparedIn : Database)
    (hw : w.worker = .prepared event preparedIn) (hop : op = .record)
    (hw' : w' = ({ w with db := (commit (recordPreparedEvent event) w.db).1 } : World).afterRecord
      event preparedIn (commit (recordPreparedEvent event) w.db).2)

theorem remaining_afterRecord (w : World) (event : PreparedEvent) (preparedIn : Database)
    (result : Except Error RecordReceipt) :
    (w.afterRecord event preparedIn result).worker.remaining = none := by
  unfold afterRecord
  split
  · rfl
  · rfl
  · split
    · cases event.facts.connectionId <;> rfl
    · rfl

theorem rests_orDown {α : Type} {next : α → WorkerPhase} (h : ∀ a, (next a).rests = true)
    (result : Except Error α) : (orDown next result).rests = true := by
  cases result with
  | error error => rfl
  | ok a => exact h a

theorem remaining_orDown {α : Type} {next : α → WorkerPhase} (h : ∀ a, (next a).remaining = none)
    (result : Except Error α) : (orDown next result).remaining = none := by
  cases result with
  | error error => rfl
  | ok a => exact h a

/-- What a read leaves is what it was taken in, and its result is the one read. -/
theorem commit_of_readOnly {α : Type} {x : Uow α} (hx : Respects Eq x) (db : Database) :
    (commit x db).1 = db ∧ ∀ a, (commit x db).2 = .ok a → x db = .ok (a, db) := by
  have hsame : (commit x db).1 = db := Txn.commit_fst_of_readOnly hx db
  refine ⟨hsame, fun a ha => ?_⟩
  have hread := Txn.ok_of_commit ha
  rwa [hsame] at hread

/-- Nothing is listed. -/
theorem listed_of_none {phase : WorkerPhase} {P : List ProcessedUpdate → Prop}
    (h : phase.remaining = none) (us : List ProcessedUpdate) (hus : phase.remaining = some us) :
    P us := by
  rw [h] at hus
  cases hus

/-- A step that changes nothing but the phase, to one of rest. -/
theorem WorkerStep.idle {w : World} {op : WorkerOp} {phase : WorkerPhase}
    (hrests : phase.rests = true) (hlisted : ∀ us, phase.remaining = some us →
      (∃ us, w.worker = .recovering us) ∨ us = recordedUpdates w.db) :
    WorkerStep w { w with worker := phase } op :=
  .rests hrests hlisted rfl rfl (.inl rfl) (.inl rfl) (.inl rfl)

/-- A commit after which the worker rests. -/
theorem WorkerStep.commit {α : Type} {w : World} {op : WorkerOp} {y : Uow α} {x : Transaction}
    {next : Except Error α → WorkerPhase} (hrests : ∀ result, (next result).rests = true)
    (hlisted : (∃ us, w.worker = .recovering us) ∨ ∀ result, (next result).remaining = none)
    (hx : w.Commits (.worker op) x) (hrecord : ∀ event, x ≠ .record event)
    (hafter : (commit y w.db).1 = x.after w.db) : WorkerStep w (w.commitWorker y next) op := by
  rcases hlisted with hrecovering | hnone
  · exact .rests (hrests _) (fun _ _ => .inl hrecovering) rfl rfl (.inl rfl) (.inl rfl)
      (.inr ⟨x, hx, hrecord, hafter⟩)
  · exact .rests (hrests _) (listed_of_none (hnone _)) rfl rfl (.inl rfl) (.inl rfl)
      (.inr ⟨x, hx, hrecord, hafter⟩)

/-- **What a step of the worker can do.** -/
theorem stepWorker_step {w w' : World} {op : WorkerOp} (h : w.stepWorker op = some w') :
    WorkerStep w w' op := by
  unfold stepWorker at h
  split at h
  · next settings now hw =>
    cases h
    have hstarted : w.worker.started = false := by
      rw [hw]
      rfl
    exact .rests (rests_orDown (fun _ => rfl) _) (listed_of_none (remaining_orDown (fun _ => rfl) _))
      rfl rfl (.inr ⟨now, rfl⟩) (.inr (.inl hstarted))
      (.inr ⟨.normalize now, .boot hw, by simp, rfl⟩)
  · next hw =>
    cases h
    exact .commit (rests_orDown fun _ => rfl) (.inr (remaining_orDown fun _ => rfl))
      (.initializeOwner hw) (by simp) rfl
  · next hw =>
    cases h
    -- a snapshot is read in a transaction of its own, so the database is as it was
    obtain ⟨hsame, hread⟩ := commit_of_readOnly startupTarget_readOnly w.db
    unfold commitWorker
    rw [hsame]
    cases htarget : (commit startupTarget w.db).2 with
    | error error => exact .idle rfl (listed_of_none rfl)
    | ok target =>
      cases target with
      | none => exact .idle rfl fun us hus => .inr (Option.some.inj hus).symm
      | some target => exact .takesOn _ (.startupLookup hw (hread _ htarget)) rfl
  · next connectionId snapshot answer now hw =>
    obtain ⟨hvalid, h⟩ := Option.ite_none_right_eq_some.1 h
    cases h
    have hstarted : w.worker.started = false := by
      rw [hw]
      rfl
    -- a lookup that converges, or stays pending, lets recovery start on what is recorded now
    unfold afterStartupLookup
    split
    · exact .rests rfl (fun us hus => .inr (Option.some.inj hus).symm) rfl rfl (.inl rfl)
        (.inr (.inl hstarted)) (.inr ⟨_, .startup hw hvalid, by simp, rfl⟩)
    · exact .rests rfl (fun us hus => .inr (Option.some.inj hus).symm) rfl rfl (.inl rfl)
        (.inr (.inl hstarted)) (.inr ⟨_, .startup hw hvalid, by simp, rfl⟩)
    · exact .rests rfl (listed_of_none rfl) rfl rfl (.inl rfl) (.inr (.inl hstarted))
        (.inr ⟨_, .startup hw hvalid, by simp, rfl⟩)
    · exact .rests rfl (listed_of_none rfl) rfl rfl (.inl rfl) (.inr (.inl hstarted))
        (.inr ⟨_, .startup hw hvalid, by simp, rfl⟩)
  · next hw =>
    split at h
    · cases h
      -- recovery passes over a trigger, and has that much less to go through
      exact .idle rfl fun us hus => .inl ⟨_, hw⟩
    · next htrigger =>
      cases h
      exact .commit (rests_orDown fun _ => rfl) (.inl ⟨_, hw⟩)
        (.recover hw (by simpa using htrigger)) (by simp) rfl
  · next hw =>
    cases h
    exact .idle rfl fun us hus => .inl ⟨_, hw⟩
  · next hw =>
    cases h
    exact .commit (rests_orDown fun _ => rfl) (.inr (remaining_orDown fun _ => rfl))
      (.serve hw) (by simp) rfl
  · next hw =>
    obtain ⟨hraw, h⟩ := Option.ite_none_right_eq_some.1 h
    split at h
    · next hprepare =>
      cases h
      exact .takesOn _ (.prepared hw hraw hprepare) rfl
    · cases h
      -- a preparation that fails leaves the worker where it was
      exact .idle (by rw [hw]; rfl) (listed_of_none (by rw [hw]; rfl))
  · next hw =>
    cases h
    exact .records _ _ hw rfl rfl
  · next hw =>
    cases h
    exact .commit (fun _ => rfl) (.inr fun _ => rfl) (.apply hw) (by simp) rfl
  · next connectionId occurredAt hw =>
    cases h
    obtain ⟨hsame, hread⟩ := commit_of_readOnly (triggerSnapshot_readOnly connectionId) w.db
    unfold commitWorker
    rw [hsame]
    cases htarget : (commit (triggerSnapshot connectionId) w.db).2 with
    | error error => exact .idle rfl (listed_of_none rfl)
    | ok target =>
      cases target with
      | none => exact .idle rfl (listed_of_none rfl)
      | some target => exact .takesOn _ (.triggerLookup hw (hread _ htarget)) rfl
  · next hw =>
    obtain ⟨hvalid, h⟩ := Option.ite_none_right_eq_some.1 h
    cases h
    exact .commit (fun _ => rfl) (.inr fun _ => rfl) (.trigger hw hvalid) (by simp) rfl
  · next hw =>
    obtain ⟨⟨connectionId, occurredAt⟩, hrecorded, rfl⟩ := Option.map_eq_some_iff.1 h
    exact .takesOn _ (.triggered hw hrecorded) rfl
  · next hw =>
    obtain ⟨connectionId, hpending, rfl⟩ := Option.map_eq_some_iff.1 h
    obtain ⟨hsame, -⟩ :=
      commit_of_readOnly (connectionReconciliationSnapshot_readOnly connectionId) w.db
    unfold commitWorker
    rw [hsame]
    cases (commit (connectionReconciliationSnapshot connectionId) w.db).2 with
    | error error => exact .idle rfl (listed_of_none rfl)
    | ok snapshot => exact .takesOn _ (.startupRetry hw hpending) rfl
  · next hw =>
    obtain ⟨hvalid, h⟩ := Option.ite_none_right_eq_some.1 h
    cases h
    exact .rests rfl (listed_of_none rfl) rfl rfl (.inl rfl) (.inr (.inr ⟨_, _, rfl⟩))
      (.inr ⟨_, .startupRetry hw hvalid, by simp, rfl⟩)
  · next hw =>
    cases h
    exact .commit (fun _ => rfl) (.inr fun _ => rfl) (.publishReady hw) (by simp) rfl
  · next hw =>
    cases h
    exact .commit (fun _ => rfl) (.inr fun _ => rfl) (.ownerCommand hw) (by simp) rfl
  · next hw =>
    cases h
    exact .commit (fun _ => rfl) (.inr fun _ => rfl) (.ownerStart hw) (by simp) rfl
  · next hw =>
    cases h
    exact .commit (fun _ => rfl) (.inr fun _ => rfl) (.ownerClaimRejected hw) (by simp) rfl
  · next hw =>
    split at h
    · cases h
      exact .idle (by rw [hw]; rfl) (listed_of_none (by rw [hw]; rfl))
    · split at h
      · cases h
        exact .commit (fun _ => rfl) (.inr fun _ => rfl) (.ownerClaimRefused hw) (by simp) rfl
      · cases h
        exact .takesOn _ (.claimLookup hw) rfl
  · next hw =>
    obtain ⟨-, h⟩ := Option.ite_none_right_eq_some.1 h
    cases h
    exact .commit (fun _ => rfl) (.inr fun _ => rfl) (.ownerClaim hw) (by simp) rfl
  · next hw =>
    cases h
    exact .commit (fun _ => rfl) (.inr fun _ => rfl) (.expire hw) (by simp) rfl
  · next hw =>
    cases h
    exact .commit (fun _ => rfl) (.inr fun _ => rfl) (.purge hw) (by simp) rfl
  · split at h <;> (cases h; exact .idle rfl (listed_of_none rfl))
  · cases h

theorem stepWorker_db {w w' : World} {op : WorkerOp} (h : w.stepWorker op = some w') :
    w'.db = w.db ∨ ∃ x, w.Commits (.worker op) x ∧ w'.db = x.after w.db := by
  cases stepWorker_step h with
  | rests _ _ _ _ _ _ hdb => exact hdb.imp_right fun ⟨x, hx, _, hafter⟩ => ⟨x, hx, hafter⟩
  | takesOn phase _ hw' =>
    subst hw'
    exact .inl rfl
  | records event preparedIn hw hop hw' =>
    subst hop hw'
    exact .inr ⟨_, .record hw, by simp [Transaction.after]⟩

theorem stepDispatcher_db {w w' : World} {op : DispatcherOp} (h : w.stepDispatcher op = some w') :
    w'.db = w.db ∨ ∃ x, w.Commits (.dispatcher op) x ∧ w'.db = x.after w.db := by
  unfold stepDispatcher at h
  split at h
  · next hw => cases h; exact .inr ⟨_, .claim hw, rfl⟩
  · cases h; exact .inl (Txn.commit_fst_of_readOnly (executeCheck_readOnly _) _)
  · cases h; exact .inl (Txn.commit_fst_of_readOnly (executeChallenge_readOnly _) _)
  · cases h; exact .inl rfl
  · next hw => cases h; exact .inr ⟨_, .finish hw, rfl⟩
  · cases h; exact .inl rfl
  · cases h

/-- The dispatcher leaves the worker alone. -/
theorem stepDispatcher_frame {w w' : World} {op : DispatcherOp}
    (h : w.stepDispatcher op = some w') :
    w'.worker = w.worker ∧ w'.startupPending = w.startupPending ∧
      w'.preparedIn = w.preparedIn ∧ w'.settings = w.settings := by
  unfold stepDispatcher at h
  split at h <;> first | (cases h; exact ⟨rfl, rfl, rfl, rfl⟩) | cases h

/-- **A step changes the database by committing one of the transactions, or not at all.** -/
theorem step_db {w w' : World} {op : Op} (h : w.step op = some w') :
    w'.db = w.db ∨ ∃ x, w.Commits op x ∧ w'.db = x.after w.db := by
  cases op with
  | worker op => exact stepWorker_db h
  | dispatcher op =>
    obtain ⟨-, h⟩ := Option.ite_none_right_eq_some.1 h
    exact stepDispatcher_db h
  | crash =>
    cases h
    exact .inl rfl

end World

end ChatHygiene
