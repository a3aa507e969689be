import ChatHygiene.Retention.Recorded
/-!
# Acknowledged updates

Telegram delivers an update again until it is told that the update has arrived,
and forgets it then. So it is told only what the log will remember: when the
worker answers with a receipt, the update has a row, and the row says that it
has been applied or that it is a connection trigger, which is tried until it
is. Only a purge takes such a row out of the log.
-/

namespace ChatHygiene

open Txn (Respects commit)

/-! ## Receipts -/

/-- What an update is delivered as: a connection trigger, another business update, or an update of
the Owner's own chat. -/
inductive UpdateKind where
  | trigger
  | message
  | owner
  deriving DecidableEq, Repr

/-- The update a step takes up, and what it takes it for. -/
def World.takesUp (w : World) (op : Op) : Option (Int × UpdateKind) :=
  match op, w.worker with
  | .worker (.prepare updateId raw _), _ =>
    some (updateId, if raw.isTrigger then .trigger else .message)
  | .worker (.ownerCommand updateId ..), _ | .worker (.ownerStart updateId ..), _
  | .worker (.ownerClaimRejected updateId ..), _ | .worker (.ownerClaim updateId ..), _
  | .worker (.claimAnswer ..), .claimLookup updateId .. => some (updateId, .owner)
  | _, _ => none

/-- An update is taken for what its id stands for. -/
def DeliversKinds (kinds : Int → UpdateKind) (w : World) (op : Op) : Prop :=
  ∀ u ∈ w.takesUp op, u.2 = kinds u.1

instance (kinds : Int → UpdateKind) (w : World) (op : Op) : Decidable (DeliversKinds kinds w op) :=
  inferInstanceAs (Decidable (∀ u ∈ w.takesUp op, _))

theorem DeliversKinds.delivers {w : World} {op : Op} {kinds : Int → UpdateKind}
    (h : DeliversKinds kinds w op) : Delivers (fun updateId => kinds updateId = .trigger) w op := by
  intro u hu
  unfold Op.delivers at hu
  split at hu
  · next updateId raw preparer =>
    obtain rfl := Option.some.inj hu
    have hkind : (if raw.isTrigger then UpdateKind.trigger else .message) = kinds updateId :=
      h _ rfl
    dsimp only
    rw [← hkind]
    cases raw.isTrigger <;> simp
  · cases hu

/-- A transaction that does not fail is answered with a receipt. -/
def receiptOf {α : Type} (updateId : Int) (result : Except Error α) : Option Int :=
  match result with
  | .ok _ => some updateId
  | .error _ => none

/-- The update for which a step returns a receipt, so that the webhook answers with success. A trigger
that is tried again is counted again. -/
def World.acknowledges (w : World) (op : Op) : Option Int :=
  match op, w.worker with
  | .worker .record, .prepared event _ =>
    -- any other receipt waits for what follows the recording
    if (commit (recordPreparedEvent event) w.db).2 = .ok .duplicateApplied then
      some event.updateId
    else none
  | .worker (.apply now), .recorded updateId =>
    receiptOf updateId (commit (applyRecordedEvent updateId now) w.db).2
  | .worker .triggerSnapshot, .triggered updateId connectionId _ =>
    -- while the Owner is pending the trigger is left for later
    match (commit (triggerSnapshot connectionId) w.db).2 with
    | .ok none => some updateId
    | _ => none
  | .worker (.triggerAnswer answer now), .triggerLookup updateId connectionId occurredAt owner
      snapshot =>
    receiptOf updateId
      (commit (reconcileConnectionTrigger updateId connectionId occurredAt owner snapshot answer now)
        w.db).2
  | .worker (.ownerCommand updateId snapshot occurredAt), .idle =>
    receiptOf updateId (commit (processOwnerCommand updateId snapshot occurredAt w.settings) w.db).2
  | .worker (.ownerStart updateId snapshot occurredAt), .idle =>
    receiptOf updateId (commit (processOwnerStart updateId snapshot occurredAt w.settings) w.db).2
  | .worker (.ownerClaimRejected updateId replyChatId occurredAt), .idle =>
    receiptOf updateId (commit (recordOwnerClaimRejection updateId replyChatId occurredAt) w.db).2
  | .worker (.ownerClaim updateId claim tokenMatches now), .idle =>
    match snapshotOwnerClaim claim.fromUserId now w.db with
    | .ok (snapshot, _) =>
      if snapshot.owner ≠ .unclaimed ∨ !tokenMatches then
        receiptOf updateId
          (commit (recordOwnerClaimRejection updateId (some claim.ownerChatId) claim.occurredAt)
            w.db).2
      else none
    | .error _ => none
  | .worker (.claimAnswer answer now), .claimLookup updateId claim snapshot =>
    receiptOf updateId (commit (commitOwnerClaim updateId claim snapshot answer now) w.db).2
  | _, _ => none

/-- The log remembers an update: it has been applied, or is a trigger that is still tried. -/
def Database.Remembers (db : Database) (updateId : Int) : Prop :=
  ∃ row, db.processedUpdate.lookup updateId = some row ∧ (row.status = .applied ∨
    row.status = .recorded ∧ row.eventType = .businessConnectionChanged)

/-! ## What the transactions leave -/

/-- An update has a row that has not failed. -/
def Database.Stored (updateId : Int) (db : Database) : Prop :=
  ∃ row, db.processedUpdate.lookup updateId = some row ∧
    (row.status = .applied ∨ row.status = .recorded)

variable {db db' : Database} {updateId : Int}

theorem LogMoves.stored_kept (h : LogMoves updateId db db') (hstored : db.Stored updateId) :
    db'.Stored updateId := by
  obtain ⟨row, hrow, hstatus⟩ := hstored
  obtain ⟨row', hrow', hmoves⟩ := h.stored row hrow
  refine ⟨row', hrow', ?_⟩
  rcases hmoves.status with rfl | ⟨-, happlied⟩
  · exact hstatus
  · exact .inl happlied

/-- What a receipt is of has a row. -/
theorem receiptForStatus_ok {status : UpdateStatus} {receipt : RecordReceipt}
    (h : receiptForStatus status db = .ok (receipt, db')) :
    status = .applied ∨ status = .recorded := by
  cases status with
  | recorded => exact .inr rfl
  | applied => exact .inl rfl
  | failed => cases h

theorem withoutReceipt_leaves {next : Uow RecordReceipt}
    (h : Txn.Leaves (·.Stored updateId) next) :
    Txn.Leaves (·.Stored updateId) (withoutReceipt updateId next) := by
  intro db receipt db' hx
  unfold withoutReceipt at hx
  rw [Txn.read_bind_apply] at hx
  cases hrow : db.processedUpdate.lookup updateId with
  | none =>
    rw [hrow] at hx
    exact h db receipt db' hx
  | some row =>
    rw [hrow] at hx
    have hsame : db = db' := (receiptForStatus_readOnly row.status).of_ok hx
    exact hsame ▸ ⟨row, hrow, receiptForStatus_ok hx⟩

theorem insertRedactedUpdate_leaves (eventType : EventType) (occurredAt : DateTime) :
    Txn.Leaves (·.Stored updateId) (insertRedactedUpdate updateId eventType occurredAt) := by
  intro db a db' h
  unfold insertRedactedUpdate Uow.insertUpdate at h
  replace h := Uow.statement_ok_iff.1 h
  unfold Tables.insertUpdate at h
  split at h
  · next hnone =>
    obtain ⟨-, hdb⟩ := Prod.mk.inj (Except.ok.inj h)
    have hlookup : db'.processedUpdate.lookup updateId =
        some ⟨updateId, eventType, none, .applied, occurredAt, some occurredAt⟩ := by
      have hlog := congrArg (·.processedUpdate.lookup updateId) hdb
      refine hlog.symm.trans ((Table.lookup_insert db.processedUpdate _ hnone updateId).trans ?_)
      exact if_pos rfl
    exact ⟨_, hlookup, .inl rfl⟩
  · cases h

/-- What is done after the row of an Owner's update is inserted leaves it there. -/
theorem Leaves.of_inserted {α : Type} {eventType : EventType} {occurredAt : DateTime}
    {next : Unit → Uow α} (h : ∀ a, Respects (LogMoves updateId) (next a)) :
    Txn.Leaves (·.Stored updateId)
      (insertRedactedUpdate updateId eventType occurredAt >>= next) :=
  (insertRedactedUpdate_leaves _ _).bind_left (fun _ _ hmoves => hmoves.stored_kept) h

theorem processOwnerCommand_leaves (snapshot : OwnerCommandSnapshot) (occurredAt : DateTime)
    (default : Bool) : Txn.Leaves (·.Stored updateId)
      (processOwnerCommand updateId snapshot occurredAt default) := by
  refine withoutReceipt_leaves (.bind_right fun destructiveMode => Leaves.of_inserted fun _ => ?_)
  have hauthorize : Respects (LogMoves updateId) (authorize snapshot.source occurredAt) :=
    logMoves_of_writes (K := fun _ => True) [.audit, .owner] (by simp)
      (authorize_writes (by simp) _ _)
  refine hauthorize.bind fun owner => ?_
  cases owner with
  | none => exact .pure _
  | some owner =>
    have hexecute : Respects (LogMoves updateId)
        (executeCommand snapshot owner occurredAt default) :=
      logMoves_of_writes (K := fun _ => True) commandTargets (by simp)
        (executeCommand_writes (fun _ ht => ht) _ _ _ _)
    have hactions (actions : List OwnerTelegramAction) : Respects (LogMoves updateId)
        (enqueueOwnerTelegramActions updateId actions occurredAt) :=
      logMoves_of_writes (K := NewOutboxAction.Of updateId True) [.enqueue] (by simp)
        (enqueueOwnerTelegramActions_writes (by simp) _ (fun _ => trivial) _)
    have htrace : Respects (LogMoves updateId)
        (enqueueOwnerCommandTrace updateId owner.ownerChatId snapshot.messageId occurredAt) :=
      (Respects.read _).bind fun _ => enqueueDirectOwnerMessage_moves _ _ _ _
    refine hexecute.bind fun execution => (hactions _).bind fun _ =>
      (enqueueDirectOwnerMessage_moves _ _ _ _).bind fun _ => ?_
    exact .ite (fun _ => htrace.bind fun _ => .pure _) fun _ => .pure _

theorem processOwnerStart_leaves (snapshot : OwnerCommandSnapshot) (occurredAt : DateTime)
    (default : Bool) : Txn.Leaves (·.Stored updateId)
      (processOwnerStart updateId snapshot occurredAt default) := by
  have hstart (fromUserId chatId : Int) : Txn.Leaves (·.Stored updateId) (do
        if !snapshot.privateChat then throw (.invalidEvent "owner Start shape is invalid")
        withoutReceipt updateId do
          let owner ← loadOwnerIdentity
          if isOwnerStart fromUserId chatId owner then
            processOwnerCommand updateId { snapshot with command := .ok .help } occurredAt default
          else
            insertRedactedUpdate updateId .ownerStart occurredAt
            if owner = .unclaimed then
              enqueuePrivateMessage updateId chatId .ownerSetupGuide occurredAt
            pure RecordReceipt.recorded) :=
    .ite (fun _ => .throw _) fun _ => withoutReceipt_leaves <| .bind_right fun owner =>
      .ite (fun _ => processOwnerCommand_leaves _ _ _) fun _ => Leaves.of_inserted fun _ =>
        .ite (fun _ => (enqueuePrivateMessage_moves _ _ _).bind fun _ => .pure _) fun _ => .pure _
  unfold processOwnerStart
  dsimp only
  split
  · refine .bind_right fun fromUserId => ?_
    split
    · exact .bind_right fun chatId => hstart fromUserId chatId
    · intro db receipt db' h
      cases h
  · intro db receipt db' h
    cases h

theorem recordOwnerClaimRejection_leaves (replyChatId : Option Int) (occurredAt : DateTime) :
    Txn.Leaves (·.Stored updateId)
      (recordOwnerClaimRejection updateId replyChatId occurredAt) := by
  refine withoutReceipt_leaves (Leaves.of_inserted fun _ =>
    (insertOwnerClaimAudit_moves _ _).bind fun _ => ?_)
  cases replyChatId with
  | none => exact .pure _
  | some chatId => exact (enqueuePrivateMessage_moves _ _ _).bind fun _ => .pure _

theorem commitOwnerClaim_leaves (claim : ValidOwnerClaim) (snapshot : OwnerClaimSnapshot)
    (answer : Option LookupAnswer) (serviceNow : DateTime) :
    Txn.Leaves (·.Stored updateId)
      (commitOwnerClaim updateId claim snapshot answer serviceNow) := by
  refine withoutReceipt_leaves (.bind_right fun owner => ?_)
  cases owner with
  | claimed =>
    exact Leaves.of_inserted fun _ => (insertOwnerClaimAudit_moves _ _).bind fun _ =>
      (enqueuePrivateMessage_moves _ _ _).bind fun _ => .pure _
  | unclaimed =>
    have hsettled (global : TelegramReconciliationState) (guard : CandidateGuard)
        (candidates : List BusinessConnectionCandidate) : Txn.Leaves (·.Stored updateId)
        (settleClaim updateId claim snapshot global guard candidates
          (answer.bind Except.toOption) serviceNow) :=
      .bind_right fun _ => .bind_right fun _ => Leaves.of_inserted fun _ =>
        (insertOwnerClaimAudit_moves _ _).bind fun _ =>
          (enqueueDirectOwnerMessage_moves _ _ _ _).bind fun _ => .pure _
    refine .bind_right fun global => .bind_right fun _ => .bind_right fun _ => .bind_right fun _ =>
      .bind_right fun guard => .bind_right fun candidates => .bind_right fun _ => ?_
    split
    · exact .bind_right fun _ => hsettled global guard candidates
    · exact hsettled global guard candidates

/-- What has been recorded, now or before, has a row. -/
theorem recordPreparedEvent_leaves {event : PreparedEvent} {receipt : RecordReceipt}
    (h : recordPreparedEvent event db = .ok (receipt, db')) :
    ∃ row, db'.processedUpdate.lookup event.updateId = some row ∧
      row.status = if receipt = .duplicateApplied then .applied else .recorded := by
  rcases recordPreparedEvent_ok h with ⟨rfl, -, hrows⟩ | ⟨hagain, rfl⟩
  · have hmem : event.row ∈ db'.processedUpdate.rows := by
      rw [hrows]
      exact List.mem_append_right _ (List.mem_singleton_self _)
    exact ⟨event.row, Table.lookup_of_mem hmem, rfl⟩
  · unfold recordPreparedEvent at h
    obtain ⟨⟨⟩, s₁, hvalid, h₁⟩ := Txn.bind_ok_iff.1 h
    obtain rfl : db' = s₁ := validateFacts_readOnly _ _ _ _ hvalid
    obtain ⟨trigger, s₂, htrigger, h₂⟩ := Txn.bind_ok_iff.1 h₁
    obtain rfl : db' = s₂ := connectionTriggerId_readOnly _ _ _ _ htrigger
    obtain ⟨inserted, s₃, hinsert, h₃⟩ := Txn.bind_ok_iff.1 h₂
    have hinsert := Uow.statement_ok_iff.1 hinsert
    unfold Tables.insertOrIgnoreUpdate at hinsert
    split at hinsert
    · -- a new row is recorded
      obtain ⟨rfl, -⟩ := Prod.mk.inj (Except.ok.inj hinsert)
      cases trigger with
      | none => exact absurd (Prod.mk.inj (Txn.pure_ok_iff.1 h₃)).1.symm hagain
      | some connectionId =>
        obtain ⟨gated, s₄, -, h₄⟩ := Txn.bind_ok_iff.1 h₃
        exact absurd (Prod.mk.inj (Txn.pure_ok_iff.1 h₄)).1.symm hagain
    · obtain ⟨rfl, hdb⟩ := Prod.mk.inj (Except.ok.inj hinsert)
      obtain rfl : db' = s₃ := Database.ext hdb
      simp only [Bool.false_eq_true, if_false] at h₃
      rw [Txn.read_bind_apply] at h₃
      cases hrow : db'.processedUpdate.lookup event.updateId with
      | none =>
        rw [hrow] at h₃
        cases h₃
      | some row =>
        rw [hrow, Option.map_some] at h₃
        refine ⟨row, rfl, ?_⟩
        cases hstatus : row.status with
        | recorded =>
          rw [hstatus] at h₃
          obtain ⟨rfl, -⟩ := Prod.mk.inj (Txn.pure_ok_iff.1 h₃)
          rfl
        | applied =>
          rw [hstatus] at h₃
          obtain ⟨rfl, -⟩ := Prod.mk.inj (Txn.pure_ok_iff.1 h₃)
          rfl
        | failed =>
          rw [hstatus] at h₃
          cases h₃

theorem applyRecordedEvent_already {now : DateTime}
    (hx : applyRecordedEvent updateId now db = .ok (.alreadyApplied, db')) :
    ∃ row, db.processedUpdate.lookup updateId = some row ∧ row.status = .applied := by
  unfold applyRecordedEvent at hx
  rw [Txn.read_bind_apply] at hx
  cases hrow : db.processedUpdate.lookup updateId with
  | none =>
    rw [hrow] at hx
    cases hx
  | some row =>
    rw [hrow] at hx
    dsimp only at hx
    refine ⟨row, rfl, ?_⟩
    cases hstatus : row.status with
    | applied => rfl
    | failed =>
      rw [hstatus] at hx
      cases hx
    | recorded =>
      -- what is carried out now is not carried out already
      rw [hstatus] at hx
      cases hevent : row.event with
      | none =>
        rw [hevent] at hx
        cases hx
      | some event =>
        rw [hevent] at hx
        obtain ⟨⟨⟩, s, -, hx⟩ := Txn.bind_ok_iff.1 hx
        obtain ⟨affected, s', -, hx⟩ := Txn.bind_ok_iff.1 hx
        split at hx <;> cases hx

/-- What has been applied, now or before, is applied. -/
theorem World.EventsPrepared.apply_leaves {w : World} (h : w.EventsPrepared) {now : DateTime}
    {receipt : ApplyReceipt} (hx : applyRecordedEvent updateId now w.db = .ok (receipt, db')) :
    ∃ row, db'.processedUpdate.lookup updateId = some row ∧ row.status = .applied := by
  rcases applyRecordedEvent_ok hx with ⟨rfl, rfl⟩ | ⟨rfl, row, event, db₁, hrow, -, hevent, -, -⟩
  · exact applyRecordedEvent_already hx
  · have hafter : (Transaction.apply updateId now).after w.db = db' := by
      change (commit (applyRecordedEvent updateId now) w.db).1 = db'
      rw [Txn.commit_of_ok hx]
    have happlied : appliedEvent updateId now w.db = some event := by
      unfold appliedEvent
      rw [hx]
      simp [hrow, hevent]
    obtain ⟨-, row', -, -, -, hrow', -, hstatus⟩ := h.applied_row happlied
    exact ⟨row', hafter ▸ hrow', hstatus⟩

/-! ## What the worker is about to answer -/

/-- The update the worker will answer for: it has been recorded. -/
def WorkerPhase.recordedId : WorkerPhase → Option Int
  | .recorded updateId | .triggered updateId .. | .triggerLookup updateId .. => some updateId
  | _ => none

namespace World

variable {w w' : World} {op : Op} {kinds : Int → UpdateKind}

/-- Where an update that waits for its receipt comes from. -/
inductive Awaited (w w' : World) (op : Op) (updateId : Int) : Prop where
  | before (h : w.worker.recordedId = some updateId)
  | recorded (event : PreparedEvent) (preparedIn : Database) (receipt : RecordReceipt)
      (hheld : w.worker = .prepared event preparedIn) (hid : event.updateId = updateId)
      (hrecord : recordPreparedEvent event w.db = .ok (receipt, w'.db))
  | retried (hrecorded : w.recordedTrigger updateId ≠ none) (hdb : w'.db = w.db)

theorem recordedId_of_rests {phase : WorkerPhase} (h : phase.rests = true) :
    phase.recordedId = none := by
  cases phase <;> first | rfl | cases h

/-- The worker goes on with what it has recorded. -/
theorem recordedId_afterRecord {event : PreparedEvent} {preparedIn : Database}
    {result : Except Error RecordReceipt}
    (h : (w.afterRecord event preparedIn result).worker.recordedId = some updateId) :
    event.updateId = updateId ∧ ∃ receipt, result = .ok receipt ∧ receipt ≠ .duplicateApplied := by
  unfold afterRecord at h
  split at h
  · cases h
  · cases h
  · next receipt hagain =>
    dsimp only at h
    refine ⟨?_, receipt, rfl, hagain⟩
    split at h
    · split at h
      · exact Option.some.inj h
      · cases h
    · exact Option.some.inj h

theorem stepWorker_awaited {op : WorkerOp} (hstep : w.stepWorker op = some w')
    (h : w'.worker.recordedId = some updateId) : Awaited w w' (.worker op) updateId := by
  have hno {P : Prop} (hnone : w'.worker.recordedId = none) : P := by
    rw [hnone] at h
    cases h
  cases stepWorker_step hstep with
  | rests hrests => exact hno (recordedId_of_rests hrests)
  | takesOn phase htakes hw' =>
    subst hw'
    cases htakes with
    | startupLookup | prepared | startupRetry | claimLookup => exact hno rfl
    | triggerLookup hw =>
      refine .before ?_
      rw [hw]
      exact h
    | triggered hw hrecorded =>
      obtain rfl := Option.some.inj h
      exact .retried (by rw [hrecorded]; simp) rfl
  | records event preparedIn hw hop hw' =>
    subst hw'
    obtain ⟨hid, receipt, hresult, -⟩ := recordedId_afterRecord h
    have hrecord := Txn.ok_of_commit hresult
    refine .recorded event preparedIn receipt hw hid ?_
    rw [afterRecord_db]
    exact hrecord

/-- **Where an update that waits for its receipt comes from**: it waited before, it has just been
recorded, or it is a recorded trigger that is tried again. -/
theorem step_awaited (hstep : w.step op = some w') (h : w'.worker.recordedId = some updateId) :
    Awaited w w' op updateId := by
  cases op with
  | worker op => exact stepWorker_awaited hstep h
  | dispatcher op =>
    obtain ⟨-, hstep⟩ := Option.ite_none_right_eq_some.1 hstep
    have hsame : w'.worker = w.worker := (stepDispatcher_frame hstep).1
    exact .before (hsame ▸ h)
  | crash =>
    cases hstep
    cases h

/-- What the worker and the log hold of business updates is not the Owner's, and what waits for its
receipt has a row. -/
structure Kinded (kinds : Int → UpdateKind) (w : World) : Prop where
  subject : ∀ u, w.worker.subject = some u → kinds u.1 ≠ .owner
  rows : ∀ row ∈ w.db.processedUpdate.rows, row.eventType.isBusiness = true →
    kinds row.updateId ≠ .owner
  waits : ∀ updateId, w.worker.recordedId = some updateId → w.db.Stored updateId

/-- A row stays, but for a purge. -/
theorem EventsPrepared.stored_remains (h : w.EventsPrepared) (hop : op.purges = none)
    (hstep : w.step op = some w') (hstored : w.db.Stored updateId) : w'.db.Stored updateId := by
  obtain ⟨row, hrow, hstatus⟩ := hstored
  obtain ⟨row', hrow', hmoves⟩ := h.remains hop hstep (Table.mem_of_lookup hrow)
  rw [Table.key_of_lookup hrow] at hrow'
  refine ⟨row', hrow', ?_⟩
  rcases hmoves.status with rfl | ⟨-, happlied⟩
  · exact hstatus
  · exact .inl happlied

/-- Nothing is purged while an update waits for its receipt. -/
theorem purges_none_of_recordedId (h : w.worker.recordedId = some updateId)
    (hstep : w.step op = some w') : op.purges = none := by
  cases hop : op.purges with
  | none => rfl
  | some now =>
    obtain ⟨rfl, -⟩ := step_purge hop hstep
    cases hworker : w.worker with
    | idle =>
      rw [hworker] at h
      cases h
    | _ => simp [World.step, stepWorker, hworker] at hstep

theorem recordedTrigger_stored (h : w.recordedTrigger updateId ≠ none) :
    ∃ row, w.db.processedUpdate.lookup updateId = some row ∧ row.status = .recorded := by
  obtain ⟨target, htarget⟩ := Option.ne_none_iff_exists'.1 h
  unfold recordedTrigger at htarget
  obtain ⟨row, hrow, htarget⟩ := Option.bind_eq_some_iff.1 htarget
  obtain ⟨event, -, htarget⟩ := Option.bind_eq_some_iff.1 htarget
  obtain ⟨connectionId, -, htarget⟩ := Option.bind_eq_some_iff.1 htarget
  obtain ⟨⟨hrecorded, -⟩, -⟩ := Option.ite_none_right_eq_some.1 htarget
  exact ⟨row, hrow, hrecorded⟩

theorem Kinded.step (h : w.Kinded kinds) (hprepared : w.EventsPrepared)
    (hop : DeliversKinds kinds w op) (hstep : w.step op = some w') : w'.Kinded kinds := by
  have hgenuine (event : PreparedEvent) (preparedIn : Database)
      (hheld : w.worker.held = some (event, preparedIn)) : event.Genuine :=
    (hprepared.held event preparedIn hheld).2.genuine
  refine ⟨fun u hu => ?_, fun row hrow hbusiness => ?_, fun updateId hwaits => ?_⟩
  · rcases step_subject hstep hgenuine hu with hsame | hdelivers | ⟨row, hrow, htype, -⟩
    · exact h.subject u hsame
    · unfold Op.delivers at hdelivers
      split at hdelivers
      · next updateId raw preparer =>
        obtain rfl := Option.some.inj hdelivers
        have hkind : (if raw.isTrigger then UpdateKind.trigger else .message) = kinds updateId :=
          hop _ rfl
        rw [← hkind]
        split <;> simp
      · cases hdelivers
    · rw [← Table.key_of_lookup hrow]
      exact h.rows row (Table.mem_of_lookup hrow) (by rw [htype]; rfl)
  · rcases hprepared.row_moves hstep hrow hbusiness with
      ⟨u, hu, hmoves⟩ | ⟨event, preparedIn, hheld, rfl⟩
    · rw [hmoves.eventType] at hbusiness
      rw [← Table.key_of_lookup hu]
      exact h.rows u (Table.mem_of_lookup hu) hbusiness
    · exact h.subject (event.updateId, _) (by rw [hheld]; rfl)
  · rcases step_awaited hstep hwaits with
      hbefore | ⟨event, preparedIn, receipt, -, rfl, hrecord⟩ | ⟨hrecorded, hdb⟩
    · exact hprepared.stored_remains (purges_none_of_recordedId hbefore hstep) hstep
        (h.waits updateId hbefore)
    · obtain ⟨row, hrow, hstatus⟩ := recordPreparedEvent_leaves hrecord
      refine ⟨row, hrow, ?_⟩
      split at hstatus
      · exact .inl hstatus
      · exact .inr hstatus
    · obtain ⟨row, hrow, hstatus⟩ := recordedTrigger_stored hrecorded
      rw [hdb]
      exact ⟨row, hrow, .inr hstatus⟩

theorem kinded (h : service.ReachableBy (DeliversKinds kinds) w) : w.Kinded kinds := by
  refine h.invariant ?_ fun w op w' hw ih hop hstep => ih.step (eventsPrepared hw) hop hstep
  rintro w ⟨now, rfl⟩
  refine ⟨fun u hu => ?_, fun row hrow => ?_, fun updateId hwaits => ?_⟩
  · cases hu
  · cases hrow
  · cases hwaits

/-! ## What is acknowledged is remembered -/

/-- What is stored under the id of anything but a message is remembered. -/
theorem Kinded.remembers (h : w.Kinded kinds)
    (hclassed : w.Classed fun updateId => kinds updateId = .trigger) (hprepared : w.EventsPrepared)
    (hkind : kinds updateId ≠ .message) (hstored : w.db.Stored updateId) :
    w.db.Remembers updateId := by
  obtain ⟨row, hrow, hstatus⟩ := hstored
  refine ⟨row, hrow, hstatus.imp id fun hrecorded => ⟨hrecorded, ?_⟩⟩
  have hmem := Table.mem_of_lookup hrow
  have hid : row.updateId = updateId := Table.key_of_lookup hrow
  -- what is recorded is a business update, and this one is no message
  have hbusiness : row.eventType.isBusiness = true := by
    obtain ⟨event, preparedIn, -, hin⟩ := hprepared.recorded row hmem hrecorded
    rw [← hin.eventType]
    rcases hin.issued.genuine.eventType with htype | ⟨htype, -⟩
    · rw [htype]
      rfl
    · rw [htype]
      rfl
  have htrigger : kinds updateId = .trigger := by
    have howner := h.rows row hmem hbusiness
    rw [hid] at howner
    cases hkinds : kinds updateId with
    | trigger => rfl
    | message => exact absurd hkinds hkind
    | owner => exact absurd hkinds howner
  have hclass := hclassed.rows row hmem hbusiness
  rw [hid, decide_eq_true htrigger] at hclass
  unfold EventType.isTrigger at hclass
  exact of_decide_eq_true hclass

theorem receiptOf_eq_some {α : Type} {id : Int} {result : Except Error α}
    (h : receiptOf id result = some updateId) : id = updateId ∧ ∃ a, result = .ok a := by
  unfold receiptOf at h
  split at h
  · next a => exact ⟨Option.some.inj h, a, rfl⟩
  · cases h

/-- **What a step acknowledges, the log remembers after it.** -/
theorem remembers_of_acknowledges (hkinded : w.Kinded kinds)
    (hclassed : w.Classed fun updateId => kinds updateId = .trigger) (hprepared : w.EventsPrepared)
    (hop : DeliversKinds kinds w op) (hstep : w.step op = some w')
    (h : w.acknowledges op = some updateId) : w'.db.Remembers updateId := by
  have hkinded' := hkinded.step hprepared hop hstep
  have hprepared' := hprepared.step hstep
  have hclassed' := hclassed.step hprepared hop.delivers hstep
  -- the receipt of an Owner's update, and that of a trigger
  have howner (hkind : kinds updateId = .owner) (hstored : w'.db.Stored updateId) :
      w'.db.Remembers updateId :=
    hkinded'.remembers hclassed' hprepared' (by rw [hkind]; simp) hstored
  have htrigger (hsubject : w.worker.subject = some (updateId, true))
      (hwaits : w.worker.recordedId = some updateId) : w'.db.Remembers updateId := by
    have hkind : true = decide (kinds updateId = .trigger) := hclassed.subject _ hsubject
    refine hkinded'.remembers hclassed' hprepared' ?_ (hprepared.stored_remains
      (purges_none_of_recordedId hwaits hstep) hstep (hkinded.waits updateId hwaits))
    rw [of_decide_eq_true hkind.symm]
    simp
  have hof {α : Type} {x : Uow α} {id : Int} (hleaves : Txn.Leaves (·.Stored id) x)
      (hdb : w'.db = (commit x w.db).1) (hkind : UpdateKind.owner = kinds id)
      (hreceipt : receiptOf id (commit x w.db).2 = some updateId) : w'.db.Remembers updateId := by
    obtain ⟨rfl, a, hok⟩ := receiptOf_eq_some hreceipt
    exact howner hkind.symm (hdb ▸ hleaves _ _ _ (Txn.ok_of_commit hok))
  have hstepped {op : WorkerOp} {v : World} (hstep : w.step (.worker op) = some w')
      (hnext : w.stepWorker op = some v) : w' = v :=
    Option.some.inj (hstep.symm.trans hnext)
  unfold acknowledges at h
  split at h
  · next event preparedIn hw =>
    obtain ⟨hagain, h⟩ := Option.ite_none_right_eq_some.1 h
    obtain rfl := Option.some.inj h
    obtain rfl := hstepped hstep (by simp only [stepWorker, hw]; rfl)
    obtain ⟨row, hrow, hstatus⟩ := recordPreparedEvent_leaves (Txn.ok_of_commit hagain)
    rw [if_pos rfl] at hstatus
    refine ⟨row, ?_, .inl hstatus⟩
    rw [afterRecord_db]
    exact hrow
  · next now id hw =>
    obtain ⟨rfl, receipt, hok⟩ := receiptOf_eq_some h
    obtain rfl := hstepped hstep (by simp only [stepWorker, hw]; rfl)
    obtain ⟨row, hrow, hstatus⟩ := hprepared.apply_leaves (Txn.ok_of_commit hok)
    exact ⟨row, hrow, .inl hstatus⟩
  · next id connectionId occurredAt hw =>
    split at h
    · obtain rfl := Option.some.inj h
      exact htrigger (by rw [hw]; rfl) (by rw [hw]; rfl)
    · cases h
  · next hw =>
    obtain ⟨rfl, -⟩ := receiptOf_eq_some h
    exact htrigger (by rw [hw]; rfl) (by rw [hw]; rfl)
  · next id snapshot occurredAt hw =>
    obtain rfl := hstepped hstep (by simp only [stepWorker, hw]; rfl)
    exact hof (processOwnerCommand_leaves _ _ _) rfl (hop (id, .owner) rfl) h
  · next id snapshot occurredAt hw =>
    obtain rfl := hstepped hstep (by simp only [stepWorker, hw]; rfl)
    exact hof (processOwnerStart_leaves _ _ _) rfl (hop (id, .owner) rfl) h
  · next id replyChatId occurredAt hw =>
    obtain rfl := hstepped hstep (by simp only [stepWorker, hw]; rfl)
    exact hof (recordOwnerClaimRejection_leaves _ _) rfl (hop (id, .owner) rfl) h
  · next id claim tokenMatches now hw =>
    split at h
    · next snapshot s hsnapshot =>
      split at h
      · next hrefused =>
        obtain rfl := hstepped hstep (by
          simp only [stepWorker, hw, hsnapshot]
          exact if_pos hrefused)
        exact hof (recordOwnerClaimRejection_leaves _ _) rfl (hop (id, .owner) rfl) h
      · cases h
    · cases h
  · next answer now id claim snapshot hw =>
    have hdb : w'.db = (commit (commitOwnerClaim id claim snapshot answer now) w.db).1 := by
      simp only [World.step, stepWorker, hw] at hstep
      obtain ⟨-, hstep⟩ := Option.ite_none_right_eq_some.1 hstep
      exact congrArg World.db (Option.some.inj hstep).symm
    have hkind : UpdateKind.owner = kinds id := hop (id, .owner) (by
      unfold takesUp
      rw [hw]
      rfl)
    exact hof (commitOwnerClaim_leaves _ _ _ _) hdb hkind h
  · cases h

/-- A purge at an instant takes an old row out of the log. -/
structure Forgets (w w' : World) (updateId : Int) (now : DateTime) : Prop where
  purged : w.step (.worker (.purge now)) = some w'
  old : ∃ row, w.db.processedUpdate.lookup updateId = some row ∧
    row.receivedAt ≤ now - DateTime.days 7
  gone : w'.db.processedUpdate.lookup updateId = none

/-- **What is remembered stays so, until a purge finds it old.** -/
theorem EventsPrepared.remembers_step (h : w.EventsPrepared) (hstep : w.step op = some w')
    (hremembers : w.db.Remembers updateId) :
    w'.db.Remembers updateId ∨ ∃ now, w.Forgets w' updateId now := by
  obtain ⟨row, hrow, hstatus⟩ := hremembers
  cases hop : op.purges with
  | none =>
    obtain ⟨row', hrow', hmoves⟩ := h.remains hop hstep (Table.mem_of_lookup hrow)
    rw [Table.key_of_lookup hrow] at hrow'
    refine .inl ⟨row', hrow', ?_⟩
    rcases hmoves.status with rfl | ⟨-, happlied⟩
    · exact hstatus
    · exact .inl happlied
  | some now =>
    obtain ⟨rfl, rfl⟩ := step_purge hop hstep
    rcases (purgeHistory_purges now).commit w.db updateId with hsame | ⟨hgone, hold⟩
    · exact .inl ⟨row, hsame.trans hrow, hstatus⟩
    · exact .inr ⟨now, hstep, hold, hgone⟩

/-- **What is acknowledged is never lost.** In runs that take every update for what its id stands
for, an update whose delivery is answered with a receipt is remembered: from that step on the log
says that it has been applied, or keeps it as a recorded connection trigger, until a purge finds its
row more than seven days old. -/
theorem acknowledged_never_lost {w w₁ w' : World} {op : Op} {kinds : Int → UpdateKind}
    {updateId : Int} (h : service.ReachableBy (DeliversKinds kinds) w)
    (hop : DeliversKinds kinds w op) (hstep : w.step op = some w₁)
    (hreceipt : w.acknowledges op = some updateId)
    (hruns : service.Runs (DeliversKinds kinds) w₁ w') :
    w'.db.Remembers updateId ∨ ∃ v now v', service.Runs (DeliversKinds kinds) w₁ v ∧
      v.db.Remembers updateId ∧ v.Forgets v' updateId now ∧
      service.Runs (DeliversKinds kinds) v' w' := by
  have hclassed : w.Classed fun updateId => kinds updateId = .trigger :=
    classed (h.mono fun _ _ hdelivers => hdelivers.delivers)
  have hbegins : w₁.db.Remembers updateId :=
    remembers_of_acknowledges (kinded h) hclassed (eventsPrepared h) hop hstep hreceipt
  have h₁ : service.ReachableBy (DeliversKinds kinds) w₁ := h.step hop hstep
  induction hruns with
  | refl => exact .inl hbegins
  | @tail v w' op hruns hop' hstep' ih =>
    rcases ih with hremembers | ⟨u, now, u', hbefore, hremembers, hforgets, hafter⟩
    · have hv : service.ReachableBy (DeliversKinds kinds) v :=
        h₁.imp fun _ ⟨hinit, hr⟩ => ⟨hinit, hr.trans hruns⟩
      rcases (eventsPrepared hv).remembers_step hstep' hremembers with hkept | ⟨now, hforgets⟩
      · exact .inl hkept
      · exact .inr ⟨v, now, w', hruns, hremembers, hforgets, .refl _⟩
    · exact .inr ⟨u, now, u', hbefore, hremembers, hforgets, hafter.tail op hop' hstep'⟩

section

open Sample

/-- A connected service whose connection changes again. -/
def changedAgain : List Op :=
  Sample.connected false ++
    [.worker (.prepare 3 (raw .businessConnectionChanged "c" none none none 3)
        (preparer .allow .correct 3)),
      .worker .record, .worker .triggerSnapshot]

/-- Update 1 is the claim, and the others are triggers. -/
def changedAgainKinds (updateId : Int) : UpdateKind :=
  if updateId = 1 then .owner else .trigger

/-- Telegram does not answer the lookup of the trigger. -/
def lookupUnanswered : Op := .worker (.triggerAnswer (.error .transientExhausted) 3)

/-- The service crashes, is started again, and serves. -/
def restart (now : DateTime) : List Op :=
  [.crash, .worker (.boot false now), .worker (.initializeOwner now), .worker .startupSnapshot,
    .worker (.startupAnswer (found "c" 200) now), .worker (.recoverNext now),
    .worker (.recoverNext now), .worker (.serve signer)]

/-- The service waits for an update, with the trigger recorded. -/
def servesRecorded (w : World) (updateId : Int) : Bool :=
  (match w.worker with
    | .idle => true
    | _ => false) &&
    (w.db.processedUpdate.lookup updateId).any (·.status = .recorded)

/-- The trigger is acknowledged all the same, and there after a restart. -/
def acknowledgesLookup (w : World) : Bool :=
  w.acknowledges lookupUnanswered = some 3 && (w.step lookupUnanswered).any fun w₁ =>
    (service.runWhile (DeliversKinds changedAgainKinds) (restart 4) w₁).any (·.servesRecorded 3)

set_option maxRecDepth 100000 in
theorem acknowledged_never_lost_unanswered : ∃ w w₁ w' : World,
    service.ReachableBy (DeliversKinds changedAgainKinds) w ∧ w.step lookupUnanswered = some w₁ ∧
      w.acknowledges lookupUnanswered = some 3 ∧
      service.runWhile (DeliversKinds changedAgainKinds) (restart 4) w₁ = some w' ∧
      w'.servesRecorded 3 = true ∧
      (w'.db.Remembers 3 ∨ ∃ v now v',
        service.Runs (DeliversKinds changedAgainKinds) w₁ v ∧ v.db.Remembers 3 ∧
        v.Forgets v' 3 now ∧ service.Runs (DeliversKinds changedAgainKinds) v' w') := by
  obtain ⟨w, hw, hanswer⟩ : ∃ w, service.ReachableBy (DeliversKinds changedAgainKinds) w ∧
      acknowledgesLookup w = true :=
    Machine.reachableBy_of_runWhile _ changedAgain acknowledgesLookup ⟨0, rfl⟩
      (by decide +kernel)
  unfold acknowledgesLookup at hanswer
  rw [Bool.and_eq_true, decide_eq_true_eq] at hanswer
  obtain ⟨hreceipt, hlater⟩ := hanswer
  obtain ⟨w₁, hstep, hrestarts⟩ := (Option.any_eq_true _ _).1 hlater
  obtain ⟨w', hrun, hserves⟩ := (Option.any_eq_true _ _).1 hrestarts
  have hop : DeliversKinds changedAgainKinds w lookupUnanswered := by
    intro u hu
    cases hu
  have hruns := Machine.runs_of_runWhile _ hrun
  exact ⟨w, w₁, w', hw, hstep, hreceipt, hrun, hserves,
    acknowledged_never_lost hw hop hstep hreceipt hruns⟩

end

end World

end ChatHygiene
