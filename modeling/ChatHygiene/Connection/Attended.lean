import ChatHygiene.Connection.Retried
import ChatHygiene.Updates.Recovery
/-!
# Nothing is left pending

In a run that forgets nothing recorded, a serving worker has something to try
again for every connection that is pending. Redeliveries of a trigger are
triggers of the same connection.
-/

namespace ChatHygiene

open Txn (Respects commit)

variable {db db' : Database}

/-! ## Triggers -/

/-- The business event a step delivers, and the connection it is a trigger of. -/
def Op.deliversFor : Op → Option (Int × Option (Option String))
  | .worker (.prepare updateId raw _) =>
    some (updateId, if raw.isTrigger then some raw.connectionId else none)
  | _ => none

/-- The update that is delivered is the trigger of a connection, or none, as its id is. -/
def Redelivers (trigger : Int → Option (Option String)) (_ : World) (op : Op) : Prop :=
  ∀ u ∈ op.deliversFor, u.2 = trigger u.1

instance (trigger : Int → Option (Option String)) (w : World) (op : Op) :
    Decidable (Redelivers trigger w op) :=
  inferInstanceAs (Decidable (∀ u ∈ op.deliversFor, _))

variable {trigger : Int → Option (Option String)}

theorem Redelivers.delivers {w : World} {op : Op} (h : Redelivers trigger w op) :
    Delivers (fun updateId => (trigger updateId).isSome) w op := by
  intro u hu
  unfold Op.delivers at hu
  split at hu
  · next updateId raw preparer =>
    obtain rfl := Option.some.inj hu
    have hfor := h (updateId, if raw.isTrigger then some raw.connectionId else none) rfl
    dsimp only at hfor ⊢
    rw [← hfor]
    cases raw.isTrigger <;> rfl
  · cases hu

/-- The event is the trigger its update id says. -/
def PreparedEvent.TriggerOf (event : PreparedEvent) (trigger : Int → Option (Option String)) :
    Prop :=
  event.eventType = .businessConnectionChanged →
    trigger event.updateId = some event.facts.connectionId

/-- A trigger is prepared for the connection it names. -/
theorem prepareUpdate_triggerOf {preparer : EventPreparer} {updateId : Int}
    {raw : RawBusinessEvent} {event : PreparedEvent}
    (h : prepareUpdate preparer updateId raw db = .ok (event, db'))
    (hraw : (if raw.isTrigger then some raw.connectionId else none) = trigger updateId) :
    event.TriggerOf trigger := by
  intro htype
  obtain ⟨hid, htrigger⟩ := World.prepareUpdate_isTrigger h
  have hisTrigger : raw.isTrigger = true := by
    rw [← htrigger, htype]
    rfl
  have hkind : raw.kind = .businessConnectionChanged := by
    simpa [RawBusinessEvent.isTrigger] using hisTrigger
  obtain ⟨raw', s, hinert, hprepare⟩ := Txn.bind_ok_iff.1 h
  have hsame : raw' = raw := by
    unfold makePreclaimBusinessEventInert at hinert
    rw [if_pos (by simp [RawBusinessEvent.isBusinessMessage, hkind])] at hinert
    exact (Prod.mk.inj (Txn.pure_ok_iff.1 hinert)).1.symm
  obtain ⟨-, -, -, ⟨hconnection, -⟩, -⟩ := EventPreparer.prepare_ok hprepare
  rw [hid, ← hraw, if_pos hisTrigger, hconnection, hsame]

/-! ## Phases -/

/-- What the worker carries fits the database and the startup lookup that is pending. -/
def WorkerPhase.Fits (trigger : Int → Option (Option String)) (db : Database)
    (startupPending : Option String) : WorkerPhase → Prop
  | .prepared event _ => event.TriggerOf trigger
  | .triggered updateId connectionId _ => trigger updateId = some (some connectionId)
  | .triggerLookup updateId connectionId _ _ snapshot =>
    trigger updateId = some (some connectionId) ∧
      ∀ c ∈ db.businessConnection.rows, c.connectionId = connectionId →
        snapshot.trustedConnectionId = some connectionId
  | .startupLookup connectionId _ => ∀ c ∈ db.businessConnection.rows, c.connectionId = connectionId
  | .startupRetry connectionId _ => startupPending = some connectionId
  | _ => True

namespace World

variable {w w' : World} {op : Op}

/-- There is something to try again for the connection: a recorded trigger, or the lookup of the
start; or a failure to authenticate keeps every gate closed until the next start. -/
def Retries (w : World) (connectionId : String) : Prop :=
  (∃ updateId occurredAt, w.recordedTrigger updateId = some (connectionId, occurredAt)) ∨
    w.startupPending = some connectionId ∨ w.db.reconciliation.state = .authFailed

/-- Nothing is left pending. -/
structure Attended (trigger : Int → Option (Option String)) (w : World) : Prop where
  rows : ∀ row ∈ w.db.processedUpdate.rows, row.eventType = .businessConnectionChanged →
    ∃ event, row.event = some event ∧ trigger row.updateId = some event.facts.connectionId
  phase : w.worker.Fits trigger w.db w.startupPending
  pending : w.worker.started = true → ∀ c ∈ w.db.businessConnection.rows,
    c.reconciliationState = .pending → w.Retries c.connectionId

theorem fits_of_rests {phase : WorkerPhase} {pending : Option String} (h : phase.rests = true) :
    phase.Fits trigger db pending := by
  cases phase <;> first | exact trivial | cases h

theorem fits_afterRecord (w : World) {event : PreparedEvent} {preparedIn : Database}
    {pending : Option String} (hevent : event.TriggerOf trigger)
    (result : Except Error RecordReceipt) :
    (w.afterRecord event preparedIn result).worker.Fits trigger db pending := by
  unfold afterRecord
  split
  · exact trivial
  · exact trivial
  · dsimp only
    split
    · next htype =>
      have hfor := hevent htype
      split
      · next connectionId hconnection => exact hfor.trans (congrArg some hconnection)
      · exact trivial
    · exact trivial

/-- A snapshot sees the connection that is trusted. -/
theorem connectionReconciliationSnapshot_trusted {connectionId : String}
    {snapshot : ConnectionReconciliationSnapshot}
    (h : connectionReconciliationSnapshot connectionId db = .ok (snapshot, db')) :
    ∀ c ∈ db.businessConnection.rows, snapshot.trustedConnectionId = some c.connectionId := by
  unfold connectionReconciliationSnapshot at h
  split at h
  · cases h
  obtain ⟨candidate, -, h⟩ := Txn.bind_ok_of_readOnly (x := loadCandidate connectionId) (Respects.read _) h
  obtain ⟨trusted, htrusted, h⟩ := Txn.bind_ok_of_readOnly loadSingleTrustedConnection_readOnly h
  obtain ⟨guard, -, h⟩ := Txn.bind_ok_of_readOnly (x := loadCandidateGuard) (Respects.read _) h
  obtain ⟨rfl, -⟩ := Prod.mk.inj (Txn.pure_ok_iff.1 h)
  intro c hc
  rw [(loadSingleTrustedConnection_ok htrusted).2, Option.mem_toList] at hc
  rw [Option.mem_def.1 hc]
  rfl

theorem startupTarget_ok {target : Option (String × ConnectionReconciliationSnapshot)}
    (h : startupTarget db = .ok (target, db')) :
    ∀ c ∈ db.businessConnection.rows, ∃ snapshot, target = some (c.connectionId, snapshot) := by
  unfold startupTarget at h
  obtain ⟨trusted, htrusted, h⟩ := Txn.bind_ok_of_readOnly loadSingleTrustedConnection_readOnly h
  intro c hc
  rw [(loadSingleTrustedConnection_ok htrusted).2, Option.mem_toList] at hc
  obtain rfl := Option.mem_def.1 hc
  obtain ⟨snapshot, -, h⟩ :=
    Txn.bind_ok_of_readOnly (connectionReconciliationSnapshot_readOnly _) h
  exact ⟨snapshot, (Prod.mk.inj (Txn.pure_ok_iff.1 h)).1.symm⟩

theorem triggerSnapshot_ok {connectionId : String} {owner : OwnerIdentity}
    {snapshot : ConnectionReconciliationSnapshot}
    (h : triggerSnapshot connectionId db = .ok (some (owner, snapshot), db')) :
    ∀ c ∈ db.businessConnection.rows, snapshot.trustedConnectionId = some c.connectionId := by
  unfold triggerSnapshot loadOwnerLifecycleState at h
  rw [Txn.read_bind_apply] at h
  cases howner : db.ownerIdentity with
  | pending =>
    rw [howner] at h
    cases h
  | ready current =>
    rw [howner] at h
    obtain ⟨snapshot', hsnapshot, h⟩ :=
      Txn.bind_ok_of_readOnly (connectionReconciliationSnapshot_readOnly _) h
    obtain ⟨hsame, -⟩ := Prod.mk.inj (Txn.pure_ok_iff.1 h)
    obtain ⟨-, rfl⟩ := Prod.mk.inj (Option.some.inj hsame)
    exact connectionReconciliationSnapshot_trusted hsnapshot

/-- **What the worker goes on with fits what it finds.** -/
theorem Attended.stepWorker_fits {op : WorkerOp} (h : w.Attended trigger)
    (hop : Redelivers trigger w (.worker op)) (hstep : w.stepWorker op = some w') :
    w'.worker.Fits trigger w'.db w'.startupPending := by
  have hphase := h.phase
  cases stepWorker_step hstep with
  | rests hrests => exact fits_of_rests hrests
  | takesOn phase htakes hw' =>
    subst hw'
    cases htakes with
    | startupLookup hw hread =>
      intro c hc
      obtain ⟨snapshot, hsame⟩ := startupTarget_ok hread c hc
      exact (Prod.mk.inj (Option.some.inj hsame)).1.symm
    | prepared hw hraw hprepare => exact prepareUpdate_triggerOf hprepare (hop _ rfl)
    | triggerLookup hw hread =>
      rw [hw] at hphase
      refine ⟨hphase, fun c hc hid => ?_⟩
      rw [← hid]
      exact triggerSnapshot_ok hread c hc
    | triggered hw hrecorded =>
      obtain ⟨row, event, hrow, hevent, hid, -, htrigger⟩ := recordedTrigger_eq_some hrecorded
      obtain ⟨event', hevent', hfor⟩ :=
        h.rows row (Table.mem_of_lookup hrow) (ProcessedUpdate.eventType_of_isTrigger htrigger)
      obtain rfl : event = event' := Option.some.inj (hevent.symm.trans hevent')
      rw [hid, Table.key_of_lookup hrow] at hfor
      exact hfor
    | startupRetry hw hpending => exact hpending
    | claimLookup hw => exact trivial
  | records event preparedIn hw hop' hw' =>
    subst hw'
    rw [hw] at hphase
    exact fits_afterRecord _ hphase _

/-! ## Steps -/

/-- **A recorded trigger is kept**, unless the step applies it. -/
theorem EventsPrepared.recordedTrigger_of_step (h : w.EventsPrepared) (hpurge : PurgesInTime w op)
    (hstep : w.step op = some w') {updateId : Int} {connectionId : String} {occurredAt : DateTime}
    (hrecorded : w.recordedTrigger updateId = some (connectionId, occurredAt)) :
    w'.recordedTrigger updateId = some (connectionId, occurredAt) ∨
      (∃ now, w.Commits op (.apply updateId now)) ∨
      ∃ connectionId occurredAt owner snapshot answer now,
        w.Commits op (.trigger updateId connectionId occurredAt owner snapshot answer now) := by
  obtain ⟨row, event, hrow, hevent, hid, hstatus, htrigger⟩ := recordedTrigger_eq_some hrecorded
  have hkept (hsame : w'.db.processedUpdate.lookup updateId = w.db.processedUpdate.lookup updateId) :
      w'.recordedTrigger updateId = some (connectionId, occurredAt) := by
    rw [← hrecorded]
    unfold recordedTrigger
    rw [hsame]
  obtain ⟨row', hrow', hmoves⟩ :=
    (h.remains_iff hstep).2 hpurge row (Table.mem_of_lookup hrow) hstatus
  rw [show row.updateId = updateId from Table.key_of_lookup hrow] at hrow'
  rcases step_db hstep with hdb | ⟨x, hx, hdb⟩
  · exact .inl (hkept (by rw [hdb]))
  by_cases hrecord : ∃ event, x = .record event
  · obtain ⟨event', rfl⟩ := hrecord
    refine .inl (hkept ?_)
    rw [hrow, hdb, ← Table.key_of_lookup hrow]
    exact Table.lookup_of_mem (recordPreparedEvent_keeps (Table.mem_of_lookup hrow))
  by_cases hpurges : ∃ now, x = .purge now
  · obtain ⟨now, rfl⟩ := hpurges
    refine .inl (hkept ?_)
    rcases (purgeHistory_purges now).commit w.db updateId with hsame | ⟨hgone, -⟩
    · rw [hdb]
      exact hsame
    · rw [hdb] at hrow'
      exact absurd (hgone.symm.trans hrow') (by simp)
  have hlog := Transaction.log h.noConnectionChange (fun event hx => hrecord ⟨event, hx⟩)
    fun now hx => hpurges ⟨now, hx⟩
  rcases hlog with hsame | ⟨updateId', hsubject, hlog⟩
  · exact .inl (hkept (by rw [hdb, hsame]))
  by_cases hid' : updateId = updateId'
  · subst hid'
    rcases Transaction.after_of_stored hsubject hrow with
      ⟨now, rfl⟩ | ⟨connectionId, occurredAt, owner, snapshot, answer, now, rfl⟩ | hsame
    · exact .inr (.inl ⟨now, hx⟩)
    · exact .inr (.inr ⟨_, _, _, _, _, _, hx⟩)
    · exact .inl (hkept (by rw [hdb, hsame]))
  · exact .inl (hkept (by rw [hdb]; exact hlog.others updateId hid'))

/-- A trigger is not carried out as a message. -/
theorem Classed.not_applied (h : w.Classed fun updateId => (trigger updateId).isSome)
    (hrecovering : ∀ us, w.worker.remaining = some us → w.Recovering us) {updateId : Int}
    {now : DateTime} (hx : w.Commits op (.apply updateId now)) {connectionId : String}
    {occurredAt : DateTime} :
    w.recordedTrigger updateId ≠ some (connectionId, occurredAt) := by
  intro hrecorded
  obtain ⟨row, event, hrow, -, -, hstatus, htrigger⟩ := recordedTrigger_eq_some hrecorded
  have hkey := Table.key_of_lookup hrow
  cases hx with
  | @recover u us now hworker hnot =>
    -- what recovery lists is the row itself
    have hlisted := ((hrecovering (u :: us) (by rw [hworker]; rfl)).listed u List.mem_cons_self).1
    have hsame : row = u := Table.eq_of_key_eq (Table.mem_of_lookup hrow) hlisted hkey
    rw [← hsame, htrigger] at hnot
    cases hnot
  | apply hworker =>
    have htype := ProcessedUpdate.eventType_of_isTrigger htrigger
    have hrows := h.rows row (Table.mem_of_lookup hrow) (by rw [htype]; rfl)
    have hsubject := h.subject (updateId, false) (by rw [hworker]; rfl)
    rw [htype, hkey] at hrows
    exact absurd (hsubject.trans hrows.symm) (by simp [EventType.isTrigger])

/-- What is to be tried again stays so. -/
theorem Retries.of_kept {connectionId : String} (h : w.Retries connectionId)
    (htrigger : ∀ updateId occurredAt, w.recordedTrigger updateId = some (connectionId, occurredAt) →
      w'.recordedTrigger updateId = some (connectionId, occurredAt))
    (hstartup : w'.startupPending = w.startupPending)
    (hfailed : w.db.reconciliation.state = .authFailed →
      w'.db.reconciliation.state = .authFailed) : w'.Retries connectionId := by
  rcases h with ⟨updateId, occurredAt, hrecorded⟩ | hpending | hclosed
  · exact .inl ⟨updateId, occurredAt, htrigger _ _ hrecorded⟩
  · exact .inr (.inl (hstartup.trans hpending))
  · exact .inr (.inr (hfailed hclosed))

/-- A step that gates nothing more leaves nothing pending. -/
theorem Retries.of_gateStep {gated : Option String} (hgate : GateStep gated w.db w'.db)
    (hpending : ∀ c ∈ w.db.businessConnection.rows, c.reconciliationState = .pending →
      w.Retries c.connectionId)
    (htrigger : ∀ connectionId updateId occurredAt,
      w.recordedTrigger updateId = some (connectionId, occurredAt) →
      w'.recordedTrigger updateId = some (connectionId, occurredAt))
    (hstartup : w'.startupPending = w.startupPending)
    (hgated : ∀ connectionId, gated = some connectionId → w'.Retries connectionId)
    {c : BusinessConnectionRecord} (hc : c ∈ w'.db.businessConnection.rows)
    (hstate : c.reconciliationState = .pending) : w'.Retries c.connectionId := by
  rcases hgate with hfailed | ⟨hnot, hby⟩
  · exact .inr (.inr hfailed)
  · rcases hby c hc hstate with ⟨c₀, hc₀, hid, hwas⟩ | hthis
    · rw [← hid]
      exact (hpending c₀ hc₀ hwas).of_kept (htrigger _) hstartup fun hfailed => absurd hfailed hnot
    · exact hgated _ hthis

/-- Nothing but a retry of the startup lookup ends its being pending, while the process runs. -/
theorem step_startupPending (hstep : w.step op = some w') (hstarted : w.worker.started = true)
    (hstarted' : w'.worker.started = true) :
    w'.startupPending = w.startupPending ∨
      ∃ answer now, op = .worker (.startupRetryAnswer answer now) := by
  cases op with
  | crash =>
    cases hstep
    cases hstarted'
  | dispatcher op =>
    obtain ⟨-, h⟩ := Option.ite_none_right_eq_some.1 hstep
    exact .inl (stepDispatcher_frame h).2.1
  | worker op =>
    cases stepWorker_step hstep with
    | rests _ _ _ _ _ hstartup =>
      rcases hstartup with hsame | hnot | ⟨answer, now, rfl⟩
      · exact .inl hsame
      · rw [hstarted] at hnot
        cases hnot
      · exact .inr ⟨answer, now, rfl⟩
    | takesOn phase htakes hw' =>
      subst hw'
      exact .inl rfl
    | records event preparedIn hw hop hw' =>
      subst hw'
      exact .inl (afterRecord_startupPending ..)

/-- **A retry of the startup lookup** leaves nothing pending. -/
theorem Attended.startupRetry (h : w.Attended trigger) (hprepared : w.EventsPrepared)
    {answer : LookupAnswer} {now : DateTime}
    (hpurge : PurgesInTime w (.worker (.startupRetryAnswer answer now)))
    (hstep : w.step (.worker (.startupRetryAnswer answer now)) = some w')
    {c : BusinessConnectionRecord} (hc : c ∈ w'.db.businessConnection.rows)
    (hstate : c.reconciliationState = .pending) : w'.Retries c.connectionId := by
  cases hworker : w.worker with
  | startupRetry connectionId snapshot =>
    have hpending : w.startupPending = some connectionId := by
      have hphase := h.phase
      rw [hworker] at hphase
      exact hphase
    have htrigger (id : String) (updateId : Int) (occurredAt : DateTime)
        (hrecorded : w.recordedTrigger updateId = some (id, occurredAt)) :
        w'.recordedTrigger updateId = some (id, occurredAt) := by
      rcases hprepared.recordedTrigger_of_step hpurge hstep hrecorded with
        hkept | ⟨now, hx⟩ | ⟨_, _, _, _, _, _, hx⟩
      · exact hkept
      · cases hx
      · cases hx
    have hattended := h.pending (by rw [hworker]; rfl)
    simp only [World.step, stepWorker, hworker] at hstep
    obtain ⟨hvalid, hstep⟩ := Option.ite_none_right_eq_some.1 hstep
    obtain rfl := Option.some.inj hstep
    cases hx : reconcileTrustedCurrentState connectionId snapshot answer now w.db with
    | error error =>
      simp only [commitIdle, commitWorker, Txn.commit_of_error hx] at hc htrigger ⊢
      exact (hattended c hc hstate).of_kept (htrigger _) rfl id
    | ok r =>
      obtain ⟨result, db'⟩ := r
      have hgate := (reconcileTrustedCurrentState_ok hx).gateStep hvalid
      simp only [commitIdle, commitWorker, Txn.commit_of_ok hx] at hc htrigger ⊢
      cases result with
      | converged =>
        obtain ⟨hne, c₀, hc₀, hid, hwas⟩ := reconcileTrustedCurrentState_cleared hx c hc hstate
        rcases hattended c₀ hc₀ hwas with ⟨updateId, occurredAt, hrecorded⟩ | hstartup | hclosed
        · rw [hid] at hrecorded
          exact .inl ⟨updateId, occurredAt, htrigger _ _ _ hrecorded⟩
        · -- the connection that was looked up is not pending any more
          rw [hpending, hid] at hstartup
          exact absurd (Option.some.inj hstartup).symm hne
        · rcases hgate with hfailed | ⟨hnot, -⟩
          · exact .inr (.inr hfailed)
          · exact absurd hclosed hnot
      | pending transient | authenticationFailed =>
        exact Retries.of_gateStep hgate hattended htrigger rfl
          (fun id hid => .inr (.inl (hpending.trans hid))) hc hstate
  | _ => simp [World.step, stepWorker, hworker] at hstep

/-- The connection of a recorded trigger is the one its update id says. -/
theorem Attended.recordedTrigger (h : w.Attended trigger) {updateId : Int} {connectionId : String}
    {occurredAt : DateTime}
    (hrecorded : w.recordedTrigger updateId = some (connectionId, occurredAt)) :
    trigger updateId = some (some connectionId) := by
  obtain ⟨row, event, hrow, hevent, hid, -, htrigger⟩ := recordedTrigger_eq_some hrecorded
  obtain ⟨event', hevent', hfor⟩ :=
    h.rows row (Table.mem_of_lookup hrow) (ProcessedUpdate.eventType_of_isTrigger htrigger)
  obtain rfl : event = event' := Option.some.inj (hevent.symm.trans hevent')
  rw [← hid, ← hfor]
  exact congrArg trigger (Table.key_of_lookup hrow).symm

/-- **A trigger that is answered** leaves nothing pending. -/
theorem Attended.triggerAnswer (h : w.Attended trigger) (hprepared : w.EventsPrepared)
    (hsingle : w.db.SingleTrusted) {answer : LookupAnswer} {now : DateTime}
    (hpurge : PurgesInTime w (.worker (.triggerAnswer answer now)))
    (hstep : w.step (.worker (.triggerAnswer answer now)) = some w')
    {c : BusinessConnectionRecord} (hc : c ∈ w'.db.businessConnection.rows)
    (hstate : c.reconciliationState = .pending) : w'.Retries c.connectionId := by
  cases hworker : w.worker with
  | triggerLookup updateId connectionId occurredAt owner snapshot =>
    obtain ⟨hnamed, hmatching⟩ : trigger updateId = some (some connectionId) ∧
        ∀ c ∈ w.db.businessConnection.rows, c.connectionId = connectionId →
          snapshot.trustedConnectionId = some connectionId := by
      have hphase := h.phase
      rw [hworker] at hphase
      exact hphase
    -- the triggers of other connections are of other updates
    have htrigger (id : String) (hne : id ≠ connectionId) (updateId' : Int) (at' : DateTime)
        (hrecorded : w.recordedTrigger updateId' = some (id, at')) :
        w'.recordedTrigger updateId' = some (id, at') := by
      rcases hprepared.recordedTrigger_of_step hpurge hstep hrecorded with
        hkept | ⟨now, hx⟩ | ⟨_, _, _, _, _, _, hx⟩
      · exact hkept
      · cases hx
      · cases hx with
        | trigger hworker' =>
          rw [hworker] at hworker'
          obtain ⟨rfl, -⟩ := WorkerPhase.triggerLookup.inj hworker'
          have hsame := (h.recordedTrigger hrecorded).symm.trans hnamed
          exact absurd (Option.some.inj (Option.some.inj hsame)) hne
    have hattended := h.pending (by rw [hworker]; rfl)
    simp only [World.step, stepWorker, hworker] at hstep
    obtain ⟨hvalid, hstep⟩ := Option.ite_none_right_eq_some.1 hstep
    obtain rfl := Option.some.inj hstep
    have hsame {s : Database} (hs : s = w.db) (hc : c ∈ s.businessConnection.rows) :
        (World.Retries { w with db := s, worker := .idle } c.connectionId) := by
      subst hs
      exact (hattended c hc hstate).of_kept (fun _ _ => id) rfl id
    cases hx : reconcileConnectionTrigger updateId connectionId occurredAt owner snapshot answer now
        w.db with
    | error error =>
      simp only [commitIdle, commitWorker, Txn.commit_of_error hx] at hc ⊢
      exact hsame rfl hc
    | ok r =>
      obtain ⟨application, db'⟩ := r
      simp only [commitIdle, commitWorker, Txn.commit_of_ok hx] at hc htrigger ⊢
      cases application with
      | retry transient =>
        rcases reconcileConnectionTrigger_retried hx with hrolled | ⟨hfailed, -⟩
        · exact hsame hrolled hc
        · exact .inr (.inr hfailed)
      | commit =>
        obtain ⟨hne, c₀, hc₀, hid, hwas⟩ :=
          reconcileConnectionTrigger_cleared hvalid hsingle hmatching hx c hc hstate
        have hbefore := hattended c₀ hc₀ hwas
        rw [hid] at hbefore
        refine hbefore.of_kept (htrigger _ hne) rfl fun hfailed => ?_
        rcases (reconcileConnectionTrigger_ok hx).gateStep hvalid with hclosed | ⟨hnot, -⟩
        · exact hclosed
        · exact absurd hfailed hnot
  | _ => simp [World.step, stepWorker, hworker] at hstep

/-- **A recording** leaves nothing pending but what it records a trigger for. -/
theorem Attended.record (h : w.Attended trigger) (hprepared : w.EventsPrepared)
    (hpurge : PurgesInTime w (.worker .record)) (hstep : w.step (.worker .record) = some w')
    {c : BusinessConnectionRecord} (hc : c ∈ w'.db.businessConnection.rows)
    (hstate : c.reconciliationState = .pending) : w'.Retries c.connectionId := by
  cases hworker : w.worker with
  | prepared event preparedIn =>
    have htrigger (id : String) (updateId : Int) (occurredAt : DateTime)
        (hrecorded : w.recordedTrigger updateId = some (id, occurredAt)) :
        w'.recordedTrigger updateId = some (id, occurredAt) := by
      rcases hprepared.recordedTrigger_of_step hpurge hstep hrecorded with
        hkept | ⟨now, hx⟩ | ⟨_, _, _, _, _, _, hx⟩
      · exact hkept
      · cases hx
      · cases hx
    have hattended := h.pending (by rw [hworker]; rfl)
    have hstartup : w'.startupPending = w.startupPending := by
      simp only [World.step, stepWorker, hworker] at hstep
      obtain rfl := Option.some.inj hstep
      unfold afterRecord
      split <;> rfl
    have hdb : w'.db = (commit (recordPreparedEvent event) w.db).1 := by
      simp only [World.step, stepWorker, hworker] at hstep
      obtain rfl := Option.some.inj hstep
      exact afterRecord_db _ _ _ _
    cases hx : recordPreparedEvent event w.db with
    | error error =>
      rw [Txn.commit_of_error hx] at hdb
      rw [hdb] at hc
      exact (hattended c hc hstate).of_kept (htrigger _) hstartup fun hfailed => hdb ▸ hfailed
    | ok r =>
      obtain ⟨receipt, db'⟩ := r
      rw [Txn.commit_of_ok hx] at hdb
      dsimp only at hdb
      subst hdb
      rcases recordPreparedEvent_gateStep hx with hgate | ⟨connectionId, rfl, hisTrigger, hid, hgate⟩
      · refine Retries.of_gateStep hgate hattended htrigger hstartup (fun id hid' => ?_) hc hstate
        cases hid'
      · refine Retries.of_gateStep hgate hattended htrigger hstartup (fun id hid' => ?_) hc hstate
        obtain rfl := Option.some.inj hid'
        -- the trigger that gates it is recorded with the gate
        rcases recordPreparedEvent_ok hx with ⟨-, -, hrows⟩ | ⟨hno, -⟩
        · refine .inl ⟨event.updateId, event.occurredAt, ?_⟩
          have hrow : w'.db.processedUpdate.lookup event.updateId = some event.row := by
            refine Table.lookup_of_mem (r := event.row) ?_
            rw [hrows]
            exact List.mem_append_right _ (List.mem_singleton.2 rfl)
          have hrowTrigger : event.row.isTrigger = true := hisTrigger
          unfold World.recordedTrigger
          rw [hrow]
          simpa [PreparedEvent.row, hid] using hrowTrigger
        · exact absurd rfl hno
  | _ => simp [World.step, stepWorker, hworker] at hstep

/-- **The start** leaves nothing pending but what its own lookup is to be tried again for. -/
theorem Attended.starts (h : w.Attended trigger) (hstep : w.step op = some w')
    (hnot : w.worker.started = false) (hstarted : w'.worker.started = true)
    {c : BusinessConnectionRecord} (hc : c ∈ w'.db.businessConnection.rows)
    (hstate : c.reconciliationState = .pending) : w'.Retries c.connectionId := by
  have hno {α : Type} {next : α → WorkerPhase} {r : Except Error α} {P : Prop}
      (hnext : ∀ a, (next a).started = false) (h : (orDown next r).started = true) : P := by
    cases r with
    | error error => cases h
    | ok a => cases (hnext a).symm.trans h
  cases op with
  | crash =>
    cases hstep
    cases hstarted
  | dispatcher op =>
    obtain ⟨hserving, -⟩ := Option.ite_none_right_eq_some.1 hstep
    cases hworker : w.worker <;>
      simp [hworker, WorkerPhase.started, WorkerPhase.serving] at hnot hserving
  | worker op =>
    replace hstep : w.stepWorker op = some w' := hstep
    cases hworker : w.worker with
    | down =>
      cases op with
      | boot settings now =>
        simp only [stepWorker, hworker] at hstep
        obtain rfl := Option.some.inj hstep
        exact hno (fun _ => rfl) hstarted
      | storageFailure =>
        simp only [stepWorker, hworker] at hstep
        obtain rfl := Option.some.inj hstep
        cases hstarted
      | _ => simp [stepWorker, hworker] at hstep
    | normalized =>
      cases op with
      | initializeOwner now =>
        simp only [stepWorker, hworker] at hstep
        obtain rfl := Option.some.inj hstep
        exact hno (fun _ => rfl) hstarted
      | storageFailure =>
        simp only [stepWorker, hworker] at hstep
        obtain rfl := Option.some.inj hstep
        cases hstarted
      | _ => simp [stepWorker, hworker] at hstep
    | ownerReady =>
      cases op with
      | startupSnapshot =>
        simp only [stepWorker, hworker] at hstep
        obtain rfl := Option.some.inj hstep
        have hdb : (commit startupTarget w.db).1 = w.db :=
          Txn.commit_fst_of_readOnly startupTarget_readOnly _
        cases hx : (commit startupTarget w.db).2 with
        | error error =>
          simp only [commitWorker, hx, orDown] at hstarted
          cases hstarted
        | ok target =>
          -- a connection that is stored is looked up
          obtain ⟨snapshot, rfl⟩ := startupTarget_ok (Txn.ok_of_commit hx) c (hdb ▸ hc)
          simp only [commitWorker, hx, orDown] at hstarted
          cases hstarted
      | storageFailure =>
        simp only [stepWorker, hworker] at hstep
        obtain rfl := Option.some.inj hstep
        cases hstarted
      | _ => simp [stepWorker, hworker] at hstep
    | startupLookup connectionId snapshot =>
      have hall : ∀ c ∈ w.db.businessConnection.rows, c.connectionId = connectionId := by
        have hphase := h.phase
        rw [hworker] at hphase
        exact hphase
      cases op with
      | startupAnswer answer now =>
        simp only [stepWorker, hworker] at hstep
        obtain ⟨hvalid, hstep⟩ := Option.ite_none_right_eq_some.1 hstep
        obtain rfl := Option.some.inj hstep
        cases hx : reconcileTrustedCurrentState connectionId snapshot answer now w.db with
        | error error =>
          simp only [Txn.commit_of_error hx, afterStartupLookup] at hstarted
          cases hstarted
        | ok r =>
          obtain ⟨result, db'⟩ := r
          simp only [Txn.commit_of_ok hx] at hstarted hc ⊢
          cases result with
          | converged =>
            obtain ⟨hne, c₀, hc₀, hid, -⟩ := reconcileTrustedCurrentState_cleared hx c hc hstate
            exact absurd (hid.symm.trans (hall c₀ hc₀)) hne
          | pending transient =>
            rcases (reconcileTrustedCurrentState_ok hx).gateStep hvalid with hfailed | ⟨-, hby⟩
            · exact .inr (.inr hfailed)
            · rcases hby c hc hstate with ⟨c₀, hc₀, hid, -⟩ | hthis
              · exact .inr (.inl (congrArg some ((hall c₀ hc₀).symm.trans hid)))
              · exact .inr (.inl hthis)
          | authenticationFailed => cases hstarted
      | storageFailure =>
        simp only [stepWorker, hworker] at hstep
        obtain rfl := Option.some.inj hstep
        cases hstarted
      | _ => simp [stepWorker, hworker] at hstep
    | _ => simp [hworker, WorkerPhase.started] at hnot

/-- What the worker has fitted to still fits when no connection is new. -/
theorem fits_of_withheld {phase : WorkerPhase} {pending : Option String} (h : Withheld db db')
    (hfits : phase.Fits trigger db pending) : phase.Fits trigger db' pending := by
  have hid {P : String → Prop} (hP : ∀ c ∈ db.businessConnection.rows, P c.connectionId)
      (c' : BusinessConnectionRecord) (hc' : c' ∈ db'.businessConnection.rows) :
      P c'.connectionId := by
    obtain ⟨c, hc, hwithholds⟩ := h.row hc'
    rw [hwithholds.connectionId]
    exact hP c hc
  cases phase with
  | startupLookup connectionId snapshot => exact hid (P := (· = connectionId)) hfits
  | triggerLookup updateId connectionId occurredAt owner snapshot =>
    exact ⟨hfits.1, hid (P := fun id => id = connectionId → _) hfits.2⟩
  | _ => exact hfits

/-- **A step leaves nothing pending.** -/
theorem Attended.step (h : w.Attended trigger) (hprepared : w.EventsPrepared)
    (hclassed : w.Classed fun updateId => (trigger updateId).isSome)
    (hsingle : w.db.SingleTrusted)
    (hrecovering : ∀ us, w.worker.remaining = some us → w.Recovering us)
    (hop : Redelivers trigger w op) (hpurge : PurgesInTime w op) (hstep : w.step op = some w') :
    w'.Attended trigger := by
  refine ⟨fun row hrow htype => ?_, ?_, fun hstarted c hc hstate => ?_⟩
  · rcases hprepared.row_moves hstep hrow (by rw [htype]; rfl) with
      ⟨u, hu, hmoves⟩ | ⟨event, preparedIn, hworker, rfl⟩
    · obtain ⟨event, hevent, hfor⟩ :=
        h.rows u (Table.mem_of_lookup hu) (hmoves.eventType.symm.trans htype)
      rw [Table.key_of_lookup hu] at hfor
      exact ⟨event, hmoves.event.trans hevent, hfor⟩
    · have hphase := h.phase
      rw [hworker] at hphase
      exact ⟨event, rfl, hphase htype⟩
  · cases op with
    | worker op => exact h.stepWorker_fits hop hstep
    | crash =>
      cases hstep
      exact trivial
    | dispatcher op =>
      obtain ⟨-, hdispatch⟩ := Option.ite_none_right_eq_some.1 hstep
      obtain ⟨hworker, hstartup, -⟩ := stepDispatcher_frame hdispatch
      rw [hworker, hstartup]
      refine fits_of_withheld ?_ h.phase
      rcases step_db hstep with hdb | ⟨x, hx, hdb⟩
      · exact .of_eq (by rw [hdb])
      · rw [hdb]
        cases hx with
        | claim => exact .of_eq (((Transaction.claim _).after_frame
            hprepared.noConnectionChange).businessConnection (by simp) (by simp))
        | finish => exact (finishDispatch_withheld _ _ _).commit w.db
  · cases hwas : w.worker.started with
    | false => exact h.starts hstep hwas hstarted hc hstate
    | true =>
      rcases step_startupPending hstep hwas hstarted with hstartup | ⟨answer, now, rfl⟩
      · by_cases hrecord : op = .worker .record
        · subst hrecord
          exact h.record hprepared hpurge hstep hc hstate
        by_cases hanswer : ∃ answer now, op = .worker (.triggerAnswer answer now)
        · obtain ⟨answer, now, rfl⟩ := hanswer
          exact h.triggerAnswer hprepared hsingle hpurge hstep hc hstate
        by_cases hretry : ∃ answer now, op = .worker (.startupRetryAnswer answer now)
        · obtain ⟨answer, now, rfl⟩ := hretry
          exact h.startupRetry hprepared hpurge hstep hc hstate
        -- no other step gates a connection, or ends what is to be tried again
        have htrigger (id : String) (updateId : Int) (occurredAt : DateTime)
            (hrecorded : w.recordedTrigger updateId = some (id, occurredAt)) :
            w'.recordedTrigger updateId = some (id, occurredAt) := by
          rcases hprepared.recordedTrigger_of_step hpurge hstep hrecorded with
            hkept | ⟨now, hx⟩ | ⟨_, _, _, _, _, _, hx⟩
          · exact hkept
          · exact absurd hrecorded (hclassed.not_applied hrecovering hx)
          · cases hx with
            | trigger => exact absurd ⟨_, _, rfl⟩ hanswer
        have hgate : GateStep none w.db w'.db := by
          rcases step_db hstep with hdb | ⟨x, hx, hdb⟩
          · rw [hdb]
            exact refl _
          rw [hdb]
          refine x.gateStep hprepared.noConnectionChange ?_ ?_ ?_
          · cases hx with
            | startup hworker =>
              rw [hworker] at hwas
              cases hwas
            | startupRetry => exact absurd ⟨_, _, rfl⟩ hretry
            | trigger => exact absurd ⟨_, _, rfl⟩ hanswer
            | _ => rfl
          · rintro now rfl
            cases hx with
            | boot hworker =>
              rw [hworker] at hwas
              cases hwas
          · rintro event rfl
            cases hx with
            | record => exact hrecord rfl
        exact Retries.of_gateStep hgate (h.pending hwas) htrigger hstartup nofun hc hstate
      · exact h.startupRetry hprepared hpurge hstep hc hstate

/-- **A trigger that ends is settled**: its connection is not pending any more. -/
theorem Attended.settles (h : w.Attended trigger) (hprepared : w.EventsPrepared)
    (hclassed : w.Classed fun updateId => (trigger updateId).isSome)
    (hsingle : w.db.SingleTrusted)
    (hrecovering : ∀ us, w.worker.remaining = some us → w.Recovering us)
    (hpurge : PurgesInTime w op) (hstep : w.step op = some w') {updateId : Int}
    {connectionId : String} {occurredAt : DateTime}
    (hrecorded : w.recordedTrigger updateId = some (connectionId, occurredAt))
    (hends : w'.recordedTrigger updateId = none) :
    ∀ c ∈ w'.db.businessConnection.rows, c.connectionId = connectionId →
      c.reconciliationState ≠ .pending := by
  intro c hc hid hstate
  rcases hprepared.recordedTrigger_of_step hpurge hstep hrecorded with
    hkept | ⟨now, hx⟩ | ⟨id, at', owner, snapshot, answer, now, hx⟩
  · rw [hends] at hkept
    cases hkept
  · exact hclassed.not_applied hrecovering hx hrecorded
  · cases hx with
    | trigger hworker hvalid =>
      obtain ⟨hnamed, hmatching⟩ : trigger updateId = some (some id) ∧
          ∀ c ∈ w.db.businessConnection.rows, c.connectionId = id →
            snapshot.trustedConnectionId = some id := by
        have hphase := h.phase
        rw [hworker] at hphase
        exact hphase
      have hsame : connectionId = id :=
        Option.some.inj (Option.some.inj ((h.recordedTrigger hrecorded).symm.trans hnamed))
      simp only [World.step, stepWorker, hworker] at hstep
      obtain ⟨-, hstep⟩ := Option.ite_none_right_eq_some.1 hstep
      obtain rfl := Option.some.inj hstep
      have hstays {s : Database} (hs : s.processedUpdate = w.db.processedUpdate)
          (hends : (World.recordedTrigger { w with db := s, worker := .idle } updateId) = none) :
          False := by
        unfold World.recordedTrigger at hends hrecorded
        dsimp only at hends
        rw [hs, hrecorded] at hends
        cases hends
      cases hx : reconcileConnectionTrigger updateId id at' owner snapshot answer now w.db with
      | error error =>
        simp only [commitIdle, commitWorker, Txn.commit_of_error hx] at hends
        exact hstays rfl hends
      | ok r =>
        obtain ⟨application, db'⟩ := r
        simp only [commitIdle, commitWorker, Txn.commit_of_ok hx] at hends hc
        cases application with
        | commit =>
          exact (reconcileConnectionTrigger_cleared hvalid hsingle hmatching hx c hc hstate).1
            (hid.trans hsame)
        | retry transient =>
          refine hstays ?_ hends
          rcases reconcileConnectionTrigger_retried hx with hrolled | ⟨-, hlog⟩
          · rw [hrolled]
          · exact hlog

/-- **In every run that forgets nothing recorded, nothing is left pending.** -/
theorem attended (h : service.ReachableBy
    (fun w op => Redelivers trigger w op ∧ PurgesInTime w op) w) : w.Attended trigger := by
  refine h.invariant (P := fun w => w.Attended trigger) ?_ fun w op w' hw ih hop hstep => ?_
  · rintro w ⟨now, rfl⟩
    refine ⟨fun row hrow => ?_, trivial, nofun⟩
    cases hrow
  · exact ih.step (eventsPrepared hw) (classed (hw.mono fun _ _ hop => hop.1.delivers))
      (singleTrusted hw) (fun us => recovering hw) hop.1 hop.2 hstep

end World

/-- **No recorded event is forgotten, where purges are in time.** A step takes no recorded event out
of the log exactly if it is no purge, or one that finds nothing recorded from seven days ago without
something that refers to it; and in runs of such steps a recorded event stays until it has been
applied. Where redeliveries of a trigger are triggers of the same connection, a trigger that ends
has settled its connection, and as long as a connection is pending there is something to try again
for it. -/
theorem recorded_never_forgotten (trigger : Int → Option (Option String)) :
    (∀ w op w', service.Reachable w → service.step w op = some w' →
      ((∀ row ∈ w.db.processedUpdate.rows, row.status = .recorded → row.RemainsIn w'.db) ↔
        PurgesInTime w op)) ∧
    (∀ w w', service.ReachableBy PurgesInTime w → service.Runs PurgesInTime w w' →
      ∀ row ∈ w.db.processedUpdate.rows, row.status = .recorded →
        row ∈ w'.db.processedUpdate.rows ∨
          ∃ v, service.Runs PurgesInTime w v ∧ service.Runs PurgesInTime v w' ∧
            ∃ row' ∈ v.db.processedUpdate.rows, row'.updateId = row.updateId ∧
              row'.event = row.event ∧ row'.status = .applied) ∧
    ∀ w, service.ReachableBy (fun w op => Redelivers trigger w op ∧ PurgesInTime w op) w →
      (w.worker.started = true → ∀ c ∈ w.db.businessConnection.rows,
        c.reconciliationState = .pending → w.Retries c.connectionId) ∧
      ∀ op w' updateId connectionId occurredAt, PurgesInTime w op → service.step w op = some w' →
        w.recordedTrigger updateId = some (connectionId, occurredAt) →
        w'.recordedTrigger updateId = none →
        ∀ c ∈ w'.db.businessConnection.rows, c.connectionId = connectionId →
          c.reconciliationState ≠ .pending := by
  refine ⟨fun w op w' hw hstep => (World.eventsPrepared hw).remains_iff hstep,
    fun w w' hw hruns row hrow hrecorded =>
      World.remains_until_applied (fun _ _ hop => hop) hw hruns hrow hrecorded,
    fun w hw => ⟨(World.attended hw).pending, ?_⟩⟩
  intro op w' updateId connectionId occurredAt hpurge hstep hrecorded hends
  have hclassed := World.classed (hw.mono fun _ _ hop => hop.1.delivers)
  exact (World.attended hw).settles (World.eventsPrepared hw) hclassed (World.singleTrusted hw)
    (fun us => World.recovering hw) hpurge hstep hrecorded hends

section

open Sample

/-- A trigger of the connection is recorded, and its lookup fails for the time being. -/
def unansweredTrigger : List Op :=
  Sample.connected true ++
    [.worker (.prepare 3 (raw .businessConnectionChanged "c" none none none 3)
        (preparer .allow .correct 3)),
      .worker .record, .worker .triggerSnapshot,
      .worker (.triggerAnswer (.error .transientExhausted) 3)]

/-- The updates that are triggers of the connection. -/
def connectionTrigger (updateId : Int) : Option (Option String) :=
  if updateId = 2 ∨ updateId = 3 then some (some "c") else none

/-- Something is recorded and a connection is pending, and a purge in time can be run. -/
def World.unanswered (now : DateTime) (w : World) : Bool :=
  (w.db.processedUpdate.rows.any fun row => row.status = .recorded) &&
    (w.db.businessConnection.rows.any fun c => c.reconciliationState = .pending) &&
    w.worker.started && (w.step (.worker (.purge now))).isSome &&
    decide (PurgesInTime w (.worker (.purge now)))

set_option maxRecDepth 100000 in
/-- The trigger is kept by a purge within the seven days, and is to be tried again. -/
theorem recorded_never_forgotten_unanswered : ∃ w w',
    service.Reachable w ∧ service.step w (.worker (.purge (DateTime.days 1))) = some w' ∧
      (∃ row ∈ w.db.processedUpdate.rows, row.status = .recorded ∧ row.RemainsIn w'.db) ∧
      ∃ c ∈ w.db.businessConnection.rows, c.reconciliationState = .pending ∧
        w.Retries c.connectionId := by
  obtain ⟨w, hw, hp⟩ : ∃ w, service.ReachableBy
      (fun w op => Redelivers connectionTrigger w op ∧ PurgesInTime w op) w ∧
        w.unanswered (DateTime.days 1) = true :=
    Machine.reachableBy_of_runWhile _ unansweredTrigger (World.unanswered (DateTime.days 1))
      ⟨0, rfl⟩ (by decide +kernel)
  simp only [World.unanswered, Bool.and_eq_true, List.any_eq_true, decide_eq_true_eq] at hp
  obtain ⟨⟨⟨⟨⟨row, hrow, hrecorded⟩, c, hc, hpending⟩, hstarted⟩, hsome⟩, htimely⟩ := hp
  obtain ⟨w', hstep⟩ := Option.isSome_iff_exists.1 hsome
  obtain ⟨hremains, -, hattended⟩ := recorded_never_forgotten connectionTrigger
  exact ⟨w, w', hw.reachable, hstep,
    ⟨row, hrow, hrecorded, (hremains w (.worker (.purge (DateTime.days 1))) w' hw.reachable hstep).2 htimely row hrow hrecorded⟩,
    c, hc, hpending, (hattended w hw).1 hstarted c hc hpending⟩

/-- The purge leaves nothing recorded and nothing to try again, but the connection pending. -/
def World.forgets (now : DateTime) (w : World) : Bool :=
  (w.db.processedUpdate.rows.any fun row => row.status = .recorded) &&
    (w.step (.worker (.purge now))).any fun w' =>
      (w'.db.processedUpdate.rows.all fun row => row.status = .applied) &&
        (w'.db.businessConnection.rows.any fun c => c.reconciliationState = .pending) &&
        w'.worker.started && w'.startupPending.isNone &&
        w'.db.reconciliation.state = .ready &&
        w.db.processedUpdate.rows.all fun row => row.status = .applied ||
          (w'.db.processedUpdate.lookup row.updateId).isNone

set_option maxRecDepth 100000 in
/-- A purge a week later takes the trigger out of the log, and its connection stays pending with
nothing left to try again. -/
theorem recorded_trigger_forgotten :
    (¬∀ w op w', service.Reachable w → service.step w op = some w' →
      ∀ row ∈ w.db.processedUpdate.rows, row.status = .recorded → row.RemainsIn w'.db) ∧
    ¬∀ w, service.Reachable w → w.worker.started = true →
      ∀ c ∈ w.db.businessConnection.rows, c.reconciliationState = .pending →
        w.Retries c.connectionId := by
  obtain ⟨w, hw, hp⟩ : ∃ w, service.Reachable w ∧ w.forgets (DateTime.days 8) = true :=
    Machine.reachable_of_run unansweredTrigger (World.forgets (DateTime.days 8)) ⟨0, rfl⟩
      (by decide +kernel)
  unfold World.forgets at hp
  obtain ⟨hrecorded, hforgets⟩ := Bool.and_eq_true_iff.1 hp
  obtain ⟨w', hstep, hforgets⟩ := (Option.any_eq_true _ _).1 hforgets
  simp only [Bool.and_eq_true, List.any_eq_true, List.all_eq_true, decide_eq_true_eq,
    Bool.or_eq_true] at hrecorded hforgets
  obtain ⟨row, hrow, hrecorded⟩ := hrecorded
  obtain ⟨⟨⟨⟨⟨happlied, c, hc, hpending⟩, hstarted⟩, hstartup⟩, hglobal⟩, hgone⟩ := hforgets
  refine ⟨fun h => ?_, fun h => ?_⟩
  · obtain ⟨row', hrow', -⟩ := h w (.worker (.purge (DateTime.days 8))) w' hw hstep row hrow hrecorded
    rcases hgone row hrow with hno | hnone
    · rw [hrecorded] at hno
      cases hno
    · rw [hrow'] at hnone
      cases hnone
  · have hw' : service.Reachable w' := hw.step (i := .worker (.purge (DateTime.days 8))) trivial hstep
    rcases h w' hw' hstarted c hc hpending with
      ⟨updateId, occurredAt, htrigger⟩ | hstill | hfailed
    · obtain ⟨row', -, hrow', -, -, hstatus, -⟩ := World.recordedTrigger_eq_some htrigger
      rw [happlied row' (Table.mem_of_lookup hrow')] at hstatus
      cases hstatus
    · rw [hstill] at hstartup
      cases hstartup
    · rw [hglobal] at hfailed
      cases hfailed

end

end ChatHygiene
