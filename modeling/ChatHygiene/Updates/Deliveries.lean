import ChatHygiene.Updates.Log
/-!
# Deliveries

Telegram delivers an update any number of times, and it may be prepared
differently each time; but a connection trigger stays one, and nothing else
becomes one. In a run of such deliveries the log and the worker take an update
for a trigger only if it is one.
-/

namespace ChatHygiene

open Txn (Respects commit)

/-- The event has been prepared: it is a lifecycle event or a connection trigger. -/
def EventType.isBusiness : EventType → Bool
  | .lifecycle | .businessConnectionChanged => true
  | .ownerClaim | .ownerStart | .ownerCommand => false

def EventType.isTrigger (eventType : EventType) : Bool :=
  eventType = .businessConnectionChanged

def RawBusinessEvent.isTrigger (raw : RawBusinessEvent) : Bool :=
  raw.kind = .businessConnectionChanged

/-- The business event a step delivers, and whether it is a connection trigger. -/
def Op.delivers : Op → Option (Int × Bool)
  | .worker (.prepare updateId raw _) => some (updateId, raw.isTrigger)
  | _ => none

/-- The update that is delivered is a connection trigger if and only if its id is one's. -/
def Delivers (isTrigger : Int → Bool) (_ : World) (op : Op) : Prop :=
  ∀ u ∈ op.delivers, u.2 = isTrigger u.1

instance (isTrigger : Int → Bool) (w : World) (op : Op) : Decidable (Delivers isTrigger w op) :=
  inferInstanceAs (Decidable (∀ u ∈ op.delivers, _))

/-! ## What the worker is at -/

/-- The business event the worker is at, and whether it takes it for a connection trigger. -/
def WorkerPhase.subject : WorkerPhase → Option (Int × Bool)
  | .prepared event _ => some (event.updateId, event.eventType.isTrigger)
  | .recorded updateId => some (updateId, false)
  | .triggered updateId .. | .triggerLookup updateId .. => some (updateId, true)
  | _ => none

namespace World

variable {w w' : World}

theorem subject_of_rests {phase : WorkerPhase} (h : phase.rests = true) : phase.subject = none := by
  cases phase <;> first | rfl | cases h

/-- The worker goes on with the event it has recorded, as what it is. -/
theorem subject_afterRecord (w : World) {event : PreparedEvent} (preparedIn : Database)
    (hgenuine : event.Genuine) (result : Except Error RecordReceipt) :
    (w.afterRecord event preparedIn result).worker.subject = none ∨
      (w.afterRecord event preparedIn result).worker.subject =
        (WorkerPhase.prepared event preparedIn).subject := by
  unfold afterRecord
  split
  · exact .inl rfl
  · exact .inl rfl
  · dsimp only
    split
    · next htrigger =>
      split
      · exact .inr (by simp [WorkerPhase.subject, htrigger, EventType.isTrigger])
      · exact .inl rfl
    · next hlifecycle =>
      have htype : event.eventType = .lifecycle :=
        hgenuine.eventType.resolve_right fun h => hlifecycle h.1
      exact .inr (by simp [WorkerPhase.subject, htype, EventType.isTrigger])

/-- An update is prepared as a trigger if and only if it is one. -/
theorem prepareUpdate_isTrigger {preparer : EventPreparer} {updateId : Int}
    {raw : RawBusinessEvent} {db db' : Database} {event : PreparedEvent}
    (h : prepareUpdate preparer updateId raw db = .ok (event, db')) :
    event.updateId = updateId ∧ event.eventType.isTrigger = raw.isTrigger := by
  obtain ⟨raw', s, hinert, hprepare⟩ := Txn.bind_ok_iff.1 h
  obtain ⟨-, hid, htype, -⟩ := EventPreparer.prepare_ok hprepare
  have hkind : raw'.kind = .businessConnectionChanged ↔ raw.kind = .businessConnectionChanged := by
    unfold makePreclaimBusinessEventInert at hinert
    split at hinert
    · obtain ⟨rfl, -⟩ := Prod.mk.inj (Txn.pure_ok_iff.1 hinert)
      rfl
    · next hmessage =>
      -- a message that is stripped was no trigger, and is none
      have hother : raw.kind ≠ .businessConnectionChanged := by
        intro htrigger
        simp [RawBusinessEvent.isBusinessMessage, htrigger] at hmessage
      obtain ⟨state, s', -, hstate⟩ := Txn.bind_ok_iff.1 hinert
      split at hstate
      · obtain ⟨rfl, -⟩ := Prod.mk.inj (Txn.pure_ok_iff.1 hstate)
        simp [hother]
      · obtain ⟨rfl, -⟩ := Prod.mk.inj (Txn.pure_ok_iff.1 hstate)
        rfl
  refine ⟨hid, ?_⟩
  rw [htype]
  unfold EventType.isTrigger RawBusinessEvent.isTrigger
  simp only [hkind]
  split <;> simp_all

/-- **What the worker is at after a step** is what it was at, the update that is delivered, or a
recorded trigger that is tried again. -/
theorem stepWorker_subject {op : WorkerOp} (h : w.stepWorker op = some w')
    (hgenuine : ∀ event preparedIn, w.worker.held = some (event, preparedIn) → event.Genuine)
    {u : Int × Bool} (hu : w'.worker.subject = some u) :
    w.worker.subject = some u ∨ (Op.worker op).delivers = some u ∨
      ∃ row, w.db.processedUpdate.lookup u.1 = some row ∧
        row.eventType = .businessConnectionChanged ∧ u.2 = true := by
  have hno {P : Prop} (hnone : w'.worker.subject = none) : P := by
    rw [hnone] at hu
    cases hu
  cases stepWorker_step h with
  | rests hrests => exact hno (subject_of_rests hrests)
  | takesOn phase htakes hw' =>
    subst hw'
    cases htakes with
    | startupLookup | startupRetry | claimLookup => exact hno rfl
    | prepared hw hraw hprepare =>
      obtain ⟨hid, htrigger⟩ := prepareUpdate_isTrigger hprepare
      refine .inr (.inl ?_)
      rw [← hu]
      simp only [Op.delivers, WorkerPhase.subject, hid, htrigger]
    | triggerLookup hw =>
      refine .inl ?_
      rw [hw]
      exact hu
    | triggered hw hrecorded =>
      obtain rfl := Option.some.inj hu
      obtain ⟨row, event, hrow, -, -, -, htrigger⟩ := recordedTrigger_eq_some hrecorded
      exact .inr (.inr ⟨row, hrow, ProcessedUpdate.eventType_of_isTrigger htrigger, rfl⟩)
  | records event preparedIn hw hop hw' =>
    subst hw'
    rcases subject_afterRecord _ preparedIn (hgenuine event preparedIn (by rw [hw]; rfl)) _ with
      hnone | hsame
    · exact hno hnone
    · exact .inl (by rw [hw, ← hsame, hu])

theorem step_subject {op : Op} (h : w.step op = some w')
    (hgenuine : ∀ event preparedIn, w.worker.held = some (event, preparedIn) → event.Genuine)
    {u : Int × Bool} (hu : w'.worker.subject = some u) :
    w.worker.subject = some u ∨ op.delivers = some u ∨
      ∃ row, w.db.processedUpdate.lookup u.1 = some row ∧
        row.eventType = .businessConnectionChanged ∧ u.2 = true := by
  cases op with
  | worker op => exact stepWorker_subject h hgenuine hu
  | dispatcher op =>
    obtain ⟨-, h⟩ := Option.ite_none_right_eq_some.1 h
    have hsame : w'.worker = w.worker := (stepDispatcher_frame h).1
    exact .inl (hsame ▸ hu)
  | crash =>
    cases h
    cases hu

end World

/-! ## The log -/

theorem ProcessedUpdate.Redacted.isBusiness {u : ProcessedUpdate} (h : u.Redacted) :
    u.eventType.isBusiness = false := by
  cases htype : u.eventType with
  | lifecycle => exact absurd htype h.lifecycle
  | businessConnectionChanged => exact absurd htype h.trigger
  | ownerClaim | ownerStart | ownerCommand => rfl

/-- The row of a business event that a transaction moves was the row of one before. -/
theorem LogMoves.mem {updateId : Int} {db db' : Database} (h : LogMoves updateId db db')
    {row : ProcessedUpdate} (hrow : row ∈ db'.processedUpdate.rows)
    (hbusiness : row.eventType.isBusiness = true) :
    ∃ u, db.processedUpdate.lookup row.updateId = some u ∧ u.Moves row := by
  have hlookup := Table.lookup_of_mem hrow
  by_cases hid : row.updateId = updateId
  · rw [hid] at hlookup ⊢
    cases hbefore : db.processedUpdate.lookup updateId with
    | none =>
      rw [(h.fresh row hlookup hbefore).isBusiness] at hbusiness
      cases hbusiness
    | some u =>
      obtain ⟨u', hu', hmoves⟩ := h.stored u hbefore
      obtain rfl : u' = row := Option.some.inj (hu'.symm.trans hlookup)
      exact ⟨u, rfl, hmoves⟩
  · rw [h.others row.updateId hid] at hlookup
    exact ⟨row, hlookup, .refl row⟩

theorem processOwnerStart_again {db : Database} {updateId : Int} {row : ProcessedUpdate}
    (h : db.processedUpdate.lookup updateId = some row) (snapshot : OwnerCommandSnapshot)
    (occurredAt : DateTime) (default : Bool) :
    (commit (processOwnerStart updateId snapshot occurredAt default) db).1 = db := by
  unfold processOwnerStart
  cases snapshot.fromUserId.filter (0 < ·) with
  | none => rfl
  | some fromUserId =>
    cases snapshot.chatId.filter (0 < ·) with
    | none => rfl
    | some chatId =>
      cases snapshot.privateChat with
      | false => rfl
      | true => exact withoutReceipt_again h _

/-- **An Owner's update leaves a row that is stored as it is**: only the application of the update,
or of the trigger, moves it. -/
theorem Transaction.after_of_stored {x : Transaction} {updateId : Int}
    (hx : x.subject = some updateId) {db : Database} {u : ProcessedUpdate}
    (hu : db.processedUpdate.lookup updateId = some u) :
    (∃ now, x = .apply updateId now) ∨
      (∃ connectionId occurredAt owner snapshot answer now,
        x = .trigger updateId connectionId occurredAt owner snapshot answer now) ∨
      x.after db = db := by
  cases x with
  | apply id now =>
    obtain rfl := Option.some.inj hx
    exact .inl ⟨now, rfl⟩
  | trigger id connectionId occurredAt owner snapshot answer now =>
    obtain rfl := Option.some.inj hx
    exact .inr (.inl ⟨connectionId, occurredAt, owner, snapshot, answer, now, rfl⟩)
  | ownerStart =>
    obtain rfl := Option.some.inj hx
    exact .inr (.inr (processOwnerStart_again hu _ _ _))
  | ownerCommand | ownerClaimRejected | ownerClaim =>
    obtain rfl := Option.some.inj hx
    exact .inr (.inr (withoutReceipt_again hu _))
  | _ => cases hx

namespace World

variable {w w' : World} {isTrigger : Int → Bool}

/-- **The row of a business event** after a step is an old one, perhaps moved, or that of the event the
worker has held. -/
theorem EventsPrepared.row_moves {op : Op} (h : w.EventsPrepared) (hstep : w.step op = some w')
    {row : ProcessedUpdate} (hrow : row ∈ w'.db.processedUpdate.rows)
    (hbusiness : row.eventType.isBusiness = true) :
    (∃ u, w.db.processedUpdate.lookup row.updateId = some u ∧ u.Moves row) ∨
      ∃ event preparedIn, w.worker = .prepared event preparedIn ∧ row = event.row := by
  have hold (hmem : row ∈ w.db.processedUpdate.rows) :
      ∃ u, w.db.processedUpdate.lookup row.updateId = some u ∧ u.Moves row :=
    ⟨row, Table.lookup_of_mem hmem, .refl row⟩
  rcases step_event hstep with
    ⟨updateId, raw, preparer, event, rfl, hraw, hevent, hidle, rfl⟩ |
    ⟨event, preparedIn, hheld, rfl, rfl⟩ | ⟨-, -, -, hdb⟩
  · exact .inl (hold hrow)
  · rw [afterRecord_db] at hrow
    rcases mem_record hrow with hrow | ⟨rfl, -⟩
    · exact .inl (hold hrow)
    · exact .inr ⟨event, preparedIn, hheld, rfl⟩
  · left
    rcases hdb with hdb | ⟨x, -, hrecord, hdb⟩
    · exact hold (hdb ▸ hrow)
    rw [hdb] at hrow
    by_cases hpurge : ∃ now, x = .purge now
    · obtain ⟨now, rfl⟩ := hpurge
      have hlookup := Table.lookup_of_mem hrow
      rcases (purgeHistory_purges now).commit w.db row.updateId with hsame | ⟨hgone, -⟩
      · exact ⟨row, hsame ▸ hlookup, .refl row⟩
      · exact absurd (hgone.symm.trans hlookup) (by simp)
    · have hlog := Transaction.log h.noConnectionChange hrecord fun now hx => hpurge ⟨now, hx⟩
      rcases hlog with hsame | ⟨updateId, -, hmoves⟩
      · exact hold (hsame ▸ hrow)
      · exact hmoves.mem hrow hbusiness

/-- The worker and the log take a business event for a trigger if and only if it is one. -/
structure Classed (isTrigger : Int → Bool) (w : World) : Prop where
  subject : ∀ u, w.worker.subject = some u → u.2 = isTrigger u.1
  rows : ∀ row ∈ w.db.processedUpdate.rows, row.eventType.isBusiness = true →
    row.eventType.isTrigger = isTrigger row.updateId

/-- **In a run of deliveries every business event stays what it is.** -/
theorem Classed.step {op : Op} (h : w.Classed isTrigger) (hprepared : w.EventsPrepared)
    (hop : Delivers isTrigger w op) (hstep : w.step op = some w') : w'.Classed isTrigger := by
  have hgenuine (event : PreparedEvent) (preparedIn : Database)
      (hheld : w.worker.held = some (event, preparedIn)) : event.Genuine :=
    (hprepared.held event preparedIn hheld).2.genuine
  refine ⟨fun u hu => ?_, ?_⟩
  · rcases step_subject hstep hgenuine hu with hsame | hdelivers | ⟨row, hrow, htype, htrigger⟩
    · exact h.subject u hsame
    · exact hop u hdelivers
    · have hclass := h.rows row (Table.mem_of_lookup hrow) (by rw [htype]; rfl)
      rw [htype, Table.key_of_lookup hrow] at hclass
      exact htrigger.trans hclass
  · intro row hrow hbusiness
    rcases hprepared.row_moves hstep hrow hbusiness with
      ⟨u, hu, hmoves⟩ | ⟨event, preparedIn, hheld, rfl⟩
    · rw [hmoves.eventType] at hbusiness ⊢
      rw [h.rows u (Table.mem_of_lookup hu) hbusiness, Table.key_of_lookup hu]
    · exact h.subject (event.updateId, _) (by rw [hheld]; rfl)

/-- **In a run of deliveries every business event is what it is.** -/
theorem classed (h : service.ReachableBy (Delivers isTrigger) w) : w.Classed isTrigger := by
  refine h.invariant ?_ fun w op w' hw ih hop hstep => ih.step (World.eventsPrepared hw) hop hstep
  rintro w ⟨now, rfl⟩
  refine ⟨fun u hu => ?_, fun row hrow => ?_⟩
  · cases hu
  · cases hrow

end World

end ChatHygiene
