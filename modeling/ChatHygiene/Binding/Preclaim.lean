import ChatHygiene.Connection.Trust
import ChatHygiene.Lib.Twins
/-!
# Before the claim

A service without an Owner trusts no connection, so there is no conversation an
update could belong to. A Business update is stripped before it is read: what
is recorded of it is its update id and its instant, and applying that changes
nothing else. Two runs whose Business updates differ in anything else are one.
-/

namespace ChatHygiene

open Txn (Respects commit)

variable {db db' : Database}

/-! ## What is not yet stored -/

/-- Nothing is stored of any correspondence. -/
structure Database.Untouched (db : Database) : Prop where
  businessConnection : db.businessConnection = .empty
  conversation : db.conversation = .empty
  messageLedger : db.messageLedger = .empty
  challenge : db.challenge = .empty

/-- **Without an Owner nothing is stored of any correspondence**: no connection is trusted, and
whatever else there is hangs below one. -/
theorem Database.SingleTrusted.untouched (h : db.SingleTrusted)
    (howner : db.ownerIdentity.ownerUserId = none) : db.Untouched := by
  have hfk := db.consistent.conversations
  have hconnection : db.businessConnection = .empty := Table.ext_rows (h.unclaimed howner)
  have hconversation : db.conversation = .empty := by
    refine Table.ext_rows (List.eq_nil_iff_forall_not_mem.2 fun c hc => ?_)
    obtain ⟨t, ht, -⟩ := Table.contains_iff.1 (hfk.conversationFk c hc)
    rw [hconnection] at ht
    cases ht
  have hnone (key : ConversationKey) : db.conversation.contains key ≠ true := by
    intro hcontains
    obtain ⟨c, hc, -⟩ := Table.contains_iff.1 hcontains
    rw [hconversation] at hc
    cases hc
  refine ⟨hconnection, hconversation, Table.ext_rows ?_, Table.ext_rows ?_⟩
  · exact List.eq_nil_iff_forall_not_mem.2 fun m hm => hnone _ (hfk.ledgerFk m hm)
  · exact List.eq_nil_iff_forall_not_mem.2 fun c hc => hnone _ (hfk.challengeFk c hc)

/-- Who has no Owner had none before. -/
theorem OwnerAges.unclaimed (h : OwnerAges db db')
    (howner : db'.ownerIdentity.ownerUserId = none) : db.ownerIdentity.ownerUserId = none := by
  cases hbefore : db.ownerIdentity.ownerUserId with
  | none => rfl
  | some user =>
    rw [h.ownerUserId hbefore] at howner
    cases howner

/-! ## What is recorded of an update -/

/-- Applying the event comes to nothing. -/
structure PreparedEvent.Inert (event : PreparedEvent) : Prop where
  action : event.facts.action = .ignore
  ownerUserId : event.facts.ownerUserId = none

theorem PreparedEvent.Inert.apply {event : PreparedEvent} (h : event.Inert) :
    LifecycleHandler.apply event = pure () := by
  have htrace : enqueueDryRunTrace event event.facts = pure () := by
    unfold enqueueDryRunTrace
    rw [h.ownerUserId]
    exact ite_self _
  unfold LifecycleHandler.apply
  rw [h.action, htrace]
  rfl

section

variable (hrows : db.businessConnection = .empty)

include hrows

theorem findBusinessConnection_none (connectionId : String) :
    findBusinessConnection connectionId db = .ok (none, db) := by
  unfold findBusinessConnection loadTelegramReconciliationState
  simp only [Txn.read_bind_apply]
  split
  · rfl
  · change Except.ok (Option.filter _ (db.businessConnection.lookup connectionId), db) = _
    rw [hrows]
    rfl

theorem singleConnectionOwner_none : singleConnectionOwner db = .ok ((none, none), db) := by
  have hfind : findSingleBusinessConnection db = .ok (none, db) := by
    unfold findSingleBusinessConnection loadTelegramReconciliationState singleConnection
    simp only [Txn.read_bind_apply]
    split
    · rfl
    · simp only [Txn.read_bind_apply, hrows]
      rfl
  unfold singleConnectionOwner
  rw [Txn.bind_of_ok hfind]
  rfl

theorem traceOwnerIdentity_none {raw : RawBusinessEvent} (hraw : raw.connection = none) :
    traceOwnerIdentity raw db = .ok ((none, none), db) := by
  unfold traceOwnerIdentity
  rw [hraw]
  cases raw.connectionId with
  | none => exact singleConnectionOwner_none hrows
  | some connectionId =>
    dsimp only
    rw [Txn.bind_of_ok (findBusinessConnection_none hrows connectionId)]
    exact singleConnectionOwner_none hrows

theorem knownBusinessConnection_none (raw : RawBusinessEvent) :
    knownBusinessConnection raw db = .ok (false, db) := by
  unfold knownBusinessConnection
  cases raw.connectionId with
  | none => rfl
  | some connectionId =>
    dsimp only
    rw [Txn.bind_of_ok (findBusinessConnection_none hrows connectionId)]
    rfl

theorem EventPreparer.prepareAction_none (preparer : EventPreparer) (raw : RawBusinessEvent)
    (mode : Bool) : preparer.prepareAction raw mode db = .ok (.ignore, db) := by
  unfold EventPreparer.prepareAction
  rw [Txn.bind_of_ok (knownBusinessConnection_none hrows raw)]
  -- a kind that needs no known connection prepares nothing either
  cases raw.kind <;> rfl

/-- **Where no connection is trusted, nothing is prepared.** -/
theorem prepareUpdate_inert {preparer : EventPreparer} {updateId : Int} {raw : RawBusinessEvent}
    {event : PreparedEvent} (hraw : raw.WellFormed)
    (h : prepareUpdate preparer updateId raw db = .ok (event, db')) : event.Inert := by
  obtain ⟨raw', s, hinert, hprepare⟩ := Txn.bind_ok_iff.1 h
  obtain ⟨rfl, hraw'⟩ := makePreclaimBusinessEventInert_spec hraw hinert
  unfold EventPreparer.prepare runtimeDestructiveMode at hprepare
  simp only [Txn.read_bind_apply] at hprepare
  rw [Txn.bind_of_ok (traceOwnerIdentity_none hrows hraw'.connection)] at hprepare
  obtain ⟨stateBefore, s₁, htrace, hprepare⟩ := Txn.bind_ok_iff.1 hprepare
  obtain rfl := EventPreparer.traceStateBefore_readOnly raw' _ _ _ htrace
  rw [Txn.bind_of_ok (preparer.prepareAction_none hrows raw' _)] at hprepare
  obtain ⟨rfl, -⟩ := Prod.mk.inj (Txn.pure_ok_iff.1 hprepare)
  exact ⟨rfl, rfl⟩

end

/-! ## What an update is stripped of -/

/-- What is left of a Business update. -/
def RawBusinessEvent.inert (raw : RawBusinessEvent) : RawBusinessEvent where
  kind := .ignored
  connectionId := none
  chatId := none
  messageId := none
  mediaGroupId := none
  content := none
  deletedMessageIds := []
  connection := none
  contactDisplayName := none
  contactUsername := none
  occurredAt := raw.occurredAt

section

variable (hunclaimed : db.ownerIdentity = .ready .unclaimed)

include hunclaimed

theorem makePreclaimBusinessEventInert_unclaimed {raw : RawBusinessEvent}
    (hraw : raw.isBusinessMessage = true) :
    makePreclaimBusinessEventInert raw db = .ok (raw.inert, db) := by
  unfold makePreclaimBusinessEventInert loadOwnerLifecycleState
  rw [hraw, if_neg (by simp), Txn.read_bind_apply, hunclaimed]
  rfl

/-- **Stripped updates of one instant are prepared alike**, whatever the detector and the verifier
would have made of them. -/
theorem prepareUpdate_alike {preparer preparer' : EventPreparer} {raw raw' : RawBusinessEvent}
    (updateId : Int) (hraw : raw.isBusinessMessage = true) (hraw' : raw'.isBusinessMessage = true)
    (hat : raw'.occurredAt = raw.occurredAt)
    (hmode : preparer'.destructiveMode = preparer.destructiveMode) :
    prepareUpdate preparer' updateId raw' db = prepareUpdate preparer updateId raw db := by
  have hinert : raw'.inert = raw.inert := by
    unfold RawBusinessEvent.inert
    rw [hat]
  have hprepare : preparer'.prepare updateId raw.inert = preparer.prepare updateId raw.inert := by
    unfold EventPreparer.prepare
    rw [hmode]
    rfl
  unfold prepareUpdate
  rw [Txn.bind_of_ok (makePreclaimBusinessEventInert_unclaimed hunclaimed hraw),
    Txn.bind_of_ok (makePreclaimBusinessEventInert_unclaimed hunclaimed hraw'), hinert, hprepare]

/-- The Owner is told of no contact. -/
theorem noticeOfUpdate_unclaimed (raw : RawBusinessEvent) :
    noticeOfUpdate raw db = .ok (none, db) := by
  cases hraw : raw.isBusinessMessage with
  | true =>
    unfold noticeOfUpdate
    rw [Txn.bind_of_ok (makePreclaimBusinessEventInert_unclaimed hunclaimed hraw)]
    rfl
  | false =>
    have hkept : makePreclaimBusinessEventInert raw db = .ok (raw, db) := by
      unfold makePreclaimBusinessEventInert
      rw [hraw]
      rfl
    -- the kinds that are not stripped are no inbound messages
    have hnotice : firstContactNotice raw = pure none := by
      unfold firstContactNotice
      split
      · next hkind _ _ => simp [RawBusinessEvent.isBusinessMessage, hkind] at hraw
      · rfl
    unfold noticeOfUpdate
    rw [Txn.bind_of_ok hkept, hnotice]
    rfl

end

/-! ## Events before the claim -/

/-- What the worker holds and what is recorded comes to nothing. -/
structure World.EventsInert (w : World) : Prop where
  held : ∀ event preparedIn, w.worker.held = some (event, preparedIn) → event.Inert
  recorded : ∀ row ∈ w.db.processedUpdate.rows, row.status = .recorded →
    ∀ event, row.event = some event → event.Inert

namespace World

variable {w w' : World} {op : Op}

theorem step_ownerAges (h : w.db.NoConnectionChange) (hstep : w.step op = some w') :
    OwnerAges w.db w'.db := by
  rcases step_db hstep with hdb | ⟨x, -, hdb⟩
  · exact hdb ▸ refl _
  · exact hdb ▸ (x.bindingKept h).owner

/-- **One step prepares and records what comes to nothing**, as long as there is no Owner. -/
theorem EventsInert.step (h : w.EventsInert) (hprepared : w.EventsPrepared)
    (hrows : w.db.businessConnection = .empty) (hstep : w.step op = some w') :
    w'.EventsInert := by
  rcases step_event hstep with
    ⟨updateId, raw, preparer, event, rfl, hraw, hevent, hidle, rfl⟩ |
    ⟨event, preparedIn, hheld, rfl, rfl⟩ | ⟨hheld, -, -, hdb⟩
  · refine ⟨fun event' preparedIn hheld => ?_, h.recorded⟩
    obtain ⟨rfl, -⟩ := Prod.mk.inj (Option.some.inj hheld)
    exact prepareUpdate_inert hrows hraw hevent
  · refine ⟨fun event' preparedIn' hheld => ?_, fun row hrow hrecorded event' hevent => ?_⟩
    · rw [afterRecord_held] at hheld
      cases hheld
    · rw [afterRecord_db] at hrow
      rcases mem_record hrow with hrow | ⟨rfl, -⟩
      · exact h.recorded row hrow hrecorded event' hevent
      · obtain rfl : event = event' := Option.some.inj hevent
        exact h.held event preparedIn (by rw [hheld]; rfl)
  · refine ⟨fun event preparedIn hevent => ?_, fun row hrow hrecorded => ?_⟩
    · rcases hheld with hnone | hsame
      · rw [hnone] at hevent
        cases hevent
      · exact h.held event preparedIn (hsame ▸ hevent)
    · rcases hdb with hdb | ⟨x, -, hrecord, hdb⟩
      · exact h.recorded row (hdb ▸ hrow) hrecorded
      · have hwrites := x.after_writes hprepared.noConnectionChange
        refine h.recorded row (hwrites.recorded ?_ (hdb ▸ hrow) hrecorded) hrecorded
        cases x with
        | record event => exact absurd rfl (hrecord event)
        | _ => simp

/-- **Without an Owner, whatever is recorded comes to nothing.** -/
theorem eventsInert (h : service.Reachable w) (howner : w.db.ownerIdentity.ownerUserId = none) :
    w.EventsInert := by
  refine h.invariant (P := fun w => w.db.ownerIdentity.ownerUserId = none → w.EventsInert) ?_
    (fun w op w' hw ih _ hstep howner => ?_) howner
  · rintro w ⟨now, rfl⟩ -
    constructor
    · intro event preparedIn hheld
      cases hheld
    · intro row hrow
      cases hrow
  · have hprepared := World.eventsPrepared hw
    have hbefore := (step_ownerAges hprepared.noConnectionChange hstep).unclaimed howner
    have hrows := ((World.singleTrusted hw).untouched hbefore).businessConnection
    exact (ih hbefore).step hprepared hrows hstep

end World

/-! ## Business updates, restarts included -/

/-- A step of handling Business updates: one is prepared, recorded or applied, or a transaction of
it fails, or the service stops and starts again. -/
def Op.handlesBusinessUpdate : Op → Bool
  | .worker (.prepare _ raw _) => raw.isBusinessMessage
  | .worker .record | .worker (.apply _) | .worker .storageFailure => true
  | .worker (.boot ..) | .worker (.initializeOwner _) | .worker .startupSnapshot
  | .worker (.startupAnswer ..) | .worker (.recoverNext _) | .worker (.serve _) => true
  | .crash => true
  | _ => false

theorem applyRecordedEvent_outbox {updateId : Int} (now : DateTime)
    (hinert : ∀ row ∈ db.processedUpdate.rows, row.status = .recorded →
      ∀ event, row.event = some event → event.Inert) :
    (commit (applyRecordedEvent updateId now) db).1.outboxAction = db.outboxAction := by
  cases hx : applyRecordedEvent updateId now db with
  | error error => rw [Txn.commit_of_error hx]
  | ok r =>
    rw [Txn.commit_of_ok hx]
    rcases applyRecordedEvent_ok hx with ⟨-, hsame⟩ |
      ⟨-, row, event, db₁, hrow, hrecorded, hevent, happly, hmark⟩
    · rw [hsame]
    · rw [(hinert row (Table.mem_of_lookup hrow) hrecorded event hevent).apply] at happly
      obtain ⟨-, rfl⟩ := Prod.mk.inj (Txn.pure_ok_iff.1 happly)
      have hwrites : WritesTo [.update] (fun _ => False) db r.2 :=
        (markApplied_writes (by simp) _ _).of_ok hmark
      exact hwrites.frame.outboxAction (by simp) (by simp) (by simp)

/-- A startup lookup finds no connection to change, and no action to retire. -/
theorem LookupCommitted.outbox {connectionId : String}
    {snapshot : ConnectionReconciliationSnapshot} {answer : LookupAnswer} {now : DateTime}
    (h : LookupCommitted connectionId snapshot answer now db db')
    (howner : db.ownerIdentity.ownerUserId = none) (hrows : db.businessConnection.rows = []) :
    db'.outboxAction = db.outboxAction := by
  cases h with
  | aside h => exact h.outboxAction (by simp) (by simp) (by simp)
  | notFound write db₁ hanswer hretire h =>
    refine (h.outboxAction (by simp) (by simp) (by simp)).trans ?_
    cases retireTrustedConnectionNotFound_ok hretire with
    | absent hnone hframe => exact hframe.outboxAction (by simp) (by simp) (by simp)
    | conflict hsame => rw [hsame]
    | retired t ht => simp [hrows] at ht
  | authFailed global hanswer h =>
    have hwrites : WritesTo [.reconciliation, .connection] (fun _ => False) db db' :=
      (setTelegramAuthFailed_writes (by simp) now).of_ok h
    exact hwrites.frame.outboxAction (by simp) (by simp) (by simp)
  | found a write db₁ hanswer hreconcile h =>
    refine (h.outboxAction (by simp) (by simp) (by simp)).trans ?_
    cases reconcileAuthoritativeTrustedConnection_ok hreconcile with
    | conflict hwrite hsame => rw [hsame]
    | installed revision hnone hexpected hclaimed hfloor hrows hframe =>
      rw [howner] at hclaimed
      cases hclaimed
    | same t row ht => simp [hrows] at ht
    | replaced t g revision ht => simp [hrows] at ht
    | ambiguous t ht => simp [hrows] at ht

namespace World

variable {w w' : World} {op : Op}

/-- **Handling a Business update enqueues nothing and touches no action**, as long as there is no
Owner. -/
theorem step_outbox (hw : service.Reachable w) (howner : w.db.ownerIdentity.ownerUserId = none)
    (hop : op.handlesBusinessUpdate = true) (hstep : w.step op = some w') :
    w'.db.outboxAction = w.db.outboxAction := by
  have hchange := (World.eventsPrepared hw).noConnectionChange
  have hinert := (World.eventsInert hw howner).recorded
  have hrows := (World.singleTrusted hw).unclaimed howner
  rcases step_db hstep with hdb | ⟨x, hx, hdb⟩
  · rw [hdb]
  rw [hdb]
  have hframe := x.after_frame hchange
  cases hx with
  | boot | initializeOwner | serve | record =>
    exact hframe.outboxAction (by simp) (by simp) (by simp)
  | startup => exact Transaction.startup_answered.outbox howner hrows
  | recover | apply => exact applyRecordedEvent_outbox _ hinert
  | _ => cases hop

/-- What handling Business updates leaves of the outbox, from a world without an Owner to another. -/
theorem runs_outbox (hw : service.Reachable w)
    (h : service.Runs (fun _ op => op.handlesBusinessUpdate = true) w w')
    (howner : w'.db.ownerIdentity.ownerUserId = none) :
    w.db.ownerIdentity.ownerUserId = none ∧ w'.db.outboxAction = w.db.outboxAction := by
  suffices hinvariant : service.Reachable w' ∧ (w'.db.ownerIdentity.ownerUserId = none →
      w.db.ownerIdentity.ownerUserId = none ∧ w'.db.outboxAction = w.db.outboxAction) from
    hinvariant.2 howner
  refine h.invariant (P := fun v => service.Reachable v ∧
    (v.db.ownerIdentity.ownerUserId = none →
      w.db.ownerIdentity.ownerUserId = none ∧ v.db.outboxAction = w.db.outboxAction))
    ⟨hw, fun h => ⟨h, rfl⟩⟩ ?_
  intro v op v' ⟨hv, ih⟩ hop hstep
  refine ⟨hv.step trivial hstep, fun howner' => ?_⟩
  have hbefore :=
    (step_ownerAges (World.eventsPrepared hv).noConnectionChange hstep).unclaimed howner'
  obtain ⟨hw', hsame⟩ := ih hbefore
  exact ⟨hw', (step_outbox hv hbefore hop hstep).trans hsame⟩

end World

/-! ## Two runs -/

/-- The inputs are the same, or Business updates of one update id and one instant that arrive
before the claim, whatever else tells them apart and whatever the detector and the verifier would
say to each. -/
inductive Op.Alike (w : World) : Op → Op → Prop
  | same (op : Op) : Alike w op op
  | update {raw raw' : RawBusinessEvent} (updateId : Int) (preparer preparer' : EventPreparer)
      (hunclaimed : w.db.ownerIdentity = .ready .unclaimed) (hraw : raw.isBusinessMessage = true)
      (hraw' : raw'.isBusinessMessage = true) (hat : raw'.occurredAt = raw.occurredAt) :
      Alike w (.worker (.prepare updateId raw preparer)) (.worker (.prepare updateId raw' preparer'))

/-- **Alike inputs take the service to one state.** -/
theorem Op.Alike.step {w v v' : World} {op op' : Op} (h : op.Alike w op')
    (hv : w.step op = some v) (hv' : w.step op' = some v') : v' = v := by
  cases h with
  | same => exact Option.some.inj (hv'.symm.trans hv)
  | @update raw raw' updateId preparer preparer' hunclaimed hraw hraw' hat =>
    have hprepare :
        prepareUpdate { preparer' with destructiveMode := w.settings } updateId raw' w.db =
          prepareUpdate { preparer with destructiveMode := w.settings } updateId raw w.db :=
      prepareUpdate_alike hunclaimed updateId hraw hraw' hat rfl
    cases hworker : w.worker with
    | idle =>
      simp only [World.step, World.stepWorker, hworker] at hv hv'
      obtain ⟨-, hv⟩ := Option.ite_none_right_eq_some.1 hv
      obtain ⟨-, hv'⟩ := Option.ite_none_right_eq_some.1 hv'
      rw [hprepare] at hv'
      exact Option.some.inj (hv'.symm.trans hv)
    | _ =>
      -- a worker that is not idle takes no update
      simp [World.step, World.stepWorker, hworker] at hv

/-- **Before the claim the service is inert.** From any reachable world to one that has still no
Owner, handling Business updates, with duplicates and restarts, leaves connections, conversations,
ledger, challenges and outbox as they were, and no contact is announced; and two runs whose Business
updates before the claim have the same ids and instants end in the same world, rows included. -/
theorem preclaim_inert {w : World} (hw : service.Reachable w) :
    (∀ w', service.Runs (fun _ op => op.handlesBusinessUpdate = true) w w' →
      w'.db.ownerIdentity = .ready .unclaimed →
      (w'.db.businessConnection = w.db.businessConnection ∧
        w'.db.conversation = w.db.conversation ∧ w'.db.messageLedger = w.db.messageLedger ∧
        w'.db.challenge = w.db.challenge ∧ w'.db.outboxAction = w.db.outboxAction) ∧
      ∀ raw, noticeOfUpdate raw w'.db = .ok (none, w'.db)) ∧
    ∀ v, service.twice.Runs (fun v ops => ops.1.Alike v.1 ops.2) (w, w) v → v.2 = v.1 := by
  refine ⟨fun w' hrun hunclaimed => ?_, fun v hrun => ?_⟩
  · have howner : w'.db.ownerIdentity.ownerUserId = none := by rw [hunclaimed]; rfl
    obtain ⟨hbefore, houtbox⟩ := World.runs_outbox hw hrun howner
    have hw' : service.Reachable w' :=
      hw.imp fun _ ⟨hinit, hr⟩ => ⟨hinit, hr.trans (hrun.mono fun _ _ _ => trivial)⟩
    -- what is empty before and after is the same
    have hdb := (World.singleTrusted hw).untouched hbefore
    have hdb' := (World.singleTrusted hw').untouched howner
    exact ⟨⟨hdb'.businessConnection.trans hdb.businessConnection.symm,
      hdb'.conversation.trans hdb.conversation.symm,
      hdb'.messageLedger.trans hdb.messageLedger.symm,
      hdb'.challenge.trans hdb.challenge.symm, houtbox⟩, noticeOfUpdate_unclaimed hunclaimed⟩
  · exact Machine.twice_eq hrun fun _ _ _ _ _ halike => halike.step

section

open Sample

/-- A message to the Owner, judged spam. -/
def preclaimMessage : Op :=
  .worker (.prepare 5 (raw .inboundMessage "c" (some 50) (some 500) (some "3") 10)
    (preparer .spam .correct 10))

/-- A message of the Owner in another chat, under the same update id. -/
def preclaimReply : Op :=
  .worker (.prepare 5 (raw .manualOwnerMessage "d" (some 60) (some 7) none 10)
    (preparer .allow .incorrect 11))

/-- A run of handling the message, with a redelivery and a restart: it is recorded and applied. -/
def preclaimRun : List Op :=
  [preclaimMessage, .worker .record, .crash, .worker (.boot true 11), .worker (.initializeOwner 11),
    .worker .startupSnapshot, .worker (.recoverNext 12), .worker (.recoverNext 12),
    .worker (.serve signer), preclaimReply, .worker .record]

set_option maxRecDepth 100000 in
theorem preclaim_inert_started : ∃ w w', service.Reachable w ∧
    service.Runs (fun _ op => op.handlesBusinessUpdate = true) w w' ∧
    w'.db.processedUpdate.rows.length = 1 ∧ w'.db.conversation = w.db.conversation ∧
    ∃ v, service.twice.step (w, w) (preclaimMessage, preclaimReply) = some v ∧ v.2 = v.1 := by
  have hstarted : ∃ w, service.Reachable w ∧
      (w.db.ownerIdentity = .ready .unclaimed &&
        (service.runWhile (fun _ op => op.handlesBusinessUpdate = true) preclaimRun w).any
          (fun w' => w'.db.ownerIdentity = .ready .unclaimed &&
            w'.db.processedUpdate.rows.length = 1) &&
        (service.twice.step (w, w) (preclaimMessage, preclaimReply)).isSome) = true :=
    Machine.reachable_of_run (start true) _ ⟨0, rfl⟩ (by decide +kernel)
  obtain ⟨w, hw, hrun⟩ := hstarted
  simp only [Bool.and_eq_true, decide_eq_true_eq] at hrun
  obtain ⟨⟨hunclaimed, hany⟩, htwice⟩ := hrun
  obtain ⟨w', hw', hend⟩ := (Option.any_eq_true _ _).1 hany
  simp only [Bool.and_eq_true, decide_eq_true_eq] at hend
  have hruns := Machine.runs_of_runWhile _ hw'
  obtain ⟨v, hv⟩ := Option.isSome_iff_exists.1 htwice
  have halike : preclaimMessage.Alike w preclaimReply := .update _ _ _ hunclaimed rfl rfl rfl
  obtain ⟨hinert, htwin⟩ := preclaim_inert hw
  exact ⟨w, w', hw, hruns, hend.2, (hinert w' hruns hend.1).1.2.1, v, hv,
    htwin v ((Machine.Runs.refl _).tail _ halike hv)⟩

end

end ChatHygiene
