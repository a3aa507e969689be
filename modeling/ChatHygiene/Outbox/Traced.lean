import ChatHygiene.Lifecycle.DryRun
import ChatHygiene.Lifecycle.Transitions
import ChatHygiene.Outbox.Attempts
import ChatHygiene.Outbox.Stored
import ChatHygiene.Processing.Trace
import ChatHygiene.System.Carried
import ChatHygiene.Updates.Due
/-!
# The dry-run trace is true

No action belongs to an update that still waits to be applied, so the actions a
trace finds of its update are the ones its event has just added. What the trace
says is queued is then what the outbox has, and what it says is left out is left
out.
-/

namespace ChatHygiene

open Txn (Respects commit bind_ok_iff)

variable {db db' : Database}

/-! ## Actions are of updates that are carried out -/

/-- Every action is of an update that there was an action of. -/
def SourcesKept (db db' : Database) : Prop :=
  ∀ b ∈ db'.outboxAction.rows, ∃ a ∈ db.outboxAction.rows, a.sourceUpdateId = b.sourceUpdateId

instance : Std.Refl SourcesKept := ⟨fun _ b hb => ⟨b, hb, rfl⟩⟩

instance : IsTrans Database SourcesKept where
  trans _ _ _ h h' c hc := by
    obtain ⟨b, hb, hsame⟩ := h' c hc
    obtain ⟨a, ha, hsame'⟩ := h b hb
    exact ⟨a, ha, hsame'.trans hsame⟩

theorem OutboxGrows.sourcesKept {K : NewOutboxAction → Prop}
    (h : OutboxGrows K db.toTables db'.toTables) (hK : ∀ a, K a →
      ∃ b ∈ db.outboxAction.rows, b.sourceUpdateId = a.sourceUpdateId) : SourcesKept db db' := by
  intro b hb
  rcases h.row b hb with ⟨a, ha, hsame⟩ | ⟨-, a, ha, hcarries⟩
  · exact ⟨a, ha, hsame.sourceUpdateId⟩
  · rw [hcarries.sourceUpdateId]
    exact hK a ha

theorem sourcesKept_of_writes {α : Type} {x : Uow α} (targets : List Target)
    (h : Respects (WritesTo targets fun _ => False) x) : Respects SourcesKept x :=
  h.mono fun _ _ hw => hw.outboxGrows.sourcesKept fun _ ha => absurd ha id

/-- The edit of an expired challenge is of the update that sent it. -/
theorem enqueueExpiryEdit_sourcesKept (challenge : ChallengeRecord) (now : DateTime) :
    Respects SourcesKept (enqueueExpiryEdit challenge now) := by
  intro db u db' h
  unfold enqueueExpiryEdit at h
  obtain ⟨source, s, hread, h⟩ := bind_ok_iff.1 h
  obtain ⟨hsource, rfl⟩ := Prod.mk.inj (Txn.read_ok_iff.1 hread)
  cases source with
  | none =>
    obtain ⟨-, rfl⟩ := Prod.mk.inj (Txn.pure_ok_iff.1 h)
    exact refl _
  | some sourceUpdateId =>
    obtain ⟨inserted, s, henqueue, h⟩ := bind_ok_iff.1 h
    obtain ⟨-, rfl⟩ := Prod.mk.inj (Txn.pure_ok_iff.1 h)
    obtain ⟨row, hfound, hid⟩ := Option.map_eq_some_iff.1 hsource
    have hwrites := (enqueueOutboxAction_writes (K := fun a => a.sourceUpdateId = sourceUpdateId)
      (List.mem_singleton_self Target.enqueue) rfl).of_ok henqueue
    refine hwrites.outboxGrows.sourcesKept fun a ha => ⟨row, List.mem_of_find?_eq_some hfound, ?_⟩
    exact hid.trans ha.symm

theorem expireDueState_sourcesKept (now : DateTime) :
    Respects SourcesKept (expireDueState now) := by
  have hrenew (p : Conversation → Bool) (f : Conversation → Conversation)
      (hf : ∀ c, (f c).key = c.key) : Respects SourcesKept (renewConversations p f hf now) :=
    sourcesKept_of_writes [.conversation] (Uow.updateConversation_writes (List.mem_singleton.2 rfl))
  have hone (challenge : ChallengeRecord) : Respects SourcesKept (expireChallenge now challenge) :=
    (sourcesKept_of_writes [.challenge] (closeChallenges_writes (by simp) _ _)).bind fun _ =>
      .ite (fun _ => .pure _) fun _ => (hrenew _ _ _).bind fun _ =>
        .ite (fun _ => (enqueueExpiryEdit_sourcesKept _ _).bind fun _ => .pure _) fun _ => .pure _
  have hall (challenges : List ChallengeRecord) :
      Respects SourcesKept (expireChallenges now challenges) := by
    induction challenges with
    | nil => exact .pure _
    | cons challenge challenges ih => exact (hone challenge).bind fun _ => ih.bind fun _ => .pure _
  exact (Respects.read _).bind fun due => (hall due).bind fun _ => (hrenew _ _ _).bind fun _ => .pure _

/-- The alert of a dispatch is of the update its action is of. -/
theorem finishDispatch_sourcesKept {action : OutboxActionRecord} {now : DateTime} {finish : Finish}
    {u : Unit} (hof : ∀ row ∈ db.outboxAction.rows, row.id = action.id → action.Of row)
    (h : finishDispatch action now finish db = .ok (u, db')) : SourcesKept db db' := by
  obtain ⟨mid, ⟨-, row, hrow, hid, -⟩, -⟩ := finishDispatch_ok h
  have halert (alert : OwnerAlert) (challengeId : Option Nat) :
      Respects (WritesTo finishTargets fun a => a.sourceUpdateId = action.sourceUpdateId)
        (enqueueOwnerAlert action alert challengeId now) := by
    unfold enqueueOwnerAlert
    split
    · exact .pure _
    · exact (enqueueOutboxAction_writes (K := fun a => a.sourceUpdateId = action.sourceUpdateId)
        (by simp) rfl).bind fun _ => .pure _
  have hwrites : WritesTo finishTargets (fun a => a.sourceUpdateId = action.sourceUpdateId) db db' :=
    (finishDispatch_respects (fun _ _ _ => finishOutbox_writes (by simp) _ _ _ _ _) halert
      (fun _ _ => markChallengeSent_writes (by simp) _ _)
      (fun _ => markChallengeUncertain_writes (by simp) _)
      (fun _ => disableBusinessConnection_writes (by simp) _ _)
      (Uow.setDestructiveMode_writes (by simp [Statement.Within])) finish).of_ok h
  refine hwrites.outboxGrows.sourcesKept fun a ha => ⟨row, hrow, ?_⟩
  rw [ha]
  exact (hof row hrow hid).sourceUpdateId.symm

/-- No action is of an update that still waits. -/
def Database.Unacted (db : Database) : Prop :=
  ∀ b ∈ db.outboxAction.rows, ∀ row, db.processedUpdate.lookup b.sourceUpdateId = some row →
    row.status ≠ .recorded

/-- What is recorded was recorded before, and its actions are of updates that had some. -/
theorem Database.Unacted.of_sourcesKept (h : db.Unacted) (hsources : SourcesKept db db')
    (hrecorded : ∀ row ∈ db'.processedUpdate.rows, row.status = .recorded →
      row ∈ db.processedUpdate.rows) : db'.Unacted := by
  intro b hb row hrow hwaits
  obtain ⟨a, ha, hsame⟩ := hsources b hb
  have hmem := hrecorded row (Table.mem_of_lookup hrow) hwaits
  have hlookup := Table.lookup_of_mem hmem
  rw [Table.key_of_lookup hrow, ← hsame] at hlookup
  exact h a ha row hlookup hwaits

namespace World

variable {w w' : World} {op : Op}

theorem unacted_of_step (hw : service.Reachable w) (h : w.db.Unacted)
    (hstep : w.step op = some w') : w'.db.Unacted := by
  have hprepared := eventsPrepared hw
  have hcarriedOut := carriedOut (hw.step trivial hstep)
  rcases step_db hstep with hsame | ⟨x, hcommits, hdb⟩
  · exact hsame ▸ h
  have hwrites := x.after_writes hprepared.noConnectionChange
  -- an action with an update of its own is of one that is carried out
  have hgrown (hrecorded : ∀ row ∈ w'.db.processedUpdate.rows, row.status = .recorded →
        row ∈ w.db.processedUpdate.rows)
      (hsource : ∀ a, x.Enqueues w.db a → ∃ source id, a.From source ∧
        source.updateId? = some id) : w'.db.Unacted := by
    intro b hb row hrow hwaits
    rcases hwrites.outboxGrows.row b (hdb ▸ hb) with ⟨a, ha, hsame⟩ | ⟨-, a, ha, hcarries⟩
    · have hmem := hrecorded row (Table.mem_of_lookup hrow) hwaits
      have hlookup := Table.lookup_of_mem hmem
      rw [Table.key_of_lookup hrow, ← hsame.sourceUpdateId] at hlookup
      exact h a ha row hlookup hwaits
    · obtain ⟨source, id, hfrom, hid⟩ := hsource a ha
      have hb' := hcarries.from hfrom
      rw [hb'.sourceUpdateId hid] at hrow
      exact hcarriedOut b hb source hb' id hid row hrow hwaits
  cases x with
  | record event =>
    intro b hb row hrow hwaits
    rcases hwrites.outboxGrows.row b (hdb ▸ hb) with ⟨a, ha, hsame⟩ | ⟨-, a, ha, -⟩
    · rw [← hsame.sourceUpdateId] at hrow
      have hmem := Table.mem_of_lookup hrow
      rw [hdb] at hmem
      rcases mem_record hmem with hold | ⟨rfl, hok⟩
      · have hlookup := Table.lookup_of_mem hold
        rw [Table.key_of_lookup hrow] at hlookup
        exact h a ha row hlookup hwaits
      · -- an update is only recorded under an id that nothing refers to
        have hnone : w.db.processedUpdate.lookup event.row.updateId = none := lookup_of_recorded hok
        rw [show event.row.updateId = a.sourceUpdateId from Table.key_of_lookup hrow] at hnone
        have hstored := w.db.consistent.updates.outboxFk a ha
        rw [Table.contains, hnone] at hstored
        cases hstored
    · cases ha
  | expire now =>
    have hsources : SourcesKept w.db ((Transaction.expire now).after w.db) :=
      Respects.commit (expireDueState_sourcesKept now) w.db
    rw [hdb]
    exact h.of_sourcesKept hsources fun row hrow hwaits =>
      hwrites.recorded (by simp) hrow hwaits
  | finish action now result =>
    rw [hdb]
    have hkept : SourcesKept w.db ((Transaction.finish action now result).after w.db) := by
      change SourcesKept w.db (commit (finishDispatch action now result) w.db).1
      cases hx : finishDispatch action now result w.db with
      | error error =>
        rw [Txn.commit_of_error hx]
        exact refl _
      | ok r =>
        rw [Txn.commit_of_ok hx]
        refine finishDispatch_sourcesKept ?_ hx
        cases hcommits with
        | finish hworker => exact (dispatchKept hw (by rw [hworker]; rfl)).row
    exact h.of_sourcesKept hkept fun row hrow hwaits => hwrites.recorded (by simp) hrow hwaits
  | apply updateId now =>
    refine hgrown (fun row hrow hwaits => hwrites.recorded (by simp) (hdb ▸ hrow) hwaits)
      fun a ha => ?_
    obtain ⟨row, event, -, -, -, hof⟩ := ha
    obtain ⟨source, hsource, hid⟩ := hof.origin
    exact ⟨source, _, hsource, hid⟩
  | ownerCommand | ownerStart | ownerClaimRejected | ownerClaim =>
    refine hgrown (fun row hrow hwaits => hwrites.recorded (by simp) (hdb ▸ hrow) hwaits)
      fun a ha => ?_
    obtain ⟨source, hsource, hid⟩ := NewOutboxAction.Of.origin ha
    exact ⟨source, _, hsource, hid⟩
  | _ =>
    exact hgrown (fun row hrow hwaits => hwrites.recorded (by simp) (hdb ▸ hrow) hwaits)
      fun a ha => absurd ha id

/-- **No action is of an update that still waits**, in any reachable world. -/
theorem unacted (h : service.Reachable w) : w.db.Unacted := by
  refine h.invariant (P := fun w => w.db.Unacted) ?_ fun w op w' hw hunacted _ hstep =>
    unacted_of_step hw hunacted hstep
  rintro w ⟨now, rfl⟩ b hb
  cases hb

end World

/-! ## The trace of an event -/

/-- The trace that the Owner is sent, as it is built from what has been stored. -/
def dryRunTrace (event : PreparedEvent) (facts : LifecycleFacts) : Uow ProcessingTrace := do
  let stateAfter ← traceStateAfter facts.optionalKey
  let sourceActions ← listOutboxActionsForUpdate event.updateId
  pure (.fromLifecycle event.updateId facts stateAfter (sourceActions.map (·.payload)))

namespace PreparedEvent

/-- The state of the conversation of the event, if it is stored. -/
def stateAfter (event : PreparedEvent) (db : Database) : Option ConversationState :=
  event.facts.optionalKey.bind fun key => (db.conversation.lookup key).map (·.state)

/-- The trace of an event that has led to `db`. -/
def trace (event : PreparedEvent) (db : Database) : ProcessingTrace :=
  .fromLifecycle event.updateId event.facts (event.stateAfter db)
    ((event.actions db).map (·.payload))

/-- The action that sends a trace to the Owner. -/
def traceAction (event : PreparedEvent) (ownerUserId : Int) (trace : ProcessingTrace) :
    NewOutboxAction where
  sourceUpdateId := event.updateId
  key := event.facts.optionalKey
  payload := .sendOwnerMessage
    ⟨none, some (.trace trace), none, some (event.facts.ownerChatId.getD ownerUserId), none⟩
  idempotencyKey := s!"{event.updateId}:DRY_RUN_TRACE"
  createdAt := event.facts.occurredAt

variable {event : PreparedEvent}

theorem actions_of_frame {targets : List Target} (h : Frame targets db.toTables db'.toTables)
    (ht : Target.challenge ∉ targets ∧ Target.ledger ∉ targets ∧ Target.dropConnection ∉ targets) :
    event.actions db' = event.actions db := by
  unfold PreparedEvent.actions
  simp only [PreparedAction.payloads_of_frame h ht]

theorem stateAfter_of_frame {targets : List Target} (h : Frame targets db.toTables db'.toTables)
    (ht : Target.conversation ∉ targets ∧ Target.dropConnection ∉ targets) :
    event.stateAfter db' = event.stateAfter db := by
  unfold stateAfter
  rw [h.conversation ht.1 ht.2]

theorem source_of_mem_actions {a : NewOutboxAction} (h : a ∈ event.actions db) :
    a.sourceUpdateId = event.updateId := by
  unfold PreparedEvent.actions at h
  split at h
  · cases h
  · obtain ⟨payload, -, rfl⟩ := List.mem_map.1 h
    rfl

/-- What an event adds to an outbox that has nothing of its update. -/
theorem actions_stored (huntaken : db.Untaken event.updateId)
    (h : Attempted (event.actions db') db db') : db'.outboxAction.rows = db.outboxAction.rows ++
      Keyed.numbered NewOutboxAction.row db.outboxSeq (event.actions db') := by
  unfold PreparedEvent.actions at h ⊢
  cases hkey : event.facts.optionalKey with
  | none =>
    rw [hkey] at h
    unfold Attempted at h
    exact (congrArg Prod.fst h).trans (List.append_nil _).symm
  | some key =>
    rw [hkey] at h
    dsimp only at h
    rw [← List.append_nil (actionsOf ..)] at h
    have hreplies : Replies event.updateId [] := Traced.none.replies
    have hstored := h.stored huntaken (PreparedAction.nodup_slots _ _) hreplies
    rwa [List.append_nil] at hstored

/-- **The actions a trace finds of its update are those its event has added.** -/
theorem listed_actions (hnone : ∀ b ∈ db.outboxAction.rows, b.sourceUpdateId ≠ event.updateId)
    (hstored : db'.outboxAction.rows = db.outboxAction.rows ++
      Keyed.numbered NewOutboxAction.row db.outboxSeq (event.actions db')) :
    ((db'.outboxAction.rows.filter fun b => b.sourceUpdateId = event.updateId).map
      OutboxActionRow.toRecord).map (·.payload) = (event.actions db').map (·.payload) := by
  have hbefore : (db.outboxAction.rows.filter fun b => b.sourceUpdateId = event.updateId) = [] :=
    List.filter_eq_nil_iff.2 fun b hb hsame => hnone b hb (of_decide_eq_true hsame)
  have hall : ((event.actions db').filter fun a => a.sourceUpdateId = event.updateId) =
      event.actions db' :=
    List.filter_eq_self.2 fun a ha => decide_eq_true (source_of_mem_actions ha)
  rw [hstored, List.filter_append, hbefore, List.nil_append, List.map_map]
  have hnumbered : ((Keyed.numbered NewOutboxAction.row db.outboxSeq (event.actions db')).filter
      fun b => b.sourceUpdateId = event.updateId).map ((·.payload) ∘ OutboxActionRow.toRecord) =
      ((event.actions db').filter fun a => a.sourceUpdateId = event.updateId).map (·.payload) :=
    Keyed.map_filter_numbered (fun _ _ => rfl) fun _ _ => rfl
  rw [hnumbered, hall]

/-- **A trace is built, and sent, from what the event has added.** -/
theorem traced_of_apply {ownerUserId : Int}
    (hconnection : ∀ o c e r, event.facts.action ≠ .connectionChanged o c e r)
    (huntaken : db.Untaken event.updateId)
    (hnone : ∀ b ∈ db.outboxAction.rows, b.sourceUpdateId ≠ event.updateId)
    (hdry : event.facts.dryRun = true) (howner : event.facts.ownerUserId = some ownerUserId)
    (h : LifecycleHandler.apply event db = .ok ((), db')) :
    ∃ acted, applyPreparedAction event.updateId event.facts event.facts.action db = .ok ((), acted) ∧
      dryRunTrace event event.facts acted = .ok (event.trace acted, acted) ∧
      Frame [.enqueue] acted.toTables db'.toTables ∧
      Attempted (event.actions acted ++ [event.traceAction ownerUserId (event.trace acted)])
        db db' := by
  obtain ⟨_, acted, haction, h⟩ := bind_ok_iff.1 h
  have hattempted := applyPreparedAction_attempted hconnection haction
  have hlisted := listed_actions hnone (actions_stored huntaken hattempted)
  have htraced : WritesTo [.enqueue] (NewOutboxAction.Of event.updateId True) acted db' :=
    (enqueueDryRunTrace_writes (by simp) _ _).of_ok h
  refine ⟨acted, haction, ?_, htraced.frame, hattempted.trans ?_⟩
  · unfold PreparedEvent.trace
    rw [← hlisted]
    rfl
  · unfold enqueueDryRunTrace at h
    rw [hdry, howner] at h
    obtain ⟨stateAfter, db₁, hstate, h⟩ := bind_ok_iff.1 h
    obtain ⟨rfl, rfl⟩ := Prod.mk.inj (Except.ok.inj hstate)
    obtain ⟨sourceActions, db₂, hlist, h⟩ := bind_ok_iff.1 h
    obtain ⟨rfl, rfl⟩ := Prod.mk.inj (Except.ok.inj hlist)
    obtain ⟨inserted, db₃, henqueue, h⟩ := bind_ok_iff.1 h
    obtain ⟨-, rfl⟩ := Prod.mk.inj (Except.ok.inj h)
    have hsent := (enqueueOutboxAction_attempted _).of_ok henqueue
    rw [hlisted] at hsent
    exact hsent

end PreparedEvent

/-! ## What is prepared in dry-run -/

/-- The verdict of an action is left without consequence exactly if it is spam. -/
def PreparedAction.VerdictSpared (action : PreparedAction) : Prop :=
  ∀ detection outcome dryRunSpam, action = .inbound detection outcome dryRunSpam →
    (dryRunSpam = true ↔ detection.decision = .spam)

/-- An event that creates a conversation has a state before it, and one of a dry-run is inert. -/
structure PreparedEvent.Traceable (event : PreparedEvent) : Prop where
  stateBefore : event.facts.action.createsConversation = true → event.facts.stateBefore.isSome = true
  inert : event.facts.dryRun = true → event.facts.action.inert = true
  verdict : event.facts.dryRun = true → event.facts.action.VerdictSpared

namespace EventPreparer

variable {preparer : EventPreparer} {raw : RawBusinessEvent} {action : PreparedAction}

theorem prepareInbound_verdict :
    Txn.Returns PreparedAction.VerdictSpared (preparer.prepareInbound raw false) := by
  refine .bind fun key => .bind fun conversation => .ite (fun _ => .pure ?_) fun _ =>
    .bind fun availability => .ite (fun _ => .pure ?_) fun _ => .ite (fun _ => .pure ?_) fun _ =>
    .ite (fun _ => .pure ?_) fun _ => .bind fun outcome => .pure ?_
  · exact fun _ _ _ heq => by cases heq
  · split <;> exact fun _ _ _ heq => by cases heq
  all_goals
    rintro detection outcome dryRunSpam ⟨⟩
    simp

theorem prepareAction_verdict (h : preparer.prepareAction raw false db = .ok (action, db')) :
    action.VerdictSpared := by
  obtain ⟨known, s, -, h⟩ := Txn.bind_ok_iff.1 h
  split at h
  · obtain ⟨rfl, -⟩ := Prod.mk.inj (Txn.pure_ok_iff.1 h)
    exact fun _ _ _ heq => by cases heq
  · cases hkind : raw.kind with
    | inboundMessage | editedInboundMessage =>
      rw [hkind] at h
      exact prepareInbound_verdict _ _ _ h
    | _ =>
      rw [hkind] at h
      obtain ⟨rfl, -⟩ := Prod.mk.inj (Txn.pure_ok_iff.1 h)
      exact fun _ _ _ heq => by cases heq

/-- **A prepared event can be traced.** -/
theorem prepare_traceable {updateId : Int} {event : PreparedEvent}
    (h : preparer.prepare updateId raw db = .ok (event, db')) : event.Traceable := by
  obtain ⟨-, -, -, -, hin⟩ := prepare_ok h
  unfold prepare at h
  obtain ⟨mode, s₁, hread, h₁⟩ := bind_ok_iff.1 h
  obtain ⟨rfl, rfl⟩ := Prod.mk.inj (Txn.read_ok_iff.1 hread)
  obtain ⟨owner, s₂, -, h₂⟩ := bind_ok_iff.1 h₁
  obtain ⟨before, s₃, -, h₃⟩ := bind_ok_iff.1 h₂
  obtain ⟨action, s₄, haction, h₄⟩ := bind_ok_iff.1 h₃
  obtain ⟨rfl, -⟩ := Prod.mk.inj (Txn.pure_ok_iff.1 h₄)
  have hmode (hdry : (!db.destructiveMode.getD preparer.destructiveMode &&
      !(raw.kind = .ownerClaim || raw.kind = .ignored)) = true) :
      db.destructiveMode.getD preparer.destructiveMode = false := by
    rw [Bool.and_eq_true, Bool.not_eq_true'] at hdry
    exact hdry.1
  refine ⟨fun hcreates => ?_, fun hdry => hin.inert (hmode hdry), fun hdry => ?_⟩
  · change action.createsConversation = true at hcreates
    dsimp only
    split
    · rfl
    · rw [hcreates]
      rfl
  · rw [hmode hdry] at haction
    exact prepareAction_verdict haction

end EventPreparer

theorem prepareUpdate_traceable {preparer : EventPreparer} {updateId : Int} {raw : RawBusinessEvent}
    {event : PreparedEvent} (h : prepareUpdate preparer updateId raw db = .ok (event, db')) :
    event.Traceable := by
  obtain ⟨raw', s, -, hprepare⟩ := bind_ok_iff.1 h
  exact EventPreparer.prepare_traceable hprepare

/-- **What waits to be applied can be traced.** -/
theorem World.traceable {w : World} (h : service.Reachable w) :
    w.Carried fun event _ => event.Traceable := by
  refine World.carried h fun w op _ => ?_
  rintro updateId raw preparer event rfl - hevent
  exact prepareUpdate_traceable hevent

/-! ## The conversation a trace tells of -/

/-- A message that is entered has its conversation stored. -/
theorem Entered.stored {m : LedgerMessage} (h : Entered m db db') :
    db'.conversation.contains m.key = true := by
  have hstored : ∃ n ∈ db'.messageLedger.rows, n.pk = m.pk := by
    unfold Entered at h
    cases hknown : db.messageLedger.lookup m.pk with
    | none =>
      refine ⟨m, ?_, rfl⟩
      rw [h, hknown]
      exact List.mem_append_right _ List.mem_cons_self
    | some n =>
      refine ⟨n, ?_, Table.key_of_lookup hknown⟩
      rw [h, hknown]
      exact Table.mem_of_lookup hknown
  obtain ⟨n, hn, hpk⟩ := hstored
  rw [← (Prod.mk.inj hpk).1]
  exact db'.consistent.conversations.ledgerFk n hn

/-- The conversation stays stored. -/
def StaysStored (key : ConversationKey) (db db' : Database) : Prop :=
  db.conversation.contains key = true → db'.conversation.contains key = true

instance (key : ConversationKey) : Std.Refl (StaysStored key) := ⟨fun _ => id⟩

instance (key : ConversationKey) : IsTrans Database (StaysStored key) :=
  ⟨fun _ _ _ h h' hstored => h' (h hstored)⟩

theorem saveConversation_staysStored (key : ConversationKey) (c : Conversation) (version : Nat) :
    Respects (StaysStored key) (saveConversation c version) := by
  have hupdate (p : Conversation → Bool) (f : Conversation → Conversation)
      (hf : ∀ c, (f c).key = c.key) : Respects (StaysStored key) (Uow.updateConversation p f hf) := by
    intro db n db' h hstored
    obtain ⟨-, hdb⟩ := Prod.mk.inj (Except.ok.inj (Uow.statement_ok_iff.1 h))
    rw [← hdb]
    exact (Table.contains_update _ p f hf key).trans hstored
  exact (hupdate _ _ _).bind fun affected =>
    .of_readOnly (.ite (fun _ => .pure _) fun _ => .throw _)

/-- A deletion has its conversation stored. -/
theorem applyDeletions_stored {facts : LifecycleFacts} {messageIds : List Int}
    (h : applyDeletions facts messageIds db = .ok ((), db')) :
    ∃ key, facts.optionalKey = some key ∧ db'.conversation.contains key = true := by
  obtain ⟨key, db₁, hkey, h⟩ := bind_ok_iff.1 h
  obtain ⟨hchat, rfl⟩ := key_ok hkey
  obtain ⟨userId, db₂, huser, h⟩ := bind_ok_iff.1 h
  obtain rfl := requireUserId_ok huser
  obtain ⟨c, db₃, hopen, h⟩ := bind_ok_iff.1 h
  have hopened := getOrCreateConversation_ok hopen
  have hstored : db₃.conversation.contains key = true := by
    rw [Table.contains, hopened.row]
    rfl
  have hmark (messageId : Int) : Respects (StaysStored key) (do
      let _ ← markMessageDeleted key messageId facts.occurredAt) := by
    have hwrites : Respects (WritesTo [.ledger] fun _ => True) (do
        let _ ← markMessageDeleted key messageId facts.occurredAt) :=
      (markMessageDeleted_writes (by simp) _ _ _).bind fun _ => .pure _
    refine hwrites.mono fun s s' hw hbefore => ?_
    rw [hw.frame.conversation (by simp) (by simp)]
    exact hbefore
  refine ⟨key, hchat, Respects.of_ok (R := StaysStored key) ?_ h hstored⟩
  refine (Respects.forEach fun messageId _ => hmark messageId).bind fun _ =>
    (Respects.read _).bind fun replies => .ite (fun _ => ?_) fun _ => .pure _
  exact (Respects.of_readOnly (setTransition_readOnly _ _ _)).bind fun _ =>
    saveConversation_staysStored key _ _

/-! ## What an inert action enqueues -/

section

variable {action : PreparedAction} {messageId : Option Int} {key : ConversationKey}

/-- What an inert outcome enqueues, and what is proposed by it. -/
theorem InboundOutcome.payloads_of_inert {detection : DetectionFacts} {outcome : InboundOutcome}
    {dryRunSpam : Bool} (h : (PreparedAction.inbound detection outcome dryRunSpam).inert = true)
    {payload : OutboxPayload × Nat} (hmem : payload ∈ outcome.payloads messageId key db) :
    payload.1.kind.destructive = false ∧ ∀ reason score hours,
      payload.1 = .proposedDestructiveAction reason score hours →
        reason = "verification_exhausted" ∧
          (PreparedAction.inbound detection outcome dryRunSpam).exhausts = true := by
  cases outcome with
  | spam => cases h
  | retain => cases hmem
  | incorrect challengeId exhausted attemptsRemaining blockExpiresAt =>
    cases blockExpiresAt with
    | some expiresAt => cases h
    | none =>
      cases exhausted with
      | false =>
        rw [List.mem_singleton.1 hmem]
        exact ⟨rfl, fun _ _ _ heq => by cases heq⟩
      | true =>
        rcases List.mem_cons.1 hmem with rfl | hmem
        · refine ⟨rfl, ?_⟩
          rintro reason score hours ⟨⟩
          exact ⟨rfl, rfl⟩
        · rw [List.mem_singleton.1 hmem]
          exact ⟨rfl, fun _ _ _ heq => by cases heq⟩
  | startChallenge | correct | expired =>
    rw [List.mem_singleton.1 hmem]
    exact ⟨rfl, fun _ _ _ heq => by cases heq⟩

/-- **An inert action enqueues nothing destructive**, and proposes what its verdict and its answer
would have led to. -/
theorem PreparedAction.payloads_of_inert (h : action.inert = true) {payload : OutboxPayload × Nat}
    (hmem : payload ∈ action.payloads messageId key db) :
    payload.1.kind.destructive = false ∧ ∀ reason score hours,
      payload.1 = .proposedDestructiveAction reason score hours →
        (reason = "spam" ∧ action.sparesSpam = true) ∨
          (reason = "verification_exhausted" ∧ action.exhausts = true) := by
  cases action with
  | inbound detection outcome dryRunSpam =>
    rcases List.mem_append.1 hmem with hmem | hmem
    · rcases List.mem_append.1 hmem with hmem | hmem
      · cases dryRunSpam with
        | false => cases hmem
        | true =>
          rw [if_pos rfl, List.mem_singleton] at hmem
          subst hmem
          refine ⟨rfl, ?_⟩
          rintro reason score hours ⟨⟩
          exact .inl ⟨rfl, rfl⟩
      · split at hmem
        · rw [List.mem_singleton.1 hmem]
          exact ⟨rfl, fun _ _ _ heq => by cases heq⟩
        · cases hmem
    · obtain ⟨hharmless, hproposed⟩ := InboundOutcome.payloads_of_inert h hmem
      exact ⟨hharmless, fun reason score hours heq => .inr (hproposed reason score hours heq)⟩
  | blockedInbound => cases h
  | _ => cases hmem

/-- **An inert action moves the state only if a trace may say so.** -/
theorem Lifecycle.effect_state {l l' : Lifecycle} {nextId : Nat} {noReplies : Bool}
    (hinert : action.inert = true) (hstays : action.movesState = false)
    (h : l.effect nextId noReplies action = some l') : l'.state = l.state := by
  cases action with
  | inbound detection outcome dryRunSpam =>
    cases outcome with
    | retain =>
      cases h
      rfl
    | spam => cases hinert
    | incorrect challengeId exhausted attemptsRemaining blockExpiresAt =>
      cases exhausted with
      | true => cases hstays
      | false =>
        obtain ⟨l₁, hcounted, h⟩ := Option.bind_eq_some_iff.1 h
        obtain ⟨challenge, rfl⟩ := counted_eq hcounted
        cases h
        rfl
    | startChallenge | correct | expired => cases hstays
  | manualOwner | messagesDeleted => cases hstays
  | _ =>
    cases h
    rfl

theorem PreparedAction.creates_of_moves (h : action.movesState = true) :
    action.createsConversation = true := by
  cases action with
  | connectionChanged | activeInbound | ignore => cases h
  | _ => rfl

end

/-! ## What a trace lists of what is left out -/

theorem applied_not_mem_traceActions {payload : OutboxPayload} {name : String} :
    ⟨name, .applied⟩ ∉ payload.traceActions := by
  unfold OutboxPayload.traceActions
  split <;> simp

/-- What is said to be left out is proposed. -/
theorem proposed_of_skipped {payload : OutboxPayload} {name : String}
    (h : ⟨name, .skippedDryRun⟩ ∈ payload.traceActions) : ∃ reason score hours,
      payload = .proposedDestructiveAction reason score hours ∧
        ((reason = "spam" ∧ (name = "SPAM_BLOCK" ∨ name = "DELETE_MESSAGE")) ∨
          (reason = "verification_exhausted" ∧ name = "TEMP_SOFT_BLOCK")) := by
  unfold OutboxPayload.traceActions at h
  split at h
  · refine ⟨_, _, _, rfl, .inl ⟨rfl, ?_⟩⟩
    simpa using h
  · refine ⟨_, _, _, rfl, .inr ⟨rfl, ?_⟩⟩
    simpa using h
  · cases h
  · cases List.mem_singleton.1 h

/-- **What a trace of an inert event says.** The state is listed as changed if it differs and the
action may move it, and the blocks that are said to be left out are those it would have led to. -/
theorem ProcessingTrace.says (updateId : Int) (facts : LifecycleFacts)
    (stateAfter : Option ConversationState) (source : List OutboxPayload) (hsource : ∀ payload ∈ source,
      ∀ reason score hours, payload = .proposedDestructiveAction reason score hours →
        (reason = "spam" ∧ facts.action.sparesSpam = true) ∨
          (reason = "verification_exhausted" ∧ facts.action.exhausts = true)) :
    let trace := fromLifecycle updateId facts stateAfter source
    (⟨"UPDATE_CONVERSATION_STATE", .applied⟩ ∈ trace.actions ↔
      facts.action.movesState = true ∧ facts.stateBefore ≠ stateAfter) ∧
    (⟨"SPAM_BLOCK", .skippedDryRun⟩ ∈ trace.actions ↔ facts.action.sparesSpam = true) ∧
    (⟨"TEMP_SOFT_BLOCK", .skippedDryRun⟩ ∈ trace.actions ↔ facts.action.exhausts = true) := by
  obtain ⟨hmoved, hspam, hexhausted⟩ := internalActions_says facts stateAfter
  intro trace
  change (_ ∈ appendOutboxActions source (internalActions facts stateAfter) ↔ _) ∧
    (_ ∈ appendOutboxActions source (internalActions facts stateAfter) ↔ _) ∧
    (_ ∈ appendOutboxActions source (internalActions facts stateAfter) ↔ _)
  simp only [mem_appendOutboxActions, hmoved, hspam, hexhausted]
  refine ⟨or_iff_left ?_, or_iff_left_of_imp ?_, or_iff_left_of_imp ?_⟩
  · rintro ⟨payload, -, hpayload⟩
    exact applied_not_mem_traceActions hpayload
  · rintro ⟨payload, hpayload, hskipped⟩
    obtain ⟨reason, score, hours, heq, hsays⟩ := proposed_of_skipped hskipped
    rcases hsource payload hpayload reason score hours heq with ⟨-, hspared⟩ | ⟨hreason, -⟩
    · exact hspared
    · rcases hsays with ⟨hspam, -⟩ | ⟨-, hname⟩
      · exact absurd (hspam.symm.trans hreason) (by decide)
      · exact absurd hname (by decide)
  · rintro ⟨payload, hpayload, hskipped⟩
    obtain ⟨reason, score, hours, heq, hsays⟩ := proposed_of_skipped hskipped
    rcases hsource payload hpayload reason score hours heq with ⟨hreason, -⟩ | ⟨-, hexhausts⟩
    · rcases hsays with ⟨-, hname⟩ | ⟨hreason', -⟩
      · rcases hname with hname | hname <;> exact absurd hname (by decide)
      · exact absurd (hreason.symm.trans hreason') (by decide)
    · exact hexhausts

/-! ## Runs -/

namespace World

variable {w w' : World} {op : Op} {event : PreparedEvent} {ownerUserId : Int}

/-- A trace was sent, and what it says is so. -/
structure TraceTrue (w w' : World) (event : PreparedEvent) (ownerUserId : Int)
    (trace : ProcessingTrace) : Prop where
  built : ∃ acted, applyPreparedAction event.updateId event.facts event.facts.action w.db =
    .ok ((), acted) ∧ dryRunTrace event event.facts acted = .ok (trace, acted)
  sent : w'.db.outboxAction.rows = w.db.outboxAction.rows ++ Keyed.numbered NewOutboxAction.row
    w.db.outboxSeq (event.actions w'.db ++ [event.traceAction ownerUserId trace])
  read : readOperations trace.render = some trace.actions
  once : trace.actions.Nodup
  queued : ∀ name, ⟨name, .queued⟩ ∈ trace.actions ↔
    ∃ a ∈ event.actions w'.db, a.payload.real = true ∧ a.payload.kind.asStr = name
  moved : ∀ key, event.facts.optionalKey = some key →
    event.facts.stateBefore.getD .new = (w.db.lifecycle key).state →
    (⟨"UPDATE_CONVERSATION_STATE", .applied⟩ ∈ trace.actions ↔
      (w'.db.lifecycle key).state ≠ (w.db.lifecycle key).state)
  spared : ⟨"SPAM_BLOCK", .skippedDryRun⟩ ∈ trace.actions ↔ ∃ detection outcome dryRunSpam,
    event.facts.action = .inbound detection outcome dryRunSpam ∧ detection.decision = .spam
  exhausted : ⟨"TEMP_SOFT_BLOCK", .skippedDryRun⟩ ∈ trace.actions ↔
    ∃ detection challengeId attemptsRemaining blockExpiresAt dryRunSpam, event.facts.action =
      .inbound detection (.incorrect challengeId true attemptsRemaining blockExpiresAt) dryRunSpam
  harmless : ∀ a ∈ event.actions w'.db, a.payload.kind.destructive = false
  unblocked : ∀ key, (w.db.lifecycle key).state.blocked = false →
    (w'.db.lifecycle key).state.blocked = false

/-- **An event that is carried out in dry-run is traced**, from what it has added. -/
theorem traced_of_step (h : service.Reachable w) (hstep : w.step op = some w')
    (happlies : w.appliesEvent op = some event) (hdry : event.facts.dryRun = true)
    (howner : event.facts.ownerUserId = some ownerUserId) :
    (∃ acted, applyPreparedAction event.updateId event.facts event.facts.action w.db =
        .ok ((), acted) ∧
      dryRunTrace event event.facts acted = .ok (event.trace w'.db, acted) ∧
      w'.db.conversation = acted.conversation) ∧
    w'.db.outboxAction.rows = w.db.outboxAction.rows ++ Keyed.numbered NewOutboxAction.row
      w.db.outboxSeq (event.actions w'.db ++
        [event.traceAction ownerUserId (event.trace w'.db)]) := by
  obtain ⟨id, now, hcommits, happlied⟩ := appliesEvent_eq_some happlies
  have hdb := hcommits.apply_db hstep
  obtain ⟨rfl, row, db₁, hrow, hrecorded, hevent, happly, hmark⟩ :=
    (eventsPrepared h).appliedEvent_spec happlied
  have hconnection := (eventsPrepared h).noConnectionChange row (Table.mem_of_lookup hrow) hrecorded
    event hevent
  have huntaken : w.db.Untaken event.updateId := untaken h fun u hu => by
    rw [hrow] at hu
    exact Option.some.inj hu ▸ hrecorded
  have hnone : ∀ b ∈ w.db.outboxAction.rows, b.sourceUpdateId ≠ event.updateId :=
    fun b hb hsame => unacted h b hb row (hsame ▸ hrow) hrecorded
  obtain ⟨acted, haction, htrace, hframe, hattempted⟩ :=
    PreparedEvent.traced_of_apply hconnection huntaken hnone hdry howner happly
  have hmarked : WritesTo [.update] (fun _ => False) db₁ w'.db := by
    rw [hdb]
    exact (markApplied_writes (by simp) _ _).of_ok hmark
  -- neither the trace nor the mark changes what the trace is built from
  have hafter : Frame [.enqueue, .update] acted.toTables w'.db.toTables :=
    (hframe.mono (by simp)).trans (hmarked.frame.mono (by simp))
  have hactions : event.actions w'.db = event.actions acted :=
    PreparedEvent.actions_of_frame hafter (by simp)
  have hstate : event.stateAfter w'.db = event.stateAfter acted :=
    PreparedEvent.stateAfter_of_frame hafter (by simp)
  have htrace' : event.trace w'.db = event.trace acted := by
    unfold PreparedEvent.trace
    rw [hactions, hstate]
  refine ⟨⟨acted, haction, htrace' ▸ htrace, hafter.conversation (by simp) (by simp)⟩, ?_⟩
  rw [hactions, htrace', hmarked.frame.outboxAction (by simp) (by simp) (by simp)]
  unfold PreparedEvent.actions at hattempted ⊢
  have hreplies : Replies event.updateId
      [event.traceAction ownerUserId (event.trace acted)] := by
    refine ⟨fun a ha => .inr ?_, List.nodup_singleton _⟩
    rw [List.mem_singleton.1 ha]
    exact ⟨ActionSource.trace_key _, rfl, rfl⟩
  cases hkey : event.facts.optionalKey with
  | none =>
    rw [hkey] at hattempted
    have hempty : Attempted (actionsOf event.updateId ⟨"", 0⟩ now [] ++
      [event.traceAction ownerUserId (event.trace acted)]) w.db db₁ := hattempted
    exact hempty.stored huntaken List.nodup_nil hreplies
  | some key =>
    rw [hkey] at hattempted
    exact hattempted.stored huntaken (PreparedAction.nodup_slots _ _) hreplies

/-- A conversation that an event is carried out for is stored, if events of its kind create it. -/
theorem stored_of_carriesOut {row : ProcessedUpdate} {preparedIn acted : Database}
    {key : ConversationKey} (hcarried : w.CarriesOut row event preparedIn w'.db)
    (haction : applyPreparedAction event.updateId event.facts event.facts.action w.db =
      .ok ((), acted)) (hsame : w'.db.conversation = acted.conversation)
    (hkey : event.facts.optionalKey = some key)
    (hcreates : event.facts.action.createsConversation = true) :
    w'.db.conversation.contains key = true := by
  cases hcarried.ledgered with
  | entered key' messageId m hkey' hmessage hentry hentered =>
    obtain rfl : key' = key := Option.some.inj (hkey'.symm.trans hkey)
    have hkeyed : m.key = key' := (Prod.mk.inj (LifecycleFacts.entry_new hentry).1).1
    exact hkeyed ▸ hentered.stored
  | struck key' messageIds hkey' hdeleted hstruck =>
    rw [hdeleted] at haction
    obtain ⟨key'', hkey'', hstored⟩ := applyDeletions_stored haction
    obtain rfl : key'' = key := Option.some.inj (hkey''.symm.trans hkey)
    rw [hsame]
    exact hstored
  | kept hentry hno hledger =>
    cases hcase : event.facts.action with
    | messagesDeleted messageIds => exact absurd hcase (hno messageIds)
    | connectionChanged | activeInbound | ignore =>
      rw [hcase] at hcreates
      cases hcreates
    | _ =>
      have hnone := hentry key 0
      rw [LifecycleFacts.entry, hcase] at hnone
      cases hnone

/-- **The dry-run trace is true.** An event that is carried out in dry-run adds its actions and its
trace to the outbox. The text of the trace can be read back; what it says is queued is what was added,
it says that the state changed exactly if it did, it says that a block was left out exactly if the
verdict was spam or the last answer was wrong, and no block and no cleanup has come of the event. -/
theorem dry_run_trace_true (h : service.Reachable w) (hstep : w.step op = some w')
    (happlies : w.appliesEvent op = some event) (hdry : event.facts.dryRun = true)
    (howner : event.facts.ownerUserId = some ownerUserId) :
    w.TraceTrue w' event ownerUserId (event.trace w'.db) := by
  obtain ⟨⟨acted, haction, htrace, hsame⟩, hsent⟩ := traced_of_step h hstep happlies hdry howner
  -- the event was due, was recorded in dry-run, and is inert for that
  obtain ⟨row, preparedIn, hcarried⟩ : ∃ row preparedIn, w.CarriesOut row event preparedIn w'.db := by
    cases (eventsPrepared h).dueStep hstep with
    | carried row event' preparedIn hdue happlies' hcarried =>
      obtain rfl : event' = event := Option.some.inj (happlies'.symm.trans happlies)
      exact ⟨row, preparedIn, hcarried⟩
    | rejected row event' preparedIn hdue hin hhistory hno hnone hsame =>
      cases hnone.symm.trans happlies
    | other hdue hnone hother => cases hnone.symm.trans happlies
  obtain ⟨-, -, htraceable⟩ := (traceable h).recorded row (Table.mem_of_lookup hcarried.lookup)
    hcarried.recorded event hcarried.recordedIn.carries
  have hinert := htraceable.inert hdry
  -- so none of its actions is destructive, and what it proposes it proposes for its verdict
  have hpayloads : ∀ a ∈ event.actions w'.db, a.payload.kind.destructive = false ∧
      ∀ reason score hours, a.payload = .proposedDestructiveAction reason score hours →
        (reason = "spam" ∧ event.facts.action.sparesSpam = true) ∨
          (reason = "verification_exhausted" ∧ event.facts.action.exhausts = true) := by
    intro a ha
    unfold PreparedEvent.actions at ha
    split at ha
    · cases ha
    · obtain ⟨payload, hpayload, rfl⟩ := List.mem_map.1 ha
      exact PreparedAction.payloads_of_inert hinert hpayload
  obtain ⟨hmoved, hspam, hexhausted⟩ := ProcessingTrace.says event.updateId event.facts
    (event.stateAfter w'.db) ((event.actions w'.db).map (·.payload)) fun payload hpayload => by
      obtain ⟨a, ha, rfl⟩ := List.mem_map.1 hpayload
      exact (hpayloads a ha).2
  obtain ⟨hread, honce⟩ := readOperations_fromLifecycle event.updateId event.facts
    (event.stateAfter w'.db) ((event.actions w'.db).map (·.payload))
  refine ⟨⟨acted, haction, htrace⟩, hsent, hread, honce, fun name => ?_, fun key hkey hbefore => ?_,
    hspam.trans ?_, hexhausted.trans ?_, fun a ha => (hpayloads a ha).1, fun key hopen => ?_⟩
  · refine queued_iff.trans ?_
    simp [List.mem_map]
  · refine hmoved.trans ?_
    obtain ⟨noReplies, heffect, -⟩ := hcarried.applied.life key hkey
    -- an action that may move the state has stored its conversation
    cases hmoves : event.facts.action.movesState with
    | false =>
      have hstays := Lifecycle.effect_state hinert hmoves heffect
      simp [hstays]
    | true =>
      have hcreates := PreparedAction.creates_of_moves hmoves
      have hstored := stored_of_carriesOut hcarried haction hsame hkey hcreates
      obtain ⟨c, hc⟩ := Option.isSome_iff_exists.1 hstored
      obtain ⟨stateBefore, hstate⟩ := Option.isSome_iff_exists.1 (htraceable.stateBefore hcreates)
      have hafter : event.stateAfter w'.db = some (w'.db.lifecycle key).state := by
        unfold PreparedEvent.stateAfter
        rw [hkey, Option.bind_some, hc, Database.lifecycle_of_lookup hc]
        rfl
      rw [hstate, Option.getD_some] at hbefore
      rw [and_iff_right rfl, hstate, hafter, hbefore]
      simp [eq_comm]
  · cases hcase : event.facts.action with
    | inbound detection outcome dryRunSpam =>
      rw [PreparedAction.sparesSpam, htraceable.verdict hdry detection outcome dryRunSpam hcase]
      simp
    | _ => simp [PreparedAction.sparesSpam]
  · cases hcase : event.facts.action with
    | inbound detection outcome dryRunSpam =>
      rw [hcase] at hinert
      cases outcome with
      | incorrect challengeId exhausted attemptsRemaining blockExpiresAt =>
        cases blockExpiresAt with
        | some expiresAt => cases hinert
        | none => cases exhausted <;> simp [PreparedAction.exhausts]
      | _ => simp [PreparedAction.exhausts]
    | _ => simp [PreparedAction.exhausts]
  · by_cases hkey : event.facts.optionalKey = some key
    · obtain ⟨noReplies, heffect, -⟩ := hcarried.applied.life key hkey
      exact Lifecycle.effect_unblocked hinert hopen heffect
    · rw [hcarried.applied.others key hkey]
      exact hopen

end World

section

open Sample

/-- The step is traced to the Owner, and the trace lists the operation. -/
def World.tracesAs (w : World) (op : Op) (ownerUserId : Int) (operation : TraceAction) : Bool :=
  (w.appliesEvent op).any fun event =>
    event.facts.dryRun && event.facts.ownerUserId = some ownerUserId &&
      (w.step op).any fun w' => operation ∈ (event.trace w'.db).actions

set_option maxRecDepth 100000 in
/-- The first message of a contact is challenged in dry-run, and the trace says so. -/
theorem World.dry_run_trace_true_challenged : ∃ (w w' : World) (event : PreparedEvent),
    service.Reachable w ∧ w.step (.worker (.apply 3)) = some w' ∧
      ⟨"UPDATE_CONVERSATION_STATE", .applied⟩ ∈ (event.trace w'.db).actions ∧
      w.TraceTrue w' event 7 (event.trace w'.db) := by
  obtain ⟨w, hw, htraces⟩ : ∃ w, service.Reachable w ∧ w.tracesAs (.worker (.apply 3)) 7
      ⟨"UPDATE_CONVERSATION_STATE", .applied⟩ = true :=
    Machine.reachable_of_run
      (Sample.connected false ++ receive 3 50 1 .inboundMessage .allow .correct 3)
      (fun w : World => w.tracesAs (.worker (.apply 3)) 7
        ⟨"UPDATE_CONVERSATION_STATE", .applied⟩) ⟨0, rfl⟩ (by decide +kernel)
  obtain ⟨event, happlies, htraced⟩ := (Option.any_eq_true _ _).1 htraces
  rw [Bool.and_eq_true, Bool.and_eq_true] at htraced
  obtain ⟨⟨hdry, howner⟩, hlists⟩ := htraced
  obtain ⟨w', hstep, hlisted⟩ := (Option.any_eq_true _ _).1 hlists
  exact ⟨w, w', event, hw, hstep, of_decide_eq_true hlisted,
    World.dry_run_trace_true hw hstep happlies hdry (of_decide_eq_true howner)⟩

end

end ChatHygiene
