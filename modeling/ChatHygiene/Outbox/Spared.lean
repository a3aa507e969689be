import ChatHygiene.Lifecycle.DryRun
import ChatHygiene.Lifecycle.Late
import ChatHygiene.Lifecycle.Replies
import ChatHygiene.Outbox.Cleanup
import ChatHygiene.System.Carried
/-!
# The Owner's replies are spared

A cleanup takes whatever stands in the ledger of its conversation, so what it
spares is decided elsewhere: a standing reply of the Owner keeps its
conversation active, a cleanup is prepared for a conversation that is not, and
until it is applied nothing makes the conversation active.
-/

namespace ChatHygiene

open Txn (Respects commit)

variable {db db' : Database}

/-! ## Messages leave the ledger, and only events enter them -/

/-- Every message of the ledger was in it before. -/
def Falls (db db' : Database) : Prop :=
  ∀ m ∈ db'.messageLedger.rows, m ∈ db.messageLedger.rows

instance : Std.Refl Falls := ⟨fun _ _ hm => hm⟩

instance : IsTrans Database Falls := ⟨fun _ _ _ h h' m hm => h m (h' m hm)⟩

/-- A transaction that writes to no ledger at most deletes connections, and their messages. -/
theorem WritesTo.falls {targets : List Target} {K : NewOutboxAction → Prop}
    (h : WritesTo targets K db db') (hledger : Target.ledger ∉ targets) : Falls db db' := by
  refine Txn.Through.relation (R := Falls) ?_ h
  intro st s s' hst heffect
  by_cases hdrop : st.target = .dropConnection
  · cases st with
    | deleteConnection p =>
      obtain ⟨n, heffect⟩ := heffect
      obtain ⟨-, hs⟩ := Prod.mk.inj (Except.ok.inj heffect)
      intro m hm
      rw [← hs] at hm
      exact (Table.mem_delete.1 hm).1
    | _ => simp at hdrop
  · have hne : st.target ≠ .ledger := fun htarget => hledger (htarget ▸ hst.target_mem)
    have hsame : s'.messageLedger = s.messageLedger := heffect.frame.messageLedger
      (fun hmem => hne (List.mem_singleton.1 hmem).symm)
      fun hmem => hdrop (List.mem_singleton.1 hmem).symm
    exact fun m hm => hsame ▸ hm

theorem falls_of_writes {α : Type} {x : Uow α} {K : NewOutboxAction → Prop}
    (targets : List Target) (ht : Target.ledger ∉ targets) (h : Respects (WritesTo targets K) x) :
    Respects Falls x := h.mono fun _ _ hw => hw.falls ht

/-- A reset takes the messages of its conversation out. -/
theorem resetConversation_falls (connection : BusinessConnectionRecord) (chatId : Int)
    (now : DateTime) : Respects Falls (resetConversation connection chatId now) := by
  have hdelete (p : LedgerMessage → Bool) : Respects Falls (Uow.deleteLedger p) := by
    intro db n db' h m hm
    obtain ⟨-, hdb⟩ := Prod.mk.inj (Except.ok.inj (Uow.statement_ok_iff.1 h))
    rw [← hdb] at hm
    exact (Table.mem_delete.1 hm).1
  refine (Respects.read _).bind fun conversation => ?_
  cases conversation with
  | none => exact .pure _
  | some conversation =>
    refine (Respects.read _).bind fun _ => (Respects.read _).bind fun _ => ?_
    refine (falls_of_writes (K := fun _ => True) [.outbox] (by simp)
      (Uow.deleteOutbox_writes (by exact List.mem_singleton.2 rfl))).bind fun _ => ?_
    refine (falls_of_writes (K := fun _ => True) [.challenge] (by simp)
      (Uow.deleteChallenge_writes (by exact List.mem_singleton.2 rfl))).bind fun _ => ?_
    refine (hdelete _).bind fun _ => ?_
    refine (falls_of_writes (K := fun _ => True) [.conversation] (by simp)
      (Uow.updateConversation_writes (by exact List.mem_singleton.2 rfl))).bind fun _ => ?_
    exact (falls_of_writes (K := fun _ => True) [.audit] (by simp)
      ((insertAuditEvent_writes (by simp) _).bind fun _ => .pure _)).bind fun _ => .pure _

theorem processOwnerCommand_falls (updateId : Int) (snapshot : OwnerCommandSnapshot)
    (occurredAt : DateTime) (default : Bool) :
    Respects Falls (processOwnerCommand updateId snapshot occurredAt default) := by
  have hother {α : Type} {x : Uow α} (h : Respects (WritesTo
      [.update, .audit, .owner, .enqueue, .mode, .conversation, .challenge] fun _ => True) x) :
      Respects Falls x := falls_of_writes _ (by simp) h
  exact processOwnerCommand_respects (hother (insertRedactedUpdate_writes (by simp) _ _))
    (hother (authorize_writes (by simp) _ _))
    (fun _ => executeCommand_respects fun command _ => executeAuthorized_respects
      (fun connection chatId _ => resetConversation_falls _ _ _)
      (fun _ _ => hother (unblockConversation_writes (by simp) _ _ _))
      fun _ _ => hother (setDryRun_writes (by simp) _ _))
    (fun actions => falls_of_writes (K := NewOutboxAction.Of updateId True) [.enqueue] (by simp)
      (enqueueOwnerTelegramActions_writes (by simp) actions (fun _ => trivial) _))
    fun _ _ _ => falls_of_writes (K := fun _ => True) [.enqueue] (by simp)
      (enqueueDirectOwnerMessage_writes (by simp) _ _ _ _)

/-- **Only an event enters a message.** -/
theorem Transaction.falls (h : db.NoConnectionChange) {x : Transaction}
    (hx : ∀ updateId now, x ≠ .apply updateId now) : Falls db (x.after db) := by
  have hwrites := x.after_writes h
  cases x with
  | apply updateId now => exact absurd rfl (hx updateId now)
  | ownerCommand updateId snapshot occurredAt default =>
    exact (processOwnerCommand_falls _ _ _ _).commit db
  | ownerStart updateId snapshot occurredAt default =>
    refine Respects.commit (R := Falls) (processOwnerStart_respects
      (processOwnerCommand_falls _ _ _ _) ?_ fun _ => ?_) db
    · exact falls_of_writes (K := fun _ => True) [.update] (by simp)
        (insertRedactedUpdate_writes (by simp) _ _)
    · exact falls_of_writes (K := NewOutboxAction.Of updateId True) [.enqueue] (by simp)
        (enqueuePrivateMessage_writes (by simp) _ _ _)
  | purge now =>
    refine Respects.commit (R := Falls) (fun s report s' hs m hm => ?_) db
    rw [(purgeHistory_yields now s).of_ok hs] at hm
    exact (Table.mem_delete.1 hm).1
  | _ => exact hwrites.falls (by simp)

/-! ## What messages are reported as -/

/-- What Telegram reports messages of conversations as: a message of the contact, a message the
Owner wrote, or one a bot or an away message of theirs sent. -/
structure Reports where
  contact : ConversationKey → Int → Bool
  manual : ConversationKey → Int → Bool
  automated : ConversationKey → Int → Bool

/-- The message is reported as one of the kind. -/
def RawEventKind.reports (reports : Reports) (key : ConversationKey) (messageId : Int) :
    RawEventKind → Bool
  | .inboundMessage | .editedInboundMessage => reports.contact key messageId
  | .manualOwnerMessage => reports.manual key messageId
  | .botBusinessMessage | .implicitOwnerMessage => reports.automated key messageId
  | .messagesDeleted | .businessConnectionChanged | .ownerClaim | .ownerStart | .ownerCommand
  | .ignored => true

/-- The update that is delivered is among the reports. -/
def RawBusinessEvent.Reported (raw : RawBusinessEvent) (reports : Reports) : Prop :=
  ∀ connectionId ∈ raw.connectionId, ∀ chatId ∈ raw.chatId, ∀ messageId ∈ raw.messageId,
    raw.kind.reports reports ⟨connectionId, chatId⟩ messageId = true

/-- The update a step prepares. -/
def Op.raw : Op → Option RawBusinessEvent
  | .worker (.prepare _ raw _) => some raw
  | _ => none

/-- Events are applied in order, and what is delivered is among the reports. -/
def OrderedReports (reports : Reports) (w : World) (op : Op) : Prop :=
  AppliedInOrder w op ∧ ∀ raw ∈ op.raw, raw.Reported reports

instance (reports : Reports) (w : World) (op : Op) : Decidable (OrderedReports reports w op) :=
  inferInstanceAs (Decidable (_ ∧ ∀ raw ∈ op.raw, ∀ connectionId ∈ _, _))

/-- The message is a reply of the Owner, or was reported as another one. -/
def LedgerMessage.Reported (m : LedgerMessage) (reports : Reports) : Prop :=
  m.manualOwnerReply = true ∨ reports.contact m.key m.messageId = true ∨
    reports.automated m.key m.messageId = true

/-- The event enters its message as what it is reported as. -/
def PreparedEvent.Reported (event : PreparedEvent) (reports : Reports) : Prop :=
  ∀ key messageId m, event.facts.optionalKey = some key → event.facts.messageId = some messageId →
    event.facts.entry key messageId = some m → m.Reported reports

/-- The action enters a message of the contact. -/
def PreparedAction.fromContact : PreparedAction → Bool
  | .inbound .. | .blockedInbound | .blockedFailOpen => true
  | _ => false

namespace EventPreparer

variable {preparer : EventPreparer} {raw : RawBusinessEvent} {action : PreparedAction}

/-- A message of the contact is prepared as one, or as one that is left alone. -/
theorem prepareInbound_fromContact (mode : Bool) :
    Txn.Returns (fun action => action = .activeInbound ∨ action.fromContact = true)
      (preparer.prepareInbound raw mode) := by
  refine .bind fun key => .bind fun conversation => .ite (fun _ => .pure (.inl rfl)) fun _ =>
    .bind fun availability => .ite (fun _ => .pure (.inr ?_)) fun _ =>
    .ite (fun _ => .pure (.inr rfl)) fun _ => .ite (fun _ => .pure (.inr rfl)) fun _ =>
    .bind fun outcome => .pure (.inr rfl)
  split <;> rfl

/-- **An action enters a message as what its update says it is.** -/
theorem prepareAction_kind {mode : Bool} (h : preparer.prepareAction raw mode db = .ok (action, db')) :
    (action.fromContact = true → raw.kind = .inboundMessage ∨ raw.kind = .editedInboundMessage) ∧
    ∀ sender, action = .botMessage sender →
      raw.kind = .botBusinessMessage ∨ raw.kind = .implicitOwnerMessage := by
  obtain ⟨known, s, -, h⟩ := Txn.bind_ok_iff.1 h
  split at h
  · obtain ⟨rfl, -⟩ := Prod.mk.inj (Txn.pure_ok_iff.1 h)
    exact ⟨nofun, nofun⟩
  · cases hkind : raw.kind with
    | inboundMessage | editedInboundMessage =>
      rw [hkind] at h
      refine ⟨by simp, ?_⟩
      rintro sender rfl
      rcases prepareInbound_fromContact mode _ _ _ h with hno | hno <;> cases hno
    | _ =>
      rw [hkind] at h
      obtain ⟨rfl, -⟩ := Prod.mk.inj (Txn.pure_ok_iff.1 h)
      exact ⟨by simp [PreparedAction.fromContact], by simp⟩

end EventPreparer

/-- **A prepared event enters what its update reports.** -/
theorem prepareUpdate_reported {preparer : EventPreparer} {updateId : Int} {raw : RawBusinessEvent}
    {event : PreparedEvent} {reports : Reports}
    (h : prepareUpdate preparer updateId raw db = .ok (event, db')) (hraw : raw.Reported reports) :
    event.Reported reports := by
  obtain ⟨raw', s, hinert, hprepare⟩ := Txn.bind_ok_iff.1 h
  obtain ⟨-, -, -, ⟨hconnection, hchat, -, hmessage⟩, -⟩ := EventPreparer.prepare_ok hprepare
  have hreported : raw'.Reported reports := by
    unfold makePreclaimBusinessEventInert at hinert
    split at hinert
    · obtain ⟨rfl, -⟩ := Prod.mk.inj (Txn.pure_ok_iff.1 hinert)
      exact hraw
    · obtain ⟨state, s', -, hstate⟩ := Txn.bind_ok_iff.1 hinert
      split at hstate
      · obtain ⟨rfl, -⟩ := Prod.mk.inj (Txn.pure_ok_iff.1 hstate)
        exact nofun
      · obtain ⟨rfl, -⟩ := Prod.mk.inj (Txn.pure_ok_iff.1 hstate)
        exact hraw
  obtain ⟨mode, db₁, db₂, haction⟩ : ∃ mode db₁ db₂,
      preparer.prepareAction raw' mode db₁ = .ok (event.facts.action, db₂) := by
    unfold EventPreparer.prepare at hprepare
    obtain ⟨mode, s₁, -, h₁⟩ := Txn.bind_ok_iff.1 hprepare
    obtain ⟨owner, s₂, -, h₂⟩ := Txn.bind_ok_iff.1 h₁
    obtain ⟨before, s₃, -, h₃⟩ := Txn.bind_ok_iff.1 h₂
    obtain ⟨action, s₄, haction, h₄⟩ := Txn.bind_ok_iff.1 h₃
    obtain ⟨hevent, -⟩ := Prod.mk.inj (Txn.pure_ok_iff.1 h₄)
    rw [← hevent]
    exact ⟨mode, s₃, s₄, haction⟩
  obtain ⟨hcontact, hbot⟩ := EventPreparer.prepareAction_kind haction
  intro key messageId m hkey hid hentry
  obtain ⟨hc, hi⟩ := EventPreparer.optionalKey_eq_some_iff.1 hkey
  have hkind := hreported key.connectionId (hconnection ▸ hc) key.chatId (hchat ▸ hi) messageId
    (hmessage ▸ hid)
  obtain ⟨hkeyed, hnumbered⟩ := Prod.mk.inj (LifecycleFacts.entry_new hentry).1
  unfold LedgerMessage.Reported
  rw [hkeyed, hnumbered]
  cases haction : event.facts.action with
  | inbound | blockedInbound | blockedFailOpen =>
    rw [haction] at hcontact
    right
    left
    rcases hcontact rfl with hraw' | hraw' <;> rw [hraw'] at hkind <;> exact hkind
  | botMessage sender =>
    right
    right
    rcases hbot sender haction with hraw' | hraw' <;> rw [hraw'] at hkind <;> exact hkind
  | manualOwner => exact .inl ((LifecycleFacts.entry_manual hentry).2 haction)
  | _ =>
    rw [LifecycleFacts.entry, haction] at hentry
    cases hentry

/-! ## Runs -/

namespace World

variable {w w' : World} {op : Op} {reports : Reports}

/-- **A message of the ledger** was in it before, or is that of an event that is carried out. -/
theorem EventsPrepared.message_of_step (h : w.EventsPrepared) (hstep : w.step op = some w')
    {n : LedgerMessage} (hn : n ∈ w'.db.messageLedger.rows) :
    (∃ m ∈ w.db.messageLedger.rows, m.pk = n.pk ∧ m.manualOwnerReply = n.manualOwnerReply) ∨
      ∃ row event preparedIn key messageId, w.CarriesOut row event preparedIn w'.db ∧
        event.facts.optionalKey = some key ∧ event.facts.messageId = some messageId ∧
        event.facts.entry key messageId = some n := by
  have hold (hmem : n ∈ w.db.messageLedger.rows) :
      ∃ m ∈ w.db.messageLedger.rows, m.pk = n.pk ∧ m.manualOwnerReply = n.manualOwnerReply :=
    ⟨n, hmem, rfl, rfl⟩
  cases h.dueStep hstep with
  | carried row event preparedIn hdue happlies hcarried =>
    cases hcarried.ledgered with
    | entered key messageId m hkey hmessage hentry hentered =>
      rcases hentered.mem_iff.1 hn with hn | ⟨-, rfl⟩
      · exact .inl (hold hn)
      · exact .inr ⟨row, event, preparedIn, key, messageId, hcarried, hkey, hmessage, hentry⟩
    | struck key messageIds hkey haction hstruck =>
      obtain ⟨m, hm, rfl⟩ := hstruck.mem_iff.1 hn
      exact .inl ⟨m, hm, by simp, by simp⟩
    | kept hentry haction hledger => exact .inl (hold (hledger ▸ hn))
  | rejected row event preparedIn hdue hin hhistory hno happlies hsame => exact .inl (hold (hsame ▸ hn))
  | other hdue happlies hdb =>
    rcases hdb with hsame | ⟨x, -, hdb, hx⟩
    · exact .inl (hold (hsame ▸ hn))
    · rw [hdb] at hn
      exact .inl (hold (Transaction.falls h.noConnectionChange hx n hn))

/-- **What waits to be applied was reported.** -/
theorem reported_carried (h : service.ReachableBy (OrderedReports reports) w) :
    w.Carried fun event _ => event.Reported reports := by
  refine carried h fun w op hop => ?_
  rintro updateId raw preparer event rfl hraw hevent
  exact prepareUpdate_reported hevent (hop.2 raw rfl)

/-- A step enters into the ledger what was reported. -/
theorem message_reported (h : service.ReachableBy (OrderedReports reports) w)
    (hledger : ∀ m ∈ w.db.messageLedger.rows, m.Reported reports) (hstep : w.step op = some w')
    {n : LedgerMessage} (hn : n ∈ w'.db.messageLedger.rows) : n.Reported reports := by
  rcases (eventsPrepared h).message_of_step hstep hn with
    ⟨m, hm, hpk, hmanual⟩ | ⟨row, event, preparedIn, key, messageId, hcarried, hkey, hmessage, hentry⟩
  · have hbefore := hledger m hm
    obtain ⟨hkey, hid⟩ := Prod.mk.inj hpk
    unfold LedgerMessage.Reported at *
    rwa [← hkey, ← hid, ← hmanual]
  · obtain ⟨-, -, hevent⟩ := (reported_carried h).recorded row
      (Table.mem_of_lookup hcarried.lookup) hcarried.recorded event hcarried.recordedIn.carries
    exact hevent key messageId n hkey hmessage hentry

/-- **What the ledger has was reported.** -/
theorem reported_ledger (h : service.ReachableBy (OrderedReports reports) w) :
    ∀ m ∈ w.db.messageLedger.rows, m.Reported reports := by
  refine h.invariant (P := fun w => ∀ m ∈ w.db.messageLedger.rows, m.Reported reports) ?_
    fun w op w' hw hledger _ hstep n hn => message_reported hw hledger hstep hn
  rintro w ⟨now, rfl⟩ m hm
  cases hm

/-- An action that cleans up is prepared for a conversation that is not active. -/
theorem not_active_of_fits {action : PreparedAction} {l : Lifecycle} (hfits : action.Fits l)
    (hcleans : action.cleans = true) : l.state ≠ .active := by
  cases action with
  | inbound detection outcome dryRunSpam =>
    have hopen := InboundOutcome.Fits.open_state hfits
    exact hopen.1
  | blockedInbound =>
    intro hactive
    have hblocked : l.state.blocked = true := hfits
    rw [hactive] at hblocked
    cases hblocked
  | _ => cases hcleans

/-- **No cleanup is applied to an active conversation.** -/
theorem not_active_of_cleans (h : service.ReachableBy AppliedInOrder w) {row : ProcessedUpdate}
    {event : PreparedEvent} {preparedIn : Database} (hcarried : w.CarriesOut row event preparedIn w'.db)
    (hcleans : event.facts.action.cleans = true) {key : ConversationKey}
    (hkey : event.facts.optionalKey = some key) : ¬w'.db.Active key := by
  have hin := hcarried.recordedIn
  have hlifecycle : event.eventType = .lifecycle := by
    rcases hin.issued.genuine.eventType with hlifecycle | ⟨-, hignore⟩
    · exact hlifecycle
    · rw [hignore] at hcleans
      cases hcleans
  have hwaiting : row.Waiting := ⟨hcarried.recorded, hin.eventType.symm.trans hlifecycle⟩
  have hreceded := (receding h).waiting row (Table.mem_of_lookup hcarried.lookup) hwaiting preparedIn
    hcarried.history
  obtain ⟨default, hprepared⟩ := hin.prepared
  have hbefore : (w.db.lifecycle key).state ≠ .active := by
    rcases (hreceded key).state with hsame | hnew
    · rw [hsame]
      exact not_active_of_fits (hprepared.fits key hkey) hcleans
    · simp [hnew]
  -- the cleanup itself makes no conversation active
  rw [hcarried.active_iff (fun _ haction => by rw [haction] at hcleans; cases hcleans)
    fun _ messageIds haction => by rw [haction] at hcleans; cases hcleans]
  exact fun hactive => hbefore (Database.active_iff_state.1 hactive)

/-- **A deletion that is not a reset's is a cleanup's.** -/
theorem deletion_of_step (hw : service.Reachable w) (hstep : w.step op = some w')
    {b : OutboxActionRow} (hb : b ∈ w'.db.outboxAction.rows)
    (hkind : b.payload.kind = .deleteBusinessMessages) :
    (∃ a ∈ w.db.outboxAction.rows, a.Same b) ∨ op.IsReset ∨
      ∃ row event preparedIn, w.CarriesOut row event preparedIn w'.db ∧
        w.appliesEvent op = some event ∧ event.facts.action.cleans = true ∧
        w.db.outboxSeq < b.id := by
  have hprepared := eventsPrepared hw
  rcases step_db hstep with hsame | ⟨x, hx, hdb⟩
  · exact .inl ⟨b, hsame ▸ hb, .rfl⟩
  have hgrows := (x.after_writes hprepared.noConnectionChange).outboxGrows
  rw [hdb] at hb
  rcases hgrows.row b hb with hold | ⟨hnew, a, ha, hcarries⟩
  · exact .inl hold
  right
  have hdestructive : a.payload.kind.destructive = true := by
    rw [← hcarries.payload, hkind]
    rfl
  have hcleanup {updateId : Int} {now : DateTime} (hx : w.Commits op (.apply updateId now))
      (ha : (Transaction.apply updateId now).Enqueues w.db a) :
      ∃ row event preparedIn, w.CarriesOut row event preparedIn w'.db ∧
        w.appliesEvent op = some event ∧ event.facts.action.cleans = true ∧
        w.db.outboxSeq < b.id := by
    obtain ⟨row, event, hrow, hrecorded, hevent, hof⟩ := ha
    have hdue : w.dueEvent op = some event :=
      hx.dueEvent.trans (Database.waitingEvent_eq_some_iff.2 ⟨row, hrow, hrecorded, hevent⟩)
    cases hprepared.dueStep hstep with
    | carried row' event' preparedIn hdue' happlies hcarried =>
      obtain rfl : event' = event := Option.some.inj (hdue'.symm.trans hdue)
      exact ⟨row', event', preparedIn, hcarried, happlies, hof.cleans hdestructive, hnew⟩
    | rejected row' event' preparedIn hdue' hin hhistory hno happlies hsame =>
      -- a rejected event leaves no new action
      have hstored : b ∈ w'.db.outboxAction.rows := by
        rw [hx.apply_db hstep]
        exact hx.apply_db hstep ▸ hdb ▸ hb
      rw [hsame] at hstored
      have hid := w.db.consistent.updates.outboxIds b hstored
      omega
    | other hdue' happlies hother => cases hdue'.symm.trans hdue
  cases hx with
  | ownerCommand hw => exact .inl ⟨_, _, _, rfl, ha.cleans hdestructive⟩
  | recover hw htrigger => exact .inr (hcleanup (.recover hw htrigger) ha)
  | apply hw => exact .inr (hcleanup (.apply hw) ha)
  | ownerStart hw | ownerClaimRejected hw | ownerClaimRefused hw | ownerClaim hw =>
    exact absurd (ha.cleans hdestructive) id
  | expire hw =>
    rw [ha.1] at hdestructive
    cases hdestructive
  | finish hw =>
    rw [ha.1] at hdestructive
    cases hdestructive
  | _ => exact absurd ha id

end World

/-- What a cleanup is carried out on is no reply of the Owner. -/
theorem World.cleanup_spares {reports : Reports}
    (hdistinct : ∀ key messageId, reports.contact key messageId = true →
      reports.manual key messageId = false)
    {w w' : World} {op : Op} (h : service.ReachableBy (OrderedReports reports) w)
    (hstep : w.step op = some w') {row : ProcessedUpdate} {event : PreparedEvent}
    {preparedIn : Database} (hcarried : w.CarriesOut row event preparedIn w'.db)
    (happlies : w.appliesEvent op = some event) (hcleans : event.facts.action.cleans = true) :
    ∃ key, event.facts.optionalKey = some key ∧ ∀ b ∈ addedDeletions w.db w'.db,
      b.key = some key ∧ ∀ messageId ∈ b.payload.messageIds,
        (∀ m ∈ w'.db.messageLedger.rows, m.key = key → m.messageId = messageId →
          m.manualOwnerReply = false) ∧
        (reports.manual key messageId = true → reports.automated key messageId = true) := by
  have hordered : service.ReachableBy AppliedInOrder w := h.mono fun _ _ hop => hop.1
  have hw : service.Reachable w := h.mono fun _ _ _ => trivial
  have hw' : service.Reachable w' := hw.step trivial hstep
  obtain ⟨key, hkey, hcleaned⟩ := World.appliesEvent_cleansUp hw hstep happlies hcleans
  refine ⟨key, hkey, fun b hadded => ⟨(hcleaned.conversation b hadded).2, fun messageId hid => ?_⟩⟩
  have hflat : messageId ∈ (addedDeletions w.db w'.db).flatMap (·.payload.messageIds) :=
    List.mem_flatMap.2 ⟨b, hadded, hid⟩
  obtain ⟨m, hm, hkeyed, -, hstands, hnumbered⟩ := (hcleaned.exactly messageId).1 hflat
  have hinactive := World.not_active_of_cleans hordered hcarried hcleans hkey
  have hmanual : m.manualOwnerReply = false := by
    by_contra hreply
    rw [Bool.not_eq_false] at hreply
    exact hinactive (World.active_of_replied hw' ⟨m, hm, hkeyed, hreply, hstands⟩)
  constructor
  · intro n hn hn' hid'
    have hsame : n = m := Table.eq_of_key_eq hn hm (by
      unfold LedgerMessage.pk
      rw [hn', hid', hkeyed, hnumbered])
    rw [hsame]
    exact hmanual
  · intro hreported
    have hledger := World.message_reported h (World.reported_ledger h) hstep hm
    rcases hledger with hreply | hcontact | hautomated
    · rw [hmanual] at hreply
      cases hreply
    · rw [hkeyed, hnumbered] at hcontact
      have hno := hdistinct key messageId hcontact
      rw [hreported] at hno
      cases hno
    · rwa [hkeyed, hnumbered] at hautomated

/-- An added deletion was not there before. -/
theorem not_same_of_added {b : OutboxActionRow} (hb : b ∈ addedDeletions db db') :
    ¬∃ a ∈ db.outboxAction.rows, a.Same b := by
  rintro ⟨a, ha, hsame⟩
  unfold addedDeletions at hb
  rw [List.mem_filter, Bool.and_eq_true, decide_eq_true_eq] at hb
  have hid := db.consistent.updates.outboxIds a ha
  have hlater := hb.2.1
  rw [hsame.id] at hid
  omega

/-- **The Owner's replies are spared.** Where events are applied in order and no message is reported
both as the contact's and as the Owner's own, an added deletion that is not a reset's names no
message that the ledger has as a reply of the Owner; and what it names was reported as one only if it
was reported as automated, too. -/
theorem owner_replies_spared {reports : Reports}
    (hdistinct : ∀ key messageId, reports.contact key messageId = true →
      reports.manual key messageId = false)
    {w w' : World} {op : Op} (h : service.ReachableBy (OrderedReports reports) w)
    (hstep : w.step op = some w') {b : OutboxActionRow} (hb : b ∈ w'.db.outboxAction.rows)
    {messageIds : List Int} (hpayload : b.payload = .deleteBusinessMessages messageIds) :
    (∃ a ∈ w.db.outboxAction.rows, a.Same b) ∨ op.IsReset ∨
      ∃ key, b.key = some key ∧ ∀ messageId ∈ messageIds,
        (∀ m ∈ w'.db.messageLedger.rows, m.key = key → m.messageId = messageId →
          m.manualOwnerReply = false) ∧
        (reports.manual key messageId = true → reports.automated key messageId = true) := by
  have hw : service.Reachable w := h.mono fun _ _ _ => trivial
  have hkind : b.payload.kind = .deleteBusinessMessages := by
    rw [hpayload]
    rfl
  rcases World.deletion_of_step hw hstep hb hkind with
    hold | hreset | ⟨row, event, preparedIn, hcarried, happlies, hcleans, hnew⟩
  · exact .inl hold
  · exact .inr (.inl hreset)
  · have hadded : b ∈ addedDeletions w.db w'.db := by
      unfold addedDeletions
      rw [List.mem_filter]
      exact ⟨hb, by simp [hnew, hkind]⟩
    obtain ⟨key, -, hspared⟩ := World.cleanup_spares hdistinct h hstep hcarried happlies hcleans
    obtain ⟨hconversation, hids⟩ := hspared b hadded
    rw [hpayload] at hids
    exact .inr (.inr ⟨key, hconversation, hids⟩)

section

open Sample

/-- Message 1 is the Owner's, every other one the contact's. -/
def twoReports : Reports where
  contact _ messageId := messageId != 1
  manual _ messageId := messageId = 1
  automated _ _ := false

theorem twoReports_distinct (key : ConversationKey) (messageId : Int)
    (hcontact : twoReports.contact key messageId = true) :
    twoReports.manual key messageId = false := by
  simpa [twoReports] using hcontact

/-- The Owner writes and deletes a message, and then a message of the contact is judged spam. -/
def spamAfterReply : List Op :=
  Sample.connected true ++ message 3 50 1 .manualOwnerMessage .allow .correct 3 ++
    [.worker (.prepare 4 { raw .messagesDeleted "c" (some 50) none none 4 with
        deletedMessageIds := [1] } (preparer .allow .correct 4)),
      .worker .record, .worker (.apply 4)] ++
    receive 5 50 2 .inboundMessage .spam .correct 5

/-- The step adds a deletion of the messages. -/
def World.deletes (w : World) (op : Op) (messageIds : List Int) : Bool :=
  (w.step op).any fun w' => w'.db.outboxAction.rows.any fun b =>
    b.payload = .deleteBusinessMessages messageIds

/-- The contact, who is blocked by then, writes again. -/
def blockedAfterReply : List Op :=
  spamAfterReply ++ [.worker (.apply 5)] ++ receive 6 50 3 .inboundMessage .allow .correct 6

/-- The step carries out an event, and adds a deletion of the messages. -/
def World.cleansUp (w : World) (op : Op) (messageIds : List Int) : Bool :=
  (w.appliesEvent op).isSome && (w.step op).any fun w' =>
    (addedDeletions w.db w'.db).any fun b => b.payload.messageIds = messageIds

set_option maxRecDepth 100000 in
theorem owner_replies_spared_spam : ∃ (w w' : World) (b : OutboxActionRow),
    service.ReachableBy (OrderedReports twoReports) w ∧
    w.step (.worker (.apply 5)) = some w' ∧ b ∈ w'.db.outboxAction.rows ∧
    b.payload = .deleteBusinessMessages [2] ∧
    ((∃ a ∈ w.db.outboxAction.rows, a.Same b) ∨ (Op.worker (.apply 5)).IsReset ∨
      ∃ key, b.key = some key ∧ ∀ messageId ∈ [(2 : Int)],
        (∀ m ∈ w'.db.messageLedger.rows, m.key = key → m.messageId = messageId →
          m.manualOwnerReply = false) ∧
        (twoReports.manual key messageId = true → twoReports.automated key messageId = true)) := by
  obtain ⟨w, hw, hdeletes⟩ : ∃ w, service.ReachableBy (OrderedReports twoReports) w ∧
      w.deletes (.worker (.apply 5)) [2] = true :=
    Machine.reachableBy_of_runWhile (OrderedReports twoReports) spamAfterReply
      (fun w : World => w.deletes (.worker (.apply 5)) [2]) ⟨0, rfl⟩ (by decide +kernel)
  obtain ⟨w', hstep, hrows⟩ := (Option.any_eq_true _ _).1 hdeletes
  obtain ⟨b, hb, hpayload⟩ := List.any_eq_true.1 hrows
  have hpayload := of_decide_eq_true hpayload
  exact ⟨w, w', b, hw, hstep, hb, hpayload,
    owner_replies_spared twoReports_distinct hw hstep hb hpayload⟩

end

end ChatHygiene
