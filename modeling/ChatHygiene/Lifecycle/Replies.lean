import ChatHygiene.Lifecycle.Transitions
import ChatHygiene.Retention.Purge
import ChatHygiene.Updates.Due
/-!
# Active conversations and the replies of the Owner

A conversation is active as long as a manual reply of the Owner stands in it
undeleted. The state and the ledger move together wherever replies are deleted
or a conversation is reset; only a reply under an id the ledger knows already
makes a conversation active without a reply that stands.
-/

namespace ChatHygiene

open Txn (Respects Yields commit)

variable {db db' db'' : Database} {key : ConversationKey}

/-! ## States and replies -/

/-- The conversation is active. -/
def Database.Active (db : Database) (key : ConversationKey) : Prop :=
  ∃ c ∈ db.conversation.rows, c.key = key ∧ c.state = .active

/-- A manual reply of the Owner stands in the conversation. -/
def Database.Replied (db : Database) (key : ConversationKey) : Prop :=
  ∃ m ∈ db.messageLedger.rows, m.key = key ∧ m.manualOwnerReply = true ∧ m.deletedAt = none

instance (db : Database) (key : ConversationKey) : Decidable (db.Replied key) :=
  inferInstanceAs (Decidable (∃ m ∈ db.messageLedger.rows, _))

theorem Database.active_iff_lookup :
    db.Active key ↔ ∃ c, db.conversation.lookup key = some c ∧ c.state = .active := by
  constructor
  · rintro ⟨c, hc, rfl, hactive⟩
    exact ⟨c, Table.lookup_of_mem hc, hactive⟩
  · rintro ⟨c, hc, hactive⟩
    exact ⟨c, Table.mem_of_lookup hc, Table.key_of_lookup hc, hactive⟩

theorem Database.active_iff_state : db.Active key ↔ (db.lifecycle key).state = .active := by
  rw [Database.active_iff_lookup]
  cases hc : db.conversation.lookup key with
  | none =>
    rw [Database.lifecycle_of_lookup_none hc]
    simp [Lifecycle.initial]
  | some c =>
    rw [state_of_lookup hc]
    simp

/-- What stands in the ledger hangs below a conversation. -/
theorem Database.Replied.contains (h : db.Replied key) : db.conversation.contains key = true := by
  obtain ⟨m, hm, rfl, -⟩ := h
  exact db.consistent.conversations.ledgerFk m hm

/-- The state of a conversation and its replies move together. -/
def TendedAt (key : ConversationKey) (db db' : Database) : Prop :=
  ¬db'.Active key ∧ ¬db'.Replied key ∨
    (db'.Active key ↔ db.Active key) ∧ (db'.Replied key → db.Replied key) ∧
      (db.Active key → db.Replied key → db'.Replied key)

theorem TendedAt.trans (h : TendedAt key db db') (h' : TendedAt key db' db'') :
    TendedAt key db db'' := by
  rcases h' with hgone | ⟨hactive', hnew', hkept'⟩
  · exact .inl hgone
  rcases h with ⟨hinactive, hnone⟩ | ⟨hactive, hnew, hkept⟩
  · exact .inl ⟨fun h => hinactive (hactive'.1 h), fun h => hnone (hnew' h)⟩
  · refine .inr ⟨hactive'.trans hactive, fun h => hnew (hnew' h), fun h hreplied => ?_⟩
    exact hkept' (hactive.2 h) (hkept h hreplied)

/-- A reply keeps its conversation active. -/
theorem TendedAt.active (h : TendedAt key db db') (hdb : db.Replied key → db.Active key)
    (hreplied : db'.Replied key) : db'.Active key := by
  rcases h with ⟨-, hnone⟩ | ⟨hactive, hnew, -⟩
  · exact absurd hreplied hnone
  · exact hactive.2 (hdb (hnew hreplied))

theorem TendedAt.active_iff (h : TendedAt key db db') (hdb : db.Active key ↔ db.Replied key) :
    db'.Active key ↔ db'.Replied key := by
  refine ⟨fun hactive' => ?_, h.active hdb.2⟩
  rcases h with ⟨hinactive, -⟩ | ⟨hactive, -, hkept⟩
  · exact absurd hactive' hinactive
  · have hwas := hactive.1 hactive'
    exact hkept hwas (hdb.1 hwas)

/-- Every conversation is tended. -/
def Tended (db db' : Database) : Prop := ∀ key, TendedAt key db db'

instance : Std.Refl Tended := ⟨fun _ _ => .inr ⟨Iff.rfl, id, fun _ => id⟩⟩

instance : IsTrans Database Tended := ⟨fun _ _ _ h h' key => (h key).trans (h' key)⟩

namespace Tended

theorem of_eq (hconversation : db'.conversation = db.conversation)
    (hledger : db'.messageLedger = db.messageLedger) : Tended db db' := by
  intro key
  have hactive : db'.Active key ↔ db.Active key := by
    unfold Database.Active
    rw [hconversation]
  have hreplied : db'.Replied key ↔ db.Replied key := by
    unfold Database.Replied
    rw [hledger]
  exact .inr ⟨hactive, hreplied.1, fun _ => hreplied.2⟩

theorem of_frame {targets : List Target} (h : Frame targets db.toTables db'.toTables)
    (ht : Target.conversation ∉ targets ∧ Target.ledger ∉ targets ∧
      Target.dropConnection ∉ targets) : Tended db db' :=
  .of_eq (h.conversation ht.1 ht.2.2) (h.messageLedger ht.2.1 ht.2.2)

end Tended

/-- A connection takes its conversations with it, and they their replies. -/
theorem deleteConnection_tended {p : BusinessConnectionRecord → Bool}
    (h : (Statement.deleteConnection p).Effect db.toTables db'.toTables) : Tended db db' := by
  obtain ⟨n, h⟩ := h
  obtain ⟨-, hdb⟩ := Prod.mk.inj (Except.ok.inj h)
  intro key
  have hrow : db'.conversation.lookup key = (db.conversation.lookup key).filter fun c =>
      (db.businessConnection.delete p).contains c.key.connectionId := by
    rw [← hdb]
    simp
  have hledger : ∀ m, m ∈ db'.messageLedger.rows ↔
      m ∈ db.messageLedger.rows ∧ db'.conversation.contains m.key = true := by
    intro m
    rw [← hdb]
    simp [Table.mem_delete]
  cases hk : db'.conversation.lookup key with
  | none =>
    left
    refine ⟨fun hactive => ?_, fun hreplied => ?_⟩
    · obtain ⟨c, hc, -⟩ := Database.active_iff_lookup.1 hactive
      rw [hk] at hc
      cases hc
    · have hcontains := hreplied.contains
      simp [Table.contains, hk] at hcontains
  | some c =>
    have hcontains : db'.conversation.contains key = true := by simp [Table.contains, hk]
    rw [hk] at hrow
    have hsame := (Option.filter_eq_some_iff.1 hrow.symm).1
    refine .inr ⟨?_, ?_, fun _ => ?_⟩
    · rw [Database.active_iff_lookup, Database.active_iff_lookup, hk, hsame]
    · rintro ⟨m, hm, hrest⟩
      exact ⟨m, ((hledger m).1 hm).1, hrest⟩
    · rintro ⟨m, hm, rfl, hrest⟩
      exact ⟨m, (hledger m).2 ⟨hm, hcontains⟩, rfl, hrest⟩

/-- **A transaction that writes to no conversation and no ledger**: at most it deletes
connections. -/
theorem WritesTo.tended {targets : List Target} {K : NewOutboxAction → Prop}
    (h : WritesTo targets K db db') (hconversation : Target.conversation ∉ targets)
    (hledger : Target.ledger ∉ targets) : Tended db db' := by
  refine Txn.Through.relation (R := Tended) ?_ h
  intro st s s' hst heffect
  by_cases hdrop : st.target = .dropConnection
  · cases st with
    | deleteConnection p => exact deleteConnection_tended heffect
    | _ => simp at hdrop
  · have htarget := hst.target_mem
    refine .of_frame heffect.frame ⟨?_, ?_, ?_⟩
    · exact fun m => hconversation (List.mem_singleton.1 m ▸ htarget)
    · exact fun m => hledger (List.mem_singleton.1 m ▸ htarget)
    · exact fun m => hdrop (List.mem_singleton.1 m).symm

theorem tended_of_writes {α : Type} {x : Uow α} {K : NewOutboxAction → Prop}
    (targets : List Target) (ht : Target.conversation ∉ targets ∧ Target.ledger ∉ targets)
    (h : Respects (WritesTo targets K) x) : Respects Tended x :=
  h.mono fun _ _ hw => hw.tended ht.1 ht.2

/-- An update of conversations that are not active, and do not become so. -/
theorem updateConversation_tended {p : Conversation → Bool} {f : Conversation → Conversation}
    {hf : ∀ c, (f c).key = c.key}
    (h : ∀ c, p c = true → c.state ≠ .active ∧ (f c).state ≠ .active) :
    Respects Tended (Uow.updateConversation p f hf) := by
  intro db n db' hx key
  obtain ⟨-, hrow, -⟩ := updateConversation_ok hx
  have hledger : db'.messageLedger = db.messageLedger := by
    obtain ⟨-, hdb⟩ := Prod.mk.inj (Except.ok.inj (Uow.statement_ok_iff.1 hx))
    rw [← hdb]
  have hreplied : db'.Replied key ↔ db.Replied key := by
    unfold Database.Replied
    rw [hledger]
  refine .inr ⟨?_, hreplied.1, fun _ => hreplied.2⟩
  rw [Database.active_iff_lookup, Database.active_iff_lookup, hrow key]
  cases db.conversation.lookup key with
  | none => simp
  | some c =>
    by_cases hp : p c = true
    · simp [hp, h c hp]
    · simp [hp]

/-! ## The other transactions -/

theorem expireChallenge_tended (now : DateTime) (challenge : ChallengeRecord) :
    Respects Tended (expireChallenge now challenge) := by
  refine Respects.bind (tended_of_writes (K := fun _ => True) [.challenge] (by simp)
    (closeChallenges_writes (by simp) _ _)) fun closed => .ite (fun _ => .pure _) fun _ => ?_
  have hedit : Respects Tended (enqueueExpiryEdit challenge now) :=
    tended_of_writes [.enqueue] (by simp)
      (enqueueExpiryEdit_writes (K := fun _ => True) (by simp) (fun _ _ => trivial) _ _)
  refine Respects.bind (updateConversation_tended fun c hc => ?_) fun _ =>
    .ite (fun _ => hedit.bind fun _ => .pure _) fun _ => .pure _
  simp only [Bool.and_eq_true, decide_eq_true_eq] at hc
  simp [hc.2]

theorem expireChallenges_tended (now : DateTime) (challenges : List ChallengeRecord) :
    Respects Tended (expireChallenges now challenges) := by
  induction challenges with
  | nil => exact .pure _
  | cons challenge challenges ih =>
    exact (expireChallenge_tended now challenge).bind fun _ => ih.bind fun _ => .pure _

theorem expireDueState_tended (now : DateTime) : Respects Tended (expireDueState now) := by
  refine (Respects.read _).bind fun due => (expireChallenges_tended now due).bind fun _ =>
    Respects.bind (updateConversation_tended fun c hc => ?_) fun _ => .pure _
  simp only [Bool.and_eq_true, decide_eq_true_eq] at hc
  simp [hc.1]

theorem unblockConversation_tended (connection : BusinessConnectionRecord) (chatId : Int)
    (now : DateTime) : Respects Tended (unblockConversation connection chatId now) := by
  refine Respects.bind (updateConversation_tended fun c hc => ?_) fun _ => .ite (fun _ => ?_)
    fun _ => Respects.bind (tended_of_writes (K := fun _ => True) [.challenge] (by simp)
      (closeChallenges_writes (by simp) _ _)) fun _ => Respects.bind
      (tended_of_writes (K := fun _ => True) [.audit] (by simp)
        ((insertAuditEvent_writes (by simp) _).bind fun _ => .pure _)) fun _ => .pure _
  · simp only [Bool.and_eq_true] at hc
    refine ⟨fun hactive => ?_, by simp⟩
    have hblocked := hc.2
    rw [hactive] at hblocked
    cases hblocked
  · refine (Respects.read _).bind fun conversation => ?_
    cases conversation with
    | none => exact .pure _
    | some conversation => exact .pure _

/-- **A reset leaves a conversation new, and without a reply.** -/
theorem resetConversation_tended (connection : BusinessConnectionRecord) (chatId : Int)
    (now : DateTime) : Respects Tended (resetConversation connection chatId now) := by
  intro db result db' h
  unfold resetConversation at h
  generalize (⟨connection.connectionId, chatId⟩ : ConversationKey) = key at h
  obtain ⟨conversation, -, h⟩ := Txn.bind_ok_of_readOnly (x := findConversation key) (Respects.read _) h
  cases conversation with
  | none =>
    obtain ⟨-, rfl⟩ := Prod.mk.inj (Txn.pure_ok_iff.1 h)
    exact refl _
  | some conversation =>
    obtain ⟨messageIds, -, h⟩ :=
      Txn.bind_ok_of_readOnly (x := eligibleDeletionIds key) (Respects.read _) h
    obtain ⟨promptIds, -, h⟩ := Txn.bind_ok_of_readOnly (Respects.read _) h
    obtain ⟨actions, db₁, houtbox, h⟩ := Txn.bind_ok_iff.1 h
    obtain ⟨challenges, db₂, hchallenge, h⟩ := Txn.bind_ok_iff.1 h
    obtain ⟨messages, db₃, hledger, h⟩ := Txn.bind_ok_iff.1 h
    obtain ⟨conversations, db₄, hupdate, h⟩ := Txn.bind_ok_iff.1 h
    obtain ⟨⟨⟩, db₅, haudit, h⟩ := Txn.bind_ok_iff.1 h
    obtain ⟨-, rfl⟩ := Prod.mk.inj (Txn.pure_ok_iff.1 h)
    have hbefore : Tended db db₂ := by
      refine trans_of Tended ((tended_of_writes (K := fun _ => True) [.outbox] (by simp)
        (Uow.deleteOutbox_writes (by exact List.mem_singleton.2 rfl))).of_ok houtbox) ?_
      exact (tended_of_writes (K := fun _ => True) [.challenge] (by simp)
        (Uow.deleteChallenge_writes (by exact List.mem_singleton.2 rfl))).of_ok hchallenge
    have hafter : Tended db₄ db₅ :=
      (tended_of_writes (K := fun _ => True) [.audit] (by simp)
        ((insertAuditEvent_writes (by simp) _).bind fun _ => .pure _)).of_ok haudit
    refine trans_of Tended hbefore (trans_of Tended ?_ hafter)
    obtain ⟨-, hdb₃⟩ := Prod.mk.inj (Except.ok.inj (Uow.statement_ok_iff.1 hledger))
    obtain ⟨-, hdb₄⟩ := Prod.mk.inj (Except.ok.inj (Uow.statement_ok_iff.1 hupdate))
    obtain ⟨-, hrow, -⟩ := updateConversation_ok hupdate
    -- the ledger loses the messages of this conversation and of no other
    have hmessages (m : LedgerMessage) : m ∈ db₄.messageLedger.rows ↔
        m ∈ db₂.messageLedger.rows ∧ m.key ≠ key := by
      rw [← hdb₄, ← hdb₃]
      simp [Table.mem_delete]
    have hconversation : db₃.conversation = db₂.conversation := by rw [← hdb₃]
    intro k
    by_cases hk : k = key
    · subst hk
      refine .inl ⟨fun hactive => ?_, ?_⟩
      · obtain ⟨c, hc, hactive⟩ := Database.active_iff_lookup.1 hactive
        rw [hrow k] at hc
        obtain ⟨c₀, hc₀, rfl⟩ := Option.map_eq_some_iff.1 hc
        rw [if_pos (decide_eq_true (Table.key_of_lookup hc₀))] at hactive
        cases hactive
      · rintro ⟨m, hm, hid, -⟩
        exact ((hmessages m).1 hm).2 hid
    · refine .inr ⟨?_, ?_, fun _ => ?_⟩
      · rw [Database.active_iff_lookup, Database.active_iff_lookup, hrow k, hconversation]
        cases hc : db₂.conversation.lookup k with
        | none => simp
        | some c =>
          have hne : ¬c.key = key := fun hid => hk ((Table.key_of_lookup hc).symm.trans hid)
          simp [hne]
      · rintro ⟨m, hm, hrest⟩
        exact ⟨m, ((hmessages m).1 hm).1, hrest⟩
      · rintro ⟨m, hm, hid, hrest⟩
        exact ⟨m, (hmessages m).2 ⟨hm, hid ▸ hk⟩, hid, hrest⟩

theorem processOwnerCommand_tended (updateId : Int) (snapshot : OwnerCommandSnapshot)
    (occurredAt : DateTime) (default : Bool) :
    Respects Tended (processOwnerCommand updateId snapshot occurredAt default) := by
  have hother {α : Type} {x : Uow α}
      (h : Respects (WritesTo [.update, .audit, .owner, .enqueue, .mode] fun _ => True) x) :
      Respects Tended x := tended_of_writes _ (by simp) h
  exact processOwnerCommand_respects (hother (insertRedactedUpdate_writes (by simp) _ _))
    (hother (authorize_writes (by simp) _ _))
    (fun _ => executeCommand_respects fun command _ => executeAuthorized_respects
      (fun connection chatId _ => resetConversation_tended _ _ _)
      (fun _ _ => unblockConversation_tended _ _ _)
      fun _ _ => hother (setDryRun_writes (by simp) _ _))
    (fun actions => tended_of_writes (K := NewOutboxAction.Of updateId True) [.enqueue] (by simp)
      (enqueueOwnerTelegramActions_writes (by simp) actions (fun _ => trivial) _))
    fun _ _ _ => tended_of_writes (K := fun _ => True) [.enqueue] (by simp)
      (enqueueDirectOwnerMessage_writes (by simp) _ _ _ _)

theorem processOwnerStart_tended (updateId : Int) (snapshot : OwnerCommandSnapshot)
    (occurredAt : DateTime) (default : Bool) :
    Respects Tended (processOwnerStart updateId snapshot occurredAt default) :=
  processOwnerStart_respects (processOwnerCommand_tended _ _ _ _)
    (tended_of_writes (K := fun _ => True) [.update] (by simp)
      (insertRedactedUpdate_writes (by simp) _ _))
    fun _ => tended_of_writes (K := NewOutboxAction.Of updateId True) [.enqueue] (by simp)
      (enqueuePrivateMessage_writes (by simp) _ _ _)

/-- A purge keeps the replies of the Owner. -/
theorem purgeHistory_tended (now : DateTime) : Respects Tended (purgeHistory now) := by
  intro db report db' h key
  have hdb := (purgeHistory_yields now db).of_ok h
  have hkeeps := PurgeKeeps.of_purged hdb
  have hactive : db'.Active key ↔ db.Active key := by
    unfold Database.Active
    rw [hdb]
    rfl
  refine .inr ⟨hactive, ?_, fun _ => ?_⟩
  · rintro ⟨m, hm, hrest⟩
    rw [hdb] at hm
    exact ⟨m, (Table.mem_delete.1 hm).1, hrest⟩
  · rintro ⟨m, hm, hid, hmanual, hrest⟩
    exact ⟨m, hkeeps.ours m hm (.inr hmanual), hid, hmanual, hrest⟩

/-- **Without an event, every conversation is tended.** -/
theorem Transaction.tended (h : db.NoConnectionChange) {x : Transaction}
    (hx : ∀ updateId now, x ≠ .apply updateId now) : Tended db (x.after db) := by
  have hwrites := x.after_writes h
  cases x with
  | apply updateId now => exact absurd rfl (hx updateId now)
  | ownerCommand updateId snapshot occurredAt default =>
    exact (processOwnerCommand_tended _ _ _ _).commit db
  | ownerStart updateId snapshot occurredAt default =>
    exact (processOwnerStart_tended _ _ _ _).commit db
  | expire now => exact (expireDueState_tended now).commit db
  | purge now => exact (purgeHistory_tended now).commit db
  | _ => exact hwrites.tended (by simp) (by simp)

/-! ## Applied events -/

namespace Lifecycle

variable {l l' : Lifecycle} {nextId : Nat}

/-- Only the Owner makes a conversation active. -/
theorem moved_inactive {event : TransitionEvent} (h : l.moved event = some l')
    (hmanual : event ≠ .manualOwnerReply) (hinitiated : event ≠ .ownerInitiatedMessage) :
    l'.state ≠ .active := by
  obtain ⟨s, hs, rfl⟩ := moved_eq_some_iff.1 h
  unfold transition at hs
  split at hs <;>
    first
    | exact absurd rfl hmanual
    | exact absurd rfl hinitiated
    | (cases hs; simp)
    | cases hs

/-- **No message of the correspondent makes a conversation active.** -/
theorem outcome_inactive {outcome : InboundOutcome} (h : l.outcome nextId outcome = some l')
    (hactive : l'.state = .active) : l.state = .active := by
  cases outcome with
  | startChallenge e a v c x maxAttempts =>
    simp only [Lifecycle.outcome, challenged] at h
    split at h
    · have hno := moved_inactive h (by simp) (by simp)
      exact absurd hactive hno
    · cases h
  | retain =>
    cases h
    exact hactive
  | correct challengeId =>
    have hno := moved_inactive h (by simp) (by simp)
    exact absurd hactive hno
  | incorrect challengeId exhausted r b =>
    obtain ⟨l₁, hcounted, h⟩ := Option.bind_eq_some_iff.1 h
    obtain ⟨challenge, rfl⟩ := counted_eq hcounted
    cases exhausted with
    | false =>
      cases h
      exact hactive
    | true =>
      simp only [if_true, Lifecycle.exhausted] at h
      cases b with
      | some expiresAt =>
        obtain ⟨l₂, hmoved, rfl⟩ := Option.map_eq_some_iff.1 h
        have hno := moved_inactive hmoved (by simp) (by simp)
        exact absurd hactive hno
      | none =>
        dsimp only at h
        have hno := moved_inactive h (by simp) (by simp)
        exact absurd hactive hno
  | expired challengeId =>
    have hno := moved_inactive h (by simp) (by simp)
    exact absurd hactive hno
  | spam =>
    obtain ⟨l₁, hmoved, rfl⟩ := Option.map_eq_some_iff.1 h
    have hno := moved_inactive hmoved (by simp) (by simp)
    exact absurd hactive hno

/-- **Only the Owner makes a conversation active, and only a deletion ends it.** -/
theorem effect_active_iff {action : PreparedAction} {noReplies : Bool}
    (h : l.effect nextId noReplies action = some l') (hmanual : action ≠ .manualOwner)
    (hdeleted : ∀ messageIds, action ≠ .messagesDeleted messageIds) :
    l'.state = .active ↔ l.state = .active := by
  refine ⟨fun hactive => ?_, fun hactive => ?_⟩
  · cases action with
    | inbound detection outcome dryRunSpam => exact outcome_inactive h hactive
    | manualOwner => exact absurd rfl hmanual
    | messagesDeleted messageIds => exact absurd rfl (hdeleted messageIds)
    | _ =>
      cases h
      exact hactive
  · by_contra hne
    obtain ⟨messageIds, rfl⟩ := effect_active hactive h hne
    exact hdeleted messageIds rfl

end Lifecycle

theorem Database.replied_iff_ownerReplies : db.Replied key ↔ db.ownerReplies key ≠ [] := by
  unfold Database.Replied Database.ownerReplies
  rw [Ne, List.filter_eq_nil_iff]
  push Not
  simp only [Bool.and_eq_true, decide_eq_true_eq, Option.isNone_iff_eq_none, and_assoc]

/-- **A message enters as a reply only if the ledger does not know its id.** -/
theorem Entered.replied_iff {m : LedgerMessage} (h : Entered m db db') :
    db'.Replied key ↔ db.Replied key ∨ m.key = key ∧ m.manualOwnerReply = true ∧
      m.deletedAt = none ∧ db.messageLedger.lookup m.pk = none := by
  unfold Database.Replied
  constructor
  · rintro ⟨n, hn, hrest⟩
    rcases h.mem_iff.1 hn with hn | ⟨hnew, rfl⟩
    · exact .inl ⟨n, hn, hrest⟩
    · exact .inr ⟨hrest.1, hrest.2.1, hrest.2.2, hnew⟩
  · rintro (⟨n, hn, hrest⟩ | ⟨hkey, hmanual, hdeleted, hnew⟩)
    · exact ⟨n, h.mem_iff.2 (.inl hn), hrest⟩
    · exact ⟨m, h.mem_iff.2 (.inr ⟨hnew, rfl⟩), hkey, hmanual, hdeleted⟩

/-- A deletion leaves the replies of other conversations alone, and adds none. -/
theorem Struck.replied {messageIds : List Int} {now : DateTime} {k : ConversationKey}
    (h : Struck k messageIds now db db') :
    (db'.Replied key → db.Replied key) ∧ (k ≠ key → db.Replied key → db'.Replied key) := by
  constructor
  · rintro ⟨n, hn, hkey, hmanual, hdeleted⟩
    obtain ⟨m, hm, rfl⟩ := h.mem_iff.1 hn
    rw [LedgerMessage.struck_eq_self hdeleted] at hkey hmanual hdeleted
    exact ⟨m, hm, hkey, hmanual, hdeleted⟩
  · rintro hne ⟨m, hm, hkey, hrest⟩
    have hsame : m.struck k messageIds now = m := if_neg fun hif => hne (hif.1.symm.trans hkey)
    exact ⟨m, h.mem_iff.2 ⟨m, hm, hsame⟩, hkey, hrest⟩

/-- An event that enters no reply of the Owner. -/
theorem LifecycleFacts.entry_manual {facts : LifecycleFacts} {messageId : Int} {m : LedgerMessage}
    (h : facts.entry key messageId = some m) :
    m.manualOwnerReply = true ↔ facts.action = .manualOwner := by
  unfold LifecycleFacts.entry at h
  split at h <;> rename_i haction <;> cases h <;> simp [haction, LedgerMessage.new]

namespace World.CarriesOut

variable {w : World} {row : ProcessedUpdate} {event : PreparedEvent} {preparedIn : Database}

/-- Only a message of the Owner and a deletion touch the state of an active conversation. -/
theorem active_iff (h : w.CarriesOut row event preparedIn db')
    (hmanual : event.facts.optionalKey = some key → event.facts.action ≠ .manualOwner)
    (hdeleted : event.facts.optionalKey = some key →
      ∀ messageIds, event.facts.action ≠ .messagesDeleted messageIds) :
    db'.Active key ↔ w.db.Active key := by
  rw [Database.active_iff_state, Database.active_iff_state]
  by_cases hkey : event.facts.optionalKey = some key
  · obtain ⟨noReplies, heffect, -⟩ := h.applied.life key hkey
    exact Lifecycle.effect_active_iff heffect (hmanual hkey) (hdeleted hkey)
  · rw [h.applied.others key hkey]

/-- **An event that is no message of the Owner's tends its conversation.** -/
theorem tendedAt (h : w.CarriesOut row event preparedIn db')
    (hmanual : event.facts.optionalKey = some key → event.facts.action ≠ .manualOwner) :
    TendedAt key w.db db' := by
  cases h.ledgered with
  | entered k messageId m hk hmessage hentry hentered =>
    have hother (messageIds : List Int) : event.facts.action ≠ .messagesDeleted messageIds := by
      intro haction
      rw [LifecycleFacts.entry, haction] at hentry
      cases hentry
    have hno : ¬(m.key = key ∧ m.manualOwnerReply = true) := by
      rintro ⟨rfl, hreply⟩
      have hid : k = m.key := (Prod.mk.inj (LifecycleFacts.entry_new hentry).1).1.symm
      exact hmanual (hid ▸ hk) ((LifecycleFacts.entry_manual hentry).1 hreply)
    have hreplied : db'.Replied key ↔ w.db.Replied key := by
      rw [hentered.replied_iff]
      tauto
    exact .inr ⟨h.active_iff hmanual fun _ => hother, hreplied.1, fun _ => hreplied.2⟩
  | struck k messageIds hk haction hstruck =>
    by_cases hsame : k = key
    · subst hsame
      by_cases hreplied : db'.Replied k
      · refine .inr ⟨?_, hstruck.replied.1, fun _ _ => hreplied⟩
        obtain ⟨noReplies, heffect, hnone⟩ := h.applied.life k hk
        -- with a reply left, the deletion leaves the conversation as it is
        cases noReplies with
        | true => exact absurd (hnone rfl) (Database.replied_iff_ownerReplies.1 hreplied)
        | false =>
          rw [haction] at heffect
          have hlife : (w.db.lifecycle k).abandoned false = db'.lifecycle k :=
            Option.some.inj heffect
          rw [Lifecycle.abandoned, if_neg (by simp)] at hlife
          rw [Database.active_iff_state, Database.active_iff_state, hlife]
      · have hnone : db'.ownerReplies k = [] := by
          by_contra hne
          exact hreplied (Database.replied_iff_ownerReplies.2 hne)
        have hleft := h.abandoned k messageIds hk haction hnone
        exact .inl ⟨fun hactive => hleft (Database.active_iff_state.1 hactive), hreplied⟩
    · have hne : event.facts.optionalKey ≠ some key := fun hkey =>
        hsame (Option.some.inj (hk.symm.trans hkey))
      exact .inr ⟨h.active_iff hmanual fun hkey => absurd hkey hne, hstruck.replied.1,
        fun _ => hstruck.replied.2 hsame⟩
  | kept hentry haction hledger =>
    have hreplied : db'.Replied key ↔ w.db.Replied key := by
      unfold Database.Replied
      rw [hledger]
    exact .inr ⟨h.active_iff hmanual fun _ => haction, hreplied.1, fun _ => hreplied.2⟩

/-- **A message of the Owner's makes its conversation active**; it stands there as a reply if the
ledger did not know its id. -/
theorem replies (h : w.CarriesOut row event preparedIn db')
    (hkey : event.facts.optionalKey = some key) (haction : event.facts.action = .manualOwner) :
    db'.Active key ∧ ∃ messageId, event.facts.messageId = some messageId ∧
      (db'.Replied key ↔
        w.db.Replied key ∨ w.db.messageLedger.lookup (key, messageId) = none) := by
  constructor
  · obtain ⟨noReplies, heffect, -⟩ := h.applied.life key hkey
    rw [haction] at heffect
    rw [Database.active_iff_state, ← Option.some.inj heffect]
    rfl
  · cases h.ledgered with
    | entered k messageId m hk hmessage hentry hentered =>
      obtain rfl : k = key := Option.some.inj (hk.symm.trans hkey)
      obtain ⟨hpk, hdeleted, -⟩ := LifecycleFacts.entry_new hentry
      have hkeyed : m.key = k := (Prod.mk.inj hpk).1
      have hreply := (LifecycleFacts.entry_manual hentry).2 haction
      refine ⟨messageId, hmessage, ?_⟩
      rw [hentered.replied_iff, hpk]
      tauto
    | struck k messageIds hk hother hstruck =>
      rw [haction] at hother
      cases hother
    | kept hentry hother hledger =>
      have hnone := hentry key 0
      rw [LifecycleFacts.entry, haction] at hnone
      cases hnone

end World.CarriesOut

/-! ## Runs -/

/-- A conversation is active exactly while a reply of the Owner stands in it. -/
def Database.Concordant (db : Database) : Prop := ∀ key, db.Active key ↔ db.Replied key

theorem Tended.concordant (h : Tended db db') (hdb : db.Concordant) : db'.Concordant :=
  fun key => (h key).active_iff (hdb key)

namespace World

variable {w w' : World} {op : Op}

/-- **A reply of the Owner that is due is new to the ledger**, or another one stands there. -/
def FreshReply (w : World) (op : Op) : Prop :=
  ∀ event ∈ w.dueEvent op, event.facts.action = .manualOwner →
    ∀ key ∈ event.facts.optionalKey, ∀ messageId ∈ event.facts.messageId,
      w.db.businessConnection.contains key.connectionId = true →
      w.db.messageLedger.lookup (key, messageId) = none ∨ w.db.Replied key

instance (w : World) (op : Op) : Decidable (FreshReply w op) :=
  inferInstanceAs (Decidable (∀ event ∈ w.dueEvent op, _))

/-- Without an event that is carried out, every conversation is tended. -/
theorem EventsPrepared.tended (h : w.EventsPrepared) (hstep : w.step op = some w')
    (hnone : w.appliesEvent op = none) : Tended w.db w'.db := by
  cases h.dueStep hstep with
  | carried row event preparedIn hdue happlies hcarried => cases happlies.symm.trans hnone
  | rejected row event preparedIn hdue hin hhistory hno happlies hsame =>
    exact .of_eq (by rw [hsame]) (by rw [hsame])
  | other hdue happlies hdb =>
    rcases hdb with hsame | ⟨x, -, hdb, hx⟩
    · exact .of_eq (by rw [hsame]) (by rw [hsame])
    · rw [hdb]
      exact Transaction.tended h.noConnectionChange hx

/-- **One step keeps states and replies together exactly if the reply that is due is fresh.** -/
theorem concordant_step_iff (h : w.EventsPrepared) (hconcordant : w.db.Concordant)
    (hstep : w.step op = some w') : w'.db.Concordant ↔ FreshReply w op := by
  cases h.dueStep hstep with
  | carried row event preparedIn hdue happlies hcarried =>
    by_cases haction : event.facts.action = .manualOwner
    · obtain ⟨hnamed, huser⟩ := hcarried.recordedIn.issued.genuine.facts.named (by rw [haction]; rfl)
      obtain ⟨key, hkey⟩ := Option.isSome_iff_exists.1 hnamed
      obtain ⟨hactive, messageId, hmessage, hreplied⟩ := hcarried.replies hkey haction
      have hconnection := hcarried.applicable.connection (by rw [haction]; rfl) key hkey
      constructor
      · intro hafter event' hdue' _ k hk id hid _
        obtain rfl : event' = event := Option.some.inj (hdue'.symm.trans hdue)
        obtain rfl : k = key := Option.some.inj (hk.symm.trans hkey)
        obtain rfl : id = messageId := Option.some.inj (hid.symm.trans hmessage)
        exact (hreplied.1 ((hafter k).1 hactive)).symm
      · intro hfresh k
        have hfresh := hfresh event hdue haction key hkey messageId hmessage hconnection
        by_cases hk : key = k
        · subst hk
          exact iff_of_true hactive (hreplied.2 hfresh.symm)
        · have hmove : TendedAt k w.db w'.db := hcarried.tendedAt fun hk' =>
            absurd (Option.some.inj (hkey.symm.trans hk')) hk
          exact hmove.active_iff (hconcordant k)
    · have htended : Tended w.db w'.db := fun key => hcarried.tendedAt fun _ => haction
      refine iff_of_true (htended.concordant hconcordant) fun event' hdue' haction' => ?_
      obtain rfl : event' = event := Option.some.inj (hdue'.symm.trans hdue)
      exact absurd haction' haction
  | rejected row event preparedIn hdue hin hhistory hno happlies hsame =>
    refine iff_of_true (hsame ▸ hconcordant) fun event' hdue' haction key hkey _ _ hstored => ?_
    obtain rfl : event' = event := Option.some.inj (hdue'.symm.trans hdue)
    -- a reply is rejected only where its connection is gone
    refine absurd ⟨fun _ k hk => ?_, fun k hk hnone => ?_⟩ hno
    · obtain rfl := Option.some.inj (hk.symm.trans hkey)
      exact hstored
    · rw [haction] at hnone
      cases hnone
  | other hdue happlies hdb =>
    refine iff_of_true ((h.tended hstep happlies).concordant hconcordant) fun event' hdue' => ?_
    cases hdue'.symm.trans hdue

/-- Nothing is stored at first. -/
theorem concordant_initial (now : DateTime) : (World.initial now).db.Concordant := by
  intro key
  refine iff_of_false ?_ ?_
  · rintro ⟨c, hc, -⟩
    cases hc
  · rintro ⟨m, hm, -⟩
    cases hm

/-- **States and replies stay together as long as every reply that is due is fresh.** -/
theorem concordant (h : service.ReachableBy FreshReply w) : w.db.Concordant := by
  refine h.invariant ?_ fun w op w' hw hconcordant hfresh hstep =>
    (concordant_step_iff (eventsPrepared hw) hconcordant hstep).2 hfresh
  rintro w ⟨now, rfl⟩
  exact concordant_initial now

/-- **A reply keeps its conversation active** in every reachable world. -/
theorem active_of_replied (h : service.Reachable w) {key : ConversationKey}
    (hreplied : w.db.Replied key) : w.db.Active key := by
  suffices hall : ∀ key, w.db.Replied key → w.db.Active key from hall key hreplied
  clear hreplied
  refine h.invariant (P := fun w => ∀ key, w.db.Replied key → w.db.Active key) ?_ ?_
  · rintro w ⟨now, rfl⟩ key
    exact (concordant_initial now key).2
  · intro w op w' hw hactive _ hstep key hreplied
    have hmove (htended : TendedAt key w.db w'.db) : w'.db.Active key :=
      htended.active (hactive key) hreplied
    have hprepared := eventsPrepared hw
    cases happlies : w.appliesEvent op with
    | none => exact hmove (hprepared.tended hstep happlies key)
    | some event =>
      cases hprepared.dueStep hstep with
      | carried row event' preparedIn hdue happlies' hcarried =>
        by_cases hmanual : event'.facts.optionalKey = some key ∧ event'.facts.action = .manualOwner
        · exact (hcarried.replies hmanual.1 hmanual.2).1
        · exact hmove (hcarried.tendedAt fun hkey haction => hmanual ⟨hkey, haction⟩)
      | rejected row event' preparedIn hdue hin hhistory hno hnone hsame =>
        cases happlies.symm.trans hnone
      | other hdue hnone hdb => cases happlies.symm.trans hnone

end World

/-- The stored conversations tell whether states and replies are together. -/
theorem Database.concordant_iff : db.Concordant ↔ ∀ c ∈ db.conversation.rows, c.state = .active ↔
    ∃ m ∈ db.messageLedger.rows, m.key = c.key ∧ m.manualOwnerReply = true ∧ m.deletedAt = none := by
  constructor
  · intro h c hc
    have hlookup := Table.lookup_of_mem hc
    have hactive : db.Active c.key ↔ c.state = .active := by
      rw [Database.active_iff_lookup, hlookup]
      simp
    rw [← hactive]
    exact h c.key
  · intro h key
    constructor
    · rintro ⟨c, hc, rfl, hactive⟩
      exact (h c hc).1 hactive
    · intro hreplied
      obtain ⟨c, hc, rfl⟩ := Table.contains_iff.1 hreplied.contains
      exact ⟨c, hc, rfl, (h c hc).2 hreplied⟩

/-- **A conversation is active exactly while a reply of the Owner stands in its ledger**, in every
world reached by steps whose due reply is fresh; and the first step whose due reply is not makes a
conversation active in which no reply stands. -/
theorem active_iff_reply {w : World} (h : service.ReachableBy World.FreshReply w) :
    (∀ c ∈ w.db.conversation.rows, c.state = .active ↔
      ∃ m ∈ w.db.messageLedger.rows,
        m.key = c.key ∧ m.manualOwnerReply = true ∧ m.deletedAt = none) ∧
    ∀ op w', w.step op = some w' →
      ((∀ c ∈ w'.db.conversation.rows, c.state = .active ↔
        ∃ m ∈ w'.db.messageLedger.rows,
          m.key = c.key ∧ m.manualOwnerReply = true ∧ m.deletedAt = none) ↔
      World.FreshReply w op) := by
  have hconcordant := World.concordant h
  refine ⟨Database.concordant_iff.1 hconcordant, fun op w' hstep => ?_⟩
  rw [← Database.concordant_iff]
  exact World.concordant_step_iff (World.eventsPrepared h) hconcordant hstep

section

open Sample

/-- The Owner writes a message. -/
def replied : List Op :=
  Sample.connected true ++ message 3 50 1 .manualOwnerMessage .allow .correct 3

/-- The Owner deletes it, and an edit of it comes late. -/
def lateEdit : List Op :=
  replied ++
    [.worker (.prepare 4 { raw .messagesDeleted "c" (some 50) none none 4 with
        deletedMessageIds := [1] } (preparer .allow .correct 4)),
      .worker .record, .worker (.apply 4)] ++
    message 5 50 1 .manualOwnerMessage .allow .correct 5

/-- A conversation is active. -/
def World.hasActive (w : World) : Bool := w.db.conversation.rows.any fun c => c.state = .active

set_option maxRecDepth 100000 in
theorem active_iff_reply_replied : ∃ w : World, service.ReachableBy World.FreshReply w ∧
    w.hasActive = true ∧
    (∀ c ∈ w.db.conversation.rows, c.state = .active ↔
      ∃ m ∈ w.db.messageLedger.rows,
        m.key = c.key ∧ m.manualOwnerReply = true ∧ m.deletedAt = none) ∧
    ∀ op w', w.step op = some w' →
      ((∀ c ∈ w'.db.conversation.rows, c.state = .active ↔
        ∃ m ∈ w'.db.messageLedger.rows,
          m.key = c.key ∧ m.manualOwnerReply = true ∧ m.deletedAt = none) ↔
      World.FreshReply w op) := by
  obtain ⟨w, hw, hactive⟩ : ∃ w, service.ReachableBy World.FreshReply w ∧ w.hasActive = true :=
    Machine.reachableBy_of_runWhile World.FreshReply replied World.hasActive ⟨0, rfl⟩
      (by decide +kernel)
  exact ⟨w, hw, hactive, active_iff_reply hw⟩

set_option maxRecDepth 100000 in
/-- **An edit that comes after the deletion of its message** makes the conversation active, and no
reply stands in it. -/
theorem active_without_reply : ∃ w : World, service.Reachable w ∧
    ∃ c ∈ w.db.conversation.rows, c.state = .active ∧
      ¬∃ m ∈ w.db.messageLedger.rows,
        m.key = c.key ∧ m.manualOwnerReply = true ∧ m.deletedAt = none := by
  have hreached : ∃ w : World, service.Reachable w ∧
      (w.db.conversation.rows.any fun c => c.state = .active && !decide (w.db.Replied c.key)) =
        true :=
    Machine.reachable_of_run lateEdit _ ⟨0, rfl⟩ (by decide +kernel)
  obtain ⟨w, hw, hleft⟩ := hreached
  obtain ⟨c, hc, hleft⟩ := List.any_eq_true.1 hleft
  rw [Bool.and_eq_true, decide_eq_true_eq, Bool.not_eq_true', decide_eq_false_iff_not] at hleft
  exact ⟨w, hw, c, hc, hleft⟩

end

end ChatHygiene
