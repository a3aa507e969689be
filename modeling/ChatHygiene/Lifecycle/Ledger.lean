import ChatHygiene.Lifecycle.Application
/-!
# The ledger of a conversation

An applied event enters its message in the ledger, as what it was first seen as,
or it marks messages deleted. A message whose id is known is not entered again.
-/

namespace ChatHygiene

open Txn (Respects bind_ok_iff)

variable {db db' db₁ db₂ : Database} {key : ConversationKey} {m : LedgerMessage}
  {facts : LifecycleFacts}

/-! ## Entries and deletions -/

/-- The message an event enters in the ledger of its conversation. -/
def LifecycleFacts.entry (facts : LifecycleFacts) (key : ConversationKey) (messageId : Int) :
    Option LedgerMessage :=
  match facts.action with
  | .inbound .. | .blockedInbound | .blockedFailOpen =>
    some { LedgerMessage.new key messageId .inbound .external false facts.occurredAt with
      mediaGroupId := facts.mediaGroupId }
  | .manualOwner => some (.new key messageId .outbound .owner true facts.occurredAt)
  | .botMessage sender =>
    some (.new key messageId .outbound sender.senderKind false facts.occurredAt)
  | .connectionChanged .. | .activeInbound | .messagesDeleted _ | .ignore => none

theorem LifecycleFacts.entry_new {messageId : Int} (h : facts.entry key messageId = some m) :
    m.pk = (key, messageId) ∧ m.deletedAt = none ∧ m.eligibleForDeletion = true := by
  unfold LifecycleFacts.entry at h
  split at h <;> cases h <;> exact ⟨rfl, rfl, rfl⟩

/-- The message is entered, unless its id is known. -/
def Entered (m : LedgerMessage) (db db' : Database) : Prop :=
  db'.messageLedger.rows =
    if (db.messageLedger.lookup m.pk).isSome then db.messageLedger.rows
    else db.messageLedger.rows ++ [m]

theorem Entered.mem_iff (h : Entered m db db') {n : LedgerMessage} :
    n ∈ db'.messageLedger.rows ↔
      n ∈ db.messageLedger.rows ∨ db.messageLedger.lookup m.pk = none ∧ n = m := by
  unfold Entered at h
  rw [h]
  cases db.messageLedger.lookup m.pk with
  | none => simp
  | some r => simp

theorem Entered.of_same (h : Entered m db₁ db₂) (hbefore : db₁.messageLedger = db.messageLedger)
    (hafter : db'.messageLedger = db₂.messageLedger) : Entered m db db' := by
  unfold Entered at *
  rw [hafter, h, hbefore]

/-- A row of the ledger after messages of a conversation are deleted. -/
def LedgerMessage.struck (key : ConversationKey) (messageIds : List Int) (now : DateTime)
    (m : LedgerMessage) : LedgerMessage :=
  if m.key = key ∧ m.messageId ∈ messageIds ∧ m.deletedAt = none then
    { m with deletedAt := some now }
  else m

@[simp] theorem LedgerMessage.struck_pk (messageIds : List Int) (now : DateTime) :
    (m.struck key messageIds now).pk = m.pk := by
  unfold LedgerMessage.struck
  split <;> rfl

@[simp] theorem LedgerMessage.struck_manualOwnerReply (messageIds : List Int) (now : DateTime) :
    (m.struck key messageIds now).manualOwnerReply = m.manualOwnerReply := by
  unfold LedgerMessage.struck
  split <;> rfl

/-- What stands after a deletion is as it was. -/
theorem LedgerMessage.struck_eq_self {messageIds : List Int} {now : DateTime}
    (h : (m.struck key messageIds now).deletedAt = none) : m.struck key messageIds now = m := by
  unfold LedgerMessage.struck at *
  split at h
  · cases h
  · next hno => exact if_neg hno

/-- Deleting one message more. -/
theorem LedgerMessage.struck_cons (messageId : Int) (messageIds : List Int) (now : DateTime) :
    (m.struck key [messageId] now).struck key messageIds now =
      m.struck key (messageId :: messageIds) now := by
  by_cases hfirst : m.key = key ∧ m.messageId ∈ [messageId] ∧ m.deletedAt = none
  · have hall : m.key = key ∧ m.messageId ∈ messageId :: messageIds ∧ m.deletedAt = none :=
      ⟨hfirst.1, List.mem_cons.2 (.inl (List.mem_singleton.1 hfirst.2.1)), hfirst.2.2⟩
    rw [LedgerMessage.struck, LedgerMessage.struck, LedgerMessage.struck, if_pos hfirst, if_pos hall]
    simp
  · have hsame : m.struck key [messageId] now = m := if_neg hfirst
    rw [hsame]
    unfold LedgerMessage.struck
    refine if_congr ?_ rfl rfl
    simp only [List.mem_cons] at hfirst ⊢
    tauto

/-- The messages of a conversation are marked deleted. -/
def Struck (key : ConversationKey) (messageIds : List Int) (now : DateTime) (db db' : Database) :
    Prop :=
  db'.messageLedger.rows = db.messageLedger.rows.map (·.struck key messageIds now)

theorem Struck.mem_iff {messageIds : List Int} {now : DateTime}
    (h : Struck key messageIds now db db') {n : LedgerMessage} :
    n ∈ db'.messageLedger.rows ↔ ∃ m ∈ db.messageLedger.rows, m.struck key messageIds now = n := by
  unfold Struck at h
  rw [h, List.mem_map]

theorem Struck.of_same {messageIds : List Int} {now : DateTime}
    (h : Struck key messageIds now db₁ db₂) (hbefore : db₁.messageLedger = db.messageLedger)
    (hafter : db'.messageLedger = db₂.messageLedger) : Struck key messageIds now db db' := by
  unfold Struck at *
  rw [hafter, h, hbefore]

/-! ## Statements -/

theorem recordMessage_ok {r : Bool} (h : recordMessage m db = .ok (r, db')) : Entered m db db' := by
  unfold recordMessage Uow.insertLedger at h
  have hok := Uow.statement_ok_iff.1 h
  unfold Tables.insertLedger at hok
  unfold Entered
  split at hok
  · next hnew =>
    split at hok
    · obtain ⟨-, hdb⟩ := Prod.mk.inj (Except.ok.inj hok)
      rw [← hdb, hnew]
      rfl
    · cases hok
  · next hknown =>
    obtain ⟨-, hdb⟩ := Prod.mk.inj (Except.ok.inj hok)
    rw [← hdb, if_pos (Option.isSome_iff_ne_none.2 hknown)]

theorem markMessageDeleted_ok {messageId : Int} {now : DateTime} {r : Bool}
    (h : markMessageDeleted key messageId now db = .ok (r, db')) :
    Struck key [messageId] now db db' := by
  obtain ⟨affected, db₁, hupdate, h⟩ := bind_ok_iff.1 h
  obtain ⟨-, rfl⟩ := Prod.mk.inj (Txn.pure_ok_iff.1 h)
  obtain ⟨-, hdb⟩ := Prod.mk.inj (Except.ok.inj (Uow.statement_ok_iff.1 hupdate))
  unfold Struck
  rw [← hdb]
  refine List.map_congr_left fun n hn => ?_
  unfold LedgerMessage.struck
  simp [and_assoc]

/-- **Deletions, one after the other, mark what they name.** -/
theorem markMessagesDeleted_ok {messageIds : List Int} {now : DateTime}
    (h : Txn.forEach (fun messageId => do
      let _ ← markMessageDeleted key messageId now) messageIds db = .ok ((), db')) :
    Struck key messageIds now db db' := by
  induction messageIds generalizing db with
  | nil =>
    obtain ⟨-, rfl⟩ := Prod.mk.inj (Txn.pure_ok_iff.1 h)
    unfold Struck
    simp [LedgerMessage.struck]
  | cons messageId messageIds ih =>
    obtain ⟨_, db₁, hfirst, hrest⟩ := bind_ok_iff.1 h
    obtain ⟨_, db₂, hmark, hpure⟩ := bind_ok_iff.1 hfirst
    obtain ⟨-, rfl⟩ := Prod.mk.inj (Txn.pure_ok_iff.1 hpure)
    have hmarked := markMessageDeleted_ok hmark
    have hmore := ih hrest
    unfold Struck at *
    rw [hmore, hmarked, List.map_map]
    exact List.map_congr_left fun n _ => LedgerMessage.struck_cons _ _ _

/-! ## Applied events -/

theorem requireUserId_ok {userId : Int} (h : facts.requireUserId db = .ok (userId, db')) :
    db = db' := (requireUserId_readOnly facts).of_ok h

theorem getOrCreateConversation_ok {userId : Int} {now : DateTime} {c : Conversation}
    (h : getOrCreateConversation key userId now db = .ok (c, db')) : Opened db key c db' := by
  cases hconnection : db.businessConnection.contains key.connectionId with
  | true => exact (getOrCreateConversation_yields _ _ hconnection).of_ok h
  | false => exact absurd ⟨_, h⟩ (getOrCreateConversation_fails _ _ hconnection)

/-- Most of what an application writes leaves the ledger alone. -/
theorem ledger_of_writes {α : Type} {x : Uow α} {K : NewOutboxAction → Prop} {a : α}
    (targets : List Target) (ht : Target.ledger ∉ targets ∧ Target.dropConnection ∉ targets)
    (h : Respects (WritesTo targets K) x) (hx : x db = .ok (a, db')) :
    db'.messageLedger = db.messageLedger := (h.of_ok hx).frame.messageLedger ht.1 ht.2

/-- A conversation is opened, its message is entered, and what follows leaves the ledger alone. -/
theorem entered_of_parts {userId : Int} {now : DateTime} {c : Conversation} {r : Bool}
    (hopen : getOrCreateConversation key userId now db = .ok (c, db₁))
    (hrecord : recordMessage m db₁ = .ok (r, db₂)) (hafter : db'.messageLedger = db₂.messageLedger) :
    Entered m db db' :=
  (recordMessage_ok hrecord).of_same
    ((getOrCreateConversation_ok hopen).frame.messageLedger (by simp) (by simp)) hafter

theorem recordInbound_ok {r : Unit} (h : recordInbound facts key db = .ok (r, db')) :
    ∃ messageId, facts.messageId = some messageId ∧ ∃ b, recordMessage
      { LedgerMessage.new key messageId .inbound .external false facts.occurredAt with
        mediaGroupId := facts.mediaGroupId } db = .ok (b, db') := by
  obtain ⟨messageId, db₁, hmessage, h⟩ := bind_ok_iff.1 h
  obtain ⟨hsome, rfl⟩ := requireMessageId_ok hmessage
  obtain ⟨b, db₂, hrecord, h⟩ := bind_ok_iff.1 h
  obtain ⟨-, rfl⟩ := Prod.mk.inj (Txn.pure_ok_iff.1 h)
  exact ⟨messageId, hsome, b, hrecord⟩

/-- What an applied event does to the ledger. -/
inductive Ledgered (facts : LifecycleFacts) (db db' : Database) : Prop where
  | entered (key : ConversationKey) (messageId : Int) (m : LedgerMessage)
      (hkey : facts.optionalKey = some key) (hmessage : facts.messageId = some messageId)
      (hentry : facts.entry key messageId = some m) (h : Entered m db db')
  | struck (key : ConversationKey) (messageIds : List Int)
      (hkey : facts.optionalKey = some key) (haction : facts.action = .messagesDeleted messageIds)
      (h : Struck key messageIds facts.occurredAt db db')
  | kept (hentry : ∀ key messageId, facts.entry key messageId = none)
      (haction : ∀ messageIds, facts.action ≠ .messagesDeleted messageIds)
      (h : db'.messageLedger = db.messageLedger)

theorem Ledgered.of_same (h : Ledgered facts db₁ db₂) (hbefore : db₁.messageLedger = db.messageLedger)
    (hafter : db'.messageLedger = db₂.messageLedger) : Ledgered facts db db' := by
  cases h with
  | entered key messageId m hkey hmessage hentry h =>
    exact .entered key messageId m hkey hmessage hentry (h.of_same hbefore hafter)
  | struck key messageIds hkey haction h =>
    exact .struck key messageIds hkey haction (h.of_same hbefore hafter)
  | kept hentry haction h => exact .kept hentry haction (hafter.trans (h.trans hbefore))

theorem applyInbound_ledger {updateId : Int} {detection : DetectionFacts} {outcome : InboundOutcome}
    {dryRunSpam : Bool} (haction : facts.action = .inbound detection outcome dryRunSpam)
    (h : applyInbound updateId facts detection outcome dryRunSpam db = .ok ((), db')) :
    Ledgered facts db db' := by
  obtain ⟨key, db₁, hkey, h⟩ := bind_ok_iff.1 h
  obtain ⟨hchat, rfl⟩ := key_ok hkey
  obtain ⟨userId, db₂, huser, h⟩ := bind_ok_iff.1 h
  obtain rfl := requireUserId_ok huser
  obtain ⟨c, db₃, hopen, h⟩ := bind_ok_iff.1 h
  obtain ⟨_, db₄, hrecord, h⟩ := bind_ok_iff.1 h
  obtain ⟨messageId, hmessage, b, hrecord⟩ := recordInbound_ok hrecord
  refine .entered key messageId _ hchat hmessage (by rw [LifecycleFacts.entry, haction])
    (entered_of_parts hopen hrecord ?_)
  have haudit (stateBefore stateAfter) : Respects
      (WritesTo (.conversation :: .audit :: outcomeTargets) (NewOutboxAction.Of updateId True))
      (insertDetectionAudit updateId key stateBefore stateAfter detection facts.occurredAt) :=
    insertDetectionAudit_writes (by simp) _ _ _ _ _
  refine ledger_of_writes (K := NewOutboxAction.Of updateId True)
    (.conversation :: .audit :: outcomeTargets) (by simp) ?_ h
  refine (enqueueDetectionActions_writes (by simp) _ _ _ _).bind fun _ =>
    (applyInboundOutcome_writes (by simp) _ _ _ _ fun _ => trivial).bind fun _ =>
    .ite (fun _ => (saveConversation_writes (by simp) _ _).bind fun _ => haudit _ _)
      fun _ => haudit _ _

theorem applyBlockedInbound_ledger {updateId : Int} (haction : facts.action = .blockedInbound)
    (h : applyBlockedInbound updateId facts db = .ok ((), db')) : Ledgered facts db db' := by
  obtain ⟨key, db₁, hkey, h⟩ := bind_ok_iff.1 h
  obtain ⟨hchat, rfl⟩ := key_ok hkey
  obtain ⟨messageId, db₂, hmessage, h⟩ := bind_ok_iff.1 h
  obtain ⟨-, rfl⟩ := requireMessageId_ok hmessage
  obtain ⟨userId, db₃, huser, h⟩ := bind_ok_iff.1 h
  obtain rfl := requireUserId_ok huser
  obtain ⟨c, db₄, hopen, h⟩ := bind_ok_iff.1 h
  obtain ⟨_, db₅, hrecord, h⟩ := bind_ok_iff.1 h
  obtain ⟨messageId, hmessage, b, hrecord⟩ := recordInbound_ok hrecord
  refine .entered key messageId _ hchat hmessage (by rw [LifecycleFacts.entry, haction])
    (entered_of_parts hopen hrecord ?_)
  refine ledger_of_writes (K := NewOutboxAction.Of updateId True) [.conversation, .enqueue]
    (by simp) ?_ h
  exact (enqueueAction_writes (by simp) _ _ _ _ fun _ => trivial).bind fun _ =>
    (Respects.read _).bind fun _ => (enqueueDelete_writes (by simp) trivial _ _ _).bind fun _ =>
    saveConversation_writes (by simp) _ _

theorem applyBlockedFailOpen_ledger (haction : facts.action = .blockedFailOpen)
    (h : applyBlockedFailOpen facts db = .ok ((), db')) : Ledgered facts db db' := by
  obtain ⟨key, db₁, hkey, h⟩ := bind_ok_iff.1 h
  obtain ⟨hchat, rfl⟩ := key_ok hkey
  obtain ⟨userId, db₂, huser, h⟩ := bind_ok_iff.1 h
  obtain rfl := requireUserId_ok huser
  obtain ⟨c, db₃, hopen, h⟩ := bind_ok_iff.1 h
  obtain ⟨_, db₄, hrecord, h⟩ := bind_ok_iff.1 h
  obtain ⟨messageId, hmessage, b, hrecord⟩ := recordInbound_ok hrecord
  refine .entered key messageId _ hchat hmessage (by rw [LifecycleFacts.entry, haction])
    (entered_of_parts hopen hrecord ?_)
  exact ledger_of_writes (K := fun _ => True) [.conversation] (by simp)
    (saveConversation_writes (by simp) _ _) h

theorem applyManualOwner_ledger (haction : facts.action = .manualOwner)
    (h : applyManualOwner facts db = .ok ((), db')) : Ledgered facts db db' := by
  obtain ⟨key, db₁, hkey, h⟩ := bind_ok_iff.1 h
  obtain ⟨hchat, rfl⟩ := key_ok hkey
  obtain ⟨userId, db₂, huser, h⟩ := bind_ok_iff.1 h
  obtain rfl := requireUserId_ok huser
  obtain ⟨c, db₃, hopen, h⟩ := bind_ok_iff.1 h
  obtain ⟨messageId, db₄, hmessage, h⟩ := bind_ok_iff.1 h
  obtain ⟨hsome, rfl⟩ := requireMessageId_ok hmessage
  obtain ⟨b, db₅, hrecord, h⟩ := bind_ok_iff.1 h
  refine .entered key messageId _ hchat hsome (by rw [LifecycleFacts.entry, haction])
    (entered_of_parts hopen hrecord ?_)
  refine ledger_of_writes (K := fun _ => True) [.conversation, .challenge] (by simp) ?_ h
  exact (closeActiveChallenge_writes (by simp) _ _).bind fun _ =>
    (Respects.of_readOnly (manualOwnerState_readOnly _ _)).bind fun _ =>
    saveConversation_writes (by simp) _ _

theorem applyBotMessage_ledger {sender : PreparedSender} (haction : facts.action = .botMessage sender)
    (h : applyBotMessage facts sender db = .ok ((), db')) : Ledgered facts db db' := by
  obtain ⟨key, db₁, hkey, h⟩ := bind_ok_iff.1 h
  obtain ⟨hchat, rfl⟩ := key_ok hkey
  obtain ⟨userId, db₂, huser, h⟩ := bind_ok_iff.1 h
  obtain rfl := requireUserId_ok huser
  obtain ⟨c, db₃, hopen, h⟩ := bind_ok_iff.1 h
  obtain ⟨messageId, db₄, hmessage, h⟩ := bind_ok_iff.1 h
  obtain ⟨hsome, rfl⟩ := requireMessageId_ok hmessage
  obtain ⟨b, db₅, hrecord, h⟩ := bind_ok_iff.1 h
  obtain ⟨-, rfl⟩ := Prod.mk.inj (Txn.pure_ok_iff.1 h)
  exact .entered key messageId _ hchat hsome (by rw [LifecycleFacts.entry, haction])
    (entered_of_parts hopen hrecord rfl)

/-- **A deletion marks the messages it names**, and a conversation stays active only if a reply of
the Owner is left. -/
theorem applyDeletions_ok {messageIds : List Int}
    (h : applyDeletions facts messageIds db = .ok ((), db')) :
    ∃ key, facts.optionalKey = some key ∧ Struck key messageIds facts.occurredAt db db' ∧
      (db'.ownerReplies key = [] → (db'.lifecycle key).state ≠ .active) := by
  obtain ⟨key, db₁, hkey, h⟩ := bind_ok_iff.1 h
  obtain ⟨hchat, rfl⟩ := key_ok hkey
  obtain ⟨userId, db₂, huser, h⟩ := bind_ok_iff.1 h
  obtain rfl := requireUserId_ok huser
  obtain ⟨c, db₃, hopen, h⟩ := bind_ok_iff.1 h
  obtain ⟨_, db₄, hmark, h⟩ := bind_ok_iff.1 h
  obtain ⟨replies, db₅, hread, h⟩ := bind_ok_iff.1 h
  unfold activeOwnerReplyIds ledgerIds at hread
  obtain ⟨hreplies, rfl⟩ := Prod.mk.inj (Txn.read_ok_iff.1 hread)
  have hopened := getOrCreateConversation_ok hopen
  have hframe : Frame [.ledger] db₃.toTables db₄.toTables := by
    have hwrites (messageId : Int) : Respects (WritesTo [.ledger] fun _ => True) (do
        let _ ← markMessageDeleted key messageId facts.occurredAt) :=
      (markMessageDeleted_writes (by simp) _ _ _).bind fun _ => .pure _
    exact ((Respects.forEach fun messageId _ => hwrites messageId).of_ok hmark).frame
  have hstruck : Struck key messageIds facts.occurredAt db db₄ :=
    (markMessagesDeleted_ok hmark).of_same (hopened.frame.messageLedger (by simp) (by simp)) rfl
  have hrow : db₄.conversation.lookup key = some c := by
    rw [hframe.conversation (by simp) (by simp)]
    exact hopened.row
  have hnone : db₄.ownerReplies key = [] → replies = [] := by
    intro hno
    unfold Database.ownerReplies at hno
    rw [← hreplies, hno]
    rfl
  split at h
  · next hif =>
    rw [setTransition_of_ok (s := .new) _ (by rw [hif.1]; rfl)] at h
    rw [← hopened.key_eq] at hrow
    have hsave := (saveConversation_yields (c := { c with state := .new, updatedAt := facts.occurredAt })
      hrow rfl).of_ok h
    refine ⟨key, hchat, hstruck.of_same rfl (hsave.2.messageLedger (by simp) (by simp)), fun _ => ?_⟩
    have hlife := hsave.1.1
    rw [hopened.key_eq] at hlife
    rw [hlife]
    simp [Conversation.life]
  · next hif =>
    obtain ⟨-, rfl⟩ := Prod.mk.inj (Txn.pure_ok_iff.1 h)
    refine ⟨key, hchat, hstruck, fun hno hactive => hif ⟨?_, hnone hno⟩⟩
    rw [Database.lifecycle_of_lookup hrow] at hactive
    exact hactive

/-- **What an applied event does to the ledger.** -/
theorem LifecycleHandler.apply_ledger {event : PreparedEvent}
    (hconnection : ∀ o c e r, event.facts.action ≠ .connectionChanged o c e r)
    (h : LifecycleHandler.apply event db = .ok ((), db')) : Ledgered event.facts db db' := by
  obtain ⟨_, db₁, haction, htrace⟩ := bind_ok_iff.1 h
  have hafter : db'.messageLedger = db₁.messageLedger :=
    ledger_of_writes (K := NewOutboxAction.Of event.updateId True) [.enqueue] (by simp)
      (enqueueDryRunTrace_writes (by simp) _ _) htrace
  refine Ledgered.of_same ?_ rfl hafter
  cases hprepared : event.facts.action with
  | connectionChanged o c e r => exact absurd hprepared (hconnection o c e r)
  | inbound detection outcome dryRunSpam =>
    rw [hprepared] at haction
    exact applyInbound_ledger hprepared haction
  | blockedInbound =>
    rw [hprepared] at haction
    exact applyBlockedInbound_ledger hprepared haction
  | blockedFailOpen =>
    rw [hprepared] at haction
    exact applyBlockedFailOpen_ledger hprepared haction
  | manualOwner =>
    rw [hprepared] at haction
    exact applyManualOwner_ledger hprepared haction
  | botMessage sender =>
    rw [hprepared] at haction
    exact applyBotMessage_ledger hprepared haction
  | messagesDeleted messageIds =>
    rw [hprepared] at haction
    obtain ⟨key, hkey, hstruck, -⟩ := applyDeletions_ok haction
    exact .struck key messageIds hkey hprepared hstruck
  | activeInbound | ignore =>
    rw [hprepared] at haction
    obtain ⟨-, rfl⟩ := Prod.mk.inj (Txn.pure_ok_iff.1 haction)
    exact .kept (fun _ _ => by rw [LifecycleFacts.entry, hprepared]) (by simp [hprepared]) rfl

end ChatHygiene
