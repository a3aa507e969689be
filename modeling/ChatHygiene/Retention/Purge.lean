import ChatHygiene.Footprint.Contracts
import ChatHygiene.System
/-!
# The purge of history

A purge deletes from four tables in turn, and what it deletes of one depends on
the others: an action names messages to keep, a blocked conversation keeps its
latest audit, and an update is kept for its actions and audits. `purged` is what
it comes to, and no deletion cascades. Since what keeps a row is not itself
purged, a purge absorbs an earlier one.
-/

namespace ChatHygiene

open Txn (commit Yields)

variable {db db' : Database} {now t₁ t₂ : DateTime}

/-! ## What a purge deletes -/

/-- The messages the action deletes, as long as it is unfinished. -/
def OutboxActionRow.protectedIds (a : OutboxActionRow) : List (ConversationKey × Int) :=
  match a.key, a.payload with
  | some key, .deleteBusinessMessages messageIds =>
    if a.status.unfinished then messageIds.map (key, ·) else []
  | _, _ => []

def Database.protectedIds (db : Database) : List (ConversationKey × Int) :=
  db.outboxAction.rows.flatMap OutboxActionRow.protectedIds

/-- The purge deletes the message. -/
def LedgerMessage.purged (now : DateTime) (protectedIds : List (ConversationKey × Int))
    (m : LedgerMessage) : Bool :=
  m.direction = .inbound && !m.manualOwnerReply && m.sentAt ≤ now - DateTime.hours 72 &&
    !protectedIds.contains (m.key, m.messageId)

/-- The purge deletes the audit. -/
def AuditEvent.purged (now : DateTime) (kept : List Nat) (a : AuditEvent) : Bool :=
  a.occurredAt ≤ now - DateTime.days 90 && !kept.contains a.id

/-- The purge deletes the action. -/
def OutboxActionRow.purged (now : DateTime) (a : OutboxActionRow) : Bool :=
  (a.status = .succeeded && a.updatedAt ≤ now - DateTime.days 30) ||
    ((a.status = .uncertain || a.status = .permanentFailure) &&
      a.updatedAt ≤ now - DateTime.days 90)

/-- The purge deletes the update, given the updates its actions and audits are of. -/
def ProcessedUpdate.purged (now : DateTime) (actions audits : List Int) (u : ProcessedUpdate) :
    Bool :=
  u.receivedAt ≤ now - DateTime.days 7 && !actions.contains u.updateId &&
    !audits.contains u.updateId

namespace Database

/-- The actions that are left. -/
def keptActions (db : Database) (now : DateTime) : Table OutboxActionRow.id :=
  db.outboxAction.delete (OutboxActionRow.purged now)

/-- The audits that are left. -/
def keptAudits (db : Database) (now : DateTime) : Table AuditEvent.id :=
  db.auditEvent.delete (AuditEvent.purged now (latestSpamAudits db))

/-- The updates that are left. -/
def keptUpdates (db : Database) (now : DateTime) : Table ProcessedUpdate.updateId :=
  db.processedUpdate.delete (ProcessedUpdate.purged now
    ((db.keptActions now).rows.map (·.sourceUpdateId))
    ((db.keptAudits now).rows.filterMap (·.sourceUpdateId)))

/-- What a purge leaves. -/
def purged (db : Database) (now : DateTime) : Tables :=
  { db.toTables with
    messageLedger := db.messageLedger.delete (LedgerMessage.purged now db.protectedIds)
    auditEvent := db.keptAudits now
    outboxAction := db.keptActions now
    processedUpdate := db.keptUpdates now }

/-- No action that is left is of an update that is not. -/
theorem keptActions_delete (db : Database) (now : DateTime) :
    (db.keptActions now).delete (fun a => !(db.keptUpdates now).contains a.sourceUpdateId) =
      db.keptActions now := by
  refine Table.delete_eq_self fun a ha => ?_
  have hstored : db.processedUpdate.contains a.sourceUpdateId = true :=
    db.consistent.updates.outboxFk a (Table.mem_delete.1 ha).1
  obtain ⟨u, hu, hid⟩ := Table.contains_iff.1 hstored
  have hkept : u ∈ (db.keptUpdates now).rows := by
    refine Table.mem_delete.2 ⟨hu, ?_⟩
    have hnamed : a.sourceUpdateId ∈ (db.keptActions now).rows.map (·.sourceUpdateId) :=
      List.mem_map_of_mem ha
    simp only [ProcessedUpdate.purged, hid, List.contains_iff_mem.2 hnamed, Bool.not_true,
      Bool.and_false, Bool.false_and]
  simp [Table.contains_iff.2 ⟨u, hkept, hid⟩]

/-- No audit that is left is of an update that is deleted. -/
theorem keptAudits_update (db : Database) (now : DateTime) :
    (db.keptAudits now).update
        (fun a => a.sourceUpdateId.any fun u => !(db.keptUpdates now).contains u)
        (fun a => { a with sourceUpdateId := none }) (fun _ => rfl) =
      db.keptAudits now := by
  refine Table.update_eq_self fun a ha => ?_
  cases hsource : a.sourceUpdateId with
  | none => rfl
  | some updateId =>
    have hstored := db.consistent.updates.auditFk a (Table.mem_delete.1 ha).1 updateId hsource
    obtain ⟨u, hu, hid⟩ := Table.contains_iff.1 hstored
    have hkept : u ∈ (db.keptUpdates now).rows := by
      refine Table.mem_delete.2 ⟨hu, ?_⟩
      have hnamed : updateId ∈ (db.keptAudits now).rows.filterMap (·.sourceUpdateId) :=
        List.mem_filterMap.2 ⟨a, ha, hsource⟩
      simp only [ProcessedUpdate.purged, hid, List.contains_iff_mem.2 hnamed, Bool.not_true,
        Bool.and_false]
    simp [Table.contains_iff.2 ⟨u, hkept, hid⟩]

end Database

/-! ## The statements of a purge -/

theorem purgeLedger_yields (protectedIds : List (ConversationKey × Int)) :
    Yields (purgeLedger (now - DateTime.hours 72) protectedIds) db fun _ db' =>
      db'.toTables = { db.toTables with
        messageLedger := db.messageLedger.delete (LedgerMessage.purged now protectedIds) } := by
  unfold purgeLedger Uow.deleteLedger
  exact (Uow.statement_yields rfl).mono fun _ _ h => h.2

theorem purgeAudits_yields : Yields (purgeAudits (now - DateTime.days 90)) db fun _ db' =>
    db'.toTables = { db.toTables with auditEvent := db.keptAudits now } := by
  refine Yields.bind_read ?_
  unfold Uow.deleteAudit
  exact (Uow.statement_yields rfl).mono fun _ _ h => h.2

theorem purgeOutbox_yields :
    Yields (purgeOutbox (now - DateTime.days 30) (now - DateTime.days 90)) db fun _ db' =>
      db'.toTables = { db.toTables with outboxAction := db.keptActions now } := by
  unfold purgeOutbox Uow.deleteOutbox
  exact (Uow.statement_yields rfl).mono fun _ _ h => h.2

theorem purgeProcessedUpdates_yields :
    Yields (purgeProcessedUpdates (now - DateTime.days 7)) db fun n db' =>
      Tables.deleteUpdate (ProcessedUpdate.purged now (db.outboxAction.rows.map (·.sourceUpdateId))
        (db.auditEvent.rows.filterMap (·.sourceUpdateId))) db.toTables = .ok (n, db'.toTables) := by
  refine Yields.bind_read (Yields.bind_read ?_)
  unfold Uow.deleteUpdate
  refine (Uow.statement_yields rfl).mono fun _ db' h => ?_
  rw [h.1, h.2]
  rfl

/-- **What a purge comes to.** -/
theorem purgeHistory_yields (now : DateTime) (db : Database) :
    Yields (purgeHistory now) db fun _ db' => db'.toTables = db.purged now := by
  refine Yields.bind_read ?_
  refine (purgeLedger_yields _).bind fun _ db₁ h₁ => purgeAudits_yields.bind fun _ db₂ h₂ =>
    purgeOutbox_yields.bind fun _ db₃ h₃ => purgeProcessedUpdates_yields.bind fun _ db₄ h₄ =>
    .pure ?_
  -- the later statements read what the earlier ones leave alone
  have hlatest : latestSpamAudits db₁ = latestSpamAudits db := by
    unfold latestSpamAudits
    rw [h₁]
  have haudits : db₁.keptAudits now = db.keptAudits now := by
    unfold Database.keptAudits
    rw [hlatest, h₁]
  have hactions : db₂.keptActions now = db.keptActions now := by
    unfold Database.keptActions
    rw [h₂, h₁]
  have h₃' : db₃.toTables = { db.toTables with
      messageLedger := db.messageLedger.delete (LedgerMessage.purged now db.protectedIds)
      auditEvent := db.keptAudits now
      outboxAction := db.keptActions now } := by
    rw [h₃, h₂, h₁, haudits, hactions]
    rfl
  obtain ⟨-, hdb⟩ := Prod.mk.inj (Except.ok.inj h₄)
  rw [← hdb, h₃']
  unfold Database.purged
  congr 1
  · exact db.keptActions_delete now
  · exact db.keptAudits_update now

/-! ## Two purges -/

theorem le_cutoff {t : DateTime} {age : Int} (h : t₁ ≤ t₂) (hold : t ≤ t₁ - age) :
    t ≤ t₂ - age :=
  Int.le_trans hold (Int.sub_le_sub_right h age)

theorem OutboxActionRow.purged_mono (h : t₁ ≤ t₂) {a : OutboxActionRow}
    (ha : a.purged t₁ = true) : a.purged t₂ = true := by
  simp only [OutboxActionRow.purged, Bool.or_eq_true, Bool.and_eq_true, decide_eq_true_eq] at ha ⊢
  rcases ha with ⟨hstatus, hold⟩ | ⟨hstatus, hold⟩
  · exact .inl ⟨hstatus, le_cutoff h hold⟩
  · exact .inr ⟨hstatus, le_cutoff h hold⟩

theorem AuditEvent.purged_mono (h : t₁ ≤ t₂) {kept : List Nat} {a : AuditEvent}
    (ha : a.purged t₁ kept = true) : a.purged t₂ kept = true := by
  simp only [AuditEvent.purged, Bool.and_eq_true, decide_eq_true_eq] at ha ⊢
  exact ⟨le_cutoff h ha.1, ha.2⟩

/-- What is left later is left earlier. -/
theorem mem_keptActions_of_le (h : t₁ ≤ t₂) {a : OutboxActionRow}
    (ha : a ∈ (db.keptActions t₂).rows) : a ∈ (db.keptActions t₁).rows := by
  obtain ⟨hmem, hkept⟩ := Table.mem_delete.1 ha
  refine Table.mem_delete.2 ⟨hmem, ?_⟩
  by_contra hpurged
  have hlater := OutboxActionRow.purged_mono h (by simpa using hpurged)
  rw [hkept] at hlater
  cases hlater

theorem mem_keptAudits_of_le (h : t₁ ≤ t₂) {a : AuditEvent} (ha : a ∈ (db.keptAudits t₂).rows) :
    a ∈ (db.keptAudits t₁).rows := by
  obtain ⟨hmem, hkept⟩ := Table.mem_delete.1 ha
  refine Table.mem_delete.2 ⟨hmem, ?_⟩
  by_contra hpurged
  have hlater := AuditEvent.purged_mono h (by simpa using hpurged)
  rw [hkept] at hlater
  cases hlater

/-- An unfinished action is not purged. -/
theorem OutboxActionRow.not_purged {a : OutboxActionRow} (h : a.status.unfinished = true) :
    a.purged now = false := by
  cases hstatus : a.status with
  | pending | retry => simp [OutboxActionRow.purged, hstatus]
  | succeeded | uncertain | permanentFailure =>
    rw [hstatus] at h
    cases h

theorem mem_protectedIds {key : ConversationKey} {messageId : Int} :
    (key, messageId) ∈ db.protectedIds ↔ ∃ a ∈ db.outboxAction.rows, a.status.unfinished = true ∧
      a.key = some key ∧
      ∃ messageIds, a.payload = .deleteBusinessMessages messageIds ∧ messageId ∈ messageIds := by
  unfold Database.protectedIds
  rw [List.mem_flatMap]
  refine exists_congr fun a => and_congr_right fun _ => ?_
  unfold OutboxActionRow.protectedIds
  split
  · next key' messageIds hkey hpayload =>
    split
    · next hunfinished =>
      simp only [List.mem_map, Prod.mk.injEq, hkey, hpayload, hunfinished, Option.some.injEq,
        OutboxPayload.deleteBusinessMessages.injEq, true_and]
      constructor
      · rintro ⟨messageId', hmem, rfl, rfl⟩
        exact ⟨rfl, messageIds, rfl, hmem⟩
      · rintro ⟨rfl, messageIds', rfl, hmem⟩
        exact ⟨messageId, hmem, rfl, rfl⟩
    · next hfinished => simp [hfinished]
  · next hno =>
    simp only [List.not_mem_nil, false_iff]
    rintro ⟨-, hkey, messageIds, hpayload, -⟩
    exact hno key messageIds hkey hpayload

/-- The audit is the latest of a conversation that is blocked as spam. -/
def Database.LatestSpamAudit (db : Database) (id : Nat) : Prop :=
  ∃ c ∈ db.conversation.rows, c.state = .spamSoftBlocked ∧
    ∃ a ∈ db.auditEvent.rows, a.id = id ∧ a.key = some c.key ∧
      ∀ b ∈ db.auditEvent.rows, b.key = some c.key → b.id ≤ a.id

theorem mem_latestSpamAudits {id : Nat} : id ∈ latestSpamAudits db ↔ db.LatestSpamAudit id := by
  unfold latestSpamAudits Database.LatestSpamAudit
  rw [List.mem_filterMap]
  refine exists_congr fun c => ?_
  rw [List.mem_filter, decide_eq_true_eq, and_assoc]
  refine and_congr_right fun _ => and_congr_right fun _ => ?_
  rw [List.max?_eq_some_iff]
  constructor
  · rintro ⟨hmem, hmax⟩
    obtain ⟨a, ha, rfl⟩ := List.mem_map.1 hmem
    obtain ⟨ha, hkey⟩ := List.mem_filter.1 ha
    refine ⟨a, ha, rfl, by simpa using hkey, fun b hb hkey => hmax b.id ?_⟩
    exact List.mem_map_of_mem (List.mem_filter.2 ⟨hb, by simpa using hkey⟩)
  · rintro ⟨a, ha, rfl, hkey, hmax⟩
    refine ⟨List.mem_map_of_mem (List.mem_filter.2 ⟨ha, by simpa using hkey⟩), fun n hn => ?_⟩
    obtain ⟨b, hb, rfl⟩ := List.mem_map.1 hn
    obtain ⟨hb, hkey⟩ := List.mem_filter.1 hb
    exact hmax b hb (by simpa using hkey)

/-- The latest audit of a conversation that is blocked as spam is not purged. -/
theorem mem_keptAudits {a : AuditEvent} (ha : a ∈ db.auditEvent.rows)
    (h : db.LatestSpamAudit a.id) (now : DateTime) : a ∈ (db.keptAudits now).rows := by
  refine Table.mem_delete.2 ⟨ha, ?_⟩
  simp [AuditEvent.purged, mem_latestSpamAudits.2 h]

/-- A conversation with an audit has a latest one. -/
theorem exists_latest {c : Conversation} (hc : c ∈ db.conversation.rows)
    (hspam : c.state = .spamSoftBlocked) {a : AuditEvent} (ha : a ∈ db.auditEvent.rows)
    (hkey : a.key = some c.key) : ∃ b ∈ db.auditEvent.rows, b.key = some c.key ∧
      db.LatestSpamAudit b.id ∧ a.id ≤ b.id := by
  cases hmax : ((db.auditEvent.rows.filter (·.key = some c.key)).map (·.id)).max? with
  | none =>
    rw [List.max?_eq_none_iff, List.map_eq_nil_iff, List.filter_eq_nil_iff] at hmax
    exact absurd (by simpa using hkey) (hmax a ha)
  | some id =>
    obtain ⟨hmem, hle⟩ := List.max?_eq_some_iff.1 hmax
    obtain ⟨b, hb, rfl⟩ := List.mem_map.1 hmem
    obtain ⟨hb, hkeyb⟩ := List.mem_filter.1 hb
    have hlatest (b' : AuditEvent) (hb' : b' ∈ db.auditEvent.rows) (hkey' : b'.key = some c.key) :
        b'.id ≤ b.id :=
      hle b'.id (List.mem_map_of_mem (List.mem_filter.2 ⟨hb', by simpa using hkey'⟩))
    exact ⟨b, hb, by simpa using hkeyb,
      ⟨c, hc, hspam, b, hb, rfl, by simpa using hkeyb, hlatest⟩, hlatest a ha hkey⟩

/-- **The latest audits are the same after a purge.** -/
theorem latestSpamAudit_purged (h : db'.toTables = db.purged now) (id : Nat) :
    db'.LatestSpamAudit id ↔ db.LatestSpamAudit id := by
  have hconversation : db'.conversation = db.conversation := by rw [h]; rfl
  have haudits : db'.auditEvent = db.keptAudits now := by rw [h]; rfl
  constructor
  · rintro ⟨c, hc, hspam, a, ha, rfl, hkey, hmax⟩
    rw [hconversation] at hc
    rw [haudits] at ha
    obtain ⟨b, hb, hkeyb, hlatest, hle⟩ := exists_latest hc hspam (Table.mem_delete.1 ha).1 hkey
    have hge := hmax b (haudits ▸ mem_keptAudits hb hlatest now) hkeyb
    rwa [show a.id = b.id by omega]
  · rintro ⟨c, hc, hspam, a, ha, rfl, hkey, hmax⟩
    refine ⟨c, hconversation ▸ hc, hspam, a, ?_, rfl, hkey, fun b hb hkeyb => ?_⟩
    · exact haudits ▸ mem_keptAudits ha ⟨c, hc, hspam, a, ha, rfl, hkey, hmax⟩ now
    · rw [haudits] at hb
      exact hmax b (Table.mem_delete.1 hb).1 hkeyb

/-- **The protected messages are the same after a purge.** -/
theorem mem_protectedIds_purged (h : db'.toTables = db.purged now)
    (id : ConversationKey × Int) : id ∈ db'.protectedIds ↔ id ∈ db.protectedIds := by
  obtain ⟨key, messageId⟩ := id
  have hactions : db'.outboxAction = db.keptActions now := by rw [h]; rfl
  rw [mem_protectedIds, mem_protectedIds, hactions]
  refine exists_congr fun a => ?_
  constructor
  · rintro ⟨ha, hnames⟩
    exact ⟨(Table.mem_delete.1 ha).1, hnames⟩
  · rintro ⟨ha, hunfinished, hnames⟩
    exact ⟨Table.mem_delete.2 ⟨ha, OutboxActionRow.not_purged hunfinished⟩, hunfinished, hnames⟩

/-- **A purge absorbs an earlier one.** -/
theorem purged_purged (h : t₁ ≤ t₂) (hdb : db'.toTables = db.purged t₁) :
    db'.purged t₂ = db.purged t₂ := by
  have hactions : db'.keptActions t₂ = db.keptActions t₂ := by
    unfold Database.keptActions
    rw [hdb]
    exact Table.delete_delete fun a _ ha => OutboxActionRow.purged_mono h ha
  have haudits : db'.keptAudits t₂ = db.keptAudits t₂ := by
    unfold Database.keptAudits
    have hkept (a : AuditEvent) : AuditEvent.purged t₂ (latestSpamAudits db') a =
        AuditEvent.purged t₂ (latestSpamAudits db) a := by
      unfold AuditEvent.purged
      congr 2
      rw [Bool.eq_iff_iff, List.contains_iff_mem, List.contains_iff_mem, mem_latestSpamAudits,
        mem_latestSpamAudits]
      exact latestSpamAudit_purged hdb a.id
    rw [Table.delete_congr fun a _ => hkept a, hdb]
    exact Table.delete_delete fun a _ ha => AuditEvent.purged_mono h ha
  have hledger : db'.messageLedger.delete (LedgerMessage.purged t₂ db'.protectedIds) =
      db.messageLedger.delete (LedgerMessage.purged t₂ db.protectedIds) := by
    have hkept (m : LedgerMessage) : LedgerMessage.purged t₂ db'.protectedIds m =
        LedgerMessage.purged t₂ db.protectedIds m := by
      unfold LedgerMessage.purged
      congr 2
      rw [Bool.eq_iff_iff, List.contains_iff_mem, List.contains_iff_mem]
      exact mem_protectedIds_purged hdb _
    rw [Table.delete_congr fun m _ => hkept m, hdb]
    refine Table.delete_delete fun m _ hm => ?_
    simp only [LedgerMessage.purged, Bool.and_eq_true, decide_eq_true_eq] at hm ⊢
    exact ⟨⟨hm.1.1, le_cutoff h hm.1.2⟩, hm.2⟩
  have hupdates : db'.keptUpdates t₂ = db.keptUpdates t₂ := by
    unfold Database.keptUpdates
    rw [hactions, haudits, hdb]
    refine Table.delete_delete fun u _ hu => ?_
    -- what keeps an update at the later purge has kept it at the earlier one
    simp only [ProcessedUpdate.purged, Bool.and_eq_true, decide_eq_true_eq, Bool.not_eq_true',
      ← Bool.not_eq_true, List.contains_iff_mem] at hu ⊢
    refine ⟨⟨le_cutoff h hu.1.1, fun hmem => hu.1.2 ?_⟩, fun hmem => hu.2 ?_⟩
    · obtain ⟨a, ha, hid⟩ := List.mem_map.1 hmem
      exact List.mem_map.2 ⟨a, mem_keptActions_of_le h ha, hid⟩
    · obtain ⟨a, ha, hid⟩ := List.mem_filterMap.1 hmem
      exact List.mem_filterMap.2 ⟨a, mem_keptAudits_of_le h ha, hid⟩
  unfold Database.purged
  rw [hactions, haudits, hledger, hupdates, hdb]
  rfl

/-! ## What a purge keeps -/

/-- The rows a purge leaves alone: unfinished actions, outbound messages and the Owner's replies,
messages an unfinished deletion names, and the latest audit of what is blocked as spam. -/
structure PurgeKeeps (db db' : Database) : Prop where
  unfinished : ∀ a ∈ db.outboxAction.rows, a.status = .pending ∨ a.status = .retry →
    a ∈ db'.outboxAction.rows
  ours : ∀ m ∈ db.messageLedger.rows, m.direction = .outbound ∨ m.manualOwnerReply = true →
    m ∈ db'.messageLedger.rows
  named : ∀ m ∈ db.messageLedger.rows, ∀ a ∈ db.outboxAction.rows,
    a.status = .pending ∨ a.status = .retry → a.key = some m.key →
    ∀ messageIds, a.payload = .deleteBusinessMessages messageIds → m.messageId ∈ messageIds →
    m ∈ db'.messageLedger.rows
  latest : ∀ c ∈ db.conversation.rows, c.state = .spamSoftBlocked →
    ∀ a ∈ db.auditEvent.rows, a.key = some c.key →
    (∀ b ∈ db.auditEvent.rows, b.key = some c.key → b.id ≤ a.id) → a ∈ db'.auditEvent.rows

theorem PurgeKeeps.of_purged (h : db'.toTables = db.purged now) : PurgeKeeps db db' := by
  have hunfinished (a : OutboxActionRow) (hstatus : a.status = .pending ∨ a.status = .retry) :
      a.status.unfinished = true := by
    rcases hstatus with hstatus | hstatus <;> rw [hstatus] <;> rfl
  refine ⟨fun a ha hstatus => ?_, fun m hm hours => ?_, ?_, ?_⟩
  · rw [h]
    exact Table.mem_delete.2 ⟨ha, OutboxActionRow.not_purged (hunfinished a hstatus)⟩
  · rw [h]
    refine Table.mem_delete.2 ⟨hm, ?_⟩
    rcases hours with hdirection | hmanual
    · simp [LedgerMessage.purged, hdirection]
    · simp [LedgerMessage.purged, hmanual]
  · intro m hm a ha hstatus hkey messageIds hpayload hmem
    rw [h]
    refine Table.mem_delete.2 ⟨hm, ?_⟩
    have hprotected : (m.key, m.messageId) ∈ db.protectedIds :=
      mem_protectedIds.2 ⟨a, ha, hunfinished a hstatus, hkey, messageIds, hpayload, hmem⟩
    simp [LedgerMessage.purged, hprotected]
  · intro c hc hspam a ha hkey hmax
    rw [h]
    exact mem_keptAudits ha ⟨c, hc, hspam, a, ha, rfl, hkey, hmax⟩ now

/-- **A purge commits, absorbs every earlier one, and keeps what is still needed.** -/
theorem purge_history_law (db : Database) (h : t₁ ≤ t₂) :
    (commit (purgeHistory t₂) (commit (purgeHistory t₁) db).1).1 =
        (commit (purgeHistory t₂) db).1 ∧
      ∀ now, Txn.Succeeds (purgeHistory now) db ∧
        PurgeKeeps db (commit (purgeHistory now) db).1 := by
  have hpurged (now : DateTime) (db : Database) :
      (commit (purgeHistory now) db).1.toTables = db.purged now := by
    obtain ⟨report, db', hx, hdb⟩ := purgeHistory_yields now db
    rw [Txn.commit_of_ok hx, hdb]
  refine ⟨Database.ext ?_, fun now => ⟨(purgeHistory_yields now db).succeeds, ?_⟩⟩
  · rw [hpurged, hpurged, purged_purged h (hpurged t₁ db)]
  · exact .of_purged (hpurged now db)

section

open Sample

/-- A message is judged spam, applied and its cleanup dispatched. -/
def cleanedUp : List Op :=
  connected true ++ message 3 50 1 .inboundMessage .spam .correct 3 ++ dispatch 4 ++ dispatch 4 ++
    dispatch 4

/-- A purge after four days deletes the message, and a later one the actions. -/
def Database.purgesTwice (db : Database) : Bool :=
  let db₁ := (commit (purgeHistory (DateTime.days 4)) db).1
  let db₂ := (commit (purgeHistory (DateTime.days 40)) db₁).1
  (db₁.messageLedger.rows.length < db.messageLedger.rows.length) &&
    (db₂.outboxAction.rows.length < db₁.outboxAction.rows.length)

set_option maxRecDepth 100000 in
theorem purge_history_law_cleanedUp : ∃ w, service.Reachable w ∧ w.db.purgesTwice = true ∧
    (commit (purgeHistory (DateTime.days 40))
      (commit (purgeHistory (DateTime.days 4)) w.db).1).1 =
        (commit (purgeHistory (DateTime.days 40)) w.db).1 := by
  obtain ⟨w, hw, hpurges⟩ : ∃ w, service.Reachable w ∧ w.db.purgesTwice = true :=
    Machine.reachable_of_run cleanedUp (fun w : World => w.db.purgesTwice) ⟨0, rfl⟩ (by decide +kernel)
  exact ⟨w, hw, hpurges, (purge_history_law w.db (by decide)).1⟩

end

end ChatHygiene
