import ChatHygiene.Events.Models
import ChatHygiene.Lib.Txn
/-!
# The database

The tables of the schema, the constraints it declares, and the SQL statements
the program issues. A `Database` carries the proof that its constraints hold,
so every statement states what it may break and why it does not: a foreign key
is checked or cascaded, a unique index is checked, a `CHECK` is checked. A
constraint that fails is an error of the statement, and the transaction it
belongs to is rolled back.
-/

namespace ChatHygiene

/-- The constraint a rejected statement violates. -/
inductive Constraint where
  | foreignKey
  | unique
  | check
  deriving DecidableEq, Repr

/-- `StorageError`, `EventError` and `ProcessingError`: each wraps the one before transparently. -/
inductive Error where
  | sqlite (constraint : Constraint)
  | concurrentModification
  | invalidData (message : String)
  | invalidOwnerIdentity (message : String)
  | ownerAlreadyClaimed
  | ownerChatMismatch
  | invalidConnectionCandidate (message : String)
  | invalidCandidateGuard (message : String)
  | invalidTelegramReconciliationState (message : String)
  | unsafeFacts (message : String)
  | application (message : String)
  | missingUpdate (updateId : Int)
  | invalidStatus (message : String)
  | invalidEvent (message : String)
  deriving DecidableEq, Repr

/-- The primary key of a ledger row. -/
def LedgerMessage.pk (m : LedgerMessage) : ConversationKey × Int := (m.key, m.messageId)

/-- The primary key of a challenge row. -/
def ChallengeRow.pk (c : ChallengeRow) : Nat := c.id

/-- Every table of the schema that the modelled program reads. -/
structure Tables where
  businessConnection : Table BusinessConnectionRecord.connectionId
  conversation : Table Conversation.key
  messageLedger : Table LedgerMessage.pk
  challenge : Table ChallengeRow.pk
  challengeSeq : Nat
  processedUpdate : Table ProcessedUpdate.updateId
  outboxAction : Table OutboxActionRow.id
  outboxSeq : Nat
  auditEvent : Table AuditEvent.id
  auditSeq : Nat
  /-- The `runtime_setting` row `destructive_mode`. -/
  destructiveMode : Option Bool
  ownerIdentity : OwnerLifecycleState
  candidate : Table BusinessConnectionCandidate.connectionId
  guard : CandidateGuard
  reconciliation : TelegramReconciliationState

/-! ## Constraints -/

/-- The constraints on connections and what hangs below them. -/
structure ConversationConstraints (connections : Table BusinessConnectionRecord.connectionId)
    (conversations : Table Conversation.key) (ledger : Table LedgerMessage.pk)
    (challenges : Table ChallengeRow.pk) (challengeSeq : Nat) : Prop where
  ownerUnique : ∀ c ∈ connections.rows, ∀ d ∈ connections.rows,
    c.ownerUserId = d.ownerUserId → c.connectionId = d.connectionId
  conversationFk : ∀ c ∈ conversations.rows, connections.contains c.key.connectionId
  ledgerFk : ∀ m ∈ ledger.rows, conversations.contains m.key
  challengeFk : ∀ c ∈ challenges.rows, conversations.contains c.key
  challengeOneActive : ∀ c ∈ challenges.rows, ∀ d ∈ challenges.rows,
    c.closedAt = none → d.closedAt = none → c.key = d.key → c.id = d.id
  challengeAttempts : ∀ c ∈ challenges.rows, c.attemptsUsed ≤ 3 ∧ c.maxAttempts = 3
  challengeIds : ∀ c ∈ challenges.rows, c.id ≤ challengeSeq

/-- The constraints on recorded updates and what hangs below them. -/
structure UpdateConstraints (updates : Table ProcessedUpdate.updateId)
    (actions : Table OutboxActionRow.id) (actionSeq : Nat) (audits : Table AuditEvent.id)
    (auditSeq : Nat) : Prop where
  outboxFk : ∀ a ∈ actions.rows, updates.contains a.sourceUpdateId
  idempotencyUnique : ∀ a ∈ actions.rows, ∀ b ∈ actions.rows,
    a.idempotencyKey = b.idempotencyKey → a.id = b.id
  outboxIds : ∀ a ∈ actions.rows, a.id ≤ actionSeq
  /-- Ids grow with insertion, so row order is id order. -/
  outboxSorted : actions.rows.Pairwise fun a b => a.id < b.id
  auditFk : ∀ a ∈ audits.rows, ∀ u ∈ a.sourceUpdateId, updates.contains u
  auditIds : ∀ a ∈ audits.rows, a.id ≤ auditSeq

structure Tables.Consistent (t : Tables) : Prop where
  conversations : ConversationConstraints t.businessConnection t.conversation t.messageLedger
    t.challenge t.challengeSeq
  updates : UpdateConstraints t.processedUpdate t.outboxAction t.outboxSeq t.auditEvent t.auditSeq

/-- Tables whose constraints hold. -/
structure Database extends Tables where
  consistent : toTables.Consistent

theorem Database.ext {db db' : Database} (h : db.toTables = db'.toTables) : db = db' := by
  cases db
  cases db'
  cases h
  rfl

/-- One unit of work: a transaction on the database. -/
abbrev Uow (α : Type) := Txn Database Error α

namespace Uow

/-- A statement, given what it does to the tables and why it keeps the constraints. -/
def statement {α : Type} (f : Tables → Except Error (α × Tables))
    (h : ∀ t r, t.Consistent → f t = .ok r → r.2.Consistent) : Uow α :=
  fun db =>
    match hf : f db.toTables with
    | .ok r => .ok (r.1, ⟨r.2, h _ _ db.consistent hf⟩)
    | .error e => .error e

/-- **A statement is read at its tables.** -/
theorem statement_ok_iff {α : Type} {f : Tables → Except Error (α × Tables)} {h}
    {db db' : Database} {a : α} :
    statement f h db = .ok (a, db') ↔ f db.toTables = .ok (a, db'.toTables) := by
  unfold statement
  split
  · next r hf =>
    constructor
    · intro e
      have hr := Prod.mk.inj (Except.ok.inj e)
      rw [hf, ← hr.1, ← hr.2]
    · intro e
      obtain rfl : r = (a, db'.toTables) := Except.ok.inj (hf.symm.trans e)
      rfl
  · next e hf => simp [hf]

theorem statement_succeeds_iff {α : Type} {f : Tables → Except Error (α × Tables)} {h}
    {db : Database} : Txn.Succeeds (statement f h) db ↔ ∃ r, f db.toTables = .ok r := by
  unfold Txn.Succeeds statement
  split
  · next r hf => simp [hf]
  · next e hf => simp [hf]

end Uow

end ChatHygiene
