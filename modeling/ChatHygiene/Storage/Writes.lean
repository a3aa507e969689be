import ChatHygiene.Storage.Consistency
/-!
# The writes of a transaction

A statement as data, so that what a transaction may write is a set of
statements. A transaction `Respects (Writes L)` when every successful run of it
is a sequence of statements in `L`; what each of them relates, the transaction
then relates, whatever the program around them does.
-/

namespace ChatHygiene

open Txn (Respects Yields Through)

/-- A statement with its arguments. -/
inductive Statement where
  | insertConversation (c : Conversation)
  | updateConversation (p : Conversation → Bool) (f : Conversation → Conversation)
      (hf : ∀ c, (f c).key = c.key)
  | insertLedger (m : LedgerMessage)
  | updateLedger (p : LedgerMessage → Bool) (f : LedgerMessage → LedgerMessage)
      (hf : ∀ m, (f m).pk = m.pk)
  | deleteLedger (p : LedgerMessage → Bool)
  | insertChallenge (c : ChallengeRecord)
  | updateChallenge (p : ChallengeRow → Bool) (f : ChallengeRow → ChallengeRow)
      (hf : Tables.ChallengeChange p f)
  | deleteChallenge (p : ChallengeRow → Bool)
  | insertUpdate (u : ProcessedUpdate)
  | insertOrIgnoreUpdate (u : ProcessedUpdate)
  | updateUpdate (p : ProcessedUpdate → Bool) (f : ProcessedUpdate → ProcessedUpdate)
      (hf : ∀ u, (f u).updateId = u.updateId)
  | deleteUpdate (p : ProcessedUpdate → Bool)
  | insertOutbox (a : NewOutboxAction)
  | updateOutbox (p : OutboxActionRow → Bool) (f : OutboxActionRow → OutboxActionRow)
      (hf : Tables.OutboxChange f)
  | deleteOutbox (p : OutboxActionRow → Bool)
  | insertAudit (a : NewAuditEvent)
  | deleteAudit (p : AuditEvent → Bool)
  | upsertConnection (c : BusinessConnectionRecord)
  | updateConnection (p : BusinessConnectionRecord → Bool)
      (f : BusinessConnectionRecord → BusinessConnectionRecord) (hf : Tables.ConnectionChange f)
  | deleteConnection (p : BusinessConnectionRecord → Bool)
  | insertCandidate (c : BusinessConnectionCandidate)
  | upsertCandidate (c : BusinessConnectionCandidate)
  | updateCandidate (p : BusinessConnectionCandidate → Bool)
      (f : BusinessConnectionCandidate → BusinessConnectionCandidate)
      (hf : ∀ c, (f c).connectionId = c.connectionId)
  | deleteCandidate (p : BusinessConnectionCandidate → Bool)
  | updateGuard (p : CandidateGuard → Bool) (f : CandidateGuard → CandidateGuard)
  | updateReconciliation (p : TelegramReconciliationState → Bool)
      (f : TelegramReconciliationState → TelegramReconciliationState)
  | updateOwner (p : OwnerLifecycleState → Bool) (f : OwnerLifecycleState → OwnerLifecycleState)
  | setDestructiveMode (value : Bool)

/-- What a statement writes to. Deletions that cascade are kinds of their own. -/
inductive Target where
  | conversation
  | ledger
  | challenge
  | record
  | update
  | purgeUpdate
  | enqueue
  | outbox
  | audit
  | connection
  | dropConnection
  | candidate
  | guard
  | reconciliation
  | owner
  | mode
  deriving DecidableEq, Repr

namespace Statement

@[simp] def target : Statement → Target
  | .insertConversation .. | .updateConversation .. => .conversation
  | .insertLedger .. | .updateLedger .. | .deleteLedger .. => .ledger
  | .insertChallenge .. | .updateChallenge .. | .deleteChallenge .. => .challenge
  | .insertOrIgnoreUpdate .. => .record
  | .insertUpdate .. | .updateUpdate .. => .update
  | .deleteUpdate .. => .purgeUpdate
  | .insertOutbox .. => .enqueue
  | .updateOutbox .. | .deleteOutbox .. => .outbox
  | .insertAudit .. | .deleteAudit .. => .audit
  | .upsertConnection .. | .updateConnection .. => .connection
  | .deleteConnection .. => .dropConnection
  | .insertCandidate .. | .upsertCandidate .. => .candidate
  | .updateCandidate .. | .deleteCandidate .. => .candidate
  | .updateGuard .. => .guard
  | .updateReconciliation .. => .reconciliation
  | .updateOwner .. => .owner
  | .setDestructiveMode .. => .mode

/-- The statement, run on `t`, leaves `t'`. -/
def Effect : Statement → Tables → Tables → Prop
  | .insertConversation c, t, t' => t.insertConversation c = .ok ((), t')
  | .updateConversation p f hf, t, t' => ∃ r, t.updateConversation p f hf = .ok (r, t')
  | .insertLedger m, t, t' => ∃ r, t.insertLedger m = .ok (r, t')
  | .updateLedger p f hf, t, t' => ∃ r, t.updateLedger p f hf = .ok (r, t')
  | .deleteLedger p, t, t' => ∃ r, t.deleteLedger p = .ok (r, t')
  | .insertChallenge c, t, t' => ∃ r, t.insertChallenge c = .ok (r, t')
  | .updateChallenge p f hf, t, t' => ∃ r, t.updateChallenge p f hf = .ok (r, t')
  | .deleteChallenge p, t, t' => ∃ r, t.deleteChallenge p = .ok (r, t')
  | .insertUpdate u, t, t' => t.insertUpdate u = .ok ((), t')
  | .insertOrIgnoreUpdate u, t, t' => ∃ r, t.insertOrIgnoreUpdate u = .ok (r, t')
  | .updateUpdate p f hf, t, t' => ∃ r, t.updateUpdate p f hf = .ok (r, t')
  | .deleteUpdate p, t, t' => ∃ r, t.deleteUpdate p = .ok (r, t')
  | .insertOutbox a, t, t' => ∃ r, t.insertOutbox a = .ok (r, t')
  | .updateOutbox p f hf, t, t' => ∃ r, t.updateOutbox p f hf = .ok (r, t')
  | .deleteOutbox p, t, t' => ∃ r, t.deleteOutbox p = .ok (r, t')
  | .insertAudit a, t, t' => ∃ r, t.insertAudit a = .ok (r, t')
  | .deleteAudit p, t, t' => ∃ r, t.deleteAudit p = .ok (r, t')
  | .upsertConnection c, t, t' => t.upsertConnection c = .ok ((), t')
  | .updateConnection p f hf, t, t' => ∃ r, t.updateConnection p f hf = .ok (r, t')
  | .deleteConnection p, t, t' => ∃ r, t.deleteConnection p = .ok (r, t')
  | .insertCandidate c, t, t' => t.insertCandidate c = .ok ((), t')
  | .upsertCandidate c, t, t' => t.upsertCandidate c = .ok ((), t')
  | .updateCandidate p f hf, t, t' => ∃ r, t.updateCandidate p f hf = .ok (r, t')
  | .deleteCandidate p, t, t' => ∃ r, t.deleteCandidate p = .ok (r, t')
  | .updateGuard p f, t, t' => ∃ r, t.updateGuard p f = .ok (r, t')
  | .updateReconciliation p f, t, t' => ∃ r, t.updateReconciliation p f = .ok (r, t')
  | .updateOwner p f, t, t' => ∃ r, t.updateOwner p f = .ok (r, t')
  | .setDestructiveMode value, t, t' => t.setDestructiveMode value = .ok ((), t')

/-- The statement writes to one of `targets`, enqueues only what `K` allows, and records no update
except under the target `record`. -/
def Within (targets : List Target) (K : NewOutboxAction → Prop) : Statement → Prop
  | .insertOutbox a => .enqueue ∈ targets ∧ K a
  | .insertUpdate u => .update ∈ targets ∧ u.status ≠ .recorded
  | .updateUpdate _ f _ => .update ∈ targets ∧ ∀ u, (f u).status ≠ .recorded
  | st => st.target ∈ targets

theorem Within.target_mem {targets : List Target} {K : NewOutboxAction → Prop} {st : Statement}
    (h : st.Within targets K) : st.target ∈ targets := by
  cases st <;> first | exact h | exact h.1

theorem Within.mono {targets targets' : List Target} {K K' : NewOutboxAction → Prop}
    {st : Statement} (h : st.Within targets K) (ht : targets ⊆ targets') (hK : ∀ a, K a → K' a) :
    st.Within targets' K' := by
  cases st with
  | insertOutbox a => exact ⟨ht h.1, hK a h.2⟩
  | insertUpdate u => exact ⟨ht h.1, h.2⟩
  | updateUpdate p f hf => exact ⟨ht h.1, h.2⟩
  | _ => exact ht h

end Statement

/-- Sequences of statements in `L`. -/
abbrev Writes (L : Statement → Prop) : Database → Database → Prop :=
  Through (fun st db db' => Statement.Effect st db.toTables db'.toTables) L

/-- Sequences of statements within `targets` and `K`. -/
abbrev WritesTo (targets : List Target) (K : NewOutboxAction → Prop) :
    Database → Database → Prop :=
  Writes (Statement.Within targets K)

namespace Uow

variable {L : Statement → Prop} {α : Type}

/-- A statement writes what it is. -/
theorem statement_writes {f : Tables → Except Error (α × Tables)} {h} (st : Statement) (hL : L st)
    (hst : ∀ t a t', f t = .ok (a, t') → st.Effect t t') : Respects (Writes L) (statement f h) :=
  fun _ _ _ hx => Through.single st hL (hst _ _ _ (statement_ok_iff.1 hx))

/-- A statement that is known to succeed. -/
theorem statement_yields {f : Tables → Except Error (α × Tables)} {h} {db : Database} {a : α}
    {t : Tables} (hf : f db.toTables = .ok (a, t)) :
    Yields (statement f h) db fun b db' => b = a ∧ db'.toTables = t := by
  obtain ⟨⟨b, db'⟩, hx⟩ := statement_succeeds_iff.2 ⟨_, hf⟩
  have hb := statement_ok_iff.1 hx
  rw [hf] at hb
  obtain ⟨rfl, rfl⟩ := Prod.mk.inj (Except.ok.inj hb)
  exact ⟨a, db', hx, rfl, rfl⟩

theorem insertConversation_writes {c} (h : L (.insertConversation c)) :
    Respects (Writes L) (insertConversation c) :=
  statement_writes _ h fun _ _ _ => id

theorem updateConversation_writes {p f} {hf} (h : L (.updateConversation p f hf)) :
    Respects (Writes L) (updateConversation p f hf) :=
  statement_writes _ h fun _ r _ h => ⟨r, h⟩

theorem insertLedger_writes {m} (h : L (.insertLedger m)) :
    Respects (Writes L) (insertLedger m) :=
  statement_writes _ h fun _ r _ h => ⟨r, h⟩

theorem updateLedger_writes {p f} {hf} (h : L (.updateLedger p f hf)) :
    Respects (Writes L) (updateLedger p f hf) :=
  statement_writes _ h fun _ r _ h => ⟨r, h⟩

theorem deleteLedger_writes {p} (h : L (.deleteLedger p)) :
    Respects (Writes L) (deleteLedger p) :=
  statement_writes _ h fun _ r _ h => ⟨r, h⟩

theorem insertChallenge_writes {c} (h : L (.insertChallenge c)) :
    Respects (Writes L) (insertChallenge c) :=
  statement_writes _ h fun _ r _ h => ⟨r, h⟩

theorem updateChallenge_writes {p f} {hf} (h : L (.updateChallenge p f hf)) :
    Respects (Writes L) (updateChallenge p f hf) :=
  statement_writes _ h fun _ r _ h => ⟨r, h⟩

theorem deleteChallenge_writes {p} (h : L (.deleteChallenge p)) :
    Respects (Writes L) (deleteChallenge p) :=
  statement_writes _ h fun _ r _ h => ⟨r, h⟩

theorem insertUpdate_writes {u} (h : L (.insertUpdate u)) :
    Respects (Writes L) (insertUpdate u) :=
  statement_writes _ h fun _ _ _ => id

theorem insertOrIgnoreUpdate_writes {u} (h : L (.insertOrIgnoreUpdate u)) :
    Respects (Writes L) (insertOrIgnoreUpdate u) :=
  statement_writes _ h fun _ r _ h => ⟨r, h⟩

theorem updateUpdate_writes {p f} {hf} (h : L (.updateUpdate p f hf)) :
    Respects (Writes L) (updateUpdate p f hf) :=
  statement_writes _ h fun _ r _ h => ⟨r, h⟩

theorem deleteUpdate_writes {p} (h : L (.deleteUpdate p)) :
    Respects (Writes L) (deleteUpdate p) :=
  statement_writes _ h fun _ r _ h => ⟨r, h⟩

theorem insertOutbox_writes {a} (h : L (.insertOutbox a)) :
    Respects (Writes L) (insertOutbox a) :=
  statement_writes _ h fun _ r _ h => ⟨r, h⟩

theorem updateOutbox_writes {p f} {hf} (h : L (.updateOutbox p f hf)) :
    Respects (Writes L) (updateOutbox p f hf) :=
  statement_writes _ h fun _ r _ h => ⟨r, h⟩

theorem deleteOutbox_writes {p} (h : L (.deleteOutbox p)) :
    Respects (Writes L) (deleteOutbox p) :=
  statement_writes _ h fun _ r _ h => ⟨r, h⟩

theorem insertAudit_writes {a} (h : L (.insertAudit a)) :
    Respects (Writes L) (insertAudit a) :=
  statement_writes _ h fun _ r _ h => ⟨r, h⟩

theorem deleteAudit_writes {p} (h : L (.deleteAudit p)) :
    Respects (Writes L) (deleteAudit p) :=
  statement_writes _ h fun _ r _ h => ⟨r, h⟩

theorem upsertConnection_writes {c} (h : L (.upsertConnection c)) :
    Respects (Writes L) (upsertConnection c) :=
  statement_writes _ h fun _ _ _ => id

theorem updateConnection_writes {p f} {hf} (h : L (.updateConnection p f hf)) :
    Respects (Writes L) (updateConnection p f hf) :=
  statement_writes _ h fun _ r _ h => ⟨r, h⟩

theorem deleteConnection_writes {p} (h : L (.deleteConnection p)) :
    Respects (Writes L) (deleteConnection p) :=
  statement_writes _ h fun _ r _ h => ⟨r, h⟩

theorem insertCandidate_writes {c} (h : L (.insertCandidate c)) :
    Respects (Writes L) (insertCandidate c) :=
  statement_writes _ h fun _ _ _ => id

theorem upsertCandidate_writes {c} (h : L (.upsertCandidate c)) :
    Respects (Writes L) (upsertCandidate c) :=
  statement_writes _ h fun _ _ _ => id

theorem updateCandidate_writes {p f} {hf} (h : L (.updateCandidate p f hf)) :
    Respects (Writes L) (updateCandidate p f hf) :=
  statement_writes _ h fun _ r _ h => ⟨r, h⟩

theorem deleteCandidate_writes {p} (h : L (.deleteCandidate p)) :
    Respects (Writes L) (deleteCandidate p) :=
  statement_writes _ h fun _ r _ h => ⟨r, h⟩

theorem updateGuard_writes {p f} (h : L (.updateGuard p f)) :
    Respects (Writes L) (updateGuard p f) :=
  statement_writes _ h fun _ r _ h => ⟨r, h⟩

theorem updateReconciliation_writes {p f} (h : L (.updateReconciliation p f)) :
    Respects (Writes L) (updateReconciliation p f) :=
  statement_writes _ h fun _ r _ h => ⟨r, h⟩

theorem updateOwner_writes {p f} (h : L (.updateOwner p f)) :
    Respects (Writes L) (updateOwner p f) :=
  statement_writes _ h fun _ r _ h => ⟨r, h⟩

theorem setDestructiveMode_writes {value} (h : L (.setDestructiveMode value)) :
    Respects (Writes L) (setDestructiveMode value) :=
  statement_writes _ h fun _ _ _ => id

end Uow

end ChatHygiene
