import ChatHygiene.Footprint.Storage
import ChatHygiene.Footprint.Frame
/-!
# Contracts of the storage operations

What an operation on actions, deliveries and connections needs to succeed, and
what holds when it has.
-/

namespace ChatHygiene

open Txn (Yields Fails Succeeds)

variable {db : Database}

/-- A frame as a contract: what an operation within `targets` leaves alone. -/
theorem yields_frame {α : Type} {x : Uow α} {Q : α → Database → Prop} {targets : List Target}
    (h : Yields x db Q) (hx : Txn.Respects (WritesTo targets fun _ => True) x) :
    Yields x db fun a db' => Q a db' ∧ Frame targets db.toTables db'.toTables :=
  (h.and_respects hx).mono fun _ _ h => ⟨h.1, h.2.frame⟩

theorem succeeds_frame {α : Type} {x : Uow α} {targets : List Target} (h : Succeeds x db)
    (hx : Txn.Respects (WritesTo targets fun _ => True) x) :
    Yields x db fun _ db' => Frame targets db.toTables db'.toTables :=
  (Yields.of_respects h hx).mono fun _ _ h => h.frame

theorem updateOne_of_eq {n : Nat} (h : n = 1) : updateOne n = pure () := by
  simp [updateOne, h]

theorem updateOne_of_ne {n : Nat} (h : n ≠ 1) :
    updateOne n = (throw .concurrentModification : Uow Unit) := by
  simp [updateOne, h]

/-! ## Actions and audits -/

/-- The row of a new action. -/
def NewOutboxAction.row (a : NewOutboxAction) (id : Nat) : OutboxActionRow where
  id := id
  sourceUpdateId := a.sourceUpdateId
  key := a.key
  payload := a.payload
  idempotencyKey := a.idempotencyKey
  status := .pending
  attempts := 0
  nextAttemptAt := none
  lastError := none
  createdAt := a.createdAt
  updatedAt := a.createdAt
  claimedAt := none

/-- The next action id is not in use. -/
theorem outboxSeq_fresh (db : Database) : db.outboxAction.lookup (db.outboxSeq + 1) = none := by
  rw [Table.lookup_eq_none_iff]
  intro b hb hid
  have := db.consistent.updates.outboxIds b hb
  rw [hid] at this
  omega

/-- The rows after an action is enqueued: it is added, unless its idempotency key is taken. -/
def Enqueued (a : NewOutboxAction) (db db' : Database) : Prop :=
  db'.outboxAction.rows =
    if db.outboxAction.rows.any fun b => b.idempotencyKey = a.idempotencyKey then
      db.outboxAction.rows
    else db.outboxAction.rows ++ [a.row (db.outboxSeq + 1)]

/-- An action of a stored update can be enqueued. -/
theorem enqueueOutboxAction_yields {a : NewOutboxAction}
    (h : db.processedUpdate.contains a.sourceUpdateId = true) :
    Yields (enqueueOutboxAction a) db fun _ db' =>
      Enqueued a db db' ∧ Frame [.enqueue] db.toTables db'.toTables := by
  refine yields_frame ?_ (enqueueOutboxAction_writes (List.mem_singleton.2 rfl) trivial)
  unfold enqueueOutboxAction Uow.insertOutbox Enqueued
  by_cases htaken : (db.outboxAction.rows.any fun b => b.idempotencyKey = a.idempotencyKey) = true
  · have hok : db.toTables.insertOutbox a = .ok (false, db.toTables) := if_pos htaken
    refine Yields.mono (Uow.statement_yields hok) ?_
    rintro _ db' ⟨-, hdb⟩
    rw [hdb, if_pos htaken]
  · have hok : db.toTables.insertOutbox a = .ok (true, { db.toTables with
        outboxAction := db.outboxAction.insert (a.row (db.outboxSeq + 1)) (outboxSeq_fresh db)
        outboxSeq := db.outboxSeq + 1 }) :=
      (if_neg htaken).trans ((if_pos h).trans (dif_pos (outboxSeq_fresh db)))
    refine Yields.mono (Uow.statement_yields hok) ?_
    rintro _ db' ⟨-, hdb⟩
    rw [hdb, if_neg htaken]
    rfl

theorem insertAuditEvent_yields {a : NewAuditEvent} (hscore : a.score.all (· ≤ 100) = true)
    (h : a.sourceUpdateId.all db.processedUpdate.contains = true) :
    Yields (insertAuditEvent a) db fun _ db' => Frame [.audit] db.toTables db'.toTables := by
  refine succeeds_frame ?_ (insertAuditEvent_writes (List.mem_singleton.2 rfl) _)
  unfold insertAuditEvent Uow.insertAudit
  refine Uow.statement_succeeds_iff.2 ?_
  have hnew : db.auditEvent.lookup (db.auditSeq + 1) = none := by
    rw [Table.lookup_eq_none_iff]
    intro b hb hid
    have := db.consistent.updates.auditIds b hb
    rw [hid] at this
    omega
  rw [Tables.insertAudit, if_pos hscore, if_pos h]
  exact ⟨_, dif_pos hnew⟩

/-! ## The end of a dispatch -/

/-- An unfinished action is moved to a status, with its claim cleared. -/
theorem finishOutbox_yields {row : OutboxActionRow} (hrow : row ∈ db.outboxAction.rows)
    (hunfinished : row.status.unfinished = true) (status : OutboxStatus)
    (nextAttemptAt : Option DateTime) (errorCode : Option String) (now : DateTime) :
    Yields (finishOutbox row.id status nextAttemptAt errorCode now) db fun _ db' =>
      (∀ a ∈ db'.outboxAction.rows, a.id = row.id →
        a.status = status ∧ a.nextAttemptAt = nextAttemptAt ∧ a.claimedAt = none) ∧
      Frame [.outbox] db.toTables db'.toTables := by
  refine yields_frame ?_ (finishOutbox_writes (List.mem_singleton.2 rfl) _ _ _ _ _)
  have haffected : db.outboxAction.affected
      (fun a => a.id = row.id && a.status.unfinished) = 1 := by
    rw [Table.affected_key (k := row.id) _ (by simp +contextual), Table.lookup_of_mem hrow]
    simp [hunfinished]
  unfold finishOutbox Uow.updateOutbox
  refine Yields.bind (Uow.statement_yields rfl) ?_
  rintro n db' ⟨rfl, hdb⟩
  rw [updateOne_of_eq haffected]
  refine .pure fun a ha hid => ?_
  rw [hdb] at ha
  obtain ⟨b, hb, rfl⟩ := List.mem_map.1 ha
  by_cases hp : (b.id = row.id && b.status.unfinished) = true
  · rw [if_pos hp]
    exact ⟨rfl, rfl, rfl⟩
  · rw [if_neg hp] at hid
    obtain rfl : b = row := Table.eq_of_key_eq hb hrow hid
    simp [hunfinished] at hp

/-- A finished action is finished once. -/
theorem finishOutbox_fails {actionId : Nat}
    (h : ∀ a ∈ db.outboxAction.rows, a.id = actionId → a.status.unfinished = false)
    (status : OutboxStatus) (nextAttemptAt : Option DateTime) (errorCode : Option String)
    (now : DateTime) : Fails (finishOutbox actionId status nextAttemptAt errorCode now) db := by
  have hnone : db.outboxAction.affected
      (fun a => a.id = actionId && a.status.unfinished) = 0 := by
    rw [Table.affected_eq_zero_iff]
    intro a ha
    by_cases hid : a.id = actionId <;> simp [hid, h a ha]
  unfold finishOutbox Uow.updateOutbox
  refine Yields.fails_bind (Uow.statement_yields rfl) ?_
  rintro n db' ⟨rfl, -⟩
  rw [updateOne_of_ne (by omega)]
  exact Txn.fails_throw _ _

section

variable {challengeId : Nat} {f : ChallengeRow → ChallengeRow}
  {hf : Tables.ChallengeChange (fun c => c.id = challengeId) f}

theorem affected_challenge : db.challenge.affected (fun c => c.id = challengeId) =
    if db.challenge.contains challengeId then 1 else 0 := by
  have hkey := db.challenge.affected_key (p := fun c => c.id = challengeId) (k := challengeId)
    fun r hr => of_decide_eq_true hr
  rw [hkey]
  cases hrow : db.challenge.lookup challengeId with
  | none => simp [Table.contains, hrow]
  | some c =>
    have hid : c.pk = challengeId := Table.key_of_lookup hrow
    simp [Table.contains, hrow, show c.id = challengeId from hid]

/-- A change of one challenge needs it to be stored. -/
theorem updateOneChallenge_yields (h : db.challenge.contains challengeId = true) :
    Yields (Uow.updateChallenge (fun c => c.id = challengeId) f hf >>= updateOne) db fun _ db' =>
      Frame [.challenge] db.toTables db'.toTables := by
  refine succeeds_frame (Yields.succeeds (Q := fun _ _ => True) ?_)
    ((Uow.updateChallenge_writes (by exact List.mem_singleton.2 rfl)).bind fun _ =>
      updateOne_writes _)
  unfold Uow.updateChallenge
  refine Yields.bind (Uow.statement_yields rfl) ?_
  rintro n db' ⟨rfl, -⟩
  rw [affected_challenge, if_pos h, updateOne_of_eq rfl]
  exact .pure trivial

theorem updateOneChallenge_fails (h : db.challenge.contains challengeId = false) :
    Fails (Uow.updateChallenge (fun c => c.id = challengeId) f hf >>= updateOne) db := by
  unfold Uow.updateChallenge
  refine Yields.fails_bind (Uow.statement_yields rfl) ?_
  rintro n db' ⟨rfl, -⟩
  rw [affected_challenge, if_neg (by simp [h]), updateOne_of_ne (by simp)]
  exact Txn.fails_throw _ _

end

theorem affected_connection {connectionId : String} :
    db.businessConnection.affected (fun c => c.connectionId = connectionId) =
      if db.businessConnection.contains connectionId then 1 else 0 := by
  have hkey := db.businessConnection.affected_key (p := fun c => c.connectionId = connectionId)
    (k := connectionId) fun r hr => of_decide_eq_true hr
  rw [hkey]
  cases hrow : db.businessConnection.lookup connectionId with
  | none => simp [Table.contains, hrow]
  | some c =>
    simp [Table.contains, hrow, show c.connectionId = connectionId from Table.key_of_lookup hrow]

/-- Disabling a connection needs it to be stored. -/
theorem disableBusinessConnection_yields {connectionId : String}
    (h : db.businessConnection.contains connectionId = true) (now : DateTime) :
    Yields (disableBusinessConnection connectionId now) db fun _ db' =>
      Frame [.connection] db.toTables db'.toTables := by
  refine succeeds_frame (Yields.succeeds (Q := fun _ _ => True) ?_)
    (disableBusinessConnection_writes (List.mem_singleton.2 rfl) _ _)
  unfold disableBusinessConnection Uow.updateConnection
  refine Yields.bind (Uow.statement_yields rfl) ?_
  rintro n db' ⟨rfl, -⟩
  rw [affected_connection, if_pos h, updateOne_of_eq rfl]
  exact .pure trivial

theorem disableBusinessConnection_fails {connectionId : String}
    (h : db.businessConnection.contains connectionId = false) (now : DateTime) :
    Fails (disableBusinessConnection connectionId now) db := by
  unfold disableBusinessConnection Uow.updateConnection
  refine Yields.fails_bind (Uow.statement_yields rfl) ?_
  rintro n db' ⟨rfl, -⟩
  rw [affected_connection, if_neg (by simp [h]), updateOne_of_ne (by simp)]
  exact Txn.fails_throw _ _

end ChatHygiene
