import ChatHygiene.Footprint.Contracts
import ChatHygiene.System.Invariants
/-!
# No key is taken by another action

Whatever a step enqueues, in the worker or in the dispatcher, it enqueues for a
source, under the key of that source. So every stored action is of a source, and
the insert drops an action only where one of the same source is stored.
-/

namespace ChatHygiene

/-! ## Rows -/

/-- The row is of an action enqueued for the source. -/
structure OutboxActionRow.From (b : OutboxActionRow) (source : ActionSource) : Prop where
  key : b.idempotencyKey = source.idempotencyKey
  describes : source.Describes b.sourceUpdateId b.key b.payload

variable {source source' : ActionSource} {a a' : NewOutboxAction} {b c : OutboxActionRow}
  {db db' : Database}

/-- **Actions that share a key are of one source.** -/
theorem NewOutboxAction.From.eq (h : a.From source) (h' : a'.From source')
    (hkey : a.idempotencyKey = a'.idempotencyKey) : source = source' :=
  ActionSource.idempotencyKey_injective (h.key.symm.trans (hkey.trans h'.key))

/-- An action under the key of a stored one is of the same source. -/
theorem OutboxActionRow.From.eq (h : b.From source) (h' : a.From source')
    (hkey : b.idempotencyKey = a.idempotencyKey) : source = source' :=
  ActionSource.idempotencyKey_injective (h.key.symm.trans (hkey.trans h'.key))

theorem OutboxActionRow.Carries.from (h : b.Carries a) (ha : a.From source) : b.From source where
  key := h.idempotencyKey.trans ha.key
  describes := by
    rw [h.sourceUpdateId, h.key, h.payload]
    exact ha.describes

theorem OutboxActionRow.Same.from (h : b.Same c) (hb : b.From source) : c.From source where
  key := h.idempotencyKey.symm.trans hb.key
  describes := by
    rw [← h.sourceUpdateId, ← h.key, ← h.payload]
    exact hb.describes

/-- Every stored action is of a source. -/
def Database.Sourced (db : Database) : Prop :=
  ∀ b ∈ db.outboxAction.rows, ∃ source, b.From source

/-- Statements that enqueue for sources leave only actions of sources. -/
theorem WritesTo.sourced {targets : List Target} {K : NewOutboxAction → Prop}
    (h : WritesTo targets K db db') (hK : ∀ a, K a → ∃ source, a.From source)
    (hdb : db.Sourced) : db'.Sourced := by
  intro b hb
  rcases h.outboxGrows.row b hb with ⟨c, hc, hsame⟩ | ⟨-, a, ha, hcarries⟩
  · obtain ⟨source, hsource⟩ := hdb c hc
    exact ⟨source, hsame.from hsource⟩
  · obtain ⟨source, hsource⟩ := hK a ha
    exact ⟨source, hcarries.from hsource⟩

/-- The action that `enqueueAction` enqueues. -/
def actionOf (updateId : Int) (key : ConversationKey) (payload : OutboxPayload) (batchIndex : Nat)
    (now : DateTime) : NewOutboxAction where
  sourceUpdateId := updateId
  key := some key
  payload := payload
  idempotencyKey := actionIdempotencyKey updateId payload.kind key batchIndex
  createdAt := now

theorem actionOf_from {updateId : Int} {key : ConversationKey} {payload : OutboxPayload}
    {batchIndex : Nat} {now : DateTime} : (actionOf updateId key payload batchIndex now).From
      (.action updateId payload.kind key batchIndex) :=
  ⟨rfl, rfl, rfl, rfl⟩

/-- **What a transaction enqueues is of a source.** -/
theorem Transaction.Enqueues.from {x : Transaction} (h : x.Enqueues db a) :
    ∃ source, a.From source := by
  cases x with
  | apply updateId now =>
    obtain ⟨row, event, -, -, -, hof⟩ := h
    obtain ⟨source, hsource, -⟩ := hof.origin
    exact ⟨source, hsource⟩
  | ownerCommand | ownerStart | ownerClaimRejected | ownerClaim =>
    obtain ⟨source, hsource, -⟩ := NewOutboxAction.Of.origin h
    exact ⟨source, hsource⟩
  | expire now =>
    obtain ⟨-, challengeId, hsource⟩ := h
    exact ⟨_, hsource⟩
  | finish action now result =>
    obtain ⟨-, what, hsource⟩ := h
    exact ⟨_, hsource⟩
  | _ => cases h

/-- An insert gives an action its row, unless the key is taken. -/
theorem enqueueOutboxAction_ok {inserted : Bool}
    (h : enqueueOutboxAction a db = .ok (inserted, db')) :
    (inserted = true ∧ ∃ b ∈ db'.outboxAction.rows, b.Carries a) ∨
      (inserted = false ∧ ∃ b ∈ db.outboxAction.rows, b.idempotencyKey = a.idempotencyKey) := by
  unfold enqueueOutboxAction Uow.insertOutbox at h
  have hok := Uow.statement_ok_iff.1 h
  unfold Tables.insertOutbox at hok
  split at hok
  · next htaken =>
    obtain ⟨b, hb, hkey⟩ := List.any_eq_true.1 htaken
    exact .inr ⟨(Prod.mk.inj (Except.ok.inj hok)).1.symm, b, hb, of_decide_eq_true hkey⟩
  · dsimp only at hok
    split_ifs at hok
    obtain ⟨hinserted, htables⟩ := Prod.mk.inj (Except.ok.inj hok)
    refine .inl ⟨hinserted.symm, a.row (db.outboxSeq + 1), ?_, rfl, rfl, rfl, rfl⟩
    rw [← htables]
    simp only [Table.mem_insert]
    exact .inr rfl

/-! ## Runs -/

namespace World

variable {w w' : World} {op op' : Op}

/-- The step attempts to enqueue the action, in a state `db` of the transaction that it commits. -/
def Attempts (w : World) (op : Op) (a : NewOutboxAction) (db : Database) : Prop :=
  ∃ x, w.Commits op x ∧ x.Enqueues w.db a ∧ WritesTo x.targets (x.Enqueues w.db) w.db db

/-- Whatever is stored is of a source. -/
theorem sourced (h : service.Reachable w) : w.db.Sourced := by
  refine h.invariant (P := fun w => w.db.Sourced) ?_ fun w op w' hw hsourced _ hstep => ?_
  · rintro w ⟨now, rfl⟩ b hb
    cases hb
  · rcases step_db hstep with hdb | ⟨x, -, hdb⟩
    · exact hdb ▸ hsourced
    · have hwrites := x.after_writes (eventsPrepared hw).noConnectionChange
      exact hdb ▸ hwrites.sourced (fun _ => Transaction.Enqueues.from) hsourced

/-- What is stored while a step enqueues is of a source. -/
theorem Attempts.sourced (h : service.Reachable w) (ha : w.Attempts op a db) : db.Sourced := by
  obtain ⟨x, -, -, hwrites⟩ := ha
  exact hwrites.sourced (fun _ => Transaction.Enqueues.from) (World.sourced h)

theorem Attempts.from (ha : w.Attempts op a db) : ∃ source, a.From source := by
  obtain ⟨x, -, henqueues, -⟩ := ha
  exact henqueues.from

end World

end ChatHygiene
