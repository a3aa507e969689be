import ChatHygiene.Connection.Confirmed
import ChatHygiene.Retention.Purge
import ChatHygiene.Updates.Once
/-!
# What becomes of recorded events

A recorded event stays in the log until it is applied, unless a purge comes
first: the purge goes by the age of a row and by what refers to it, and not by
its status. In runs whose purges find nothing recorded that is so old, no
event is forgotten, and a connection that a trigger has gated is never left
without something that is still to be tried for it.
-/

namespace ChatHygiene

open Txn (commit)

variable {db db' : Database} {now : DateTime}

/-! ## The log -/

/-- An action or an audit that a purge keeps is of the update. -/
def Database.Refers (db : Database) (now : DateTime) (updateId : Int) : Prop :=
  (∃ a ∈ db.outboxAction.rows, a.sourceUpdateId = updateId ∧ a.purged now = false) ∨
    ∃ a ∈ db.auditEvent.rows, a.sourceUpdateId = some updateId ∧
      a.purged now (latestSpamAudits db) = false

instance (db : Database) (now : DateTime) (updateId : Int) : Decidable (db.Refers now updateId) :=
  inferInstanceAs (Decidable (_ ∨ _))

/-- A purge keeps an update that is young, or that something it keeps is of. -/
theorem mem_keptUpdates_iff {u : ProcessedUpdate} (hu : u ∈ db.processedUpdate.rows) :
    u ∈ (db.keptUpdates now).rows ↔
      (u.receivedAt ≤ now - DateTime.days 7 → db.Refers now u.updateId) := by
  have hactions : u.updateId ∈ (db.keptActions now).rows.map (·.sourceUpdateId) ↔
      ∃ a ∈ db.outboxAction.rows, a.sourceUpdateId = u.updateId ∧ a.purged now = false := by
    unfold Database.keptActions
    simp only [List.mem_map, Table.mem_delete]
    exact exists_congr fun a => by rw [and_assoc, and_comm (a := a.purged now = false)]
  have haudits : u.updateId ∈ (db.keptAudits now).rows.filterMap (·.sourceUpdateId) ↔
      ∃ a ∈ db.auditEvent.rows, a.sourceUpdateId = some u.updateId ∧
        a.purged now (latestSpamAudits db) = false := by
    unfold Database.keptAudits
    simp only [List.mem_filterMap, Table.mem_delete]
    exact exists_congr fun a => by
      rw [and_assoc, and_comm (a := a.purged now (latestSpamAudits db) = false)]
  unfold Database.keptUpdates Database.Refers
  rw [Table.mem_delete, ← hactions, ← haudits]
  simp only [hu, true_and, ProcessedUpdate.purged, Bool.and_eq_false_iff, decide_eq_false_iff_not,
    Bool.not_eq_false', List.contains_iff_mem]
  tauto

/-- The instant of a purge. -/
def Op.purges : Op → Option DateTime
  | .worker (.purge now) => some now
  | _ => none

/-- **The purge is in time**: what it finds recorded is less than seven days old, or something that
it keeps is of it. -/
def PurgesInTime (w : World) (op : Op) : Prop :=
  ∀ now ∈ op.purges, ∀ row ∈ w.db.processedUpdate.rows, row.status = .recorded →
    row.receivedAt ≤ now - DateTime.days 7 → w.db.Refers now row.updateId

instance (w : World) (op : Op) : Decidable (PurgesInTime w op) :=
  inferInstanceAs (Decidable (∀ now ∈ op.purges, _))

/-- The row is still there, as it was or applied. -/
def ProcessedUpdate.RemainsIn (row : ProcessedUpdate) (db : Database) : Prop :=
  ∃ row', db.processedUpdate.lookup row.updateId = some row' ∧ row.Moves row'

theorem ProcessedUpdate.RemainsIn.of_mem {row : ProcessedUpdate}
    (h : row ∈ db.processedUpdate.rows) : row.RemainsIn db :=
  ⟨row, Table.lookup_of_mem h, .refl row⟩

namespace World

variable {w w' : World} {op : Op}

theorem recordPreparedEvent_keeps {event : PreparedEvent} {row : ProcessedUpdate}
    (h : row ∈ db.processedUpdate.rows) :
    row ∈ (commit (recordPreparedEvent event) db).1.processedUpdate.rows := by
  cases hx : recordPreparedEvent event db with
  | error error =>
    rw [Txn.commit_of_error hx]
    exact h
  | ok r =>
    rw [Txn.commit_of_ok hx]
    rcases recordPreparedEvent_ok hx with ⟨-, -, hrows⟩ | ⟨-, hsame⟩
    · rw [hrows]
      exact List.mem_append_left _ h
    · rw [hsame]
      exact h

theorem Commits.not_purge {x : Transaction} (h : w.Commits op x) (hop : op.purges = none)
    (now : DateTime) : x ≠ .purge now := by
  rintro rfl
  cases h
  cases hop

/-- **Nothing but a purge takes a row out of the log.** -/
theorem EventsPrepared.remains (h : w.EventsPrepared) (hop : op.purges = none)
    (hstep : w.step op = some w') {row : ProcessedUpdate}
    (hrow : row ∈ w.db.processedUpdate.rows) : row.RemainsIn w'.db := by
  rcases step_db hstep with hdb | ⟨x, hx, hdb⟩
  · exact .of_mem (hdb ▸ hrow)
  rw [hdb]
  by_cases hrecord : ∃ event, x = .record event
  · obtain ⟨event, rfl⟩ := hrecord
    exact .of_mem (recordPreparedEvent_keeps hrow)
  · have hlog := Transaction.log h.noConnectionChange (fun event hx => hrecord ⟨event, hx⟩)
      (hx.not_purge hop)
    rcases hlog with hsame | ⟨updateId, -, hmoves⟩
    · exact .of_mem (by rw [hsame]; exact hrow)
    · by_cases hid : row.updateId = updateId
      · subst hid
        exact hmoves.stored row (Table.lookup_of_mem hrow)
      · exact ⟨row, (hmoves.others _ hid).trans (Table.lookup_of_mem hrow), .refl row⟩

/-- What a purge leaves of the log. -/
theorem purge_keeps_iff {row : ProcessedUpdate} (hrow : row ∈ db.processedUpdate.rows) :
    row ∈ (commit (purgeHistory now) db).1.processedUpdate.rows ↔
      (row.receivedAt ≤ now - DateTime.days 7 → db.Refers now row.updateId) := by
  obtain ⟨report, db', hx, hdb⟩ := purgeHistory_yields now db
  rw [Txn.commit_of_ok hx]
  have hlog : db'.processedUpdate = db.keptUpdates now := by rw [hdb]; rfl
  rw [hlog]
  exact mem_keptUpdates_iff hrow

theorem step_purge {now : DateTime} (hop : op.purges = some now) (hstep : w.step op = some w') :
    op = .worker (.purge now) ∧ w' = w.commitIdle (purgeHistory now) := by
  unfold Op.purges at hop
  split at hop
  · obtain rfl := Option.some.inj hop
    refine ⟨rfl, ?_⟩
    cases hworker : w.worker with
    | idle =>
      simp only [World.step, stepWorker, hworker] at hstep
      exact (Option.some.inj hstep).symm
    | _ => simp [World.step, stepWorker, hworker] at hstep
  · cases hop

/-- **A step forgets nothing that is recorded exactly if it is no purge, or one in time.** -/
theorem EventsPrepared.remains_iff (h : w.EventsPrepared) (hstep : w.step op = some w') :
    (∀ row ∈ w.db.processedUpdate.rows, row.status = .recorded → row.RemainsIn w'.db) ↔
      PurgesInTime w op := by
  cases hop : op.purges with
  | none =>
    refine iff_of_true (fun row hrow _ => h.remains hop hstep hrow) fun now hnow => ?_
    rw [hop] at hnow
    cases hnow
  | some now =>
    obtain ⟨rfl, rfl⟩ := step_purge hop hstep
    have hlog : (w.commitIdle (purgeHistory now)).db = (commit (purgeHistory now) w.db).1 := rfl
    rw [hlog]
    constructor
    · intro hremains now' hnow row hrow hrecorded
      obtain rfl : now = now' := Option.some.inj hnow
      obtain ⟨row', hrow', hmoves⟩ := hremains row hrow hrecorded
      -- a purge leaves a row alone or deletes it
      have hsame : w.db.processedUpdate.lookup row.updateId = some row' := by
        rcases (purgeHistory_purges now).commit w.db row.updateId with hsame | ⟨hgone, -⟩
        · exact hsame ▸ hrow'
        · rw [hgone] at hrow'
          cases hrow'
      obtain rfl : row = row' :=
        Option.some.inj ((Table.lookup_of_mem hrow).symm.trans hsame)
      exact (purge_keeps_iff hrow).1 (Table.mem_of_lookup hrow')
    · intro htimely row hrow hrecorded
      exact .of_mem ((purge_keeps_iff hrow).2 (htimely now rfl row hrow hrecorded))

/-- **In runs whose purges are in time, a recorded event stays until it has been applied.** -/
theorem remains_until_applied {ok : World → Op → Prop} (hok : ∀ w op, ok w op → PurgesInTime w op)
    (h : service.ReachableBy ok w) (hruns : service.Runs ok w w') {row : ProcessedUpdate}
    (hrow : row ∈ w.db.processedUpdate.rows) (hrecorded : row.status = .recorded) :
    row ∈ w'.db.processedUpdate.rows ∨ ∃ v, service.Runs ok w v ∧ service.Runs ok v w' ∧
      ∃ row' ∈ v.db.processedUpdate.rows, row'.updateId = row.updateId ∧ row'.event = row.event ∧
        row'.status = .applied := by
  induction hruns with
  | refl => exact .inl hrow
  | @tail v w' op hruns hop hstep ih =>
    rcases ih with hrow' | ⟨u, hu, hv, happlied⟩
    · have hv : service.ReachableBy ok v := h.imp fun _ ⟨hinit, hr⟩ => ⟨hinit, hr.trans hruns⟩
      have hprepared : v.EventsPrepared := eventsPrepared hv
      obtain ⟨row', hlookup, hmoves⟩ :=
        (hprepared.remains_iff hstep).2 (hok _ _ hop) row hrow' hrecorded
      rcases hmoves.status with rfl | ⟨-, happlied⟩
      · exact .inl (Table.mem_of_lookup hlookup)
      · exact .inr ⟨w', hruns.tail op hop hstep, .refl _, row', Table.mem_of_lookup hlookup,
          Table.key_of_lookup hlookup, hmoves.event, happlied⟩
    · exact .inr ⟨u, hu, hv.tail op hop hstep, happlied⟩

end World

end ChatHygiene
