import ChatHygiene.Lifecycle.Application
import ChatHygiene.Lifecycle.Recede
import ChatHygiene.System.Invariants
/-!
# Lives along a run

What a step of the service does to the lives of conversations: it applies a
recorded event, or it lets lives recede.
-/

namespace ChatHygiene

open Txn (Respects commit)

/-- **Only the application of an event carries a conversation on.** -/
theorem Transaction.receded {db : Database} (h : db.NoConnectionChange) {x : Transaction}
    (hx : ∀ updateId now, x ≠ .apply updateId now) : Receded db (x.after db) := by
  have hwrites := x.after_writes h
  cases x with
  | apply updateId now => exact absurd rfl (hx updateId now)
  | upgrade signer => exact ((upgradeActiveChallengeHmacs_steady signer).commit db).receded
  | finish action now result => exact ((finishDispatch_steady action now result).commit db).receded
  | ownerCommand updateId snapshot occurredAt default =>
    exact Respects.commit (processOwnerCommand_receded _ _ _ _) db
  | ownerStart updateId snapshot occurredAt default =>
    exact Respects.commit (processOwnerStart_receded _ _ _ _) db
  | expire now => exact Respects.commit (expireDueState_receded now) db
  | _ => exact hwrites.receded (by simp) (by simp)

/-- Recording an event leaves every life alone. -/
theorem recordPreparedEvent_steady (event : PreparedEvent) :
    Respects Steady (recordPreparedEvent event) :=
  steady_of_writes [.record, .connection] (by simp) (recordPreparedEvent_writes (by simp) event)

/-- The recorded event of a row is applied, and its conversation lives on. -/
structure World.Applies (w : World) (row : ProcessedUpdate) (event : PreparedEvent)
    (preparedIn db' : Database) : Prop where
  lookup : w.db.processedUpdate.lookup row.updateId = some row
  recorded : row.status = .recorded
  history : w.preparedIn row.updateId = some preparedIn
  recordedIn : row.RecordedIn event preparedIn w.db
  applicable : event.Applicable w.db
  applied : Applied event w.db db'
  settled : Settled row.updateId w.db db'

/-- An application leaves the other recorded events as they are. -/
theorem World.Applies.mem_of_recorded {w : World} {row : ProcessedUpdate} {event : PreparedEvent}
    {preparedIn db' : Database} (h : w.Applies row event preparedIn db') {u : ProcessedUpdate}
    (hu : u ∈ db'.processedUpdate.rows) (hrecorded : u.status = .recorded) :
    u ∈ w.db.processedUpdate.rows ∧ u.updateId ≠ row.updateId := by
  have hlookup := Table.lookup_of_mem hu
  have hne : u.updateId ≠ row.updateId := by
    intro hid
    have happlied := h.settled.applied
    rw [← hid, hlookup, Option.map_some, hrecorded] at happlied
    cases happlied
  rw [h.settled.others u.updateId hne] at hlookup
  exact ⟨Table.mem_of_lookup hlookup, hne⟩

/-- **An application carries a recorded event out, or changes nothing.** -/
theorem World.EventsPrepared.apply {w : World} (h : w.EventsPrepared) (updateId : Int)
    (now : DateTime) :
    (Transaction.apply updateId now).after w.db = w.db ∨
    ∃ row event preparedIn, row.updateId = updateId ∧
      w.Applies row event preparedIn ((Transaction.apply updateId now).after w.db) := by
  change (commit (applyRecordedEvent updateId now) w.db).1 = _ ∨ _
  cases hx : applyRecordedEvent updateId now w.db with
  | error error => exact .inl (by rw [Txn.commit_of_error hx])
  | ok r =>
    obtain ⟨receipt, db'⟩ := r
    rcases applyRecordedEvent_ok hx with ⟨-, hsame⟩ |
      ⟨-, row, event, -, hrow, hrecorded, hevent, -, -⟩
    · exact .inl (by rw [Txn.commit_of_ok hx, hsame])
    · obtain rfl : row.updateId = updateId := Table.key_of_lookup hrow
      obtain ⟨event', preparedIn, hhistory, hin⟩ :=
        h.recorded row (Table.mem_of_lookup hrow) hrecorded
      obtain rfl : event = event' := Option.some.inj (hevent.symm.trans hin.carries)
      by_cases happlicable : event.Applicable w.db
      · have hyields := applyRecordedEvent_yields hrow hrecorded hevent hin.updateId
          hin.issued.genuine.facts hin.issued.belongs happlicable now
        obtain ⟨-, happlied, hsettled, -⟩ := hyields.of_ok hx
        refine .inr ⟨row, event, preparedIn, rfl, ?_⟩
        rw [show (Transaction.apply row.updateId now).after w.db = db' from
          congrArg Prod.fst (Txn.commit_of_ok hx)]
        exact ⟨hrow, hrecorded, hhistory, hin, happlicable, happlied, hsettled⟩
      · have hfails := applyRecordedEvent_fails hrow hrecorded hevent hin.updateId
          hin.issued.genuine.facts hin.issued.belongs happlicable now
        exact absurd ⟨_, hx⟩ hfails

/-- What a step does to the lives and to the recorded events. -/
inductive World.LifeStep (w w' : World) (op : Op) : Prop where
  | prepare (updateId : Int) (raw : RawBusinessEvent) (preparer : EventPreparer)
      (event : PreparedEvent) (hop : op = .worker (.prepare updateId raw preparer))
      (hid : event.updateId = updateId) (hin : event.PreparedIn w.db w.settings)
      (hidle : w.worker = .idle) (h : w' = { w with worker := .prepared event w.db })
  | record (event : PreparedEvent) (preparedIn : Database)
      (hheld : w.worker.held = some (event, preparedIn)) (hnone : w'.worker.held = none)
      (hsteady : Steady w.db w'.db)
      (hrows : ∀ row ∈ w'.db.processedUpdate.rows, row ∈ w.db.processedUpdate.rows ∨
        row = event.row)
  | apply (row : ProcessedUpdate) (event : PreparedEvent) (preparedIn : Database)
      (hnone : w'.worker.held = none) (happlies : w.Applies row event preparedIn w'.db)
  | recede (hheld : w'.worker.held = none ∨ w'.worker = w.worker)
      (hreceded : Receded w.db w'.db)
      (hrows : ∀ row ∈ w'.db.processedUpdate.rows, row.status = .recorded →
        row ∈ w.db.processedUpdate.rows)

/-- **A step prepares, records or applies an event, or lets lives recede.** -/
theorem World.EventsPrepared.lifeStep {w w' : World} {op : Op} (h : w.EventsPrepared)
    (hstep : w.step op = some w') : w.LifeStep w' op := by
  rcases step_event hstep with
    ⟨updateId, raw, preparer, event, rfl, hraw, hevent, hidle, rfl⟩ |
    ⟨event, preparedIn, hprepared, rfl, rfl⟩ | ⟨hheld, -, -, hdb⟩
  · obtain ⟨-, hid, hin⟩ := prepareUpdate_spec hraw hevent
    exact .prepare updateId raw preparer event rfl hid hin hidle rfl
  · refine .record event preparedIn (by rw [hprepared]; rfl) (afterRecord_held _ _ _ _) ?_ ?_
    · rw [afterRecord_db]
      exact (recordPreparedEvent_steady event).commit w.db
    · rw [afterRecord_db]
      exact fun row hrow => (mem_record hrow).imp id And.left
  · rcases hdb with hdb | ⟨x, hx, hrecord, hdb⟩
    · refine .recede hheld ?_ fun row hrow _ => hdb ▸ hrow
      rw [hdb]
      exact refl _
    · have hother (hne : ∀ updateId now, x ≠ .apply updateId now) : w.LifeStep w' op := by
        have hwrites := x.after_writes h.noConnectionChange
        refine .recede hheld ?_ ?_
        · rw [hdb]
          exact Transaction.receded h.noConnectionChange hne
        · rw [hdb]
          refine fun row hrow hrecorded => hwrites.recorded ?_ hrow hrecorded
          cases x with
          | record event => exact absurd rfl (hrecord event)
          | _ => simp
      cases x with
      | apply updateId now =>
        have hnone : w.worker.held = none := by
          cases hx with
          | recover hw => rw [hw]; rfl
          | apply hw => rw [hw]; rfl
        rcases h.apply updateId now with hsame | ⟨row, event, preparedIn, rfl, happlies⟩
        · refine .recede hheld ?_ fun row hrow _ => hsame ▸ hdb ▸ hrow
          rw [hdb, hsame]
          exact refl _
        · refine .apply row event preparedIn ?_ (hdb ▸ happlies)
          rcases hheld with hheld | hsame
          · exact hheld
          · rw [hsame, hnone]
      | _ => exact hother (by simp)

end ChatHygiene
