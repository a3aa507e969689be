import ChatHygiene.Lifecycle.Ledger
import ChatHygiene.Updates.Once
/-!
# Due events

An event is due in a step that applies its row. It is carried out if the store
accepts it, and nothing happens to the store otherwise.
-/

namespace ChatHygiene

open Txn (commit)

/-- The event that is recorded under an update id and waits for its application. -/
def Database.waitingEvent (db : Database) (updateId : Int) : Option PreparedEvent :=
  (db.processedUpdate.lookup updateId).bind fun row =>
    if row.status = .recorded then row.event else none

theorem Database.waitingEvent_eq_some_iff {db : Database} {updateId : Int} {event : PreparedEvent} :
    db.waitingEvent updateId = some event ↔ ∃ row, db.processedUpdate.lookup updateId = some row ∧
      row.status = .recorded ∧ row.event = some event := by
  unfold Database.waitingEvent
  rw [Option.bind_eq_some_iff]
  refine exists_congr fun row => and_congr_right fun _ => ?_
  rw [Option.ite_none_right_eq_some]

namespace World

variable {w w' : World} {op : Op} {row : ProcessedUpdate} {event : PreparedEvent}
  {preparedIn : Database}

/-- The event that a step is to apply. -/
def dueEvent (w : World) (op : Op) : Option PreparedEvent :=
  match op, w.worker with
  | .worker (.apply _), .recorded updateId => w.db.waitingEvent updateId
  | .worker (.recoverNext _), .recovering (row :: _) =>
    if row.isTrigger then none else w.db.waitingEvent row.updateId
  | _, _ => none

theorem Commits.dueEvent {updateId : Int} {now : DateTime}
    (h : w.Commits op (.apply updateId now)) : w.dueEvent op = w.db.waitingEvent updateId := by
  unfold World.dueEvent
  cases h with
  | recover hw htrigger => simp [hw, htrigger]
  | apply hw => simp [hw]

theorem dueEvent_eq_some (h : w.dueEvent op = some event) : ∃ updateId now,
    w.Commits op (.apply updateId now) ∧ w.db.waitingEvent updateId = some event := by
  unfold World.dueEvent at h
  split at h
  · next now updateId hw => exact ⟨updateId, now, .apply hw, h⟩
  · next now row rows hw =>
    split at h
    · cases h
    · next htrigger => exact ⟨row.updateId, now, .recover hw (by simpa using htrigger), h⟩
  · cases h

/-- What is carried out of a recorded event: its conversation lives on, and so does the ledger. -/
structure CarriesOut (w : World) (row : ProcessedUpdate) (event : PreparedEvent)
    (preparedIn db' : Database) : Prop extends w.Applies row event preparedIn db' where
  ledgered : Ledgered event.facts w.db db'
  abandoned : ∀ key messageIds, event.facts.optionalKey = some key →
    event.facts.action = .messagesDeleted messageIds → db'.ownerReplies key = [] →
    (db'.lifecycle key).state ≠ .active

/-- **A recorded event that the store accepts is carried out.** -/
theorem EventsPrepared.carriesOut (h : w.EventsPrepared)
    (hrow : w.db.processedUpdate.lookup row.updateId = some row) (hrecorded : row.status = .recorded)
    (hhistory : w.preparedIn row.updateId = some preparedIn)
    (hin : row.RecordedIn event preparedIn w.db) (happlicable : event.Applicable w.db)
    (now : DateTime) :
    appliedEvent row.updateId now w.db = some event ∧
      w.CarriesOut row event preparedIn ((Transaction.apply row.updateId now).after w.db) := by
  obtain ⟨receipt, db', hx, rfl, happlied, hsettled, hframe⟩ :=
    applyRecordedEvent_yields hrow hrecorded hin.carries hin.updateId hin.issued.genuine.facts
      hin.issued.belongs happlicable now
  have hafter : (Transaction.apply row.updateId now).after w.db = db' :=
    congrArg Prod.fst (Txn.commit_of_ok hx)
  have happliedEvent : appliedEvent row.updateId now w.db = some event := by
    unfold appliedEvent
    rw [hx]
    simp [hrow, hin.carries]
  obtain ⟨-, row', db₁, hrow', -, -, happly, hmark⟩ := h.appliedEvent_spec happliedEvent
  obtain rfl : row' = row := Option.some.inj (hrow'.symm.trans hrow)
  rw [hafter] at hmark ⊢
  have hmarked : WritesTo [.update] (fun _ => True) db₁ db' :=
    (markApplied_writes (List.mem_singleton.2 rfl) _ _).of_ok hmark
  have hledger : db'.messageLedger = db₁.messageLedger :=
    hmarked.frame.messageLedger (by simp) (by simp)
  refine ⟨happliedEvent, ⟨hrow, hrecorded, hhistory, hin, happlicable, happlied, hsettled⟩, ?_, ?_⟩
  · exact (LifecycleHandler.apply_ledger hin.issued.genuine.facts.noConnectionChange happly).of_same
      rfl hledger
  · intro key messageIds hkey haction hnone
    obtain ⟨_, db₂, hdeletions, htrace⟩ := Txn.bind_ok_iff.1 happly
    rw [haction] at hdeletions
    obtain ⟨key', hkey', -, habandoned⟩ := applyDeletions_ok hdeletions
    obtain rfl : key' = key := Option.some.inj (hkey'.symm.trans hkey)
    -- the trace and the mark leave the conversation and its replies alone
    have htraced : WritesTo [.enqueue] (NewOutboxAction.Of event.updateId True) db₂ db₁ :=
      (enqueueDryRunTrace_writes (by simp) _ _).of_ok htrace
    have hafterwards : Frame [.enqueue, .update] db₂.toTables db'.toTables :=
      (htraced.frame.mono (by simp)).trans (hmarked.frame.mono (by simp))
    rw [Database.lifecycle_of_frame hafterwards (by simp) (by simp) (by simp)]
    refine habandoned ?_
    rw [← Database.ownerReplies_of_frame hafterwards (by simp) (by simp)]
    exact hnone

/-- What is applied was due. -/
theorem EventsPrepared.dueEvent_of_applies (h : w.EventsPrepared)
    (happlies : w.appliesEvent op = some event) : w.dueEvent op = some event := by
  obtain ⟨updateId, now, hcommits, happlied⟩ := appliesEvent_eq_some happlies
  obtain ⟨-, row, -, hrow, hrecorded, hevent, -, -⟩ := h.appliedEvent_spec happlied
  rw [hcommits.dueEvent, Database.waitingEvent_eq_some_iff]
  exact ⟨row, hrow, hrecorded, hevent⟩

/-- What becomes of the event that is due in a step, if one is. -/
inductive DueStep (w w' : World) (op : Op) : Prop where
  | carried (row : ProcessedUpdate) (event : PreparedEvent) (preparedIn : Database)
      (hdue : w.dueEvent op = some event) (happlies : w.appliesEvent op = some event)
      (h : w.CarriesOut row event preparedIn w'.db)
  | rejected (row : ProcessedUpdate) (event : PreparedEvent) (preparedIn : Database)
      (hdue : w.dueEvent op = some event) (hin : row.RecordedIn event preparedIn w.db)
      (hhistory : w.preparedIn row.updateId = some preparedIn) (hno : ¬event.Applicable w.db)
      (happlies : w.appliesEvent op = none) (h : w'.db = w.db)
  | other (hdue : w.dueEvent op = none) (happlies : w.appliesEvent op = none)
      (h : w'.db = w.db ∨ ∃ x, w.Commits op x ∧ w'.db = x.after w.db ∧
        ∀ updateId now, x ≠ .apply updateId now)

/-- **A step carries out the event that is due, or rejects it, or none is due.** -/
theorem EventsPrepared.dueStep (h : w.EventsPrepared) (hstep : w.step op = some w') :
    w.DueStep w' op := by
  cases hdue : w.dueEvent op with
  | some event =>
    obtain ⟨updateId, now, hcommits, hwaiting⟩ := dueEvent_eq_some hdue
    obtain ⟨row, hrow, hrecorded, hevent⟩ := Database.waitingEvent_eq_some_iff.1 hwaiting
    obtain rfl : row.updateId = updateId := Table.key_of_lookup hrow
    obtain ⟨event', preparedIn, hhistory, hin⟩ :=
      h.recorded row (Table.mem_of_lookup hrow) hrecorded
    obtain rfl : event = event' := Option.some.inj (hevent.symm.trans hin.carries)
    have happlies := hcommits.appliesEvent
    have hdb := hcommits.apply_db hstep
    by_cases happlicable : event.Applicable w.db
    · obtain ⟨happlied, hcarried⟩ := h.carriesOut hrow hrecorded hhistory hin happlicable now
      rw [← hdb] at hcarried
      exact .carried row event preparedIn hdue (happlies.trans happlied) hcarried
    · have hfails := applyRecordedEvent_fails hrow hrecorded hevent hin.updateId
        hin.issued.genuine.facts hin.issued.belongs happlicable now
      obtain ⟨error, hx⟩ : ∃ error, applyRecordedEvent row.updateId now w.db = .error error := by
        cases hx : applyRecordedEvent row.updateId now w.db with
        | error error => exact ⟨error, rfl⟩
        | ok r => exact absurd ⟨r, hx⟩ hfails
      have hnone : appliedEvent row.updateId now w.db = none := by
        unfold appliedEvent
        rw [hx]
      have hsame : (Transaction.apply row.updateId now).after w.db = w.db :=
        congrArg Prod.fst (Txn.commit_of_error hx)
      exact .rejected row event preparedIn hdue hin hhistory happlicable (happlies.trans hnone)
        (hdb.trans hsame)
  | none =>
    have happlies : w.appliesEvent op = none := by
      cases happlies : w.appliesEvent op with
      | none => rfl
      | some event => cases hdue.symm.trans (h.dueEvent_of_applies happlies)
    refine .other hdue happlies ?_
    rcases step_db hstep with hsame | ⟨x, hcommits, hdb⟩
    · exact .inl hsame
    · by_cases happly : ∃ updateId now, x = .apply updateId now
      · obtain ⟨updateId, now, rfl⟩ := happly
        rw [hcommits.appliesEvent] at happlies
        refine .inl (hdb.trans (h.appliedEvent_none fun event happlied => ?_))
        rw [happlies] at happlied
        cases happlied
      · exact .inr ⟨x, hcommits, hdb, fun updateId now hx => happly ⟨updateId, now, hx⟩⟩

end World

end ChatHygiene
