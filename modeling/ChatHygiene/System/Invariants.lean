import ChatHygiene.Footprint.Identity
import ChatHygiene.Lifecycle.Prepared
import ChatHygiene.System.Transaction
/-!
# Invariants of the running service

What holds of the recorded events and of the dispatched action in every
reachable world: a recorded event was prepared, in the database the history
has for it, and the challenge it is about still belongs to its conversation;
the action in flight is the one its row was enqueued with.
-/

namespace ChatHygiene

open Txn (commit)

/-! ## Events -/

/-- The event is genuine, and the challenge it is about is, if it is stored, one of its
conversation. -/
structure PreparedEvent.Issued (event : PreparedEvent) (db : Database) : Prop where
  genuine : event.Genuine
  belongs : ∀ key, event.facts.optionalKey = some key → event.facts.action.Belongs db key
  issued : ∀ challengeId, event.facts.action.challengeId = some challengeId →
    challengeId ≤ db.challengeSeq

theorem PreparedEvent.PreparedIn.issuedIn {event : PreparedEvent} {db : Database} {default : Bool}
    (h : event.PreparedIn db default) : event.Issued db :=
  ⟨h.genuine, h.belongs, h.issued⟩

theorem PreparedEvent.Issued.age {event : PreparedEvent} {db db' : Database}
    (h : event.Issued db) (hage : ChallengesAge db.toTables db'.toTables) : event.Issued db' where
  genuine := h.genuine
  belongs key hkey challengeId hid := (h.belongs key hkey challengeId hid).age (h.issued _ hid) hage
  issued challengeId hid := Nat.le_trans (h.issued challengeId hid) hage.seq

/-- The event the worker holds before it is recorded, and the database it was prepared in. -/
def WorkerPhase.held : WorkerPhase → Option (PreparedEvent × Database)
  | .prepared event preparedIn => some (event, preparedIn)
  | _ => none

/-- The row is a recorded event that was prepared in `preparedIn`. -/
structure ProcessedUpdate.RecordedIn (row : ProcessedUpdate) (event : PreparedEvent)
    (preparedIn db : Database) : Prop where
  carries : row.event = some event
  updateId : event.updateId = row.updateId
  eventType : event.eventType = row.eventType
  prepared : ∃ default, event.PreparedIn preparedIn default
  issued : event.Issued db

/-- A recorded event that is left alone stays as it was prepared. -/
theorem ProcessedUpdate.RecordedIn.age {row : ProcessedUpdate} {event : PreparedEvent} {preparedIn db db' : Database}
    (h : row.RecordedIn event preparedIn db) (hage : ChallengesAge db.toTables db'.toTables) :
    row.RecordedIn event preparedIn db' :=
  { h with issued := h.issued.age hage }

/-- What the worker holds and what is recorded was prepared. -/
structure World.EventsPrepared (w : World) : Prop where
  held : ∀ event preparedIn, w.worker.held = some (event, preparedIn) →
    (∃ default, event.PreparedIn preparedIn default) ∧ event.Issued w.db
  recorded : ∀ row ∈ w.db.processedUpdate.rows, row.status = .recorded →
    ∃ event preparedIn, w.preparedIn row.updateId = some preparedIn ∧
      row.RecordedIn event preparedIn w.db

theorem World.EventsPrepared.noConnectionChange {w : World} (h : w.EventsPrepared) :
    w.db.NoConnectionChange := by
  intro row hrow hrecorded event hevent
  obtain ⟨event', preparedIn, -, hin⟩ := h.recorded row hrow hrecorded
  obtain rfl : event = event' := Option.some.inj (hevent.symm.trans hin.carries)
  exact hin.issued.genuine.facts.noConnectionChange

/-! ## Recording -/

/-- The row of a newly recorded event. -/
def PreparedEvent.row (event : PreparedEvent) : ProcessedUpdate where
  updateId := event.updateId
  eventType := event.eventType
  event := some event
  status := .recorded
  receivedAt := event.occurredAt
  appliedAt := none

/-- Gating a connection for reconciliation changes connections only. -/
theorem gateMatchingTrustedForReconciliation_frame {connectionId : String} {now : DateTime}
    {gated : Option Nat} {db db' : Database}
    (h : gateMatchingTrustedForReconciliation connectionId now db = .ok (gated, db')) :
    Frame [.connection] db.toTables db'.toTables :=
  (show WritesTo [.connection] (fun _ => True) db db' from
    gateMatchingTrustedForReconciliation_writes (by simp) _ _ _ _ _ h).frame

/-- **What recording an event comes to**: a new row with its facts, or nothing at all. -/
theorem recordPreparedEvent_ok {event : PreparedEvent} {receipt : RecordReceipt}
    {db db' : Database} (h : recordPreparedEvent event db = .ok (receipt, db')) :
    (receipt = .recorded ∧ db.processedUpdate.lookup event.updateId = none ∧
      db'.processedUpdate.rows = db.processedUpdate.rows ++ [event.row]) ∨
    (receipt ≠ .recorded ∧ db' = db) := by
  unfold recordPreparedEvent at h
  obtain ⟨⟨⟩, s₁, hvalid, h₁⟩ := Txn.bind_ok_iff.1 h
  obtain rfl : db = s₁ := validateFacts_readOnly _ _ _ _ hvalid
  obtain ⟨trigger, s₂, htrigger, h₂⟩ := Txn.bind_ok_iff.1 h₁
  obtain rfl : db = s₂ := connectionTriggerId_readOnly _ _ _ _ htrigger
  obtain ⟨inserted, s₃, hinsert, h₃⟩ := Txn.bind_ok_iff.1 h₂
  have hinsert := Uow.statement_ok_iff.1 hinsert
  unfold Tables.insertOrIgnoreUpdate at hinsert
  split at hinsert
  · next hnew =>
    -- a new row, and for a trigger a gate, which leaves the event log alone
    obtain ⟨rfl, hdb⟩ := Prod.mk.inj (Except.ok.inj hinsert)
    have hrows : s₃.processedUpdate.rows = db.processedUpdate.rows ++ [event.row] := by
      rw [← hdb]
      rfl
    refine .inl ?_
    cases trigger with
    | none =>
      obtain ⟨rfl, rfl⟩ := Prod.mk.inj (Txn.pure_ok_iff.1 h₃)
      exact ⟨rfl, hnew, hrows⟩
    | some connectionId =>
      obtain ⟨gated, s₄, hgate, h₄⟩ := Txn.bind_ok_iff.1 h₃
      obtain ⟨rfl, rfl⟩ := Prod.mk.inj (Txn.pure_ok_iff.1 h₄)
      have hlog := (gateMatchingTrustedForReconciliation_frame hgate).processedUpdate (by simp)
        (by simp) (by simp)
      exact ⟨rfl, hnew, by rw [hlog, hrows]⟩
  · obtain ⟨rfl, hdb⟩ := Prod.mk.inj (Except.ok.inj hinsert)
    obtain rfl : db = s₃ := Database.ext hdb
    obtain ⟨status, s₄, hread, h₄⟩ := Txn.bind_ok_iff.1 h₃
    obtain ⟨rfl, rfl⟩ := Prod.mk.inj (Txn.read_ok_iff.1 hread)
    refine .inr ?_
    cases hstatus : (db.processedUpdate.lookup event.updateId).map (·.status) with
    | none =>
      rw [hstatus] at h₄
      cases h₄
    | some status =>
      rw [hstatus] at h₄
      cases status with
      | recorded =>
        obtain ⟨rfl, rfl⟩ := Prod.mk.inj (Txn.pure_ok_iff.1 h₄)
        exact ⟨by simp, rfl⟩
      | applied =>
        obtain ⟨rfl, rfl⟩ := Prod.mk.inj (Txn.pure_ok_iff.1 h₄)
        exact ⟨by simp, rfl⟩
      | failed => cases h₄

namespace World

/-! ## Steps, by what they do to the events -/

/-- What a step does to the events the worker holds, the history of preparations, and the
database. -/
inductive EventStep (w w' : World) (op : Op) : Prop where
  | prepare (updateId : Int) (raw : RawBusinessEvent) (preparer : EventPreparer)
      (event : PreparedEvent) (hop : op = .worker (.prepare updateId raw preparer))
      (hraw : raw.WellFormed)
      (hevent : prepareUpdate { preparer with destructiveMode := w.settings } updateId raw w.db =
        .ok (event, w.db))
      (hidle : w.worker = .idle) (h : w' = { w with worker := .prepared event w.db })
  | record (event : PreparedEvent) (preparedIn : Database)
      (hprepared : w.worker = .prepared event preparedIn) (hop : op = .worker .record)
      (h : w' = ({ w with db := (commit (recordPreparedEvent event) w.db).1 } : World).afterRecord
        event preparedIn (commit (recordPreparedEvent event) w.db).2)
  | other (hheld : w'.worker.held = none ∨ w'.worker = w.worker)
      (hhistory : w'.preparedIn = w.preparedIn)
      (hsettings : w'.settings = w.settings ∨ ∃ now, op = .worker (.boot w'.settings now))
      (hdb : w'.db = w.db ∨ ∃ x, w.Commits op x ∧ (∀ event, x ≠ .record event) ∧
        w'.db = x.after w.db)

theorem held_of_rests {phase : WorkerPhase} (h : phase.rests = true) : phase.held = none := by
  cases phase <;> first | rfl | cases h

theorem stepWorker_event {w w' : World} {op : WorkerOp} (h : w.stepWorker op = some w') :
    EventStep w w' (.worker op) := by
  cases stepWorker_step h with
  | rests hrests hlisted hdispatcher hhistory hsettings hstartup hdb =>
    exact .other (.inl (held_of_rests hrests)) hhistory
      (hsettings.imp_right (Exists.imp fun _ => congrArg Op.worker)) hdb
  | takesOn phase htakes hw' =>
    subst hw'
    cases htakes with
    | prepared hw hraw hprepare =>
      obtain ⟨rfl, -⟩ := prepareUpdate_spec hraw hprepare
      exact .prepare _ _ _ _ rfl hraw hprepare hw rfl
    | _ => exact .other (.inl rfl) rfl (.inl rfl) (.inl rfl)
  | records event preparedIn hw hop hw' => exact .record event preparedIn hw (hop ▸ rfl) hw'

theorem step_event {w w' : World} {op : Op} (h : w.step op = some w') : EventStep w w' op := by
  cases op with
  | worker op => exact stepWorker_event h
  | dispatcher op =>
    obtain ⟨-, h⟩ := Option.ite_none_right_eq_some.1 h
    obtain ⟨hworker, -, hhistory, hsettings⟩ := stepDispatcher_frame h
    refine .other (.inr hworker) hhistory (.inl hsettings) ((stepDispatcher_db h).imp id ?_)
    rintro ⟨x, hx, hdb⟩
    refine ⟨x, hx, ?_, hdb⟩
    rintro event rfl
    cases hx
  | crash =>
    cases h
    exact .other (.inl rfl) rfl (.inl rfl) (.inl rfl)

/-- The events recorded by a committed recording: those there were, and the one in hand. -/
theorem mem_record {event : PreparedEvent} {db : Database} {u : ProcessedUpdate}
    (hu : u ∈ (commit (recordPreparedEvent event) db).1.processedUpdate.rows) :
    u ∈ db.processedUpdate.rows ∨
      u = event.row ∧ (commit (recordPreparedEvent event) db).2 = .ok .recorded := by
  cases hx : recordPreparedEvent event db with
  | error error =>
    rw [Txn.commit_of_error hx] at hu
    exact .inl hu
  | ok r =>
    obtain ⟨receipt, db'⟩ := r
    rw [Txn.commit_of_ok hx] at hu ⊢
    rcases recordPreparedEvent_ok hx with ⟨rfl, -, hrows⟩ | ⟨-, hsame⟩
    · rw [hrows, List.mem_append, List.mem_singleton] at hu
      exact hu.imp id fun hu => ⟨hu, rfl⟩
    · exact .inl (hsame ▸ hu)

/-- An event is only recorded under an update id that is new. -/
theorem lookup_of_recorded {event : PreparedEvent} {db : Database}
    (h : (commit (recordPreparedEvent event) db).2 = .ok .recorded) :
    db.processedUpdate.lookup event.updateId = none := by
  cases hx : recordPreparedEvent event db with
  | error error =>
    rw [Txn.commit_of_error hx] at h
    cases h
  | ok r =>
    obtain ⟨receipt, db'⟩ := r
    rw [Txn.commit_of_ok hx] at h
    obtain rfl : receipt = .recorded := by simpa using h
    rcases recordPreparedEvent_ok hx with ⟨-, hnew, -⟩ | ⟨hne, -⟩
    · exact hnew
    · exact absurd rfl hne

theorem afterRecord_held (w : World) (event : PreparedEvent) (preparedIn : Database)
    (result : Except Error RecordReceipt) :
    (w.afterRecord event preparedIn result).worker.held = none := by
  unfold afterRecord
  split
  · rfl
  · rfl
  · split
    · cases event.facts.connectionId <;> rfl
    · rfl

@[simp] theorem afterRecord_settings (w : World) (event : PreparedEvent) (preparedIn : Database)
    (result : Except Error RecordReceipt) :
    (w.afterRecord event preparedIn result).settings = w.settings := by
  unfold afterRecord
  split <;> rfl

/-- The configured default changes with a start only. -/
theorem step_settings {w w' : World} {op : Op} (h : w.step op = some w') :
    w'.settings = w.settings ∨ ∃ now, op = .worker (.boot w'.settings now) := by
  rcases step_event h with
    ⟨-, -, -, -, -, -, -, -, rfl⟩ | ⟨-, -, -, -, rfl⟩ | ⟨-, -, hsettings, -⟩
  · exact .inl rfl
  · exact .inl (afterRecord_settings _ _ _ _)
  · exact hsettings

theorem afterRecord_preparedIn {w : World} {event : PreparedEvent} {preparedIn : Database}
    {result : Except Error RecordReceipt} :
    (w.afterRecord event preparedIn result).preparedIn =
      if result = .ok .recorded then Function.update w.preparedIn event.updateId (some preparedIn)
      else w.preparedIn := by
  unfold afterRecord
  split
  · rfl
  · rfl
  · simp

/-- **One step keeps every event prepared.** -/
theorem EventsPrepared.step {w w' : World} {op : Op} (h : w.EventsPrepared)
    (hstep : w.step op = some w') : w'.EventsPrepared := by
  rcases step_event hstep with
    ⟨updateId, raw, preparer, event, rfl, hraw, hevent, hidle, rfl⟩ |
    ⟨event, preparedIn, hprepared, rfl, rfl⟩ | ⟨hheld, hhistory, -, hdb⟩
  · obtain ⟨-, -, hin⟩ := prepareUpdate_spec hraw hevent
    refine ⟨fun event' preparedIn hheld => ?_, h.recorded⟩
    obtain ⟨rfl, rfl⟩ := Prod.mk.inj (Option.some.inj hheld)
    exact ⟨⟨_, hin⟩, hin.issuedIn⟩
  · have hage : ChallengesAge w.db.toTables
        (commit (recordPreparedEvent event) w.db).1.toTables :=
      ((Transaction.record event).after_writes h.noConnectionChange).challengesAge
    obtain ⟨hin, hissued⟩ := h.held event preparedIn (by rw [hprepared]; rfl)
    refine ⟨fun event' preparedIn' hheld => ?_, fun row hrow hrecorded => ?_⟩
    · rw [afterRecord_held] at hheld
      cases hheld
    · rw [afterRecord_db] at hrow ⊢
      rw [afterRecord_preparedIn]
      rcases mem_record hrow with hrow | ⟨rfl, hok⟩
      · obtain ⟨event', preparedIn', hhistory, hrow'⟩ := h.recorded row hrow hrecorded
        refine ⟨event', preparedIn', ?_, hrow'.age hage⟩
        split
        · next hok =>
          have hne : row.updateId ≠ event.updateId :=
            Table.lookup_eq_none_iff.1 (lookup_of_recorded hok) row hrow
          rw [Function.update_of_ne hne]
          exact hhistory
        · exact hhistory
      · rw [if_pos hok]
        exact ⟨event, preparedIn, Function.update_self .., rfl, rfl, rfl, hin, hissued.age hage⟩
  · have hkept (hage : ChallengesAge w.db.toTables w'.db.toTables)
        (hrows : ∀ row ∈ w'.db.processedUpdate.rows, row.status = .recorded →
          row ∈ w.db.processedUpdate.rows) : w'.EventsPrepared := by
      refine ⟨fun event preparedIn hevent => ?_, fun row hrow hrecorded => ?_⟩
      · rcases hheld with hnone | hsame
        · rw [hnone] at hevent
          cases hevent
        · obtain ⟨hin, hissued⟩ := h.held event preparedIn (hsame ▸ hevent)
          exact ⟨hin, hissued.age hage⟩
      · obtain ⟨event, preparedIn, hpast, hrow'⟩ :=
          h.recorded row (hrows row hrow hrecorded) hrecorded
        exact ⟨event, preparedIn, hhistory ▸ hpast, hrow'.age hage⟩
    rcases hdb with hdb | ⟨x, hx, hrecord, hdb⟩
    · exact hkept (hdb ▸ .refl _) fun row hrow _ => hdb ▸ hrow
    · have hwrites := x.after_writes h.noConnectionChange
      rw [hdb] at hkept
      refine hkept hwrites.challengesAge fun row hrow hrecorded =>
        hwrites.recorded ?_ hrow hrecorded
      cases x with
      | record event => exact absurd rfl (hrecord event)
      | _ => simp

end World

/-- **In every reachable world, what is recorded was prepared.** -/
theorem World.eventsPrepared {ok : World → Op → Prop} {w : World} (h : service.ReachableBy ok w) :
    w.EventsPrepared := by
  refine h.invariant ?_ fun w op w' _ hw _ hstep => hw.step hstep
  rintro w ⟨now, rfl⟩
  constructor
  · intro event preparedIn hheld
    cases hheld
  · intro row hrow
    cases hrow

end ChatHygiene
