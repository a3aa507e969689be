import ChatHygiene.System.Lives
import ChatHygiene.Updates.Deliveries
/-!
# Exactly once

The chronicle of a run notes which events were recorded and which were carried
out under each update id for as long as the update has a row. A message is
recorded once; its row keeps those facts whatever a redelivery prepares, and
becomes applied in the one transaction that carries them out.
-/

namespace ChatHygiene

open Txn (commit)

/-! ## What a step does with an event -/

/-- The event an application carries out. -/
def appliedEvent (updateId : Int) (now : DateTime) (db : Database) : Option PreparedEvent :=
  match applyRecordedEvent updateId now db with
  | .ok (.applied, _) => (db.processedUpdate.lookup updateId).bind (·.event)
  | _ => none

namespace World

variable {w w' : World} {op : Op}

/-- The event a step records under a new update id. -/
def recordsEvent (w : World) (op : Op) : Option PreparedEvent :=
  match op, w.worker with
  | .worker .record, .prepared event _ =>
    match recordPreparedEvent event w.db with
    | .ok (.recorded, _) => some event
    | _ => none
  | _, _ => none

/-- The event a step carries out. -/
def appliesEvent (w : World) (op : Op) : Option PreparedEvent :=
  match op, w.worker with
  | .worker (.apply now), .recorded updateId => appliedEvent updateId now w.db
  | .worker (.recoverNext now), .recovering (row :: _) =>
    if row.isTrigger then none else appliedEvent row.updateId now w.db
  | _, _ => none

theorem appliesEvent_eq_some {event : PreparedEvent} (h : w.appliesEvent op = some event) :
    ∃ updateId now, w.Commits op (.apply updateId now) ∧
      appliedEvent updateId now w.db = some event := by
  unfold appliesEvent at h
  split at h
  · next now updateId hw => exact ⟨updateId, now, .apply hw, h⟩
  · next now row rows hw =>
    split at h
    · cases h
    · next htrigger => exact ⟨row.updateId, now, .recover hw (by simpa using htrigger), h⟩
  · cases h

theorem Commits.appliesEvent {updateId : Int} {now : DateTime}
    (h : w.Commits op (.apply updateId now)) :
    w.appliesEvent op = appliedEvent updateId now w.db := by
  unfold World.appliesEvent
  cases h with
  | recover hw htrigger => simp [hw, htrigger]
  | apply hw => simp [hw]

theorem Commits.apply_db {updateId : Int} {now : DateTime}
    (h : w.Commits op (.apply updateId now)) (hstep : w.step op = some w') :
    w'.db = (Transaction.apply updateId now).after w.db := by
  cases h with
  | recover hw htrigger =>
    simp only [World.step, stepWorker, hw, htrigger, Bool.false_eq_true, if_false] at hstep
    obtain rfl := Option.some.inj hstep
    rfl
  | apply hw =>
    simp only [World.step, stepWorker, hw] at hstep
    obtain rfl := Option.some.inj hstep
    rfl

/-- No trigger is reconciled under the id of a message. -/
theorem Commits.not_trigger {isTrigger : Int → Bool} {updateId : Int} {connectionId : String}
    {occurredAt now : DateTime} {owner : OwnerIdentity}
    {snapshot : ConnectionReconciliationSnapshot} {answer : LookupAnswer}
    (h : w.Commits op (.trigger updateId connectionId occurredAt owner snapshot answer now))
    (hclassed : w.Classed isTrigger) : isTrigger updateId = true := by
  cases h with
  | trigger hw => exact (hclassed.subject (updateId, true) (by rw [hw]; rfl)).symm

/-! ## What a step does to the row of a message -/

theorem lookup_of_recordsEvent {event : PreparedEvent} (h : w.recordsEvent op = some event) :
    w.db.processedUpdate.lookup event.updateId = none := by
  unfold recordsEvent at h
  split at h
  · split at h
    · next hrecord =>
      obtain rfl := Option.some.inj h
      exact lookup_of_recorded (by rw [Txn.commit_of_ok hrecord])
    · cases h
  · cases h

/-- No step does both. -/
theorem recordsEvent_or_appliesEvent (w : World) (op : Op) :
    w.recordsEvent op = none ∨ w.appliesEvent op = none := by
  cases op with
  | crash => exact .inl rfl
  | dispatcher op => exact .inl rfl
  | worker op =>
    cases op with
    | record => exact .inr rfl
    | _ => exact .inl rfl

theorem recordsEvent_of_commit {event : PreparedEvent} {preparedIn : Database}
    (hw : w.worker = .prepared event preparedIn)
    (h : (commit (recordPreparedEvent event) w.db).2 = .ok .recorded) :
    w.recordsEvent (.worker .record) = some event := by
  unfold recordsEvent
  rw [hw]
  cases hx : recordPreparedEvent event w.db with
  | error error =>
    rw [Txn.commit_of_error hx] at h
    cases h
  | ok r =>
    rw [Txn.commit_of_ok hx] at h
    obtain ⟨receipt, db'⟩ := r
    obtain rfl : receipt = .recorded := Except.ok.inj h
    dsimp only
    rw [hx]

/-- **An application carries out what its row says, and marks it.** -/
theorem EventsPrepared.appliedEvent_spec (h : w.EventsPrepared) {updateId : Int} {now : DateTime}
    {event : PreparedEvent} (happlied : appliedEvent updateId now w.db = some event) :
    event.updateId = updateId ∧ ∃ row db₁, w.db.processedUpdate.lookup updateId = some row ∧
      row.status = .recorded ∧ row.event = some event ∧
      LifecycleHandler.apply event w.db = .ok ((), db₁) ∧
      markApplied updateId now db₁ = .ok (1, (Transaction.apply updateId now).after w.db) := by
  unfold appliedEvent at happlied
  split at happlied
  · next db' hx =>
    rcases applyRecordedEvent_ok hx with ⟨hno, -⟩ |
      ⟨-, row, event', db₁, hrow, hrecorded, hevent, happly, hmark⟩
    · cases hno
    · rw [hrow, Option.bind_some, hevent] at happlied
      obtain rfl : event' = event := Option.some.inj happlied
      obtain ⟨event, preparedIn, -, hin⟩ := h.recorded row (Table.mem_of_lookup hrow) hrecorded
      obtain rfl : event' = event := Option.some.inj (hevent.symm.trans hin.carries)
      have hafter : (Transaction.apply updateId now).after w.db = db' :=
        congrArg Prod.fst (Txn.commit_of_ok hx)
      rw [hafter]
      exact ⟨hin.updateId.trans (Table.key_of_lookup hrow), row, db₁, hrow, hrecorded, hevent,
        happly, hmark⟩
  · cases happlied

/-- An application that carries out nothing changes nothing. -/
theorem EventsPrepared.appliedEvent_none (h : w.EventsPrepared) {updateId : Int} {now : DateTime}
    (happlied : ∀ event, appliedEvent updateId now w.db = some event → event.updateId ≠ updateId) :
    (Transaction.apply updateId now).after w.db = w.db := by
  change (commit (applyRecordedEvent updateId now) w.db).1 = _
  cases hx : applyRecordedEvent updateId now w.db with
  | error error => rw [Txn.commit_of_error hx]
  | ok r =>
    rw [Txn.commit_of_ok hx]
    obtain ⟨receipt, db'⟩ := r
    rcases applyRecordedEvent_ok hx with ⟨-, hsame⟩ |
      ⟨rfl, row, event, db₁, hrow, hrecorded, hevent, happly, hmark⟩
    · exact hsame
    · have hcarries : appliedEvent updateId now w.db = some event := by
        unfold appliedEvent
        rw [hx]
        dsimp only
        rw [hrow, Option.bind_some, hevent]
      exact absurd (h.appliedEvent_spec hcarries).1 (happlied event hcarries)

/-- What is carried out is applied, and keeps its facts. -/
theorem EventsPrepared.applied_row (h : w.EventsPrepared) {updateId : Int} {now : DateTime}
    {event : PreparedEvent} (happlied : appliedEvent updateId now w.db = some event) :
    ∃ u row, w.db.processedUpdate.lookup updateId = some u ∧ u.status = .recorded ∧
      u.event = some event ∧ ((Transaction.apply updateId now).after w.db).processedUpdate.lookup updateId =
        some row ∧ u.Moves row ∧ row.status = .applied := by
  obtain ⟨-, u, db₁, hu, hrecorded, hevent, happly, hmark⟩ := h.appliedEvent_spec happlied
  have hwrites : WritesTo handlerTargets
      (NewOutboxAction.Of event.updateId (event.facts.action.cleans = true)) w.db db₁ :=
    (apply_writes (by simp) event (h.noConnectionChange u (Table.mem_of_lookup hu) hrecorded event
      hevent)).of_ok happly
  have hu₁ : db₁.processedUpdate.lookup updateId = some u := by
    rw [hwrites.frame.processedUpdate (by simp) (by simp) (by simp)]
    exact hu
  have hsettled := ((markApplied_yields hu₁ hrecorded now).of_ok hmark).1.2
  have hlog : LogMoves updateId w.db ((Transaction.apply updateId now).after w.db) :=
    applyRecordedEvent_moves h.noConnectionChange now
  obtain ⟨row, hrow, hmoves⟩ := hlog.stored u hu
  have hstatus := hsettled.applied
  rw [hrow] at hstatus
  exact ⟨u, row, hu, hrecorded, hevent, hrow, hmoves, Option.some.inj hstatus⟩

/-- How the row of a message comes to be what it is after a step. -/
inductive RowStep (w w' : World) (op : Op) (row : ProcessedUpdate) : Prop where
  | recorded (event : PreparedEvent) (hrecords : w.recordsEvent op = some event)
      (hrow : row = event.row)
  | applied (event : PreparedEvent) (u : ProcessedUpdate) (happlies : w.appliesEvent op = some event)
      (hid : event.updateId = row.updateId)
      (hu : w.db.processedUpdate.lookup row.updateId = some u) (hwas : u.status = .recorded)
      (hevent : u.event = some event)
      (hmoves : u.Moves row) (hstatus : row.status = .applied)
  | kept (hrow : w.db.processedUpdate.lookup row.updateId = some row)
      (hrecords : ∀ event, w.recordsEvent op = some event → event.updateId ≠ row.updateId)
      (happlies : ∀ event, w.appliesEvent op = some event → event.updateId ≠ row.updateId)

/-- **The row of a message is recorded, applied or left alone by a step.** -/
theorem EventsPrepared.rowStep {isTrigger : Int → Bool} (h : w.EventsPrepared)
    (hclassed : w.Classed isTrigger) (hop : Delivers isTrigger w op) (hstep : w.step op = some w')
    {row : ProcessedUpdate} (hrow : row ∈ w'.db.processedUpdate.rows)
    (htype : row.eventType = .lifecycle) : w.RowStep w' op row := by
  have hmessage : isTrigger row.updateId = false := by
    have hrows := (hclassed.step h hop hstep).rows row hrow (by rw [htype]; rfl)
    rw [htype] at hrows
    exact hrows.symm
  have hlookup := Table.lookup_of_mem hrow
  by_cases happlies : ∃ event, w.appliesEvent op = some event ∧ event.updateId = row.updateId
  · obtain ⟨event, happlies, hid⟩ := happlies
    obtain ⟨updateId, now, hcommits, happlied⟩ := appliesEvent_eq_some happlies
    obtain rfl := (h.appliedEvent_spec happlied).1
    obtain ⟨u, row', hu, hwas, hevent, hrow', hmoves, hstatus⟩ := h.applied_row happlied
    rw [← hcommits.apply_db hstep, hid, hlookup] at hrow'
    rw [hid] at hu
    obtain rfl := Option.some.inj hrow'
    exact .applied event u happlies hid hu hwas hevent hmoves hstatus
  · replace happlies (event : PreparedEvent) (hevent : w.appliesEvent op = some event) :
        event.updateId ≠ row.updateId := fun hid => happlies ⟨event, hevent, hid⟩
    -- a row that is there already is not recorded again, so that a step that applies nothing keeps
    -- it
    have hkept (hsame : w.db.processedUpdate.lookup row.updateId = some row) :
        w.RowStep w' op row := by
      refine .kept hsame (fun event hrecords hid => ?_) happlies
      have hnone := lookup_of_recordsEvent hrecords
      rw [hid, hsame] at hnone
      cases hnone
    rcases step_event hstep with
      ⟨updateId, raw, preparer, event, rfl, hraw, hevent, hidle, rfl⟩ |
      ⟨event, preparedIn, hheld, rfl, rfl⟩ | ⟨-, -, -, hdb⟩
    · exact hkept hlookup
    · rw [afterRecord_db] at hrow
      rcases mem_record hrow with hrow | ⟨rfl, hok⟩
      · exact hkept (Table.lookup_of_mem hrow)
      · exact .recorded event (recordsEvent_of_commit hheld hok) rfl
    · rcases hdb with hdb | ⟨x, hx, hrecord, hdb⟩
      · exact hkept (hdb ▸ hlookup)
      rw [hdb] at hlookup
      -- a purge deletes rows and changes none; every other transaction moves at most its own row
      by_cases hpurge : ∃ now, x = .purge now
      · obtain ⟨now, rfl⟩ := hpurge
        rcases (purgeHistory_purges now).commit w.db row.updateId with hsame | ⟨hgone, -⟩
        · exact hkept (hsame ▸ hlookup)
        · exact absurd (hgone.symm.trans hlookup) (by simp)
      · have hlog := Transaction.log h.noConnectionChange hrecord fun now hx => hpurge ⟨now, hx⟩
        rcases hlog with hsame | ⟨updateId, hsubject, hmoves⟩
        · exact hkept (hsame ▸ hlookup)
        · by_cases hid : row.updateId = updateId
          · subst hid
            obtain ⟨u, hu, -⟩ := hmoves.mem (Table.mem_of_lookup hlookup) (by rw [htype]; rfl)
            rcases Transaction.after_of_stored hsubject hu with
              ⟨now, rfl⟩ | ⟨connectionId, occurredAt, owner, snapshot, answer, now, rfl⟩ | hsame
            · have hnone := h.appliedEvent_none fun event hevent =>
                happlies event (hx.appliesEvent.trans hevent)
              exact hkept (hnone ▸ hlookup)
            · have htrigger := hx.not_trigger hclassed
              rw [hmessage] at htrigger
              cases htrigger
            · exact hkept (hsame ▸ hlookup)
          · exact hkept ((hmoves.others row.updateId hid).symm.trans hlookup)

end World

/-! ## The chronicle -/

/-- The service with the events recorded and the events carried out under every update id, as long
as the update has a row. -/
structure Chronicle where
  world : World
  recorded : Int → List PreparedEvent
  applied : Int → List PreparedEvent

namespace Chronicle

/-- What is noted under an update id after a step that notes an event. -/
def note (db' : Database) (noted : Int → List PreparedEvent) (event : Option PreparedEvent)
    (updateId : Int) : List PreparedEvent :=
  if db'.processedUpdate.contains updateId then
    noted updateId ++ (event.filter (·.updateId = updateId)).toList
  else []

def step (s : Chronicle) (op : Op) : Option Chronicle :=
  (s.world.step op).map fun w' =>
    { world := w'
      recorded := note w'.db s.recorded (s.world.recordsEvent op)
      applied := note w'.db s.applied (s.world.appliesEvent op) }

end Chronicle

/-- The service with its chronicle, before its first start. -/
def chronicle : Machine Chronicle Op where
  init s := ∃ now, s = ⟨.initial now, fun _ => [], fun _ => []⟩
  step := Chronicle.step

namespace Chronicle

variable {s s' : Chronicle} {op : Op} {isTrigger : Int → Bool}

theorem note_of_contains {db' : Database} {noted : Int → List PreparedEvent} {updateId : Int}
    (h : db'.processedUpdate.contains updateId = true) (event : Option PreparedEvent) :
    note db' noted event updateId =
      noted updateId ++ (event.filter (·.updateId = updateId)).toList :=
  if_pos h

theorem note_none {db' : Database} {noted : Int → List PreparedEvent} {updateId : Int}
    (h : db'.processedUpdate.lookup updateId = none) (event : Option PreparedEvent) :
    note db' noted event updateId = [] :=
  if_neg (by simp [Table.contains, h])

/-- An event of another update is not noted here. -/
theorem filter_eq_none {event : Option PreparedEvent} {updateId : Int}
    (h : ∀ e, event = some e → e.updateId ≠ updateId) :
    (event.filter (·.updateId = updateId)).toList = [] := by
  cases event with
  | none => rfl
  | some e => simp [h e rfl]

theorem filter_eq_some {event : PreparedEvent} {updateId : Int} (h : event.updateId = updateId) :
    ((some event).filter (·.updateId = updateId)).toList = [event] := by
  simp [h]

/-- The chronicle of one message: recorded once, and carried out once if it is applied. -/
structure Tells (s : Chronicle) (row : ProcessedUpdate) : Prop where
  recorded : ∃ event, row.event = some event ∧ s.recorded row.updateId = [event]
  applied : row.status = .recorded ∧ s.applied row.updateId = [] ∨
    row.status = .applied ∧ s.applied row.updateId = s.recorded row.updateId

/-- Every message is told once, and nothing is told of an update without a row. -/
structure Told (s : Chronicle) : Prop where
  absent : ∀ updateId, s.world.db.processedUpdate.lookup updateId = none →
    s.recorded updateId = [] ∧ s.applied updateId = []
  message : ∀ row ∈ s.world.db.processedUpdate.rows, row.eventType = .lifecycle → s.Tells row

/-- The service runs as if there were no chronicle. -/
theorem reachableBy_world (h : chronicle.ReachableBy (fun s op => Delivers isTrigger s.world op) s) :
    service.ReachableBy (Delivers isTrigger) s.world := by
  refine h.invariant (P := fun s => service.ReachableBy (Delivers isTrigger) s.world) ?_ ?_
  · rintro s ⟨now, rfl⟩
    exact ⟨_, ⟨now, rfl⟩, .refl _⟩
  · intro s op s' _ ih hop hstep
    obtain ⟨w', hw', rfl⟩ := Option.map_eq_some_iff.1 hstep
    exact ih.step hop hw'

/-- **One step goes on telling.** -/
theorem Told.step (h : s.Told) (hw : service.ReachableBy (Delivers isTrigger) s.world)
    (hop : Delivers isTrigger s.world op) (hstep : s.step op = some s') : s'.Told := by
  obtain ⟨w', hw', rfl⟩ := Option.map_eq_some_iff.1 hstep
  refine ⟨fun updateId hnone => ⟨note_none hnone _, note_none hnone _⟩, fun row hrow htype => ?_⟩
  have hprepared : s.world.EventsPrepared := World.eventsPrepared hw
  have hcontains : w'.db.processedUpdate.contains row.updateId = true :=
    Table.contains_iff.2 ⟨row, hrow, rfl⟩
  have hone := s.world.recordsEvent_or_appliesEvent op
  rcases hprepared.rowStep (World.classed hw) hop hw' hrow htype with
    ⟨event, hrecords, hnew⟩ | ⟨event, u, happlies, hid, hu, hwas, hevent, hmoves, hstatus⟩ |
    ⟨hsame, hrecords, happlies⟩
  · -- a new row: nothing was told of the update before
    have hid : event.updateId = row.updateId := by rw [hnew]; rfl
    have happlies : s.world.appliesEvent op = none := hone.resolve_left (by simp [hrecords])
    obtain ⟨hnone, hnone'⟩ := h.absent _ (World.lookup_of_recordsEvent hrecords)
    rw [hid] at hnone hnone'
    have hrecorded : note w'.db s.recorded (s.world.recordsEvent op) row.updateId = [event] := by
      rw [note_of_contains hcontains, hrecords, filter_eq_some hid, hnone, List.nil_append]
    have happlied : note w'.db s.applied (s.world.appliesEvent op) row.updateId = [] := by
      rw [note_of_contains hcontains, happlies, hnone']
      rfl
    exact ⟨⟨event, by rw [hnew]; rfl, hrecorded⟩, .inl ⟨by rw [hnew]; rfl, happlied⟩⟩
  · -- the recorded row is carried out, with the facts it was recorded with
    have hkey := Table.key_of_lookup hu
    have hrecords : s.world.recordsEvent op = none := hone.resolve_right (by simp [happlies])
    obtain ⟨⟨event', hevent', htold⟩, hstatus'⟩ :=
      h.message u (Table.mem_of_lookup hu) (hmoves.eventType.symm.trans htype)
    obtain rfl : event' = event := Option.some.inj (hevent'.symm.trans hevent)
    have hnone : s.applied u.updateId = [] := by
      rcases hstatus' with ⟨-, hnone⟩ | ⟨hstatus', -⟩
      · exact hnone
      · rw [hwas] at hstatus'
        cases hstatus'
    rw [hkey] at htold hnone
    have hrecorded : note w'.db s.recorded (s.world.recordsEvent op) row.updateId = [event'] := by
      rw [note_of_contains hcontains, hrecords, htold]
      rfl
    have happlied : note w'.db s.applied (s.world.appliesEvent op) row.updateId = [event'] := by
      rw [note_of_contains hcontains, happlies, filter_eq_some hid, hnone, List.nil_append]
    exact ⟨⟨event', hmoves.event.trans hevent, hrecorded⟩,
      .inr ⟨hstatus, happlied.trans hrecorded.symm⟩⟩
  · obtain ⟨⟨event, hevent, htold⟩, hstatus⟩ :=
      h.message row (Table.mem_of_lookup hsame) htype
    have hrecorded : note w'.db s.recorded (s.world.recordsEvent op) row.updateId =
        s.recorded row.updateId := by
      rw [note_of_contains hcontains, filter_eq_none hrecords, List.append_nil]
    have happlied : note w'.db s.applied (s.world.appliesEvent op) row.updateId =
        s.applied row.updateId := by
      rw [note_of_contains hcontains, filter_eq_none happlies, List.append_nil]
    refine ⟨⟨event, hevent, hrecorded.trans htold⟩, ?_⟩
    dsimp only
    rw [hrecorded, happlied]
    exact hstatus

/-- **In a run of deliveries every message is told once.** -/
theorem told (h : chronicle.ReachableBy (fun s op => Delivers isTrigger s.world op) s) : s.Told := by
  refine h.invariant ?_ fun s op s' hs ih hop hstep => ih.step (reachableBy_world hs) hop hstep
  rintro s ⟨now, rfl⟩
  refine ⟨fun _ _ => ⟨rfl, rfl⟩, fun row hrow => ?_⟩
  cases hrow

end Chronicle

/-- **Every message is applied exactly once.** In any run of deliveries, whatever a redelivery is
prepared as as long as it is no connection trigger, and as long as the update has a row: it is
recorded once, its row keeps the facts of that recording, and it is applied if and only if those
facts were carried out, once; and what carries out an event commits with it the effects of the
handler on those facts, and the mark on its row. -/
theorem applied_exactly_once {isTrigger : Int → Bool} {s : Chronicle}
    (h : chronicle.ReachableBy (fun s op => Delivers isTrigger s.world op) s) :
    (∀ row ∈ s.world.db.processedUpdate.rows, row.eventType = .lifecycle →
      ∃ event, row.event = some event ∧ s.recorded row.updateId = [event] ∧
        (row.status = .recorded ∧ s.applied row.updateId = [] ∨
          row.status = .applied ∧ s.applied row.updateId = [event])) ∧
    ∀ op s' event, Delivers isTrigger s.world op → chronicle.step s op = some s' →
      s.world.appliesEvent op = some event →
      ∃ now db₁, LifecycleHandler.apply event s.world.db = .ok ((), db₁) ∧
        markApplied event.updateId now db₁ = .ok (1, s'.world.db) := by
  have htold := Chronicle.told h
  refine ⟨fun row hrow htype => ?_, fun op s' event hop hstep happlies => ?_⟩
  · obtain ⟨⟨event, hevent, hrecorded⟩, hstatus⟩ := htold.message row hrow htype
    rw [hrecorded] at hstatus
    exact ⟨event, hevent, hrecorded, hstatus⟩
  · obtain ⟨w', hw', rfl⟩ := Option.map_eq_some_iff.1 hstep
    have hprepared := World.eventsPrepared (Chronicle.reachableBy_world h)
    obtain ⟨updateId, now, hcommits, happlied⟩ := World.appliesEvent_eq_some happlies
    obtain ⟨rfl, row, db₁, -, -, -, happly, hmark⟩ := hprepared.appliedEvent_spec happlied
    refine ⟨now, db₁, happly, ?_⟩
    rw [hcommits.apply_db hw']
    exact hmark

section

open Sample

/-- A message is recorded, the process stops before it is applied, and a start carries it out; then
it is delivered again, and would be prepared differently. -/
def redelivered : List Op :=
  connected true ++ receive 3 50 1 .inboundMessage .allow .correct 3 ++
    [.crash, .worker (.boot true 4), .worker (.initializeOwner 4), .worker .startupSnapshot,
      .worker (.startupAnswer (found "c" 200) 4), .worker (.recoverNext 4),
      .worker (.recoverNext 4), .worker (.serve signer)] ++
    receive 3 50 1 .inboundMessage .spam .correct 5

/-- The second update is a connection trigger. -/
def redeliveredTrigger (updateId : Int) : Bool := updateId = 2

/-- The message is stored and applied. -/
def Chronicle.hasApplied (s : Chronicle) : Bool :=
  s.world.db.processedUpdate.rows.any fun row =>
    row.updateId = 3 && row.eventType = .lifecycle && row.status = .applied

set_option maxRecDepth 100000 in
theorem applied_exactly_once_redelivered : ∃ (s : Chronicle) (event : PreparedEvent),
    chronicle.ReachableBy (fun s op => Delivers redeliveredTrigger s.world op) s ∧
      s.recorded 3 = [event] ∧ s.applied 3 = [event] := by
  obtain ⟨s, hs, happlied⟩ : ∃ s, chronicle.ReachableBy
      (fun s op => Delivers redeliveredTrigger s.world op) s ∧ s.hasApplied = true :=
    Machine.reachableBy_of_runWhile _ redelivered Chronicle.hasApplied ⟨0, rfl⟩ (by decide +kernel)
  obtain ⟨row, hrow, happlied⟩ := List.any_eq_true.1 happlied
  simp only [Bool.and_eq_true, decide_eq_true_eq] at happlied
  obtain ⟨⟨hid, htype⟩, hstatus⟩ := happlied
  obtain ⟨event, -, hrecorded, hcarried⟩ := (applied_exactly_once hs).1 row hrow htype
  rw [hid] at hrecorded hcarried
  rcases hcarried with ⟨hno, -⟩ | ⟨-, hcarried⟩
  · rw [hstatus] at hno
    cases hno
  · exact ⟨s, event, hs, hrecorded, hcarried⟩

end

end ChatHygiene
