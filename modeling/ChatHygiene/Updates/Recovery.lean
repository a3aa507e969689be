import ChatHygiene.Updates.Once
/-!
# Recovery

A start goes through what an interrupted worker left recorded, one event a
step. What is still listed is recorded, and what is recorded is still listed,
or it is a connection trigger, which recovery passes over.
-/

namespace ChatHygiene

open Txn (commit)

variable {db db' : Database}

theorem mem_recordedUpdates {u : ProcessedUpdate} :
    u ∈ recordedUpdates db ↔ u ∈ db.processedUpdate.rows ∧ u.status = .recorded := by
  unfold recordedUpdates
  rw [(List.perm_insertionSort _ _).mem_iff, List.mem_filter, decide_eq_true_eq]

theorem recordedUpdates_nodup : ((recordedUpdates db).map (·.updateId)).Nodup := by
  unfold recordedUpdates
  refine ((List.perm_insertionSort _ _).map _).nodup_iff.2 ?_
  exact db.processedUpdate.nodup.sublist (List.filter_sublist.map _)

namespace World

variable {w w' : World} {op : Op} {us : List ProcessedUpdate}

/-- What is left to go through in recovery. -/
structure Recovering (w : World) (us : List ProcessedUpdate) : Prop where
  listed : ∀ u ∈ us, u ∈ w.db.processedUpdate.rows ∧ u.status = .recorded
  distinct : (us.map (·.updateId)).Nodup
  passed : ∀ u ∈ w.db.processedUpdate.rows, u.status = .recorded → u ∈ us ∨ u.isTrigger = true

theorem Recovering.start (h : w.db = db) : w.Recovering (recordedUpdates db) := by
  subst h
  exact ⟨fun u hu => mem_recordedUpdates.1 hu, recordedUpdates_nodup,
    fun u hu hrecorded => .inl (mem_recordedUpdates.2 ⟨hu, hrecorded⟩)⟩

/-- A step of recovery. -/
inductive RecoveryStep (w w' : World) (op : Op) : List ProcessedUpdate → Prop
  | stopped (us : List ProcessedUpdate) (h : w'.worker = .down) : RecoveryStep w w' op us
  | finished (hop : ∃ now, op = .worker (.recoverNext now))
    (h : w' = { w with worker := .recovered }) : RecoveryStep w w' op []
  | passed (u : ProcessedUpdate) (us : List ProcessedUpdate) (htrigger : u.isTrigger = true)
    (h : w' = { w with worker := .recovering us }) : RecoveryStep w w' op (u :: us)
  | applied (u : ProcessedUpdate) (us : List ProcessedUpdate) (now : DateTime)
    (receipt : ApplyReceipt) (db' : Database) (htrigger : u.isTrigger = false)
    (hcommits : w.Commits op (.apply u.updateId now))
    (hx : applyRecordedEvent u.updateId now w.db = .ok (receipt, db'))
    (h : w' = { w with db := db', worker := .recovering us }) : RecoveryStep w w' op (u :: us)

/-- **What a step of recovery comes to.** -/
theorem step_recovering (hworker : w.worker = .recovering us) (hstep : w.step op = some w') :
    RecoveryStep w w' op us := by
  cases op with
  | crash =>
    cases hstep
    exact .stopped us rfl
  | dispatcher op => simp [World.step, hworker, WorkerPhase.serving] at hstep
  | worker op =>
    cases op with
    | recoverNext now =>
      cases us with
      | nil =>
        simp only [World.step, stepWorker, hworker] at hstep
        exact .finished ⟨now, rfl⟩ (Option.some.inj hstep).symm
      | cons u us =>
        simp only [World.step, stepWorker, hworker] at hstep
        split at hstep
        · next htrigger => exact .passed u us htrigger (Option.some.inj hstep).symm
        · next htrigger =>
          rw [Bool.not_eq_true] at htrigger
          obtain rfl := Option.some.inj hstep
          cases hx : applyRecordedEvent u.updateId now w.db with
          | error error =>
            refine .stopped _ ?_
            simp only [commitWorker, Txn.commit_of_error hx, orDown]
          | ok r =>
            obtain ⟨receipt, db'⟩ := r
            refine .applied u us now receipt db' htrigger (.recover hworker htrigger) hx ?_
            simp only [commitWorker, Txn.commit_of_ok hx, orDown]
    | storageFailure =>
      simp only [World.step, stepWorker, hworker, WorkerPhase.serving, Bool.false_eq_true,
        if_false] at hstep
      obtain rfl := Option.some.inj hstep
      exact .stopped us rfl
    | _ => simp [World.step, stepWorker, hworker] at hstep

/-- A step of recovery, at whatever instant. -/
def RecoversNext (_ : World) (op : Op) : Prop := ∃ now, op = .worker (.recoverNext now)

/-- The world that the loop over the listed events leaves. -/
def afterRecovery (w : World) (result : Database × Except Error Nat) : World :=
  { w with db := result.1, worker := orDown (fun _ => .recovered) result.2 }

theorem afterRecovery_map (w : World) (db : Database) (result : Except Error Nat) (f : Nat → Nat) :
    w.afterRecovery (db, result.map f) = w.afterRecovery (db, result) := by
  cases result <;> rfl

/-- **The steps of recovery are those of the loop**, at whatever instants the events are applied. -/
theorem runs_recoverEvents (now : Int → DateTime) (hworker : w.worker = .recovering us) :
    service.Runs RecoversNext w (w.afterRecovery (recoverEvents now us w.db)) := by
  induction us generalizing w with
  | nil =>
    have hstep : service.step w (.worker (.recoverNext 0)) =
        some (w.afterRecovery (recoverEvents now [] w.db)) := by
      simp only [service, World.step, stepWorker, hworker]
      rfl
    exact (Machine.Runs.refl w).tail _ ⟨0, rfl⟩ hstep
  | cons u us ih =>
    cases htrigger : u.isTrigger with
    | true =>
      have hstep : service.step w (.worker (.recoverNext 0)) =
          some { w with worker := .recovering us } := by
        simp [service, World.step, stepWorker, hworker, htrigger]
      have hloop : recoverEvents now (u :: us) w.db = recoverEvents now us w.db := by
        simp [recoverEvents, htrigger]
      have hrest := @ih { w with worker := .recovering us } rfl
      rw [hloop]
      exact ((Machine.Runs.refl w).tail _ ⟨0, rfl⟩ hstep).trans hrest
    | false =>
      have hstep : service.step w (.worker (.recoverNext (now u.updateId))) =
          some (w.commitWorker (applyRecordedEvent u.updateId (now u.updateId))
            (orDown fun _ => .recovering us)) := by
        simp [service, World.step, stepWorker, hworker, htrigger]
      have hhead : service.Runs RecoversNext w (w.commitWorker
          (applyRecordedEvent u.updateId (now u.updateId)) (orDown fun _ => .recovering us)) :=
        (Machine.Runs.refl w).tail _ ⟨_, rfl⟩ hstep
      unfold recoverEvents
      rw [htrigger, if_neg Bool.false_ne_true]
      unfold commitWorker at hhead
      cases hcommit : commit (applyRecordedEvent u.updateId (now u.updateId)) w.db with
      | mk db' result =>
        rw [hcommit] at hhead
        cases result with
        | error error => exact hhead
        | ok receipt =>
          have hrest := @ih { w with db := db', worker := .recovering us } rfl
          dsimp only
          rw [afterRecovery_map]
          exact hhead.trans hrest

/-- **A start recovers what is recorded**: from the listing on, the steps of recovery leave what
the loop leaves, and the service goes on unless an event is refused. -/
theorem runs_recoverRecordedEvents (now : Int → DateTime)
    (hworker : w.worker = .recovering (recordedUpdates w.db)) :
    service.Runs RecoversNext w (w.afterRecovery (recoverRecordedEvents now w.db)) :=
  runs_recoverEvents now hworker

/-- What has been gone through is not recorded any more. -/
theorem EventsPrepared.apply_passed (h : w.EventsPrepared) {updateId : Int} {now : DateTime}
    {receipt : ApplyReceipt} (hx : applyRecordedEvent updateId now w.db = .ok (receipt, db')) :
    (∀ k ≠ updateId, db'.processedUpdate.lookup k = w.db.processedUpdate.lookup k) ∧
      ∀ u ∈ db'.processedUpdate.rows, u.updateId = updateId → u.status ≠ .recorded := by
  have hafter : (Transaction.apply updateId now).after w.db = db' := by
    change (commit (applyRecordedEvent updateId now) w.db).1 = db'
    rw [Txn.commit_of_ok hx]
  have hlog : LogMoves updateId w.db db' := by
    rw [← hafter]
    exact applyRecordedEvent_moves h.noConnectionChange now
  refine ⟨hlog.others, fun u hu hid hrecorded => ?_⟩
  have hlookup := Table.lookup_of_mem hu
  rw [show u.updateId = updateId from hid] at hlookup
  rcases applyRecordedEvent_ok hx with ⟨rfl, rfl⟩ | ⟨rfl, row, event, db₁, hrow, -, hevent, -, -⟩
  · -- an event that is recorded is not already applied
    unfold applyRecordedEvent at hx
    rw [Txn.read_bind_apply, hlookup] at hx
    dsimp only at hx
    rw [hrecorded] at hx
    cases hevent : u.event with
    | none =>
      rw [hevent] at hx
      cases hx
    | some event =>
      rw [hevent] at hx
      obtain ⟨⟨⟩, s, -, hx⟩ := Txn.bind_ok_iff.1 hx
      obtain ⟨affected, s', -, hx⟩ := Txn.bind_ok_iff.1 hx
      split at hx <;> cases hx
  · have happlied : appliedEvent updateId now w.db = some event := by
      unfold appliedEvent
      rw [hx]
      simp [hrow, hevent]
    obtain ⟨-, row', -, -, -, hrow', -, hstatus⟩ := h.applied_row happlied
    rw [hafter, hlookup] at hrow'
    obtain rfl := Option.some.inj hrow'
    rw [hrecorded] at hstatus
    cases hstatus

/-- **Recovery goes on with what is recorded.** -/
theorem Recovering.step (h : w.Recovering us) (hprepared : w.EventsPrepared)
    (hstep : RecoveryStep w w' op us) {us' : List ProcessedUpdate}
    (hus' : w'.worker.remaining = some us') : w'.Recovering us' := by
  cases hstep with
  | stopped us hdown =>
    rw [hdown] at hus'
    cases hus'
  | finished hop hw' =>
    subst hw'
    obtain rfl := Option.some.inj hus'
    exact ⟨h.listed, h.distinct, h.passed⟩
  | passed u us htrigger hw' =>
    subst hw'
    obtain rfl := Option.some.inj hus'
    refine ⟨fun v hv => h.listed v (List.mem_cons_of_mem _ hv), (List.nodup_cons.1 h.distinct).2,
      fun v hv hrecorded => ?_⟩
    rcases h.passed v hv hrecorded with hlisted | htrigger'
    · rcases List.mem_cons.1 hlisted with rfl | hlisted
      · exact .inr htrigger
      · exact .inl hlisted
    · exact .inr htrigger'
  | applied u us now receipt db' htrigger hcommits hx hw' =>
    subst hw'
    obtain rfl := Option.some.inj hus'
    obtain ⟨hothers, happlied⟩ := hprepared.apply_passed hx
    obtain ⟨hnot, hdistinct⟩ := List.nodup_cons.1 h.distinct
    refine ⟨fun v hv => ?_, hdistinct, fun v hv hrecorded => ?_⟩
    · obtain ⟨hmem, hrecorded⟩ := h.listed v (List.mem_cons_of_mem _ hv)
      have hne : v.updateId ≠ u.updateId := by
        intro hid
        exact hnot (List.mem_map.2 ⟨v, hv, hid⟩)
      refine ⟨Table.mem_of_lookup (k := v.updateId) ?_, hrecorded⟩
      rw [hothers _ hne]
      exact Table.lookup_of_mem hmem
    · have hne : v.updateId ≠ u.updateId := fun hid => happlied v hv hid hrecorded
      have hmem : v ∈ w.db.processedUpdate.rows := by
        refine Table.mem_of_lookup (k := v.updateId) ?_
        rw [← hothers _ hne]
        exact Table.lookup_of_mem hv
      refine (h.passed v hmem hrecorded).imp_left fun hlisted => ?_
      rcases List.mem_cons.1 hlisted with rfl | hlisted
      · exact absurd rfl hne
      · exact hlisted

/-- **Recovery begins where the startup lookup ends**, with what is recorded then. -/
theorem step_remaining (hstep : w.step op = some w') (hus : w'.worker.remaining = some us) :
    (∃ us, w.worker = .recovering us) ∨ us = recordedUpdates w'.db := by
  cases op with
  | crash =>
    cases hstep
    cases hus
  | dispatcher op =>
    -- the dispatcher runs only when the service does
    obtain ⟨hserving, h⟩ := Option.ite_none_right_eq_some.1 hstep
    have hsame : w'.worker = w.worker := (stepDispatcher_frame h).1
    rw [hsame] at hus
    cases hworker : w.worker <;> simp [hworker, WorkerPhase.remaining, WorkerPhase.serving] at hus hserving
  | worker op =>
    cases stepWorker_step hstep with
    | rests hrests hlisted => exact hlisted us hus
    | takesOn phase htakes hw' =>
      subst hw'
      cases htakes <;> cases hus
    | records event preparedIn hw hop hw' =>
      subst hw'
      rw [remaining_afterRecord] at hus
      cases hus

/-- **In every reachable world recovery lists what is recorded**, but for the triggers it has passed
over. -/
theorem recovering {ok : World → Op → Prop} (h : service.ReachableBy ok w)
    (hus : w.worker.remaining = some us) : w.Recovering us := by
  revert us
  refine h.invariant (P := fun w => ∀ {us}, w.worker.remaining = some us → w.Recovering us) ?_
    fun w op w' hw ih _ hstep us' hus' => ?_
  · rintro w ⟨now, rfl⟩ us hus
    cases hus
  · rcases step_remaining hstep hus' with ⟨us, hworker⟩ | rfl
    · exact (ih (by rw [hworker]; rfl)).step (eventsPrepared hw) (step_recovering hworker hstep) hus'
    · exact .start rfl

end World

end ChatHygiene
