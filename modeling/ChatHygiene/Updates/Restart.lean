import ChatHygiene.Updates.Startup
/-!
# Recovery as a whole

A start replays what is recorded, one event after the other, and ends at the
first that is refused. So it ends well exactly when each event is applicable
where recovery comes to it; and the first that is not stands in the way of
every later start.
-/

namespace ChatHygiene

variable {db : Database}

/-- **Recovery ends well**: the loop returns, and every lifecycle event that was recorded is applied. -/
structure RecoversAll (now : Int → DateTime) (db : Database) : Prop where
  returns : ∃ n, (recoverRecordedEvents now db).2 = .ok n
  applied : ∀ u ∈ db.processedUpdate.rows, u.status = .recorded → u.isTrigger = false →
    ((recoverRecordedEvents now db).1.processedUpdate.lookup u.updateId).map (·.status) =
      some .applied

namespace World

variable {w w' : World} {op : Op} {us : List ProcessedUpdate} {now : Int → DateTime}

/-- The step that comes to the next listed event, at its instant. -/
def RecoversAt (now : Int → DateTime) (w : World) (op : Op) : Prop :=
  ∃ u us, w.worker = .recovering (u :: us) ∧ op = .worker (.recoverNext (now u.updateId))

/-- Every event is applicable where recovery comes to it. -/
def Replayable (now : Int → DateTime) (w : World) : Prop :=
  ∀ w' u us event, service.Runs (RecoversAt now) w w' → w'.worker = .recovering (u :: us) →
    u.isTrigger = false → u.event = some event → event.Applicable w'.db

/-- What the loop over the rest comes to, when it has returned. -/
structure Replayed (now : Int → DateTime) (us : List ProcessedUpdate) (db : Database) : Prop where
  returns : ∃ n, (recoverEvents now us db).2 = .ok n
  applied : ∀ u ∈ us, u.isTrigger = false →
    ((recoverEvents now us db).1.processedUpdate.lookup u.updateId).map (·.status) = some .applied
  others : ∀ k ∉ us.map (·.updateId), (recoverEvents now us db).1.processedUpdate.lookup k =
    db.processedUpdate.lookup k

/-! ## One event of the loop -/

theorem recoverEvents_passed {u : ProcessedUpdate} (htrigger : u.isTrigger = true) :
    recoverEvents now (u :: us) db = recoverEvents now us db := by
  simp [recoverEvents, htrigger]

theorem recoverEvents_applied {u : ProcessedUpdate} {receipt : ApplyReceipt} {db' : Database}
    (hlifecycle : u.isTrigger = false)
    (hx : applyRecordedEvent u.updateId (now u.updateId) db = .ok (receipt, db')) :
    recoverEvents now (u :: us) db = ((recoverEvents now us db').1,
      (recoverEvents now us db').2.map (· + if receipt = .applied then 1 else 0)) := by
  simp [recoverEvents, hlifecycle, Txn.commit_of_ok hx]

theorem recoverEvents_refused {u : ProcessedUpdate} {error : Error} (hlifecycle : u.isTrigger = false)
    (hx : applyRecordedEvent u.updateId (now u.updateId) db = .error error) :
    recoverEvents now (u :: us) db = (db, .error error) := by
  simp [recoverEvents, hlifecycle, Txn.commit_of_error hx]

/-- A trigger is passed over. -/
theorem step_passed {u : ProcessedUpdate} (hworker : w.worker = .recovering (u :: us))
    (htrigger : u.isTrigger = true) (instant : DateTime) :
    service.step w (.worker (.recoverNext instant)) = some { w with worker := .recovering us } := by
  simp [service, World.step, stepWorker, hworker, htrigger]

theorem step_applied {u : ProcessedUpdate} {receipt : ApplyReceipt} {db' : Database}
    {instant : DateTime} (hworker : w.worker = .recovering (u :: us))
    (hlifecycle : u.isTrigger = false)
    (hx : applyRecordedEvent u.updateId instant w.db = .ok (receipt, db')) :
    service.step w (.worker (.recoverNext instant)) =
      some { w with db := db', worker := .recovering us } := by
  simp [service, World.step, stepWorker, hworker, hlifecycle, commitWorker, Txn.commit_of_ok hx,
    orDown]

/-! ## The whole loop -/

/-- The next event joins what the loop over the others has replayed. -/
theorem Replayed.cons {u : ProcessedUpdate} {receipt : ApplyReceipt} {db' : Database}
    (h : Replayed now us db') (hnew : u.updateId ∉ us.map (·.updateId))
    (hlifecycle : u.isTrigger = false)
    (hx : applyRecordedEvent u.updateId (now u.updateId) db = .ok (receipt, db'))
    (happlied : (db'.processedUpdate.lookup u.updateId).map (·.status) = some .applied)
    (hothers : ∀ k ≠ u.updateId, db'.processedUpdate.lookup k = db.processedUpdate.lookup k) :
    Replayed now (u :: us) db := by
  have hloop : recoverEvents now (u :: us) db = ((recoverEvents now us db').1,
      (recoverEvents now us db').2.map (· + if receipt = .applied then 1 else 0)) :=
    recoverEvents_applied hlifecycle hx
  refine ⟨?_, fun v hv hlifecycle' => ?_, fun k hk => ?_⟩
  · obtain ⟨n, hn⟩ := h.returns
    rw [hloop, hn]
    exact ⟨_, rfl⟩
  · rw [hloop]
    rcases List.mem_cons.1 hv with rfl | hlater
    · -- the events after it leave it alone
      dsimp only
      rw [h.others v.updateId hnew]
      exact happlied
    · exact h.applied v hlater hlifecycle'
  · rw [List.map_cons, List.mem_cons, not_or] at hk
    rw [hloop]
    dsimp only
    rw [h.others k hk.2, hothers k hk.1]

theorem Replayed.pass {u : ProcessedUpdate} (h : Replayed now us db) (htrigger : u.isTrigger = true) :
    Replayed now (u :: us) db := by
  have hloop : recoverEvents now (u :: us) db = recoverEvents now us db :=
    recoverEvents_passed htrigger
  refine ⟨hloop ▸ h.returns, fun v hv hlifecycle => ?_, fun k hk => ?_⟩
  · rw [hloop]
    rcases List.mem_cons.1 hv with rfl | hlater
    · rw [htrigger] at hlifecycle
      cases hlifecycle
    · exact h.applied v hlater hlifecycle
  · rw [List.map_cons, List.mem_cons, not_or] at hk
    rw [hloop]
    exact h.others k hk.2

/-- **The loop replays all that is listed, or comes to an event that is refused** and leaves the
service wedged. -/
theorem replayed_or_wedged (h : service.Reachable w) (hworker : w.worker = .recovering us)
    (now : Int → DateTime) :
    Replayed now us w.db ∨ ∃ w', ∃ u ∈ us, ∃ us' event, service.Runs (RecoversAt now) w w' ∧
      w'.worker = .recovering (u :: us') ∧ u.isTrigger = false ∧ u.event = some event ∧
      ¬event.Applicable w'.db ∧ (w.afterRecovery (recoverEvents now us w.db)).Wedged u event := by
  induction us generalizing w with
  | nil =>
    left
    exact ⟨⟨0, rfl⟩, by simp, fun k _ => rfl⟩
  | cons u us ih =>
    have hrecovering : w.Recovering (u :: us) := recovering h (by rw [hworker]; rfl)
    obtain ⟨hnew, -⟩ := List.nodup_cons.1 hrecovering.distinct
    obtain ⟨hu, hrecorded⟩ := hrecovering.listed u (List.mem_cons_self ..)
    have hat : RecoversAt now w (.worker (.recoverNext (now u.updateId))) := ⟨u, us, hworker, rfl⟩
    cases hlifecycle : u.isTrigger with
    | true =>
      have hstep := step_passed hworker hlifecycle (now u.updateId)
      rcases ih (w := { w with worker := .recovering us }) (h.step trivial hstep) rfl with
        hreplayed | ⟨w', v, hlater, us', event, hrun, hw', hv, hevent, hrefused, hwedged⟩
      · exact .inl (hreplayed.pass hlifecycle)
      · have hruns := ((Machine.Runs.refl w).tail _ hat hstep).trans hrun
        refine .inr ⟨w', v, List.mem_cons_of_mem _ hlater, us', event, hruns, hw', hv, hevent,
          hrefused, ?_⟩
        rw [recoverEvents_passed hlifecycle]
        exact hwedged
    | false =>
      have hprepared := eventsPrepared h
      obtain ⟨event, preparedIn, -, hin⟩ := hprepared.recorded u hu hrecorded
      by_cases happlicable : event.Applicable w.db
      · obtain ⟨receipt, db', hx, -, -, hsettled, -⟩ :=
          applyRecordedEvent_yields (Table.lookup_of_mem hu) hrecorded hin.carries hin.updateId
            hin.issued.genuine.facts hin.issued.belongs happlicable (now u.updateId)
        have hstep := step_applied hworker hlifecycle hx
        rcases ih (w := { w with db := db', worker := .recovering us }) (h.step trivial hstep) rfl with
          hreplayed | ⟨w', v, hlater, us', event', hrun, hw', hv, hevent, hrefused, hwedged⟩
        · exact .inl (hreplayed.cons hnew hlifecycle hx hsettled.applied hsettled.others)
        · have hruns := ((Machine.Runs.refl w).tail _ hat hstep).trans hrun
          refine .inr ⟨w', v, List.mem_cons_of_mem _ hlater, us', event', hruns, hw', hv, hevent,
            hrefused, ?_⟩
          rw [recoverEvents_applied hlifecycle hx, afterRecovery_map]
          exact hwedged
      · have hwedged := wedged_of_refused h hworker hlifecycle hin.carries happlicable
        exact .inr ⟨w, u, List.mem_cons_self .., us, event, .refl w, hworker, hlifecycle,
          hin.carries, happlicable,
          hwedged.run h ((runs_recoverEvents now hworker).mono fun _ _ _ => trivial)⟩

/-- Where the loop returns, it has come to no event that is refused. -/
theorem replayable_of_returns (h : service.Reachable w) (hworker : w.worker = .recovering us)
    (hreturns : ∃ n, (recoverEvents now us w.db).2 = .ok n) : w.Replayable now := by
  -- along the run, the loop over what is left returns
  have hrest {w' : World} (hrun : service.Runs (RecoversAt now) w w') :
      service.Reachable w' ∧ ∀ us', w'.worker = .recovering us' →
        ∃ n, (recoverEvents now us' w'.db).2 = .ok n := by
    refine hrun.invariant (P := fun w' => service.Reachable w' ∧ ∀ us', w'.worker = .recovering us' →
      ∃ n, (recoverEvents now us' w'.db).2 = .ok n) ⟨h, fun us' hus' => ?_⟩ ?_
    · rw [hworker] at hus'
      cases hus'
      exact hreturns
    · rintro w₁ op w₂ ⟨hw₁, hreturns₁⟩ ⟨u, us', hworker₁, rfl⟩ hstep
      refine ⟨hw₁.step trivial hstep, fun us₂ hus₂ => ?_⟩
      obtain ⟨n, hn⟩ := hreturns₁ _ hworker₁
      cases hlifecycle : u.isTrigger with
      | true =>
        rw [step_passed hworker₁ hlifecycle] at hstep
        cases hstep
        cases hus₂
        rw [recoverEvents_passed hlifecycle] at hn
        exact ⟨n, hn⟩
      | false =>
        cases hx : applyRecordedEvent u.updateId (now u.updateId) w₁.db with
        | error error =>
          rw [recoverEvents_refused hlifecycle hx] at hn
          cases hn
        | ok r =>
          obtain ⟨receipt, db'⟩ := r
          rw [step_applied hworker₁ hlifecycle hx] at hstep
          cases hstep
          cases hus₂
          rw [recoverEvents_applied hlifecycle hx] at hn
          dsimp only at hn ⊢
          cases hthen : (recoverEvents now us' db').2 with
          | error error =>
            rw [hthen] at hn
            cases hn
          | ok m => exact ⟨m, rfl⟩
  intro w' u us' event hrun hworker' hlifecycle hevent
  obtain ⟨hw', hreturns'⟩ := hrest hrun
  obtain ⟨n, hn⟩ := hreturns' _ hworker'
  have hrecovering : w'.Recovering (u :: us') := recovering hw' (by rw [hworker']; rfl)
  obtain ⟨hu, hrecorded⟩ := hrecovering.listed u (List.mem_cons_self ..)
  refine ((eventsPrepared hw').apply_succeeds_iff hu hrecorded hevent (now u.updateId)).1 ?_
  cases hx : applyRecordedEvent u.updateId (now u.updateId) w'.db with
  | error error =>
    rw [recoverEvents_refused hlifecycle hx] at hn
    cases hn
  | ok r => exact ⟨r, hx⟩

/-- Recovery ends well, or it ends at an event that is refused and wedges the service. -/
theorem recoversAll_or_wedged (h : service.Reachable w)
    (hworker : w.worker = .recovering (recordedUpdates w.db)) (now : Int → DateTime) :
    RecoversAll now w.db ∨ ¬w.Replayable now ∧ ∃ u ∈ w.db.processedUpdate.rows,
      u.status = .recorded ∧ u.isTrigger = false ∧ ∀ w', service.Runs (fun _ _ => True)
        (w.afterRecovery (recoverRecordedEvents now w.db)) w' →
          w'.worker.serving = false ∧ u ∈ w'.db.processedUpdate.rows := by
  rcases replayed_or_wedged h hworker now with
    hreplayed | ⟨w₁, u, hlisted, us', event, hrun, hw₁, hlifecycle, hevent, hrefused, hwedged⟩
  · exact .inl ⟨hreplayed.returns, fun u hu hrecorded hlifecycle =>
      hreplayed.applied u (mem_recordedUpdates.2 ⟨hu, hrecorded⟩) hlifecycle⟩
  · obtain ⟨hu, hrecorded⟩ := mem_recordedUpdates.1 hlisted
    refine .inr ⟨fun hreplayable => ?_, u, hu, hrecorded, hlifecycle, fun w' hthen => ?_⟩
    · exact hrefused (hreplayable w₁ u us' event hrun hw₁ hlifecycle hevent)
    · obtain ⟨w₀, hinit, hbefore⟩ := h
      have hended : service.Reachable (w.afterRecovery (recoverRecordedEvents now w.db)) :=
        ⟨w₀, hinit, hbefore.trans
          ((runs_recoverRecordedEvents now hworker).mono fun _ _ _ => trivial)⟩
      have hstill := hwedged.run hended hthen
      exact ⟨hstill.stopped, hstill.recorded⟩

/-- **A restart recovers what is recorded exactly when each event is applicable where recovery comes
to it.** From every reachable world that the startup lookup has left, whatever was answered: the loop
returns with every recorded lifecycle event applied if and only if each event it comes to is
applicable. If one is not, the service never runs again, and a recorded event stays so. -/
theorem restart_recovers_iff (h : service.Reachable w)
    (hworker : w.worker = .recovering (recordedUpdates w.db)) (now : Int → DateTime) :
    (RecoversAll now w.db ↔ w.Replayable now) ∧
    (¬w.Replayable now → ∃ u ∈ w.db.processedUpdate.rows, u.status = .recorded ∧
      u.isTrigger = false ∧ ∀ w', service.Runs (fun _ _ => True)
        (w.afterRecovery (recoverRecordedEvents now w.db)) w' →
          w'.worker.serving = false ∧ u ∈ w'.db.processedUpdate.rows) := by
  have hback (hrecovers : RecoversAll now w.db) : w.Replayable now :=
    replayable_of_returns h hworker hrecovers.returns
  rcases recoversAll_or_wedged h hworker now with hrecovers | ⟨hnot, hwedged⟩
  · have hreplayable := hback hrecovers
    exact ⟨⟨hback, fun _ => hrecovers⟩, fun hnot => absurd hreplayable hnot⟩
  · exact ⟨⟨hback, fun hreplayable => absurd hreplayable hnot⟩, fun _ => hwedged⟩

section

open Sample

/-- The service is about to replay what is listed, and the loop returns, or does not. -/
def startsRecovery (returns : Bool) (w : World) : Bool :=
  match w.worker with
  | .recovering us => us = recordedUpdates w.db && us.any (!·.isTrigger) &&
      (recoverRecordedEvents (fun _ => 4) w.db).2.toOption.isSome = returns
  | _ => false

theorem startsRecovery_recovering {returns : Bool} (h : startsRecovery returns w = true) :
    w.worker = .recovering (recordedUpdates w.db) ∧
      ((∃ n, (recoverRecordedEvents (fun _ => 4) w.db).2 = .ok n) ↔ returns = true) := by
  unfold startsRecovery at h
  split at h
  · next us hworker =>
    simp only [Bool.and_eq_true, decide_eq_true_eq] at h
    obtain ⟨⟨rfl, -⟩, hreturns⟩ := h
    refine ⟨hworker, ?_⟩
    rw [← hreturns]
    cases (recoverRecordedEvents (fun _ => 4) w.db).2 <;> simp [Except.toOption]
  · cases h

/-- A message is recorded, the process stops, and the next start finds the connection as it was. -/
def interruptedMeanwhile : List Op :=
  Sample.connected false ++ receive 3 50 1 .inboundMessage .allow .correct 3 ++
    [.crash, .worker (.boot false 4), .worker (.initializeOwner 4), .worker .startupSnapshot,
      .worker (.startupAnswer (found "c" 200) 4)]

set_option maxRecDepth 100000 in
theorem restart_recovers_iff_interrupted : ∃ w : World, service.Reachable w ∧
    w.worker = .recovering (recordedUpdates w.db) ∧ w.Replayable (fun _ => 4) ∧
    RecoversAll (fun _ => 4) w.db := by
  obtain ⟨w, hw, hstarts⟩ : ∃ w, service.Reachable w ∧ startsRecovery true w = true :=
    Machine.reachable_of_run interruptedMeanwhile (startsRecovery true) ⟨0, rfl⟩ (by decide +kernel)
  obtain ⟨hworker, hreturns⟩ := startsRecovery_recovering hstarts
  have hreplayable : w.Replayable (fun _ => 4) :=
    replayable_of_returns hw hworker (hreturns.2 rfl)
  exact ⟨w, hw, hworker, hreplayable, (restart_recovers_iff hw hworker _).1.2 hreplayable⟩

set_option maxRecDepth 100000 in
/-- A message is recorded, and the start after a crash learns that its connection is gone: recovery
fails, and so does every later start. -/
theorem restart_wedges : ∃ w : World, service.Reachable w ∧
    w.worker = .recovering (recordedUpdates w.db) ∧ ¬RecoversAll (fun _ => 4) w.db ∧
    ∃ u ∈ w.db.processedUpdate.rows, u.status = .recorded ∧ u.isTrigger = false ∧
      ∀ w', service.Runs (fun _ _ => True)
        (w.afterRecovery (recoverRecordedEvents (fun _ => 4) w.db)) w' →
          w'.worker.serving = false ∧ u ∈ w'.db.processedUpdate.rows := by
  obtain ⟨w, hw, hstarts⟩ : ∃ w, service.Reachable w ∧ startsRecovery false w = true :=
    Machine.reachable_of_run disconnectedMeanwhile (startsRecovery false) ⟨0, rfl⟩ (by decide +kernel)
  obtain ⟨hworker, hreturns⟩ := startsRecovery_recovering hstarts
  have hnot : ¬RecoversAll (fun _ => 4) w.db := by
    intro hrecovers
    have hno := hreturns.1 hrecovers.returns
    cases hno
  rcases recoversAll_or_wedged hw hworker (fun _ => 4) with hrecovers | ⟨-, hwedged⟩
  · exact absurd hrecovers hnot
  · exact ⟨w, hw, hworker, hnot, hwedged⟩

end

end World

end ChatHygiene
