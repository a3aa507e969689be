import ChatHygiene.Connection.Lookup
import ChatHygiene.Connection.Withheld
import ChatHygiene.Updates.Recovery
/-!
# What startup cannot apply

A start looks the trusted connection up and then applies what is recorded. An
event whose conversation has lost its connection, or does not accept it any
more, is refused; the start ends there, and every later start does. For until
the service runs, connections only go and conversations stay as they are.
-/

namespace ChatHygiene

open Txn (Respects commit)

variable {db db' db'' : Database}

/-! ## What a start leaves of the conversations -/

/-- Connections only go, and the conversations of those that are left are as they were. -/
structure Shrunk (db db' : Database) : Prop where
  connections : ∀ c, db'.businessConnection.contains c = true →
    db.businessConnection.contains c = true
  lives : ∀ key : ConversationKey, db'.businessConnection.contains key.connectionId = true →
    db'.lifecycle key = db.lifecycle key

namespace Shrunk

protected theorem refl (db : Database) : Shrunk db db := ⟨fun _ h => h, fun _ _ => rfl⟩

/-- Where conversations and challenges are left alone. -/
theorem of_frame {targets : List Target} (h : Frame targets db.toTables db'.toTables)
    (hconversation : Target.conversation ∉ targets) (hchallenge : Target.challenge ∉ targets)
    (hdrop : Target.dropConnection ∉ targets)
    (hids : ∀ c ∈ db'.businessConnection.rows, db.businessConnection.contains c.connectionId = true) :
    Shrunk db db' where
  connections c hc := by
    obtain ⟨row, hrow, rfl⟩ := Table.contains_iff.1 hc
    exact hids row hrow
  lives key _ := Database.lifecycle_of_frame h hconversation hchallenge hdrop

theorem of_withheld {targets : List Target} (h : Frame targets db.toTables db'.toTables)
    (hconversation : Target.conversation ∉ targets) (hchallenge : Target.challenge ∉ targets)
    (hdrop : Target.dropConnection ∉ targets) (hwithheld : Withheld db db') : Shrunk db db' := by
  refine of_frame h hconversation hchallenge hdrop fun c' hc' => ?_
  obtain ⟨c, hc, hwithholds⟩ := hwithheld.row hc'
  rw [hwithholds.connectionId]
  exact Table.contains_of_mem hc

/-- Without connections there is no conversation to speak of. -/
theorem of_empty (h : db'.businessConnection.rows = []) : Shrunk db db' := by
  have hnone (c : String) : db'.businessConnection.contains c ≠ true := by
    intro hc
    obtain ⟨row, hrow, -⟩ := Table.contains_iff.1 hc
    rw [h] at hrow
    cases hrow
  exact ⟨fun c hc => absurd hc (hnone c), fun key hkey => absurd hkey (hnone _)⟩

instance : Std.Refl Shrunk := ⟨Shrunk.refl⟩

end Shrunk

theorem normalizeStartupReconciliation_shrunk (now : DateTime) :
    Respects Shrunk (normalizeStartupReconciliation now) := by
  intro db _ db' h
  have hwrites : WritesTo [.reconciliation, .connection] (fun _ => True) db db' :=
    (normalizeStartupReconciliation_writes (by simp) now).of_ok h
  exact .of_withheld hwrites.frame (by simp) (by simp) (by simp)
    ((normalizeStartupReconciliation_withheld now).of_ok h)

theorem initializeOrLoadOwnerIdentity_shrunk (now : DateTime) :
    Respects Shrunk (initializeOrLoadOwnerIdentity now) := by
  intro db _ db' h
  have hwrites : WritesTo [.owner] (fun _ => True) db db' :=
    (initializeOrLoadOwnerIdentity_writes (by simp) now).of_ok h
  exact .of_withheld hwrites.frame (by simp) (by simp) (by simp)
    (.of_eq (hwrites.frame.businessConnection (by simp) (by simp)))

/-- Whether an action is refused does not depend on the id of the next challenge. -/
theorem Lifecycle.effect_none_congr {l : Lifecycle} {m n : Nat} {noReplies : Bool}
    {action : PreparedAction} (h : l.effect m noReplies action = none) :
    l.effect n noReplies action = none := by
  obtain ⟨detection, outcome, dryRunSpam, rfl, hnone⟩ := Lifecycle.effect_eq_none_iff.1 h
  refine Lifecycle.effect_eq_none_iff.2 ⟨detection, outcome, dryRunSpam, rfl, ?_⟩
  cases outcome with
  | startChallenge e hmac v c x maxAttempts =>
    change l.challenged m maxAttempts = none at hnone
    change l.challenged n maxAttempts = none
    unfold Lifecycle.challenged at hnone ⊢
    split at hnone
    · next hguard =>
      rw [if_pos hguard]
      obtain ⟨e, he⟩ := Lifecycle.moved_eq_none_iff.1 hnone
      exact Lifecycle.moved_eq_none_iff.2 ⟨e, he⟩
    · next hguard => rw [if_neg hguard]
  | _ => exact hnone

/-- **What is refused stays so.** -/
theorem Shrunk.applicable (h : Shrunk db db') {event : PreparedEvent}
    (happlicable : event.Applicable db') : event.Applicable db where
  connection hcreates key hkey := h.connections _ (happlicable.connection hcreates key hkey)
  accepted key hkey hnone := by
    obtain ⟨detection, outcome, dryRunSpam, haction, -⟩ := Lifecycle.effect_eq_none_iff.1 hnone
    have hcreates : event.facts.action.createsConversation = true := by
      rw [haction]
      rfl
    have hstored := happlicable.connection hcreates key hkey
    refine happlicable.accepted key hkey ?_
    rw [h.lives key hstored]
    exact Lifecycle.effect_none_congr hnone

/-- **A startup lookup takes away, and adds nothing.** -/
theorem LookupCommitted.shrunk {connectionId : String} {snapshot : ConnectionReconciliationSnapshot}
    {answer : LookupAnswer} {now : DateTime} {t : BusinessConnectionRecord}
    (h : LookupCommitted connectionId snapshot answer now db db')
    (hvalid : answer.validFor connectionId = true) (hrows : db.businessConnection.rows = [t])
    (hid : t.connectionId = connectionId) : Shrunk db db' := by
  have hsame {targets : List Target} {s : Database} (h : Frame targets s.toTables db'.toTables)
      (hconnection : .connection ∉ targets) (hdrop : .dropConnection ∉ targets) :
      db'.businessConnection = s.businessConnection := h.businessConnection hconnection hdrop
  have hstored {c : BusinessConnectionRecord} (hc : c.connectionId = connectionId) :
      db.businessConnection.contains c.connectionId = true :=
    Table.contains_iff.2 ⟨t, by simp [hrows], hid.trans hc.symm⟩
  have hkept {targets : List Target} (h : Frame targets db.toTables db'.toTables)
      (hconnection : .connection ∉ targets) (hdrop : .dropConnection ∉ targets)
      (hconversation : .conversation ∉ targets) (hchallenge : .challenge ∉ targets) :
      Shrunk db db' := by
    refine .of_frame h hconversation hchallenge hdrop fun c hc => ?_
    rw [hsame h hconnection hdrop] at hc
    exact Table.contains_of_mem hc
  cases h with
  | aside h => exact hkept h (by simp) (by simp) (by simp) (by simp)
  | notFound write db₁ hanswer hretire h =>
    cases retireTrustedConnectionNotFound_ok hretire with
    | absent hnone hframe =>
      have hframe : Frame [.candidate, .owner, .update, .audit] db.toTables db'.toTables :=
        (hframe.mono (by simp)).trans (h.mono (by simp))
      exact hkept hframe (by simp) (by simp) (by simp) (by simp)
    | conflict hsame => exact hkept (hsame ▸ h) (by simp) (by simp) (by simp) (by simp)
    | retired r hr hrid hcurrent hretired hfloor hages hframe =>
      refine .of_empty ?_
      rw [hsame h (by simp) (by simp), hretired, hrows]
      simp [hid]
  | authFailed global hanswer h =>
    have hwrites : WritesTo [.reconciliation, .connection] (fun _ => True) db db' :=
      (setTelegramAuthFailed_writes (by simp) _).of_ok h
    exact .of_withheld hwrites.frame (by simp) (by simp) (by simp)
      ((setTelegramAuthFailed_withheld _).of_ok h)
  | found a write db₁ hanswer hreconcile h =>
    have haid : a.connectionId = connectionId := by
      rw [hanswer] at hvalid
      simp only [LookupAnswer.validFor, Bool.and_eq_true, decide_eq_true_eq] at hvalid
      exact hvalid.1.1.1
    -- the answer is about the connection that is stored, so nothing else is installed
    have hother {r : BusinessConnectionRecord} (hr : db.businessConnection.rows = [r])
        (hne : r.connectionId ≠ a.connectionId) : False := by
      obtain rfl : t = r := List.head_eq_of_cons_eq (hrows.symm.trans hr)
      exact hne (hid.trans haid.symm)
    cases reconcileAuthoritativeTrustedConnection_ok hreconcile with
    | conflict hwrite hsame => exact hkept (hsame ▸ h) (by simp) (by simp) (by simp) (by simp)
    | installed revision hnone =>
      rw [hnone] at hrows
      cases hrows
    | same r row hr hrid hreconciled hrows' hframe =>
      have hframe : Frame [.connection, .candidate, .owner, .update, .audit] db.toTables
          db'.toTables := (hframe.mono (by simp)).trans (h.mono (by simp))
      refine .of_frame hframe (by simp) (by simp) (by simp) fun c hc => hstored ?_
      rw [hsame h (by simp) (by simp), hrows', List.mem_singleton] at hc
      rw [hc, hreconciled.connectionId, hrid]
      exact haid
    | replaced r g revision hr hne => exact (hother hr hne).elim
    | ambiguous r hr hne => exact (hother hr hne).elim

/-! ## Steps of a service that does not run -/

namespace World

variable {w w' : World} {op : Op} {us : List ProcessedUpdate}

/-- What a step does while the service is down or starting. -/
inductive StoppedStep (w w' : World) (op : Op) : Prop
  | resting (hdb : Shrunk w.db w'.db) (hlog : w'.db.processedUpdate = w.db.processedUpdate)
    (hworker : w'.worker = .down ∨ w'.worker = .normalized ∨ w'.worker = .ownerReady)
  | looking (t : BusinessConnectionRecord) (snapshot : ConnectionReconciliationSnapshot)
    (hdb : w'.db = w.db) (hrows : w.db.businessConnection.rows = [t])
    (hworker : w'.worker = .startupLookup t.connectionId snapshot)
  | answered (connectionId : String) (snapshot : ConnectionReconciliationSnapshot)
    (answer : LookupAnswer) (now : DateTime)
    (hworker : w.worker = .startupLookup connectionId snapshot)
    (hvalid : answer.validFor connectionId = true)
    (hdb : w'.db = (Transaction.startup connectionId snapshot answer now).after w.db)
    (hnext : w'.worker = .down ∨ w'.worker = .recovering (recordedUpdates w'.db))
  | listed (hdb : w'.db = w.db) (hworker : w'.worker = .recovering (recordedUpdates w'.db))
  | recovery (us : List ProcessedUpdate) (hworker : w.worker = .recovering us)
    (h : RecoveryStep w w' op us)
  | served (hworker : w.worker = .recovered)

/-- The startup lookup is of the one trusted connection. -/
theorem startupTarget_some {target : String × ConnectionReconciliationSnapshot}
    (h : startupTarget db = .ok (some target, db')) :
    ∃ t, db.businessConnection.rows = [t] ∧ target.1 = t.connectionId := by
  unfold startupTarget at h
  obtain ⟨trusted, htrusted, h⟩ := Txn.bind_ok_of_readOnly loadSingleTrustedConnection_readOnly h
  have hrows := (loadSingleTrustedConnection_ok htrusted).2
  cases trusted with
  | none => cases h
  | some t =>
    obtain ⟨snapshot, -, h⟩ :=
      Txn.bind_ok_of_readOnly (connectionReconciliationSnapshot_readOnly _) h
    obtain ⟨htarget, -⟩ := Prod.mk.inj (Txn.pure_ok_iff.1 h)
    refine ⟨t, hrows, ?_⟩
    rw [← Option.some.inj htarget]

theorem afterStartupLookup_next (w : World) (connectionId : String)
    (result : Except Error TrustedStartupReconciliation) :
    (w.afterStartupLookup connectionId result).db = w.db ∧
      ((w.afterStartupLookup connectionId result).worker = .down ∨
        (w.afterStartupLookup connectionId result).worker = .recovering (recordedUpdates w.db)) := by
  unfold afterStartupLookup
  split
  · exact ⟨rfl, .inr rfl⟩
  · exact ⟨rfl, .inr rfl⟩
  · exact ⟨rfl, .inl rfl⟩
  · exact ⟨rfl, .inl rfl⟩

/-- **What a step does while the service does not run.** -/
theorem step_stopped (hstopped : w.worker.serving = false) (hstep : w.step op = some w') :
    StoppedStep w w' op := by
  cases op with
  | crash =>
    cases hstep
    exact .resting (.refl _) rfl (.inl rfl)
  | dispatcher op => simp [World.step, hstopped] at hstep
  | worker op =>
    -- a failure stops the process, as a crash does
    have hfail (hop : op = .storageFailure) : StoppedStep w w' (.worker op) := by
      subst hop
      have hdown : w' = { w with worker := .down } := by
        cases hworker : w.worker <;> rw [hworker] at hstopped <;> first
          | (simp only [World.step, stepWorker, hworker, WorkerPhase.serving, Bool.false_eq_true,
              if_false] at hstep
             exact (Option.some.inj hstep).symm)
          | cases hstopped
      rw [hdown]
      exact .resting (.refl _) rfl (.inl rfl)
    cases hworker : w.worker with
    | down =>
      cases op with
      | boot settings now =>
        simp only [World.step, stepWorker, hworker] at hstep
        obtain rfl := Option.some.inj hstep
        have hwrites : WritesTo [.reconciliation, .connection] (fun _ => True) w.db
            (commit (normalizeStartupReconciliation now) w.db).1 :=
          (normalizeStartupReconciliation_writes (by simp) now).commit w.db
        refine .resting ((normalizeStartupReconciliation_shrunk now).commit w.db)
          (hwrites.frame.processedUpdate (by simp) (by simp) (by simp)) ?_
        cases hx : (commit (normalizeStartupReconciliation now) w.db).2 with
        | error error => exact .inl (by simp only [commitWorker, hx, orDown])
        | ok _ => exact .inr (.inl (by simp only [commitWorker, hx, orDown]))
      | storageFailure => exact hfail rfl
      | _ => simp [World.step, stepWorker, hworker] at hstep
    | normalized =>
      cases op with
      | initializeOwner now =>
        simp only [World.step, stepWorker, hworker] at hstep
        obtain rfl := Option.some.inj hstep
        have hwrites : WritesTo [.owner] (fun _ => True) w.db
            (commit (initializeOrLoadOwnerIdentity now) w.db).1 :=
          (initializeOrLoadOwnerIdentity_writes (by simp) now).commit w.db
        refine .resting ((initializeOrLoadOwnerIdentity_shrunk now).commit w.db)
          (hwrites.frame.processedUpdate (by simp) (by simp) (by simp)) ?_
        cases hx : (commit (initializeOrLoadOwnerIdentity now) w.db).2 with
        | error error => exact .inl (by simp only [commitWorker, hx, orDown])
        | ok _ => exact .inr (.inr (by simp only [commitWorker, hx, orDown]))
      | storageFailure => exact hfail rfl
      | _ => simp [World.step, stepWorker, hworker] at hstep
    | ownerReady =>
      cases op with
      | startupSnapshot =>
        simp only [World.step, stepWorker, hworker] at hstep
        obtain rfl := Option.some.inj hstep
        have hdb : (commit startupTarget w.db).1 = w.db :=
          Txn.commit_fst_of_readOnly startupTarget_readOnly _
        cases hx : (commit startupTarget w.db).2 with
        | error error =>
          refine .resting ?_ (congrArg (·.processedUpdate) hdb) (.inl ?_)
          · exact hdb.symm ▸ Shrunk.refl _
          · simp only [commitWorker, hx, orDown]
        | ok target =>
          cases target with
          | none =>
            refine .listed hdb ?_
            simp only [commitWorker, hx, orDown, hdb]
          | some target =>
            obtain ⟨t, hrows, hid⟩ := startupTarget_some (Txn.ok_of_commit hx)
            refine .looking t target.2 hdb hrows ?_
            simp only [commitWorker, hx, orDown, hid]
      | storageFailure => exact hfail rfl
      | _ => simp [World.step, stepWorker, hworker] at hstep
    | startupLookup connectionId snapshot =>
      cases op with
      | startupAnswer answer now =>
        simp only [World.step, stepWorker, hworker] at hstep
        obtain ⟨hvalid, hstep⟩ := Option.ite_none_right_eq_some.1 hstep
        obtain rfl := Option.some.inj hstep
        obtain ⟨hdb, hnext⟩ := afterStartupLookup_next
          { w with
            db := (commit (reconcileTrustedCurrentState connectionId snapshot answer now) w.db).1
            worker := .startupLookup connectionId snapshot } connectionId
          (commit (reconcileTrustedCurrentState connectionId snapshot answer now) w.db).2
        refine .answered connectionId snapshot answer now hworker hvalid hdb ?_
        rw [hdb]
        exact hnext
      | storageFailure => exact hfail rfl
      | _ => simp [World.step, stepWorker, hworker] at hstep
    | recovering us => exact .recovery us hworker (step_recovering hworker hstep)
    | recovered => exact .served hworker
    | _ =>
      rw [hworker] at hstopped
      cases hstopped

/-! ## Recovery, event by event -/

/-- **A recorded event is carried out exactly when it is applicable.** -/
theorem EventsPrepared.apply_succeeds_iff (h : w.EventsPrepared) {row : ProcessedUpdate}
    {event : PreparedEvent} (hrow : row ∈ w.db.processedUpdate.rows)
    (hrecorded : row.status = .recorded) (hevent : row.event = some event) (now : DateTime) :
    Txn.Succeeds (applyRecordedEvent row.updateId now) w.db ↔ event.Applicable w.db := by
  obtain ⟨event', preparedIn, -, hin⟩ := h.recorded row hrow hrecorded
  obtain rfl : event = event' := Option.some.inj (hevent.symm.trans hin.carries)
  have hlookup := Table.lookup_of_mem hrow
  constructor
  · intro hsucceeds
    by_contra hrefused
    exact applyRecordedEvent_fails hlookup hrecorded hevent hin.updateId
      hin.issued.genuine.facts hin.issued.belongs hrefused now hsucceeds
  · intro happlicable
    exact (applyRecordedEvent_yields hlookup hrecorded hevent hin.updateId
      hin.issued.genuine.facts hin.issued.belongs happlicable now).succeeds

/-- What recovery has listed is in the order of the update ids. -/
theorem ordered {ok : World → Op → Prop} (h : service.ReachableBy ok w)
    (hus : w.worker.remaining = some us) : us.Pairwise (·.updateId ≤ ·.updateId) := by
  revert us
  refine h.invariant (P := fun w => ∀ {us}, w.worker.remaining = some us →
    us.Pairwise (·.updateId ≤ ·.updateId)) ?_ fun w op w' hw ih _ hstep us' hus' => ?_
  · rintro w ⟨now, rfl⟩ us hus
    cases hus
  · rcases step_remaining hstep hus' with ⟨us, hworker⟩ | rfl
    · have hus : us.Pairwise (·.updateId ≤ ·.updateId) := ih (by rw [hworker]; rfl)
      cases step_recovering hworker hstep with
      | stopped us hdown =>
        rw [hdown] at hus'
        cases hus'
      | finished hop h =>
        rw [h] at hus'
        obtain rfl := Option.some.inj hus'
        exact .nil
      | passed u us htrigger h =>
        rw [h] at hus'
        obtain rfl := Option.some.inj hus'
        exact hus.of_cons
      | applied u us now receipt db' htrigger hcommits hx h =>
        rw [h] at hus'
        obtain rfl := Option.some.inj hus'
        exact hus.of_cons
    · exact List.pairwise_insertionSort _ _

/-- A failed step of recovery leaves the database as it was. -/
theorem step_recovering_down (hworker : w.worker = .recovering us) (hstep : w.step op = some w')
    (hdown : w'.worker = .down) : w'.db = w.db := by
  cases op with
  | crash =>
    cases hstep
    rfl
  | dispatcher op => simp [World.step, hworker, WorkerPhase.serving] at hstep
  | worker op =>
    cases op with
    | recoverNext now =>
      cases us with
      | nil =>
        simp only [World.step, stepWorker, hworker] at hstep
        obtain rfl := Option.some.inj hstep
        cases hdown
      | cons u us =>
        simp only [World.step, stepWorker, hworker] at hstep
        split at hstep
        · obtain rfl := Option.some.inj hstep
          rfl
        · obtain rfl := Option.some.inj hstep
          cases hx : applyRecordedEvent u.updateId now w.db with
          | error error =>
            change (commit (applyRecordedEvent u.updateId now) w.db).1 = w.db
            rw [Txn.commit_of_error hx]
          | ok r =>
            simp only [commitWorker, Txn.commit_of_ok hx, orDown] at hdown
            cases hdown
    | storageFailure =>
      simp only [World.step, stepWorker, hworker, WorkerPhase.serving, Bool.false_eq_true,
        if_false] at hstep
      obtain rfl := Option.some.inj hstep
      rfl
    | _ => simp [World.step, stepWorker, hworker] at hstep

/-- **The service cannot start**: it does not run, and the first event that is to be applied is
refused. -/
structure Wedged (w : World) (u : ProcessedUpdate) (event : PreparedEvent) : Prop where
  stopped : w.worker.serving = false
  recorded : u ∈ w.db.processedUpdate.rows
  status : u.status = .recorded
  lifecycle : u.isTrigger = false
  carries : u.event = some event
  refused : ¬event.Applicable w.db
  first : ∀ v ∈ w.db.processedUpdate.rows, v.status = .recorded → v.isTrigger = false →
    u.updateId ≤ v.updateId
  looking : ∀ connectionId snapshot, w.worker = .startupLookup connectionId snapshot →
    ∃ t, w.db.businessConnection.rows = [t] ∧ t.connectionId = connectionId

namespace Wedged

variable {u : ProcessedUpdate} {event : PreparedEvent}

/-- Where connections only go and no event is applied. -/
theorem kept (h : w.Wedged u event) (hdb : Shrunk w.db w'.db)
    (hlog : w'.db.processedUpdate = w.db.processedUpdate) (hstopped : w'.worker.serving = false)
    (hlooking : ∀ connectionId snapshot, w'.worker = .startupLookup connectionId snapshot →
      ∃ t, w'.db.businessConnection.rows = [t] ∧ t.connectionId = connectionId) :
    w'.Wedged u event where
  stopped := hstopped
  recorded := hlog ▸ h.recorded
  status := h.status
  lifecycle := h.lifecycle
  carries := h.carries
  refused happlicable := h.refused (hdb.applicable happlicable)
  first := hlog ▸ h.first
  looking := hlooking

/-- **A service that cannot start stays so.** -/
theorem step (h : w.Wedged u event) (hw : service.Reachable w) (hstep : w.step op = some w') :
    w'.Wedged u event := by
  have hprepared := eventsPrepared hw
  cases step_stopped h.stopped hstep with
  | resting hdb hlog hworker =>
    refine h.kept hdb hlog ?_ fun connectionId snapshot hlookup => ?_
    · rcases hworker with hworker | hworker | hworker <;> rw [hworker] <;> rfl
    · rcases hworker with hworker | hworker | hworker <;> (rw [hworker] at hlookup; cases hlookup)
  | looking t snapshot hdb hrows hworker =>
    refine h.kept (hdb ▸ .refl _) (by rw [hdb]) (by rw [hworker]; rfl) fun connectionId _ hlookup => ?_
    rw [hworker] at hlookup
    injection hlookup with hid _
    exact ⟨t, hdb ▸ hrows, hid⟩
  | answered connectionId snapshot answer now hworker hvalid hdb hnext =>
    obtain ⟨t, hrows, hid⟩ := h.looking connectionId snapshot hworker
    have hshrunk : Shrunk w.db w'.db := by
      rw [hdb]
      exact Transaction.startup_answered.shrunk hvalid hrows hid
    have hframe := (Transaction.startup connectionId snapshot answer now).after_frame
      hprepared.noConnectionChange
    refine h.kept hshrunk ?_ ?_ fun connectionId snapshot hlookup => ?_
    · rw [hdb]
      exact hframe.processedUpdate (by simp) (by simp) (by simp)
    · rcases hnext with hworker | hworker <;> rw [hworker] <;> rfl
    · rcases hnext with hworker | hworker <;> (rw [hworker] at hlookup; cases hlookup)
  | listed hdb hworker =>
    refine h.kept (hdb ▸ .refl _) (by rw [hdb]) (by rw [hworker]; rfl) fun _ _ hlookup => ?_
    rw [hworker] at hlookup
    cases hlookup
  | recovery us hworker hrecovery =>
    have hrecovering : w.Recovering us := recovering hw (by rw [hworker]; rfl)
    have hlisted : u ∈ us := by
      rcases hrecovering.passed u h.recorded h.status with hlisted | htrigger
      · exact hlisted
      · rw [h.lifecycle] at htrigger
        cases htrigger
    cases hrecovery with
    | stopped us hdown =>
      have hdb : w'.db = w.db := step_recovering_down hworker hstep hdown
      refine h.kept (hdb ▸ .refl _) (by rw [hdb]) (by rw [hdown]; rfl) fun _ _ hlookup => ?_
      rw [hdown] at hlookup
      cases hlookup
    | finished hop hw' => cases hlisted
    | passed v us htrigger hw' =>
      subst hw'
      exact h.kept (.refl _) rfl rfl fun _ _ hlookup => by cases hlookup
    | applied v us now receipt db' htrigger hcommits hx hw' =>
      -- what is applied comes no later than the event, so it is the event itself
      obtain ⟨hv, hvrecorded⟩ := hrecovering.listed v (List.mem_cons_self ..)
      have hle : v.updateId ≤ u.updateId := by
        rcases List.mem_cons.1 hlisted with rfl | hlater
        · exact le_refl _
        · have hordered : (v :: us).Pairwise (·.updateId ≤ ·.updateId) :=
            ordered hw (by rw [hworker]; rfl)
          exact (List.pairwise_cons.1 hordered).1 u hlater
      have hge := h.first v hv hvrecorded htrigger
      have hid : v.updateId = u.updateId := by omega
      have hsame : v = u := by
        refine Option.some.inj ((Table.lookup_of_mem hv).symm.trans ?_)
        have hlookup := Table.lookup_of_mem h.recorded
        exact hid ▸ hlookup
      subst hsame
      have happlies : event.Applicable w.db :=
        (hprepared.apply_succeeds_iff h.recorded h.status h.carries now).1 ⟨_, hx⟩
      exact absurd happlies h.refused
  | served hworker =>
    have hrecovering : w.Recovering [] := recovering hw (by rw [hworker]; rfl)
    rcases hrecovering.passed u h.recorded h.status with hlisted | htrigger
    · cases hlisted
    · rw [h.lifecycle] at htrigger
      cases htrigger

/-- **However often it is started.** -/
theorem run (h : w.Wedged u event) (hw : service.Reachable w)
    (hrun : service.Runs (fun _ _ => True) w w') : w'.Wedged u event := by
  have hboth : service.Reachable w' ∧ w'.Wedged u event :=
    hrun.invariant (P := fun w => service.Reachable w ∧ w.Wedged u event) ⟨hw, h⟩
      fun _ _ _ hboth _ hstep => ⟨hboth.1.step trivial hstep, hboth.2.step hboth.1 hstep⟩
  exact hboth.2

end Wedged

/-- **An event that recovery comes to and that is refused wedges the service.** -/
theorem wedged_of_refused {u : ProcessedUpdate} {event : PreparedEvent} (h : service.Reachable w)
    (hworker : w.worker = .recovering (u :: us)) (hlifecycle : u.isTrigger = false)
    (hevent : u.event = some event) (hrefused : ¬event.Applicable w.db) : w.Wedged u event := by
  have hrecovering : w.Recovering (u :: us) := recovering h (by rw [hworker]; rfl)
  obtain ⟨hu, hrecorded⟩ := hrecovering.listed u (List.mem_cons_self ..)
  have hordered : (u :: us).Pairwise (·.updateId ≤ ·.updateId) :=
    ordered h (by rw [hworker]; rfl)
  refine ⟨by rw [hworker]; rfl, hu, hrecorded, hlifecycle, hevent, hrefused,
    fun v hv hvrecorded hvlifecycle => ?_, fun _ _ hlookup => ?_⟩
  · rcases hrecovering.passed v hv hvrecorded with hlisted | htrigger
    · rcases List.mem_cons.1 hlisted with rfl | hlater
      · exact le_refl _
      · exact (List.pairwise_cons.1 hordered).1 v hlater
    · rw [hvlifecycle] at htrigger
      cases htrigger
  · rw [hworker] at hlookup
    cases hlookup

/-- **A start passes the next event or never gets past it.** In every reachable world in which
recovery comes to a lifecycle event, either the event is applicable and the next step applies it,
or it is refused: then the service never runs again and the event stays recorded, whatever is
answered and however often it is started. -/
theorem start_passes_or_wedges {u : ProcessedUpdate} (h : service.Reachable w)
    (hworker : w.worker = .recovering (u :: us)) (hlifecycle : u.isTrigger = false) :
    ∃ event, u.event = some event ∧
      ((event.Applicable w.db ∧ ∀ now, ∃ w', w.step (.worker (.recoverNext now)) = some w' ∧
          w'.worker = .recovering us ∧
          (w'.db.processedUpdate.lookup u.updateId).map (·.status) = some .applied) ∨
        (¬event.Applicable w.db ∧ ∀ w', service.Runs (fun _ _ => True) w w' →
          w'.worker.serving = false ∧ u ∈ w'.db.processedUpdate.rows)) := by
  have hprepared := eventsPrepared h
  have hrecovering : w.Recovering (u :: us) := recovering h (by rw [hworker]; rfl)
  obtain ⟨hu, hrecorded⟩ := hrecovering.listed u (List.mem_cons_self ..)
  obtain ⟨event, preparedIn, -, hin⟩ := hprepared.recorded u hu hrecorded
  refine ⟨event, hin.carries, ?_⟩
  by_cases happlicable : event.Applicable w.db
  · refine .inl ⟨happlicable, fun now => ?_⟩
    obtain ⟨receipt, db', hx, -, -, hsettled, -⟩ :=
      applyRecordedEvent_yields (Table.lookup_of_mem hu) hrecorded hin.carries hin.updateId
        hin.issued.genuine.facts hin.issued.belongs happlicable now
    refine ⟨{ w with db := db', worker := .recovering us }, ?_, rfl, hsettled.applied⟩
    simp only [World.step, stepWorker, hworker, hlifecycle, Bool.false_eq_true, if_false,
      commitWorker, Txn.commit_of_ok hx, orDown]
  · refine .inr ⟨happlicable, fun w' hrun => ?_⟩
    have hthen := (wedged_of_refused h hworker hlifecycle hin.carries happlicable).run h hrun
    exact ⟨hthen.stopped, hthen.recorded⟩

section

open Sample

/-- A message is recorded, the process stops, and the next start does not find the connection. -/
def disconnectedMeanwhile : List Op :=
  Sample.connected false ++ receive 3 50 1 .inboundMessage .allow .correct 3 ++
    [.crash, .worker (.boot false 4), .worker (.initializeOwner 4), .worker .startupSnapshot,
      .worker (.startupAnswer (.error .connectionNotFound) 4)]

/-- Recovery comes to a message of a connection that is not there. -/
def strandsNext (w : World) : Bool :=
  match w.worker with
  | .recovering (u :: _) =>
    !u.isTrigger && u.event.any fun event =>
      event.facts.action.createsConversation &&
        event.facts.optionalKey.any fun key => !w.db.businessConnection.contains key.connectionId
  | _ => false

set_option maxRecDepth 100000 in
theorem start_passes_or_wedges_disconnected : ∃ (w : World) (u : ProcessedUpdate)
    (us : List ProcessedUpdate), service.Reachable w ∧ w.worker = .recovering (u :: us) ∧
      u.isTrigger = false ∧ ∀ w', service.Runs (fun _ _ => True) w w' →
        w'.worker.serving = false ∧ u ∈ w'.db.processedUpdate.rows := by
  obtain ⟨w, hw, hstrands⟩ : ∃ w, service.Reachable w ∧ strandsNext w = true :=
    Machine.reachable_of_run disconnectedMeanwhile strandsNext ⟨0, rfl⟩ (by decide +kernel)
  unfold strandsNext at hstrands
  split at hstrands
  · next u us hworker =>
    rw [Bool.and_eq_true, Bool.not_eq_true'] at hstrands
    obtain ⟨hlifecycle, hstrands⟩ := hstrands
    obtain ⟨event, hevent, hstrands⟩ := (Option.any_eq_true _ _).1 hstrands
    rw [Bool.and_eq_true] at hstrands
    obtain ⟨hcreates, hstrands⟩ := hstrands
    obtain ⟨key, hkey, hgone⟩ := (Option.any_eq_true _ _).1 hstrands
    rw [Bool.not_eq_true'] at hgone
    obtain ⟨event', hevent', hthen⟩ := start_passes_or_wedges hw hworker hlifecycle
    obtain rfl : event = event' := Option.some.inj (hevent.symm.trans hevent')
    rcases hthen with ⟨happlicable, -⟩ | ⟨-, hwedged⟩
    · have hthere := happlicable.connection hcreates key hkey
      rw [hgone] at hthere
      cases hthere
    · exact ⟨w, u, us, hw, hworker, hlifecycle, hwedged⟩
  · cases hstrands

end

end World

end ChatHygiene
