import ChatHygiene.Footprint.Contracts
import ChatHygiene.System.Dispatching
/-!
# The head of the outbox

A dispatch ends by settling its action: the row is gone, terminal, or waits for
a retry with its claim cleared. The end of a dispatch is one transaction, which
may also disable the connection of the action or report the delivery of its
challenge, and those rows may be gone by then. `Finish.Feasible` says when they
are not, and a dispatch that ends otherwise is rolled back, its action left
claimed at the head of the queue.
-/

namespace ChatHygiene

open Txn (commit Yields Fails)

/-- The row waits for nobody: it is terminal, or due again at a new instant. -/
def OutboxActionRow.settled (a : OutboxActionRow) : Bool :=
  match a.status with
  | .succeeded | .uncertain | .permanentFailure => true
  | .retry => a.claimedAt.isNone && a.nextAttemptAt.isSome
  | .pending => false

/-- The action is gone or settled. -/
def Database.Settled (db : Database) (actionId : Nat) : Prop :=
  ∀ a ∈ db.outboxAction.rows, a.id = actionId → a.settled = true

instance (db : Database) (actionId : Nat) : Decidable (db.Settled actionId) :=
  inferInstanceAs (Decidable (∀ _ ∈ _, _))

/-- The end disables the connection of the action. -/
def Finish.disables : Finish → Bool
  | .permanent _ disableConnection => disableConnection
  | _ => false

/-- The challenge whose delivery the end reports. -/
def Finish.marks : Finish → Option Nat
  | .success (some (challengeId, _)) | .uncertain challengeId _ => some challengeId
  | _ => none

/-- **The rows the end of a dispatch has to update are stored.** -/
structure Finish.Feasible (finish : Finish) (key : Option ConversationKey) (db : Database) :
    Prop where
  connection : finish.disables = true → ∀ k, key = some k →
    db.businessConnection.contains k.connectionId = true
  challenge : ∀ challengeId, finish.marks = some challengeId →
    db.challenge.contains challengeId = true

variable {db db' : Database} {action : OutboxActionRecord} {row : OutboxActionRow}
  {now : DateTime} {actionId : Nat}

theorem Database.Settled.of_frame {targets : List Target} (h : db.Settled actionId)
    (hframe : Frame targets db.toTables db'.toTables)
    (ht : targets ⊆ [.challenge, .connection, .mode]) : db'.Settled actionId := by
  unfold Database.Settled
  rw [hframe.outboxAction (fun m => by simpa using ht m) (fun m => by simpa using ht m)
    (fun m => by simpa using ht m)]
  exact h

/-- A new action does not unsettle an old one. -/
theorem Database.Settled.enqueued {a : NewOutboxAction} (h : db.Settled actionId)
    (hissued : actionId ≤ db.outboxSeq) (henqueued : Enqueued a db db') : db'.Settled actionId := by
  intro b hb hid
  rw [henqueued] at hb
  split at hb
  · exact h b hb hid
  · rcases List.mem_append.1 hb with hb | hb
    · exact h b hb hid
    · obtain rfl := List.mem_singleton.1 hb
      simp only [NewOutboxAction.row] at hid
      omega

theorem enqueueOwnerAlert_yields (hu : db.processedUpdate.contains action.sourceUpdateId = true)
    (hissued : actionId ≤ db.outboxSeq) (hsettled : db.Settled actionId) (alert : OwnerAlert)
    (challengeId : Option Nat) :
    Yields (enqueueOwnerAlert action alert challengeId now) db fun _ db' => db'.Settled actionId := by
  unfold enqueueOwnerAlert
  split
  · exact .pure hsettled
  · refine Yields.bind (enqueueOutboxAction_yields hu) ?_
    rintro _ db' ⟨henqueued, -⟩
    exact .pure (hsettled.enqueued hissued henqueued)

/-- The return to dry-run always succeeds. -/
theorem forceDryRun_yields : Yields forceDryRun db fun _ db' =>
    db'.destructiveMode = some false ∧ Frame [.mode] db.toTables db'.toTables := by
  refine yields_frame ?_ (Uow.setDestructiveMode_writes (by exact List.mem_singleton.2 rfl))
  unfold forceDryRun Uow.setDestructiveMode
  refine Yields.mono (Uow.statement_yields rfl) ?_
  rintro _ db' ⟨-, hdb⟩
  rw [hdb]

/-- A status that settles an action. -/
theorem finishOutbox_settles (hrow : row ∈ db.outboxAction.rows)
    (hunfinished : row.status.unfinished = true) {status : OutboxStatus}
    {nextAttemptAt : Option DateTime} (errorCode : Option String)
    (hstatus : status = .retry → nextAttemptAt.isSome = true) (hpending : status ≠ .pending) :
    Yields (finishOutbox row.id status nextAttemptAt errorCode now) db fun _ db' =>
      db'.Settled row.id ∧ Frame [.outbox] db.toTables db'.toTables := by
  refine (finishOutbox_yields hrow hunfinished _ _ _ _).mono ?_
  rintro _ db' ⟨hrows, hframe⟩
  refine ⟨fun a ha hid => ?_, hframe⟩
  obtain ⟨h₁, h₂, h₃⟩ := hrows a ha hid
  cases status with
  | pending => exact absurd rfl hpending
  | retry => simp [OutboxActionRow.settled, h₁, h₂, h₃, hstatus rfl]
  | _ => simp [OutboxActionRow.settled, h₁]

/-- **A feasible end settles the action.** -/
theorem finishDispatch_yields (hrow : row ∈ db.outboxAction.rows) (hof : action.Of row)
    (hunfinished : row.status.unfinished = true) {finish : Finish}
    (hfeasible : finish.Feasible action.key db) :
    Yields (finishDispatch action now finish) db fun _ db' => db'.Settled action.id := by
  have hissued : action.id ≤ db.outboxSeq := hof.id ▸ db.consistent.updates.outboxIds row hrow
  have hu : db.processedUpdate.contains action.sourceUpdateId = true :=
    hof.sourceUpdateId ▸ db.consistent.updates.outboxFk row hrow
  have hmark (status : OutboxStatus) (nextAttemptAt : Option DateTime) (errorCode : Option String)
      (hstatus : status = .retry → nextAttemptAt.isSome = true) (hpending : status ≠ .pending) :
      Yields (finishOutbox action.id status nextAttemptAt errorCode now) db fun _ db' =>
        db'.Settled action.id ∧ Frame [.outbox] db.toTables db'.toTables := by
    rw [hof.id]
    exact finishOutbox_settles hrow hunfinished _ hstatus hpending
  -- the alert, last, finds the update of the action and its id where they were
  have halert {targets : List Target} {db' : Database} (hsettled : db'.Settled action.id)
      (hframe : Frame targets db.toTables db'.toTables)
      (ht : targets ⊆ [.outbox, .challenge, .connection, .mode]) (alert : OwnerAlert)
      (challengeId : Option Nat) :
      Yields (enqueueOwnerAlert action alert challengeId now) db' fun _ db'' =>
        db''.Settled action.id := by
    refine enqueueOwnerAlert_yields ?_ ?_ hsettled alert challengeId
    · rw [hframe.processedUpdate (fun m => by simpa using ht m) (fun m => by simpa using ht m)
        (fun m => by simpa using ht m)]
      exact hu
    · rw [hframe.outboxSeq (fun m => by simpa using ht m)]
      exact hissued
  have hchallenge {challengeId : Nat} (hm : finish.marks = some challengeId) {db' : Database}
      (hframe : Frame [.outbox] db.toTables db'.toTables) :
      db'.challenge.contains challengeId = true := by
    rw [(hframe.challenge (by simp) (by simp)).1]
    exact hfeasible.challenge _ hm
  cases finish with
  | success challengeSent =>
    refine Yields.bind (hmark .succeeded none none nofun nofun) ?_
    rintro _ db₁ ⟨hsettled, hframe⟩
    cases challengeSent with
    | none => exact .pure hsettled
    | some sent =>
      refine (updateOneChallenge_yields (hchallenge rfl hframe)).mono fun _ db₂ hframe₂ => ?_
      exact hsettled.of_frame hframe₂ (by simp)
  | uncertain challengeId errorCode =>
    refine Yields.bind (hmark .uncertain none _ nofun nofun) ?_
    rintro _ db₁ ⟨hsettled, hframe⟩
    refine Yields.bind (updateOneChallenge_yields (hchallenge rfl hframe)) fun _ db₂ hframe₂ => ?_
    exact halert (hsettled.of_frame hframe₂ (by simp))
      ((hframe.mono (by simp)).trans (hframe₂.mono (by simp))) (fun _ => id) _ _
  | actionUncertain errorCode =>
    exact (hmark .uncertain none (some errorCode) nofun nofun).mono fun _ _ h => h.1
  | permanent errorCode disableConnection =>
    refine Yields.bind (hmark .permanentFailure none _ nofun nofun) ?_
    rintro _ db₁ ⟨hsettled, hframe⟩
    cases disableConnection with
    | false => exact .pure hsettled
    | true =>
      have hdisable : Yields (disableConnectionOf action now) db₁ fun _ db₂ =>
          Frame [.connection] db₁.toTables db₂.toTables := by
        unfold disableConnectionOf
        split
        · next key hkey =>
          refine disableBusinessConnection_yields ?_ now
          rw [hframe.businessConnection (by simp) (by simp)]
          exact hfeasible.connection rfl key hkey
        · exact .pure (.refl _)
      refine Yields.bind hdisable fun _ db₂ hframe₂ => ?_
      refine Yields.bind forceDryRun_yields ?_
      rintro _ db₃ ⟨-, hframe₃⟩
      exact halert ((hsettled.of_frame hframe₂ (by simp)).of_frame hframe₃ (by simp))
        (((hframe.mono (by simp)).trans (hframe₂.mono (by simp))).trans (hframe₃.mono (by simp)))
        (fun _ => id) _ _
  | retry nextAttemptAt errorCode =>
    exact (hmark .retry (some nextAttemptAt) (some errorCode) (fun _ => rfl) nofun).mono
      fun _ _ h => h.1

/-- The row of the action is settled before anything else of the end. -/
theorem finishOutbox_frame {status : OutboxStatus} {nextAttemptAt : Option DateTime}
    {errorCode : Option String} {u : Unit}
    (h : finishOutbox actionId status nextAttemptAt errorCode now db = .ok (u, db')) :
    Frame [.outbox] db.toTables db'.toTables :=
  (show WritesTo [.outbox] (fun _ => True) db db' from
    finishOutbox_writes (List.mem_singleton.2 rfl) _ _ _ _ _ _ _ _ h).frame

/-- An end with no rows to update but the action's. -/
theorem Finish.Feasible.of_plain {finish : Finish} {key : Option ConversationKey}
    (hdisables : finish.disables = false) (hmarks : finish.marks = none) :
    finish.Feasible key db := by
  refine ⟨fun h => ?_, fun challengeId h => ?_⟩
  · rw [hdisables] at h
    cases h
  · rw [hmarks] at h
    cases h

/-- **An end that is not feasible is rolled back.** -/
theorem finishDispatch_fails {finish : Finish} (h : ¬finish.Feasible action.key db) :
    Fails (finishDispatch action now finish) db := by
  have hchallenge (challengeId : Nat) (hm : finish.marks = some challengeId)
      (hd : finish.disables = false) {db' : Database}
      (hframe : Frame [.outbox] db.toTables db'.toTables) :
      db'.challenge.contains challengeId = false := by
    rw [(hframe.challenge (by simp) (by simp)).1]
    by_contra hstored
    refine h ⟨fun hd' => by simp [hd] at hd', fun id hid => ?_⟩
    obtain rfl := Option.some.inj (hm.symm.trans hid)
    simpa using hstored
  cases finish with
  | success challengeSent =>
    cases challengeSent with
    | none => exact absurd (.of_plain rfl rfl) h
    | some sent =>
      exact Txn.fails_bind_right fun _ _ hx =>
        updateOneChallenge_fails (hchallenge _ rfl rfl (finishOutbox_frame hx))
  | uncertain challengeId errorCode =>
    exact Txn.fails_bind_right fun _ _ hx => Txn.fails_bind_left
      (updateOneChallenge_fails (hchallenge _ rfl rfl (finishOutbox_frame hx))) _
  | actionUncertain errorCode => exact absurd (.of_plain rfl rfl) h
  | permanent errorCode disableConnection =>
    cases disableConnection with
    | false => exact absurd (.of_plain rfl rfl) h
    | true =>
      refine Txn.fails_bind_right fun _ db₁ hx => Txn.fails_bind_left ?_ _
      unfold disableConnectionOf
      cases hkey : action.key with
      | none => exact absurd ⟨fun _ k hk => by simp [hkey] at hk, fun id hid => by cases hid⟩ h
      | some key =>
        refine disableBusinessConnection_fails ?_ now
        rw [(finishOutbox_frame hx).businessConnection (by simp) (by simp)]
        by_contra hstored
        refine h ⟨fun _ k hk => ?_, fun id hid => by cases hid⟩
        obtain rfl := Option.some.inj (hkey.symm.trans hk)
        simpa using hstored
  | retry nextAttemptAt errorCode => exact absurd (.of_plain rfl rfl) h

/-- An action that somebody else has finished is not finished again. -/
theorem finishDispatch_fails_of_finished {finish : Finish}
    (h : ∀ row ∈ db.outboxAction.rows, row.id = action.id → row.status.unfinished = false) :
    Fails (finishDispatch action now finish) db := by
  cases finish with
  | success challengeSent => exact Txn.fails_bind_left (finishOutbox_fails h _ _ _ _) _
  | uncertain challengeId errorCode => exact Txn.fails_bind_left (finishOutbox_fails h _ _ _ _) _
  | actionUncertain errorCode => exact finishOutbox_fails h _ _ _ _
  | permanent errorCode disableConnection =>
    exact Txn.fails_bind_left (finishOutbox_fails h _ _ _ _) _
  | retry nextAttemptAt errorCode => exact finishOutbox_fails h _ _ _ _

/-- An action that nobody has left unfinished is settled. -/
theorem settled_of_finished (h : ∀ row ∈ db.outboxAction.rows, row.id = actionId →
    row.status.unfinished = false) : db.Settled actionId := by
  intro a ha hid
  have := h a ha hid
  revert this
  cases hs : a.status <;> simp [OutboxStatus.unfinished, OutboxActionRow.settled, hs]

/-! ## Checks always go on -/

theorem findBusinessConnection_total (connectionId : String) :
    Txn.Total (findBusinessConnection connectionId) :=
  (Txn.Total.read _).bind fun _ => .ite (.pure _) (.read _)

theorem withRight_total (action : OutboxActionRecord) (required : RequiredRight)
    (next : ConversationKey → Progress) : Txn.Total (withRight action required next) := by
  unfold withRight
  split
  · exact .pure _
  · exact ((findBusinessConnection_total _).bind fun _ => .pure _).bind fun _ =>
      .ite (.pure _) (.pure _)

theorem executeOwnerMessage_total (action : OutboxActionRecord) (payload : OwnerAlertPayload) :
    Txn.Total (executeOwnerMessage action payload) := by
  unfold executeOwnerMessage
  split
  · exact .pure _
  · split
    · exact .pure _
    · have hchat (connectionId : String) : Txn.Total (loadOwnerChat connectionId) := by
        refine (Txn.Total.read _).bind fun state => ?_
        match state with
        | .pending => exact (findBusinessConnection_total _).bind fun _ => .pure _
        | .ready (.claimed ..) => exact .pure _
        | .ready .unclaimed => exact .pure _
      refine (hchat _).bind fun chat => ?_
      cases chat with
      | none => exact .pure _
      | some chat => exact .pure _

theorem executeCheck_total (action : OutboxActionRecord) : Txn.Total (executeCheck action) := by
  refine .ite (.pure _) ?_
  split
  · exact withRight_total _ _ _
  · exact withRight_total _ _ _
  · exact withRight_total _ _ _
  · exact withRight_total _ _ _
  · exact executeOwnerMessage_total _ _
  · exact .pure _
  · exact .pure _

theorem executeChallenge_total (action : OutboxActionRecord) :
    Txn.Total (executeChallenge action) := by
  unfold executeChallenge
  split
  · refine (Txn.Total.read _).bind fun challenge => ?_
    cases challenge with
    | none => exact .pure _
    | some challenge => exact .pure _
  · refine (Txn.Total.read _).bind fun challenge => ?_
    cases challenge with
    | none => exact .pure _
    | some challenge =>
      dsimp only
      split
      · exact .pure _
      · exact .ite (.pure _) (.pure _)
  · exact .pure _

/-- The challenge is loaded once. -/
theorem executeChallenge_returns (action : OutboxActionRecord) :
    Txn.Returns (· ≠ .loadChallenge) (executeChallenge action) := by
  unfold executeChallenge
  split
  · refine .bind fun challenge => ?_
    cases challenge with
    | none => exact .pure (by simp)
    | some challenge => exact .pure (by simp)
  · refine .bind fun challenge => ?_
    cases challenge with
    | none => exact .pure (by simp)
    | some challenge =>
      dsimp only
      split
      · exact .pure (by simp)
      · exact .ite (fun _ => .pure (by simp)) fun _ => .pure (by simp)
  · exact .pure (by simp)

/-- The transitions a dispatch still has before it. -/
def DispatcherPhase.rest : DispatcherPhase → Nat
  | .idle => 0
  | .finishing .. => 1
  | .calling .. => 2
  | .loading _ => 3
  | .claimed _ => 4

/-- The dispatch goes on, closer to its end. -/
structure DispatcherPhase.GoesOn (phase phase' : DispatcherPhase) (dispatch : Dispatch) : Prop where
  dispatch : phase'.dispatch = some dispatch
  rest : phase'.rest < phase.rest

theorem goesOn_of_total {x : Uow Progress} (h : Txn.Total x) {phase : DispatcherPhase}
    (hphase : ∀ db progress db', x db = .ok (progress, db') →
      3 < phase.rest ∨ 2 < phase.rest ∧ progress ≠ .loadChallenge)
    (dispatch : Dispatch) (db : Database) :
    phase.GoesOn (World.advance dispatch (commit x db).2) dispatch := by
  obtain ⟨⟨progress, db'⟩, hx⟩ := h db
  have hrest := hphase _ _ _ hx
  rw [Txn.commit_of_ok hx]
  cases progress with
  | loadChallenge =>
    refine ⟨rfl, ?_⟩
    change 3 < phase.rest
    simpa using hrest
  | call call =>
    refine ⟨rfl, ?_⟩
    change 2 < phase.rest
    omega
  | finish finish =>
    refine ⟨rfl, ?_⟩
    change 1 < phase.rest
    omega

/-! ## Dispatches settle their action -/

/-- **A dispatch settles its action exactly when its end is feasible.** From its claim on, a
dispatch goes on to its end, and the end leaves the action settled if and only if the rows it has
to update are stored, or somebody else has settled the action. -/
theorem dispatch_settles_iff {w w' : World} (h : service.Reachable w) {dispatch : Dispatch}
    {op : DispatcherOp} (hop : op ≠ .storageFailure)
    (hdispatch : w.dispatcher.dispatch = some dispatch)
    (hstep : w.step (.dispatcher op) = some w') :
    w.dispatcher.GoesOn w'.dispatcher dispatch ∨
    ∃ finish, w.dispatcher = .finishing dispatch finish ∧ w'.dispatcher = .idle ∧
      (w'.db.Settled dispatch.action.id ↔
        finish.Feasible dispatch.action.key w.db ∨ w.db.Settled dispatch.action.id) := by
  replace hstep := (Option.ite_none_right_eq_some.1 hstep).2
  unfold World.stepDispatcher at hstep
  split at hstep
  · next hw =>
    rw [hw] at hdispatch
    cases hdispatch
  · next hw =>
    cases hstep
    rw [hw] at hdispatch ⊢
    obtain rfl := Option.some.inj hdispatch
    refine .inl (goesOn_of_total (executeCheck_total _) (fun _ _ _ _ => .inl ?_) _ _)
    exact Nat.lt_succ_self 3
  · next hw =>
    cases hstep
    rw [hw] at hdispatch ⊢
    obtain rfl := Option.some.inj hdispatch
    refine .inl (goesOn_of_total (executeChallenge_total _)
      (fun _ _ _ hx => .inr ⟨?_, executeChallenge_returns _ _ _ _ hx⟩) _ _)
    exact Nat.lt_succ_self 2
  · next hw =>
    cases hstep
    rw [hw] at hdispatch ⊢
    exact .inl ⟨hdispatch, Nat.lt_succ_self 1⟩
  · next current finish hw =>
    cases hstep
    have hkept := World.dispatchKept h hdispatch
    rw [hw] at hdispatch
    obtain rfl : dispatch = current := (Option.some.inj hdispatch).symm
    refine .inr ⟨finish, hw, rfl, ?_⟩
    -- the outcome is written to an action that is still open: a settled one refuses it, and stays
    by_cases hopen : ∃ row ∈ w.db.outboxAction.rows, row.id = dispatch.action.id ∧
        row.status.unfinished = true
    · obtain ⟨row, hrow, hid, hunfinished⟩ := hopen
      by_cases hfeasible : finish.Feasible dispatch.action.key w.db
      · have hyields : Yields (finishDispatch dispatch.action dispatch.now finish) w.db
            fun _ db' => db'.Settled dispatch.action.id :=
          finishDispatch_yields hrow (hkept.row row hrow hid) hunfinished hfeasible
        obtain ⟨u, db', hx, hsettled⟩ := hyields
        simp only [World.commitDispatcher, Txn.commit_of_ok hx]
        exact iff_of_true hsettled (.inl hfeasible)
      · simp [World.commitDispatcher,
          Txn.commit_fst_of_not_succeeds (finishDispatch_fails hfeasible), hfeasible]
    · have hfinished : ∀ row ∈ w.db.outboxAction.rows, row.id = dispatch.action.id →
          row.status.unfinished = false := by simpa using hopen
      have hsettled := settled_of_finished hfinished
      refine iff_of_true ?_ (.inr hsettled)
      simp only [World.commitDispatcher,
        Txn.commit_fst_of_not_succeeds (finishDispatch_fails_of_finished hfinished)]
      exact hsettled
  · exact absurd rfl hop
  · cases hstep

section

open Sample

/-- A message is judged spam and its cleanup enqueued; then the connection is found to be gone, and
the cleanup is claimed and checked. -/
def retiredCleanup : List Op :=
  connected true ++ message 3 50 1 .inboundMessage .spam .correct 3 ++ dispatch 4 ++
    trigger 4 "c" (.error .connectionNotFound) 5 ++ [.dispatcher (.claim 6), .dispatcher .check]

/-- The dispatch that `w` is about to end would leave its action unsettled. -/
def World.wedges (w : World) : Bool :=
  match w.dispatcher with
  | .finishing dispatch _ =>
    (w.step (.dispatcher .finish)).any fun w' => !decide (w'.db.Settled dispatch.action.id)
  | _ => false

set_option maxRecDepth 100000 in
theorem retiredCleanup_wedges : ∃ w, service.Reachable w ∧ w.wedges = true :=
  Machine.reachable_of_run retiredCleanup World.wedges ⟨0, rfl⟩ (by decide +kernel)

/-- The dispatch of `retiredCleanup` ends, and its action is settled exactly if its end is
feasible. -/
theorem dispatch_settles_iff_retired : ∃ (w w' : World) (dispatch : Dispatch), service.Reachable w ∧
    (w.dispatcher.GoesOn w'.dispatcher dispatch ∨
    ∃ finish, w.dispatcher = .finishing dispatch finish ∧ w'.dispatcher = .idle ∧
      (w'.db.Settled dispatch.action.id ↔
        finish.Feasible dispatch.action.key w.db ∨ w.db.Settled dispatch.action.id)) := by
  obtain ⟨w, hw, hwedges⟩ := retiredCleanup_wedges
  unfold World.wedges at hwedges
  split at hwedges
  · next dispatch finish hfinishing =>
    obtain ⟨w', hstep, -⟩ := (Option.any_eq_true _ _).1 hwedges
    exact ⟨w, w', dispatch, hw,
      dispatch_settles_iff hw (by simp) (by rw [hfinishing]; rfl) hstep⟩
  · cases hwedges

/-- **The head of the outbox can wedge.** The action of a retired connection can only end by
disabling the connection, which is not there to be disabled. -/
theorem head_wedges : ¬∀ (w w' : World) (dispatch : Dispatch) (finish : Finish),
    service.Reachable w →
    w.dispatcher = .finishing dispatch finish → w.step (.dispatcher .finish) = some w' →
    w'.db.Settled dispatch.action.id := by
  intro h
  obtain ⟨w, hw, hwedges⟩ := retiredCleanup_wedges
  unfold World.wedges at hwedges
  split at hwedges
  · next dispatch finish hfinishing =>
    obtain ⟨w', hstep, hunsettled⟩ := (Option.any_eq_true _ _).1 hwedges
    have hsettled := h w w' dispatch finish hw hfinishing hstep
    simp [hsettled] at hunsettled
  · cases hwedges

end

end ChatHygiene
