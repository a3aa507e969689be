import ChatHygiene.Outbox.Attempts
import Mathlib.Algebra.Order.BigOperators.Group.List
import Mathlib.Algebra.Order.Ring.Nat
/-!
# The dispatches of an action

An attempt is one dispatch of an action, from its claim on. The log of a run
keeps the attempts of every action ever enqueued, the latest first. What the
row of an action says (its attempts, its status, whether it is claimed) counts
them, which bounds them; and nothing but an answered error and a committed
`RETRY` frees the row of an action that must not be repeated for another send.
-/

namespace ChatHygiene

open Txn (commit bind_ok_iff pure_ok_iff)

/-! ## Attempts -/

/-- A dispatch of an action: whether it found the one before interrupted, the requests it made,
how they were answered, and whether it committed a `RETRY`. -/
structure Attempt where
  kind : OutboxActionKind
  interrupted : Bool
  calls : Nat
  response : Option TelegramResponse
  retried : Bool
  deriving DecidableEq

/-- The request was answered with an error other than a timeout, and the retry is committed. -/
def Attempt.isRetried (a : Attempt) : Bool :=
  match a.response with
  | some (.error error) => a.retried && error ≠ .timeout
  | _ => false

/-- The attempts that counted, which is every one that was not interrupted. -/
def dispatched (as : List Attempt) : Nat := as.countP fun a => !a.interrupted

/-- What a step of the dispatcher adds to the attempts of an action. -/
inductive DispatchEvent where
  | started (action : OutboxActionRecord)
  | called (actionId : Nat)
  | answered (actionId : Nat) (response : TelegramResponse)
  | retried (actionId : Nat)

def DispatchEvent.actionId : DispatchEvent → Nat
  | .started action => action.id
  | .called actionId | .answered actionId _ | .retried actionId => actionId

/-- The attempts with what the event says of the latest one. -/
def DispatchEvent.note : DispatchEvent → List Attempt → List Attempt
  | .started action, as => ⟨action.kind, action.interrupted, 0, none, false⟩ :: as
  | .called _, a :: as => { a with calls := a.calls + 1 } :: as
  | .answered _ response, a :: as => { a with response := some response } :: as
  | .retried _, a :: as => { a with retried := true } :: as
  | _, [] => []

/-- A check has come to a request. -/
def calledEvent (actionId : Nat) : Except Error Progress → Option DispatchEvent
  | .ok (.call _) => some (.called actionId)
  | _ => none

/-- The end of a dispatch has committed a retry. -/
def retriedEvent (actionId : Nat) : Finish → Except Error Unit → Option DispatchEvent
  | .retry .., .ok _ => some (.retried actionId)
  | _, _ => none

/-- What a step adds to the attempts of an action. -/
def World.dispatchEvent (w : World) (op : Op) : Option DispatchEvent :=
  match op, w.dispatcher with
  | .dispatcher (.claim now), .idle =>
    match (commit (claimDueOutboxAction now) w.db).2 with
    | .ok (some action) => some (.started action)
    | _ => none
  | .dispatcher .check, .claimed dispatch =>
    calledEvent dispatch.action.id (commit (executeCheck dispatch.action) w.db).2
  | .dispatcher .load, .loading dispatch =>
    calledEvent dispatch.action.id (commit (executeChallenge dispatch.action) w.db).2
  | .dispatcher (.respond response), .calling dispatch _ =>
    some (.answered dispatch.action.id response)
  | .dispatcher .finish, .finishing dispatch finish =>
    retriedEvent dispatch.action.id finish
      (commit (finishDispatch dispatch.action dispatch.now finish) w.db).2
  | _, _ => none

/-- A world, and the attempts of every action. -/
structure AttemptLog where
  world : World
  attempts : Nat → List Attempt

/-- The attempts after an event. -/
def noteEvent (attempts : Nat → List Attempt) : Option DispatchEvent → Nat → List Attempt
  | none => attempts
  | some event => Function.update attempts event.actionId (event.note (attempts event.actionId))

/-- The service, with its attempts on record. -/
def attemptLog : Machine AttemptLog Op where
  init s := ∃ now, s = ⟨.initial now, fun _ => []⟩
  step s op := (s.world.step op).map fun w =>
    ⟨w, noteEvent s.attempts (s.world.dispatchEvent op)⟩

/-! ## What a step of the dispatcher does -/

/-- A step of the service, as the action in flight and the outbox see it. -/
inductive DispatchStep (w w' : World) : Option DispatchEvent → Prop where
  | rests (hdb : OutboxRests w.db w'.db)
      (h : w'.dispatcher = w.dispatcher ∨ w'.dispatcher = .idle) : DispatchStep w w' none
  | started {action : OutboxActionRecord} {now : DateTime} (h : w.dispatcher = .idle)
      (hclaim : claimDueOutboxAction now w.db = .ok (some action, w'.db))
      (h' : w'.dispatcher = .claimed ⟨action, now, w'.db⟩) : DispatchStep w w' (some (.started action))
  | checked {dispatch : Dispatch} {progress : Progress} (h : w.dispatcher = .claimed dispatch)
      (hdb : w'.db = w.db) (hcheck : executeCheck dispatch.action w.db = .ok (progress, w.db))
      (h' : w'.dispatcher = World.advance dispatch (.ok progress)) :
      DispatchStep w w' (calledEvent dispatch.action.id (.ok progress))
  | loaded {dispatch : Dispatch} {progress : Progress} (h : w.dispatcher = .loading dispatch)
      (hdb : w'.db = w.db) (hload : executeChallenge dispatch.action w.db = .ok (progress, w.db))
      (h' : w'.dispatcher = World.advance dispatch (.ok progress)) :
      DispatchStep w w' (calledEvent dispatch.action.id (.ok progress))
  | answered {dispatch : Dispatch} {call : Call} {response : TelegramResponse}
      (h : w.dispatcher = .calling dispatch call) (hdb : w'.db = w.db)
      (h' : w'.dispatcher =
        .finishing dispatch (finishOfResponse dispatch.action call response dispatch.now)) :
      DispatchStep w w' (some (.answered dispatch.action.id response))
  | finished {dispatch : Dispatch} {finish : Finish} {u : Unit}
      (h : w.dispatcher = .finishing dispatch finish)
      (hfinish : finishDispatch dispatch.action dispatch.now finish w.db = .ok (u, w'.db))
      (h' : w'.dispatcher = .idle) :
      DispatchStep w w' (retriedEvent dispatch.action.id finish (.ok ()))

namespace World

variable {w w' : World} {op : Op}

theorem stepDispatcher_dispatches {op : DispatcherOp} (h : w.stepDispatcher op = some w') :
    DispatchStep w w' (w.dispatchEvent (.dispatcher op)) := by
  have hstill (h : w'.db = w.db) : OutboxRests w.db w'.db := h ▸ .refl _
  unfold stepDispatcher at h
  split at h
  · next now hw =>
    cases h
    simp only [dispatchEvent, hw, commitDispatcher]
    cases hx : claimDueOutboxAction now w.db with
    | error error =>
      rw [Txn.commit_of_error hx]
      exact .rests (.refl _) (.inr rfl)
    | ok r =>
      obtain ⟨claimed, db'⟩ := r
      rw [Txn.commit_of_ok hx]
      cases claimed with
      | none =>
        -- a claim that hands out no action has found none due, and has written nothing
        rcases claimDueOutboxAction_ok hx with ⟨-, rfl⟩ | ⟨action, -, -, hno, -⟩
        · exact .rests (.refl _) (.inr rfl)
        · cases hno
      | some action => exact .started hw hx rfl
  · next dispatch hw =>
    cases h
    simp only [dispatchEvent, hw, commitDispatcher]
    cases hx : executeCheck dispatch.action w.db with
    | error error =>
      rw [Txn.commit_of_error hx]
      exact .rests (.refl _) (.inr rfl)
    | ok r =>
      obtain ⟨progress, db'⟩ := r
      obtain rfl : w.db = db' := executeCheck_readOnly _ _ _ _ hx
      rw [Txn.commit_of_ok hx]
      exact .checked hw rfl hx rfl
  · next dispatch hw =>
    cases h
    simp only [dispatchEvent, hw, commitDispatcher]
    cases hx : executeChallenge dispatch.action w.db with
    | error error =>
      rw [Txn.commit_of_error hx]
      exact .rests (.refl _) (.inr rfl)
    | ok r =>
      obtain ⟨progress, db'⟩ := r
      obtain rfl : w.db = db' := executeChallenge_readOnly _ _ _ _ hx
      rw [Txn.commit_of_ok hx]
      exact .loaded hw rfl hx rfl
  · next dispatch call response hw =>
    cases h
    simp only [dispatchEvent, hw]
    exact .answered hw rfl rfl
  · next dispatch finish hw =>
    cases h
    simp only [dispatchEvent, hw, commitDispatcher]
    cases hx : finishDispatch dispatch.action dispatch.now finish w.db with
    | error error =>
      rw [Txn.commit_of_error hx]
      -- an outcome that is not stored is not noted either
      have hnone : retriedEvent dispatch.action.id finish (.error error) = none := by
        cases finish <;> rfl
      rw [hnone]
      exact .rests (.refl _) (.inr rfl)
    | ok r =>
      obtain ⟨u, db'⟩ := r
      rw [Txn.commit_of_ok hx]
      exact .finished hw hx rfl
  · cases h
    have hnone : w.dispatchEvent (.dispatcher .storageFailure) = none := rfl
    rw [hnone]
    exact .rests (.refl _) (.inr rfl)
  · cases h

/-- **What a step does to the outbox and to the action in flight.** -/
theorem step_dispatches (hprepared : w.EventsPrepared) (h : w.step op = some w') :
    DispatchStep w w' (w.dispatchEvent op) := by
  cases op with
  | dispatcher op => exact stepDispatcher_dispatches (Option.ite_none_right_eq_some.1 h).2
  | crash =>
    cases h
    exact .rests (.refl _) (.inr rfl)
  | worker op =>
    refine .rests ?_ (.inl (stepWorker_dispatcher h))
    rcases step_db h with hdb | ⟨x, hcommits, hdb⟩
    · exact hdb ▸ .refl _
    · rw [hdb]
      refine Transaction.outboxRests hprepared.noConnectionChange ?_ ?_
      · rintro now rfl
        cases hcommits
      · rintro action now finish rfl
        cases hcommits

end World

/-! ## What a check and an answer come to -/

/-- The end of a dispatch is not a retry. -/
def Finish.isFinal : Finish → Bool
  | .retry .. => false
  | _ => true

/-- The check of an action can be followed by a request, or by an end that is not a retry. -/
def Progress.IsFinal (progress : Progress) : Prop :=
  ∀ finish, progress = .finish finish → finish.isFinal = true

/-- The action may be sent, also when its last dispatch was interrupted. -/
def OutboxActionRecord.sendable (action : OutboxActionRecord) : Bool :=
  isIdempotent action.kind || !action.interrupted

theorem uncertainFinish_isFinal (action : OutboxActionRecord) (errorCode : String) :
    (uncertainFinish action errorCode).isFinal = true := by
  unfold uncertainFinish
  split <;> rfl

theorem Progress.isFinal_finish {finish : Finish} (h : finish.isFinal = true) :
    (Progress.finish finish).IsFinal := by
  intro finish' heq
  obtain rfl := Progress.finish.inj heq
  exact h

theorem Progress.isFinal_call (call : Call) : (Progress.call call).IsFinal := by
  intro finish heq
  cases heq

theorem withRight_final {action : OutboxActionRecord} {required : RequiredRight}
    {next : ConversationKey → Progress} (h : ∀ key, (next key).IsFinal) :
    Txn.Returns Progress.IsFinal (withRight action required next) := by
  unfold withRight
  split
  · exact .pure (Progress.isFinal_finish rfl)
  · exact .bind fun _ => .ite (fun _ => .pure (h _)) fun _ => .pure (Progress.isFinal_finish rfl)

theorem executeOwnerMessage_final (action : OutboxActionRecord) (payload : OwnerAlertPayload) :
    Txn.Returns Progress.IsFinal (executeOwnerMessage action payload) := by
  unfold executeOwnerMessage
  split
  · exact .pure (Progress.isFinal_call _)
  · split
    · exact .pure (Progress.isFinal_finish rfl)
    · refine .bind fun chat => ?_
      cases chat with
      | none => exact .pure (Progress.isFinal_finish rfl)
      | some chatId => exact .pure (Progress.isFinal_call _)

/-- **What the first check comes to**: an interrupted action that must not be repeated goes no
further. -/
theorem executeCheck_spec {action : OutboxActionRecord} {db db' : Database} {progress : Progress}
    (h : executeCheck action db = .ok (progress, db')) :
    progress.IsFinal ∧ (action.sendable = true ∨ ∃ finish, progress = .finish finish) := by
  unfold executeCheck at h
  by_cases hinterrupted : (action.interrupted && !isIdempotent action.kind) = true
  · rw [if_pos hinterrupted] at h
    obtain ⟨rfl, -⟩ := Prod.mk.inj (pure_ok_iff.1 h)
    exact ⟨Progress.isFinal_finish (uncertainFinish_isFinal _ _), .inr ⟨_, rfl⟩⟩
  · rw [if_neg hinterrupted] at h
    have hsendable : action.sendable = true := by
      unfold OutboxActionRecord.sendable
      revert hinterrupted
      cases isIdempotent action.kind <;> cases action.interrupted <;> simp
    refine ⟨?_, .inl hsendable⟩
    cases hpayload : action.payload with
    | sendChallenge | editChallenge =>
      rw [hpayload] at h
      exact withRight_final (fun _ _ hno => by cases hno) _ _ _ h
    | readBusinessMessage | deleteBusinessMessages =>
      rw [hpayload] at h
      exact withRight_final (fun _ => Progress.isFinal_call _) _ _ _ h
    | sendOwnerMessage payload =>
      rw [hpayload] at h
      exact executeOwnerMessage_final _ _ _ _ _ h
    | sendPrivateMessage chatId messageKind =>
      rw [hpayload] at h
      obtain ⟨rfl, -⟩ := Prod.mk.inj (pure_ok_iff.1 h)
      unfold executePrivateMessage
      split
      · exact Progress.isFinal_finish rfl
      · exact Progress.isFinal_call _
    | proposedDestructiveAction =>
      rw [hpayload] at h
      obtain ⟨rfl, -⟩ := Prod.mk.inj (pure_ok_iff.1 h)
      exact Progress.isFinal_finish rfl

/-- What the second check comes to. -/
theorem executeChallenge_spec {action : OutboxActionRecord} {db db' : Database}
    {progress : Progress} (h : executeChallenge action db = .ok (progress, db')) :
    progress.IsFinal ∧ progress ≠ .loadChallenge := by
  have hspec : Txn.Returns (fun progress => progress.IsFinal ∧ progress ≠ .loadChallenge)
      (executeChallenge action) := by
    have hfinish (finish : Finish) (hfinish : finish.isFinal = true) :
        (Progress.finish finish).IsFinal ∧ Progress.finish finish ≠ .loadChallenge :=
      ⟨Progress.isFinal_finish hfinish, nofun⟩
    have hcall (call : Call) : (Progress.call call).IsFinal ∧ Progress.call call ≠ .loadChallenge :=
      ⟨Progress.isFinal_call call, nofun⟩
    unfold executeChallenge
    split
    · refine .bind fun challenge => ?_
      cases challenge with
      | none => exact .pure (hfinish _ rfl)
      | some challenge => exact .pure (hcall _)
    · refine .bind fun challenge => ?_
      cases challenge with
      | none => exact .pure (hfinish _ rfl)
      | some challenge =>
        dsimp only
        split
        · exact .pure (hcall _)
        · exact .ite (fun _ => .pure (hfinish _ rfl)) fun _ => .pure (hfinish _ rfl)
    · exact .pure (hfinish _ rfl)
  exact hspec _ _ _ h

/-- Every wait is in the table, or asked for by Telegram and at most a minute. -/
theorem retryDelay_le {error : TelegramError} {attempts delay : Nat}
    (h : retryDelay error attempts = some delay) : attempts ≤ retrySeconds.length ∧ delay ≤ 60 := by
  unfold retryDelay at h
  split at h
  · cases h
  · next hattempts =>
    refine ⟨Nat.le_of_not_lt hattempts, ?_⟩
    split at h
    · obtain rfl := Option.some.inj h
      exact Nat.min_le_right _ _
    · split at h
      · cases h
      · have hmem : delay ∈ retrySeconds := List.mem_of_getElem? h
        have hall : ∀ wait ∈ retrySeconds, wait ≤ 60 := by decide
        exact hall delay hmem

/-- **What an answer that is retried was**: an error other than the timeout of an action that must
not be repeated, in one of the first attempts, retried within a minute. -/
theorem finishOfResponse_retry {action : OutboxActionRecord} {call : Call}
    {response : TelegramResponse} {now next : DateTime} {code : String}
    (h : finishOfResponse action call response now = .retry next code) :
    ∃ error, response = .error error ∧ (isIdempotent action.kind = false → error ≠ .timeout) ∧
      action.attempts ≤ retrySeconds.length ∧ now ≤ next ∧ next ≤ now + DateTime.seconds 60 := by
  cases response with
  | ok messageId => cases h
  | error error =>
    refine ⟨error, rfl, ?_⟩
    change handleTelegramFailure action error now = _ at h
    unfold handleTelegramFailure at h
    split at h
    · cases h
    · split at h
      · cases h
      · split at h
        · have hfinal := uncertainFinish_isFinal action error.errorCode
          rw [h] at hfinal
          cases hfinal
        · next hrepeats =>
          split at h
          · next delay hdelay =>
            obtain ⟨rfl, -⟩ := Finish.retry.inj h
            obtain ⟨hattempts, hdelay⟩ := retryDelay_le hdelay
            have hlower : 0 ≤ DateTime.seconds delay := by
              simp only [DateTime.seconds]
              omega
            have hupper : DateTime.seconds delay ≤ DateTime.seconds 60 := by
              simp only [DateTime.seconds]
              omega
            exact ⟨fun hkind htimeout => hrepeats ⟨htimeout, by simp [hkind]⟩, hattempts,
              Int.le_add_of_nonneg_right hlower, Int.add_le_add_left hupper now⟩
          · cases h

/-! ## What the rows say of the attempts -/

/-- The row of an action counts its attempts. While it is not claimed, another attempt is left, and
an action that must not be repeated may be sent again. -/
structure OutboxActionRow.Recounts (row : OutboxActionRow) (as : List Attempt) : Prop where
  kind : ∀ a ∈ as, a.kind = row.kind
  attempts : row.attempts = dispatched as
  claimed : row.status.unfinished = true → row.claimedAt.isSome = true → 1 ≤ row.attempts
  free : row.status.unfinished = true → row.claimedAt = none → row.attempts ≤ retrySeconds.length ∧
    (isIdempotent row.kind = false → ∀ a ∈ as, a.isRetried = true)

theorem OutboxActionRow.Recounts.rests {a b : OutboxActionRow} {as : List Attempt}
    (h : a.Recounts as) (hrests : a.Rests b) : b.Recounts as := by
  have hkind : b.kind = a.kind := congrArg OutboxPayload.kind hrests.same.payload.symm
  refine ⟨fun c hc => (h.kind c hc).trans hkind.symm, hrests.attempts.trans h.attempts,
    fun hunfinished hclaimed => ?_, fun hunfinished hclaimed => ?_⟩
  all_goals
    rcases hrests.status with ⟨hstatus, hclaimedAt⟩ | hsettled
    · rw [hstatus] at hunfinished
      rw [hclaimedAt] at hclaimed
      rw [hrests.attempts]
      first
        | exact h.claimed hunfinished hclaimed
        | exact hkind ▸ h.free hunfinished hclaimed
    · rw [hsettled] at hunfinished
      cases hunfinished

/-- An action that was never dispatched has no attempts to count. -/
theorem OutboxActionRow.recounts_nil {row : OutboxActionRow} (hattempts : row.attempts = 0)
    (h : row.Fresh ∨ row.status.unfinished = false) : row.Recounts [] := by
  refine ⟨List.forall_mem_nil _, hattempts, fun hunfinished hclaimed => ?_, fun _ _ => ?_⟩
  · rcases h with hfresh | hsettled
    · rw [hfresh.claimedAt] at hclaimed
      cases hclaimed
    · rw [hsettled] at hunfinished
      cases hunfinished
  · exact ⟨by omega, fun _ => List.forall_mem_nil _⟩

/-- Every row counts the attempts of its action, and no id has any before it is issued. -/
structure Recounted (attempts : Nat → List Attempt) (db : Database) : Prop where
  fresh : ∀ actionId, db.outboxSeq < actionId → attempts actionId = []
  row : ∀ row ∈ db.outboxAction.rows, row.Recounts (attempts row.id)

theorem Recounted.rests {attempts : Nat → List Attempt} {db db' : Database}
    (h : Recounted attempts db) (hrests : OutboxRests db db') : Recounted attempts db' := by
  refine ⟨fun actionId hid => h.fresh actionId (Nat.lt_of_le_of_lt hrests.seq hid), fun b hb => ?_⟩
  rcases hrests.row b hb with ⟨a, ha, hsame⟩ | ⟨hnew, hattempts, hfresh⟩
  · rw [← hsame.same.id]
    exact (h.row a ha).rests hsame
  · rw [h.fresh b.id hnew]
    exact OutboxActionRow.recounts_nil hattempts hfresh

/-! ## The action in flight -/

/-- A send that may have arrived is not followed by another one. -/
def Attempt.Spaced (later earlier : Attempt) : Prop :=
  isIdempotent later.kind = false → 0 < later.calls → earlier.isRetried = true

/-- How far the latest attempt has come in a phase of the dispatcher. -/
def Attempt.Fits (a : Attempt) : DispatcherPhase → Prop
  | .idle => True
  | .claimed _ => a.calls = 0
  | .loading dispatch => a.calls = 0 ∧ dispatch.action.sendable = true
  | .calling dispatch _ => a.calls = 1 ∧ dispatch.action.sendable = true
  | .finishing dispatch finish => a.calls ≤ 1 ∧ (finish.isFinal = false →
      dispatch.action.sendable = true ∧ dispatch.action.attempts ≤ retrySeconds.length ∧
      ∃ error, a.response = some (.error error) ∧
        (isIdempotent dispatch.action.kind = false → error ≠ .timeout))

/-- What bounds the attempts of every action. -/
structure WellSpaced (attempts : Nat → List Attempt) : Prop where
  bounded : ∀ actionId, dispatched (attempts actionId) ≤ retrySeconds.length + 1
  calls : ∀ actionId, ∀ a ∈ attempts actionId, a.calls ≤ 1
  spaced : ∀ actionId, (attempts actionId).Pairwise Attempt.Spaced

theorem WellSpaced.update {attempts : Nat → List Attempt} {actionId : Nat} {as : List Attempt}
    (h : WellSpaced attempts) (hbounded : dispatched as ≤ retrySeconds.length + 1)
    (hcalls : ∀ a ∈ as, a.calls ≤ 1) (hspaced : as.Pairwise Attempt.Spaced) :
    WellSpaced (Function.update attempts actionId as) where
  bounded := (Function.forall_update_iff _ fun _ as => dispatched as ≤ _).2
    ⟨hbounded, fun _ _ => h.bounded _⟩
  calls := (Function.forall_update_iff _ fun _ (as : List Attempt) => ∀ a ∈ as, a.calls ≤ 1).2
    ⟨hcalls, fun _ _ => h.calls _⟩
  spaced := (Function.forall_update_iff _ fun _ (as : List Attempt) => as.Pairwise Attempt.Spaced).2
    ⟨hspaced, fun _ _ => h.spaced _⟩

/-- The latest attempt counts as before when its claim is the same. -/
theorem dispatched_cons_congr {a a' : Attempt} (as : List Attempt)
    (h : a'.interrupted = a.interrupted) : dispatched (a' :: as) = dispatched (a :: as) := by
  simp [dispatched, List.countP_cons, h]

/-- More is noted of the latest attempt. -/
theorem WellSpaced.note {attempts : Nat → List Attempt} {actionId : Nat} {a a' : Attempt}
    {as : List Attempt} (h : WellSpaced attempts) (hattempts : attempts actionId = a :: as)
    (hinterrupted : a'.interrupted = a.interrupted) (hcalls : a'.calls ≤ 1)
    (hspaced : ∀ b ∈ as, a'.Spaced b) :
    WellSpaced (Function.update attempts actionId (a' :: as)) := by
  refine h.update ?_ (fun b hb => ?_) (List.pairwise_cons.2 ⟨hspaced, ?_⟩)
  · rw [dispatched_cons_congr as hinterrupted, ← hattempts]
    exact h.bounded actionId
  · rcases List.mem_cons.1 hb with rfl | hb
    · exact hcalls
    · exact h.calls actionId b (by rw [hattempts]; exact List.mem_cons_of_mem a hb)
  · exact (List.pairwise_cons.1 (hattempts ▸ h.spaced actionId)).2

namespace AttemptLog

variable {s : AttemptLog} {w' : World} {dispatch : Dispatch} {a a' : Attempt} {as : List Attempt}

/-- The latest attempt of the action in flight is its dispatch, and its row is claimed. -/
structure InFlight (s : AttemptLog) (dispatch : Dispatch) (a : Attempt) (as : List Attempt) :
    Prop where
  attempts : s.attempts dispatch.action.id = a :: as
  kind : a.kind = dispatch.action.kind
  counted : dispatch.action.attempts = dispatched (a :: as)
  positive : 1 ≤ dispatch.action.attempts
  earlier : dispatch.action.sendable = true → isIdempotent dispatch.action.kind = false →
    ∀ b ∈ as, b.isRetried = true
  issued : dispatch.action.id ≤ s.world.db.outboxSeq
  held : ∀ row ∈ s.world.db.outboxAction.rows, row.id = dispatch.action.id →
    row.status.unfinished = true → row.claimedAt.isSome = true
  fits : a.Fits s.world.dispatcher

/-- What the log keeps true of every action. -/
structure Sound (s : AttemptLog) : Prop where
  recounted : Recounted s.attempts s.world.db
  wellSpaced : WellSpaced s.attempts
  flight : ∀ dispatch, s.world.dispatcher.dispatch = some dispatch →
    ∃ a as, s.InFlight dispatch a as

/-- While other transactions are committed, the action in flight stays as it is. -/
theorem Sound.rests (h : s.Sound) (hdb : OutboxRests s.world.db w'.db)
    (hdispatcher : w'.dispatcher = s.world.dispatcher ∨ w'.dispatcher = .idle) :
    Sound ⟨w', s.attempts⟩ := by
  refine ⟨h.recounted.rests hdb, h.wellSpaced, fun dispatch hdispatch => ?_⟩
  dsimp only at hdispatch
  rcases hdispatcher with hsame | hidle
  · rw [hsame] at hdispatch
    obtain ⟨a, as, hflight⟩ := h.flight dispatch hdispatch
    refine ⟨a, as, hflight.attempts, hflight.kind, hflight.counted, hflight.positive,
      hflight.earlier, Nat.le_trans hflight.issued hdb.seq, fun b hb hid hunfinished => ?_,
      hsame ▸ hflight.fits⟩
    rcases hdb.row b hb with ⟨row, hrow, hrests⟩ | ⟨hnew, -⟩
    · rcases hrests.status with ⟨hstatus, hclaimed⟩ | hsettled
      · rw [hclaimed]
        exact hflight.held row hrow (hrests.same.id.trans hid) (hstatus ▸ hunfinished)
      · rw [hsettled] at hunfinished
        cases hunfinished
    · have := hflight.issued
      omega
  · rw [hidle] at hdispatch
    cases hdispatch

/-- **What is noted of the latest attempt while it is in flight**, its action being claimed. -/
theorem Sound.note (h : s.Sound) (hflight : s.InFlight dispatch a as) (hdb : w'.db = s.world.db)
    (hdispatch : w'.dispatcher.dispatch = some dispatch) (hkind : a'.kind = a.kind)
    (hinterrupted : a'.interrupted = a.interrupted) (hcalls : a'.calls ≤ 1)
    (hspaced : ∀ b ∈ as, a'.Spaced b) (hfits : a'.Fits w'.dispatcher) :
    Sound ⟨w', Function.update s.attempts dispatch.action.id (a' :: as)⟩ := by
  have hcounted := dispatched_cons_congr as hinterrupted
  refine ⟨⟨fun actionId hid => ?_, fun row hrow => ?_⟩,
    h.wellSpaced.note hflight.attempts hinterrupted hcalls hspaced, fun dispatch' hdispatch' => ?_⟩
  · dsimp only at hid ⊢
    rw [hdb] at hid
    have hne : actionId ≠ dispatch.action.id := by
      have := hflight.issued
      omega
    rw [Function.update_of_ne hne]
    exact h.recounted.fresh actionId hid
  · dsimp only at hrow ⊢
    rw [hdb] at hrow
    have hrecounts := h.recounted.row row hrow
    by_cases hid : row.id = dispatch.action.id
    · rw [hid, hflight.attempts] at hrecounts
      rw [hid, Function.update_self]
      refine ⟨fun b hb => ?_, hrecounts.attempts.trans hcounted.symm, hrecounts.claimed,
        fun hunfinished hclaimed => ?_⟩
      · rcases List.mem_cons.1 hb with rfl | hb
        · exact hkind.trans (hrecounts.kind a (by simp))
        · exact hrecounts.kind b (by simp [hb])
      · have hheld := hflight.held row hrow hid hunfinished
        rw [hclaimed] at hheld
        cases hheld
    · rw [Function.update_of_ne hid]
      exact hrecounts
  · obtain rfl : dispatch = dispatch' := Option.some.inj (hdispatch.symm.trans hdispatch')
    refine ⟨a', as, ?_, hkind.trans hflight.kind, hflight.counted.trans hcounted.symm,
      hflight.positive, hflight.earlier, ?_, ?_, hfits⟩
    · exact Function.update_self ..
    · exact hdb ▸ hflight.issued
    · exact hdb ▸ hflight.held

/-- **An action is claimed.** -/
theorem Sound.started {action : OutboxActionRecord} {now : DateTime} (h : s.Sound)
    (hclaim : claimDueOutboxAction now s.world.db = .ok (some action, w'.db))
    (hdispatcher : w'.dispatcher = .claimed ⟨action, now, w'.db⟩) :
    Sound ⟨w', Function.update s.attempts action.id
      (⟨action.kind, action.interrupted, 0, none, false⟩ :: s.attempts action.id)⟩ := by
  obtain ⟨row, hrow, hunfinished, hid, hkind, hinterrupted, hattempts, hseq, hrows⟩ :=
    claimDueOutboxAction_claims hclaim
  have hrecounts := h.recounted.row row hrow
  rw [← hid] at hrecounts
  have hissued : row.id ≤ s.world.db.outboxSeq := s.world.db.consistent.updates.outboxIds row hrow
  -- the claim counts the attempt, unless the one before was interrupted
  have hcounted : (row.claimed now).attempts = dispatched
      (⟨action.kind, action.interrupted, 0, none, false⟩ :: s.attempts action.id) := by
    simp only [OutboxActionRow.claimed, dispatched, List.countP_cons, hinterrupted]
    rw [hrecounts.attempts]
    cases row.claimedAt <;> rfl
  have hpositive : 1 ≤ (row.claimed now).attempts := by
    cases hclaimedAt : row.claimedAt with
    | none => simp [OutboxActionRow.claimed, hclaimedAt]
    | some claimedAt =>
      have := hrecounts.claimed hunfinished (by rw [hclaimedAt]; rfl)
      simp only [OutboxActionRow.claimed]
      omega
  have hbounded : (row.claimed now).attempts ≤ retrySeconds.length + 1 := by
    cases hclaimedAt : row.claimedAt with
    | none =>
      have := (hrecounts.free hunfinished hclaimedAt).1
      simp only [OutboxActionRow.claimed, hclaimedAt, Option.isSome_none]
      simpa using this
    | some claimedAt =>
      have := h.wellSpaced.bounded action.id
      simp only [OutboxActionRow.claimed, hclaimedAt, Option.isSome_some, if_true]
      rw [hrecounts.attempts]
      exact this
  refine ⟨⟨fun actionId hissued' => ?_, fun b hb => ?_⟩,
    h.wellSpaced.update (hcounted ▸ hbounded) (fun a ha => ?_) (List.pairwise_cons.2
      ⟨fun _ _ _ hno => absurd hno (Nat.lt_irrefl 0), h.wellSpaced.spaced action.id⟩),
    fun dispatch hdispatch => ?_⟩
  · dsimp only at hissued' ⊢
    rw [hseq] at hissued'
    rw [Function.update_of_ne (by omega)]
    exact h.recounted.fresh actionId hissued'
  · dsimp only at hb ⊢
    rcases hrows b hb with ⟨hb, hne⟩ | rfl
    · rw [Function.update_of_ne (hid ▸ hne)]
      exact h.recounted.row b hb
    · have hsame : (row.claimed now).id = action.id := hid.symm
      rw [hsame, Function.update_self]
      refine ⟨fun a ha => ?_, hcounted, fun _ _ => hpositive, fun _ hno => by cases hno⟩
      rcases List.mem_cons.1 ha with rfl | ha
      · exact hkind
      · exact hrecounts.kind a ha
  · rcases List.mem_cons.1 ha with rfl | ha
    · exact Nat.zero_le _
    · exact h.wellSpaced.calls action.id a ha
  · dsimp only at hdispatch
    rw [hdispatcher] at hdispatch
    obtain rfl := Option.some.inj hdispatch
    refine ⟨_, _, Function.update_self .., rfl, hattempts.trans hcounted, hattempts ▸ hpositive,
      fun hsendable hrepeats b hb => ?_, ?_, fun b hb hsame hopen => ?_, ?_⟩
    · have hfree : row.claimedAt = none := by
        simp only [OutboxActionRecord.sendable, hrepeats, hinterrupted, Bool.false_or] at hsendable
        simpa using hsendable
      exact (hrecounts.free hunfinished hfree).2 (hkind ▸ hrepeats) b hb
    · dsimp only
      omega
    · rcases hrows b hb with ⟨hb, hne⟩ | rfl
      · exact absurd (hsame.trans hid) hne
      · rfl
    · dsimp only
      rw [hdispatcher]
      rfl

/-- **A check is made.** -/
theorem Sound.progressed {progress : Progress} (h : s.Sound) (hflight : s.InFlight dispatch a as)
    (hdb : w'.db = s.world.db) (hdispatcher : w'.dispatcher = World.advance dispatch (.ok progress))
    (hcalls : a.calls = 0) (hfinal : progress.IsFinal)
    (hsendable : dispatch.action.sendable = true ∨ ∃ finish, progress = .finish finish) :
    Sound ⟨w', noteEvent s.attempts (calledEvent dispatch.action.id (.ok progress))⟩ := by
  have hsame : Function.update s.attempts dispatch.action.id (a :: as) = s.attempts := by
    rw [← hflight.attempts, Function.update_eq_self]
  have hnone : ∀ b ∈ as, a.Spaced b := by
    intro b _ _ hcalled
    omega
  cases progress with
  | loadChallenge =>
    have hsendable := hsendable.resolve_right nofun
    change Sound ⟨w', s.attempts⟩
    rw [← hsame]
    refine h.note hflight hdb (by rw [hdispatcher]; rfl) rfl rfl (by omega) hnone ?_
    rw [hdispatcher]
    exact ⟨hcalls, hsendable⟩
  | call call =>
    have hsendable := hsendable.resolve_right nofun
    have hnoted : noteEvent s.attempts (calledEvent dispatch.action.id (.ok (.call call))) =
        Function.update s.attempts dispatch.action.id ({ a with calls := a.calls + 1 } :: as) := by
      simp only [noteEvent, calledEvent, DispatchEvent.actionId, hflight.attempts,
        DispatchEvent.note]
    rw [hnoted]
    refine h.note hflight hdb (by rw [hdispatcher]; rfl) rfl rfl ?_ (fun b hb hrepeats _ => ?_) ?_
    · dsimp only
      omega
    · dsimp only at hrepeats
      exact hflight.earlier hsendable (hflight.kind ▸ hrepeats) b hb
    · rw [hdispatcher]
      exact ⟨by rw [hcalls], hsendable⟩
  | finish finish =>
    change Sound ⟨w', s.attempts⟩
    rw [← hsame]
    refine h.note hflight hdb (by rw [hdispatcher]; rfl) rfl rfl (by omega) hnone ?_
    rw [hdispatcher]
    refine ⟨by omega, fun hno => ?_⟩
    rw [hfinal finish rfl] at hno
    cases hno

/-- **A request is answered.** -/
theorem Sound.answered {call : Call} {response : TelegramResponse} (h : s.Sound)
    (hflight : s.InFlight dispatch a as) (hdb : w'.db = s.world.db)
    (hcalling : s.world.dispatcher = .calling dispatch call) (hdispatcher : w'.dispatcher =
      .finishing dispatch (finishOfResponse dispatch.action call response dispatch.now)) :
    Sound ⟨w', noteEvent s.attempts (some (.answered dispatch.action.id response))⟩ := by
  have hfits := hflight.fits
  rw [hcalling] at hfits
  obtain ⟨hcalls, hsendable⟩ := hfits
  have hnoted : noteEvent s.attempts (some (.answered dispatch.action.id response)) =
      Function.update s.attempts dispatch.action.id ({ a with response := some response } :: as) := by
    simp only [noteEvent, DispatchEvent.actionId, hflight.attempts, DispatchEvent.note]
  rw [hnoted]
  refine h.note hflight hdb (by rw [hdispatcher]; rfl) rfl rfl ?_ (fun b hb hrepeats _ => ?_) ?_
  · exact Nat.le_of_eq hcalls
  · dsimp only at hrepeats
    exact hflight.earlier hsendable (hflight.kind ▸ hrepeats) b hb
  · rw [hdispatcher]
    refine ⟨Nat.le_of_eq hcalls, fun hretry => ⟨hsendable, ?_⟩⟩
    cases hfinish : finishOfResponse dispatch.action call response dispatch.now with
    | retry next code =>
      obtain ⟨error, rfl, htimeout, hattempts, -⟩ := finishOfResponse_retry hfinish
      exact ⟨hattempts, error, rfl, htimeout⟩
    | _ =>
      rw [hfinish] at hretry
      cases hretry

/-- **A dispatch ends**, and its action is let go of. -/
theorem Sound.finished {finish : Finish} {u : Unit} (h : s.Sound)
    (hflight : s.InFlight dispatch a as)
    (hfinishing : s.world.dispatcher = .finishing dispatch finish)
    (hfinish : finishDispatch dispatch.action dispatch.now finish s.world.db = .ok (u, w'.db))
    (hdispatcher : w'.dispatcher = .idle) :
    Sound ⟨w', noteEvent s.attempts (retriedEvent dispatch.action.id finish (.ok ()))⟩ := by
  have hfits := hflight.fits
  rw [hfinishing] at hfits
  obtain ⟨hcalls, hretry⟩ := hfits
  obtain ⟨mid, ⟨hseq, row, hrow, hid, hunfinished, next, code, hrows⟩, hrests⟩ :=
    finishDispatch_ok hfinish
  -- a retry is noted of the latest attempt, any other end leaves the log as it is
  obtain ⟨a', hnoted, hkind, hinterrupted, hcalls', hretried⟩ : ∃ a' : Attempt,
      noteEvent s.attempts (retriedEvent dispatch.action.id finish (.ok ())) =
        Function.update s.attempts dispatch.action.id (a' :: as) ∧ a'.kind = a.kind ∧
      a'.interrupted = a.interrupted ∧ a'.calls = a.calls ∧
      (finish.isFinal = true ∨ a'.response = a.response ∧ a'.retried = true) := by
    have hsame : s.attempts = Function.update s.attempts dispatch.action.id (a :: as) := by
      rw [← hflight.attempts, Function.update_eq_self]
    cases finish with
    | retry next code =>
      refine ⟨{ a with retried := true }, ?_, rfl, rfl, rfl, .inr ⟨rfl, rfl⟩⟩
      simp only [noteEvent, retriedEvent, DispatchEvent.actionId, hflight.attempts,
        DispatchEvent.note]
    | _ => exact ⟨a, hsame, rfl, rfl, rfl, .inl rfl⟩
  have hcounted := dispatched_cons_congr as hinterrupted
  have hspaced := List.pairwise_cons.1 (hflight.attempts ▸ h.wellSpaced.spaced dispatch.action.id)
  have hrecounted : Recounted (Function.update s.attempts dispatch.action.id (a' :: as)) mid := by
    refine ⟨fun actionId hissued => ?_, fun b hb => ?_⟩
    · rw [hseq] at hissued
      have hne : actionId ≠ dispatch.action.id := by
        have := hflight.issued
        omega
      rw [Function.update_of_ne hne]
      exact h.recounted.fresh actionId hissued
    · rcases hrows b hb with ⟨hb, hne⟩ | rfl
      · rw [Function.update_of_ne hne]
        exact h.recounted.row b hb
      · have hrecounts := h.recounted.row row hrow
        rw [hid, hflight.attempts] at hrecounts
        have hsame : (row.finish finish.status next code dispatch.now).id = dispatch.action.id := hid
        have hrowKind : row.kind = dispatch.action.kind :=
          (hrecounts.kind a (by simp)).symm.trans hflight.kind
        rw [hsame, Function.update_self]
        refine ⟨fun b hb => ?_, hrecounts.attempts.trans hcounted.symm,
          fun _ hno => (by cases hno), fun hopen _ => ?_⟩
        · rcases List.mem_cons.1 hb with rfl | hb
          · exact hkind.trans (hrecounts.kind a (by simp))
          · exact hrecounts.kind b (by simp [hb])
        · have hnotFinal : finish.isFinal = false := by
            change finish.status.unfinished = true at hopen
            cases finish with
            | retry => rfl
            | _ => cases hopen
          obtain ⟨hsendable, hattempts, error, hresponse, htimeout⟩ := hretry hnotFinal
          obtain ⟨hresponse', hretried⟩ := hretried.resolve_left (by simp [hnotFinal])
          refine ⟨?_, fun hrepeats b hb => ?_⟩
          · change row.attempts ≤ _
            rw [hrecounts.attempts, ← hflight.counted]
            exact hattempts
          · replace hrepeats : isIdempotent dispatch.action.kind = false := hrowKind ▸ hrepeats
            rcases List.mem_cons.1 hb with rfl | hb
            · simp [Attempt.isRetried, hresponse'.trans hresponse, hretried, htimeout hrepeats]
            · exact hflight.earlier hsendable hrepeats b hb
  rw [hnoted]
  refine ⟨hrecounted.rests hrests, h.wellSpaced.note hflight.attempts hinterrupted
    (hcalls' ▸ hcalls) (fun b hb hrepeats hcalled => ?_), fun dispatch' hdispatch' => ?_⟩
  · exact hspaced.1 b hb (hkind ▸ hrepeats) (hcalls' ▸ hcalled)
  · dsimp only at hdispatch'
    rw [hdispatcher] at hdispatch'
    cases hdispatch'

/-- **Every step keeps the log sound.** -/
theorem Sound.step {event : Option DispatchEvent} (h : s.Sound)
    (hstep : DispatchStep s.world w' event) : Sound ⟨w', noteEvent s.attempts event⟩ := by
  cases hstep with
  | rests hdb hdispatcher => exact h.rests hdb hdispatcher
  | started hidle hclaim hdispatcher => exact h.started hclaim hdispatcher
  | checked hclaimed hdb hcheck hdispatcher =>
    obtain ⟨a, as, hflight⟩ := h.flight _ (by rw [hclaimed]; rfl)
    have hcalls := hflight.fits
    rw [hclaimed] at hcalls
    obtain ⟨hfinal, hsendable⟩ := executeCheck_spec hcheck
    exact h.progressed hflight hdb hdispatcher hcalls hfinal hsendable
  | loaded hloading hdb hload hdispatcher =>
    obtain ⟨a, as, hflight⟩ := h.flight _ (by rw [hloading]; rfl)
    have hfits := hflight.fits
    rw [hloading] at hfits
    obtain ⟨hfinal, -⟩ := executeChallenge_spec hload
    exact h.progressed hflight hdb hdispatcher hfits.1 hfinal (.inl hfits.2)
  | answered hcalling hdb hdispatcher =>
    obtain ⟨a, as, hflight⟩ := h.flight _ (by rw [hcalling]; rfl)
    exact h.answered hflight hdb hcalling hdispatcher
  | finished hfinishing hfinish hdispatcher =>
    obtain ⟨a, as, hflight⟩ := h.flight _ (by rw [hfinishing]; rfl)
    exact h.finished hflight hfinishing hfinish hdispatcher

/-- The service under the log runs as it does alone. -/
theorem reachable_world (h : attemptLog.Reachable s) : service.Reachable s.world := by
  refine h.invariant (P := fun s => service.Reachable s.world) ?_ fun s op s' _ ih _ hstep => ?_
  · rintro s ⟨now, rfl⟩
    exact ⟨_, ⟨now, rfl⟩, .refl _⟩
  · obtain ⟨w', hw', rfl⟩ := Option.map_eq_some_iff.1 hstep
    exact ih.step trivial hw'

/-- **In every run the log is sound.** -/
theorem sound (h : attemptLog.Reachable s) : s.Sound := by
  refine h.invariant ?_ fun s op s' hs ih _ hstep => ?_
  · rintro s ⟨now, rfl⟩
    refine ⟨⟨fun _ _ => rfl, fun row hrow => ?_⟩,
      ⟨fun _ => Nat.zero_le _, fun _ => List.forall_mem_nil _, fun _ => .nil⟩,
      fun dispatch hdispatch => ?_⟩
    · cases hrow
    · cases hdispatch
  · obtain ⟨w', hw', rfl⟩ := Option.map_eq_some_iff.1 hstep
    exact ih.step (World.step_dispatches (World.eventsPrepared (reachable_world hs)) hw')

/-- Without an interruption every attempt counts. -/
theorem dispatched_eq_length (h : ∀ a ∈ as, a.interrupted = false) : dispatched as = as.length := by
  refine List.countP_eq_length.2 fun a ha => ?_
  simp [h a ha]

/-- Attempts that make at most one request each. -/
theorem sum_calls_le (h : ∀ a ∈ as, a.calls ≤ 1) : (as.map (·.calls)).sum ≤ as.length := by
  have hsum := List.sum_le_card_nsmul (as.map (·.calls)) 1 (by simpa using h)
  simpa using hsum

/-- Where the action in flight is after its dispatch is ended. -/
theorem Sound.finishes {finish : Finish} {u : Unit} {db' : Database} (h : s.Sound)
    (hfinishing : s.world.dispatcher = .finishing dispatch finish)
    (hfinish : finishDispatch dispatch.action dispatch.now finish s.world.db = .ok (u, db')) :
    ∀ row ∈ db'.outboxAction.rows, row.id = dispatch.action.id →
      row.status.unfinished = false ∨ row.claimedAt = none ∧
        row.attempts = dispatch.action.attempts ∧ row.attempts ≤ retrySeconds.length := by
  have hsound : Sound ⟨{ s.world with db := db', dispatcher := .idle }, _⟩ :=
    h.step (.finished hfinishing hfinish rfl)
  obtain ⟨a, as, hflight⟩ := h.flight dispatch (by rw [hfinishing]; rfl)
  obtain ⟨mid, ⟨hseq, old, hold, hid, -, next, code, hrows⟩, hrests⟩ := finishDispatch_ok hfinish
  intro row hrow hrowId
  have hissued := hflight.issued
  rcases hrests.row row hrow with ⟨b, hb, hsame⟩ | ⟨hnew, -⟩
  · have hbId : b.id = dispatch.action.id := hsame.same.id.trans hrowId
    have hfinished := (hrows b hb).resolve_left fun hno => hno.2 hbId
    have hcounts : old.attempts = dispatch.action.attempts := by
      have hrecounts := h.recounted.row old hold
      rw [hid, hflight.attempts] at hrecounts
      exact hrecounts.attempts.trans hflight.counted.symm
    cases hunfinished : row.status.unfinished with
    | false => exact .inl rfl
    | true =>
      have hclaimed : row.claimedAt = none := by
        rcases hsame.status with ⟨-, hclaimed⟩ | hsettled
        · rw [hclaimed, hfinished]
          rfl
        · rw [hsettled] at hunfinished
          cases hunfinished
      refine .inr ⟨hclaimed, ?_, ((hsound.recounted.row row hrow).free hunfinished hclaimed).1⟩
      rw [hsame.attempts, hfinished]
      exact hcounts
  · rw [hseq] at hnew
    omega

end AttemptLog

section

open Sample

/-- The message that greets the Owner cannot be delivered, and is sent again a second later. -/
def sentAgain : List Op :=
  start true ++ claim ++
    [.dispatcher (.claim 3), .dispatcher .check, .dispatcher (.respond (.error .transport)),
      .dispatcher .finish, .dispatcher (.claim (3 + DateTime.seconds 1)), .dispatcher .check]

/-- An action that must not be repeated is in its second request, and none was interrupted. -/
def AttemptLog.isSentAgain (s : AttemptLog) : Bool :=
  match s.world.dispatcher with
  | .calling dispatch _ =>
    dispatch.action.attempts = 2 && !isIdempotent dispatch.action.kind &&
      (s.attempts dispatch.action.id).length = 2 &&
      (s.attempts dispatch.action.id).all fun a => !a.interrupted && a.calls = 1 &&
        !isIdempotent a.kind
  | _ => false

set_option maxRecDepth 100000 in
theorem sentAgain_reachable : ∃ s, attemptLog.Reachable s ∧ s.isSentAgain = true :=
  Machine.reachable_of_run sentAgain AttemptLog.isSentAgain ⟨0, rfl⟩ (by decide +kernel)

end

/-- **The retry bound.** In every run, an action in a request has been attempted at least once and
at most seven times, so that the index of a wait is in its table, and whatever error the request is
answered with, a retry is due from now on and within a minute. An action none of whose dispatches
was interrupted has made at most one request in each of at most seven attempts, which its row
counts, and it is settled or at most six are behind it unless it is claimed; and the end of any
dispatch settles it, or leaves it unclaimed with at most six attempts. -/
theorem retry_bound {s : AttemptLog} (h : attemptLog.Reachable s) :
    (∀ dispatch call, s.world.dispatcher = .calling dispatch call →
      1 ≤ dispatch.action.attempts ∧ dispatch.action.attempts ≤ 7 ∧
      (dispatch.action.attempts ≤ retrySeconds.length →
        dispatch.action.attempts - 1 < retrySeconds.length) ∧
      ∀ error next code,
        finishOfResponse dispatch.action call (.error error) dispatch.now = .retry next code →
          dispatch.now ≤ next ∧ next ≤ dispatch.now + DateTime.seconds 60) ∧
    (∀ actionId, (∀ a ∈ s.attempts actionId, a.interrupted = false) →
      (s.attempts actionId).length ≤ 7 ∧ ((s.attempts actionId).map (·.calls)).sum ≤ 7 ∧
      ∀ row ∈ s.world.db.outboxAction.rows, row.id = actionId →
        row.attempts = (s.attempts actionId).length ∧
        (row.status.unfinished = false ∨ row.claimedAt.isSome = true ∨
          (s.attempts actionId).length ≤ 6)) ∧
    ∀ dispatch finish u db', s.world.dispatcher = .finishing dispatch finish →
      finishDispatch dispatch.action dispatch.now finish s.world.db = .ok (u, db') →
      ∀ row ∈ db'.outboxAction.rows, row.id = dispatch.action.id →
        row.status.unfinished = false ∨ row.claimedAt = none ∧
          row.attempts = dispatch.action.attempts ∧ row.attempts ≤ 6 := by
  have hsound := AttemptLog.sound h
  refine ⟨fun dispatch call hcalling => ?_, fun actionId huninterrupted => ?_,
    fun dispatch finish u db' => hsound.finishes⟩
  · obtain ⟨a, as, hflight⟩ := hsound.flight dispatch (by rw [hcalling]; rfl)
    have hpositive := hflight.positive
    have hbounded : dispatch.action.attempts ≤ 7 := by
      rw [hflight.counted, ← hflight.attempts]
      exact hsound.wellSpaced.bounded _
    refine ⟨hpositive, hbounded, fun _ => by omega, fun error next code hretry => ?_⟩
    obtain ⟨-, -, -, -, hnext⟩ := finishOfResponse_retry hretry
    exact hnext
  · have hcounted := AttemptLog.dispatched_eq_length huninterrupted
    have hlength : (s.attempts actionId).length ≤ 7 := by
      rw [← hcounted]
      exact hsound.wellSpaced.bounded actionId
    have hcalls := AttemptLog.sum_calls_le (hsound.wellSpaced.calls actionId)
    refine ⟨hlength, hcalls.trans hlength, fun row hrow hid => ?_⟩
    subst hid
    have hrecounts := hsound.recounted.row row hrow
    have hattempts := hrecounts.attempts.trans hcounted
    refine ⟨hattempts, ?_⟩
    cases hunfinished : row.status.unfinished with
    | false => exact .inl rfl
    | true =>
      cases hclaimed : row.claimedAt with
      | some claimedAt => exact .inr (.inl rfl)
      | none =>
        have hfree := (hrecounts.free hunfinished hclaimed).1
        rw [hattempts] at hfree
        exact .inr (.inr hfree)

/-- In its second request an action has five left, and the wait before the next is in the table. -/
theorem retry_bound_sentAgain : ∃ (s : AttemptLog) (dispatch : Dispatch),
    attemptLog.Reachable s ∧ dispatch.action.attempts = 2 ∧
      dispatch.action.attempts - 1 < retrySeconds.length ∧
      ((s.attempts dispatch.action.id).map (·.calls)).sum ≤ 7 := by
  obtain ⟨s, hs, hagain⟩ := sentAgain_reachable
  unfold AttemptLog.isSentAgain at hagain
  split at hagain
  · next dispatch call hcalling =>
    simp only [Bool.and_eq_true, decide_eq_true_eq, List.all_eq_true, Bool.not_eq_true'] at hagain
    obtain ⟨⟨⟨hattempts, -⟩, -⟩, hall⟩ := hagain
    obtain ⟨-, -, hindex, -⟩ := (retry_bound hs).1 dispatch call hcalling
    obtain ⟨-, hcalls, -⟩ := (retry_bound hs).2.1 dispatch.action.id fun a ha => (hall a ha).1.1
    exact ⟨s, dispatch, hs, hattempts, hindex (by rw [hattempts]; decide), hcalls⟩
  · cases hagain

/-- **No ambiguous resend.** In every run a dispatch makes at most one request, which the log notes
under its action; and where an action that must not be repeated is sent again, every earlier
dispatch of it was answered with an error other than a timeout and has committed its retry: none
succeeded, timed out or was interrupted. -/
theorem no_ambiguous_resend {s : AttemptLog} (h : attemptLog.Reachable s) :
    (∀ dispatch call, s.world.dispatcher = .calling dispatch call →
      ∃ a as, s.attempts dispatch.action.id = a :: as ∧ a.kind = dispatch.action.kind ∧
        a.calls = 1) ∧
    (∀ row ∈ s.world.db.outboxAction.rows, ∀ a ∈ s.attempts row.id, a.kind = row.kind) ∧
    ∀ actionId, (∀ a ∈ s.attempts actionId, a.calls ≤ 1) ∧
      (s.attempts actionId).Pairwise fun later earlier =>
        isIdempotent later.kind = false → 0 < later.calls →
          ∃ error, earlier.response = some (.error error) ∧ error ≠ .timeout ∧
            earlier.retried = true := by
  have hsound := AttemptLog.sound h
  refine ⟨fun dispatch call hcalling => ?_, fun row hrow => (hsound.recounted.row row hrow).kind,
    fun actionId => ⟨hsound.wellSpaced.calls actionId, ?_⟩⟩
  · obtain ⟨a, as, hflight⟩ := hsound.flight dispatch (by rw [hcalling]; rfl)
    have hfits := hflight.fits
    rw [hcalling] at hfits
    exact ⟨a, as, hflight.attempts, hflight.kind, hfits.1⟩
  · refine (hsound.wellSpaced.spaced actionId).imp fun {later earlier} hspaced hrepeats hcalled => ?_
    have hretried := hspaced hrepeats hcalled
    unfold Attempt.isRetried at hretried
    split at hretried
    · next error hresponse =>
      simp only [Bool.and_eq_true, decide_eq_true_eq] at hretried
      exact ⟨error, hresponse, hretried.2, hretried.1⟩
    · cases hretried

/-- The message was sent again because it was answered with an error. -/
theorem no_ambiguous_resend_sentAgain : ∃ (s : AttemptLog) (later earlier : Attempt) (actionId : Nat),
    attemptLog.Reachable s ∧ s.attempts actionId = [later, earlier] ∧ later.calls = 1 ∧
      isIdempotent later.kind = false ∧
      ∃ error, earlier.response = some (.error error) ∧ error ≠ .timeout ∧ earlier.retried = true := by
  obtain ⟨s, hs, hagain⟩ := sentAgain_reachable
  unfold AttemptLog.isSentAgain at hagain
  split at hagain
  · next dispatch call hcalling =>
    simp only [Bool.and_eq_true, decide_eq_true_eq, List.all_eq_true, Bool.not_eq_true'] at hagain
    obtain ⟨⟨⟨-, -⟩, hlength⟩, hall⟩ := hagain
    obtain ⟨later, earlier, hattempts⟩ := List.length_eq_two.1 hlength
    obtain ⟨⟨-, hcalls⟩, hrepeats⟩ := hall later (by simp [hattempts])
    have hpairwise := ((no_ambiguous_resend hs).2.2 dispatch.action.id).2
    rw [hattempts] at hpairwise
    exact ⟨s, later, earlier, dispatch.action.id, hs, hattempts, hcalls, hrepeats,
      (List.pairwise_cons.1 hpairwise).1 earlier (by simp) hrepeats (by omega)⟩
  · cases hagain

end ChatHygiene
