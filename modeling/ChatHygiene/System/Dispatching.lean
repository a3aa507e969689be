import ChatHygiene.System.Invariants
/-!
# The action in flight

From its claim to the end of its dispatch, the dispatcher holds the action as
its row was enqueued: whatever the worker commits in between, the row keeps its
source, its conversation and its payload, or is gone.
-/

namespace ChatHygiene

open Txn (commit bind_ok_iff pure_ok_iff)

/-- The record is of the row. -/
structure OutboxActionRecord.Of (action : OutboxActionRecord) (row : OutboxActionRow) : Prop where
  id : action.id = row.id
  sourceUpdateId : action.sourceUpdateId = row.sourceUpdateId
  key : action.key = row.key
  payload : action.payload = row.payload

theorem OutboxActionRecord.Of.same {action : OutboxActionRecord} {row row' : OutboxActionRow}
    (h : action.Of row) (hsame : row.Same row') : action.Of row' where
  id := h.id.trans hsame.id
  sourceUpdateId := h.sourceUpdateId.trans hsame.sourceUpdateId
  key := h.key.trans hsame.key
  payload := h.payload.trans hsame.payload

/-- **What a claim comes to**: nothing, or the oldest due action, its claim stamped on its row. -/
theorem claimDueOutboxAction_ok {now : DateTime} {db db' : Database}
    {claimed : Option OutboxActionRecord}
    (h : claimDueOutboxAction now db = .ok (claimed, db')) :
    (claimed = none ∧ db' = db) ∨ ∃ action row row', claimed = some action ∧
      row ∈ db.outboxAction.rows ∧ row.due now = true ∧ action.interrupted = row.claimedAt.isSome ∧
      row' ∈ db'.outboxAction.rows ∧ row'.status.unfinished = true ∧ row'.claimedAt = some now ∧
      action.Of row ∧ action.Of row' ∧ Frame [.outbox] db.toTables db'.toTables := by
  have hframe : Frame [.outbox] db.toTables db'.toTables :=
    (show WritesTo [.outbox] (fun _ => True) db db' from
      claimDueOutboxAction_writes (by simp) _ _ _ _ h).frame
  unfold claimDueOutboxAction at h
  obtain ⟨ready, s₁, hready, h₁⟩ := bind_ok_iff.1 h
  obtain rfl : db = s₁ := readinessIn_readOnly now _ _ _ hready
  obtain ⟨found, s₂, hread, h₂⟩ := bind_ok_iff.1 h₁
  obtain ⟨hfound, rfl⟩ := Prod.mk.inj (Txn.read_ok_iff.1 hread)
  cases found with
  | none =>
    obtain ⟨rfl, rfl⟩ := Prod.mk.inj (pure_ok_iff.1 h₂)
    exact .inl ⟨rfl, rfl⟩
  | some row =>
    have hmem := List.mem_of_find?_eq_some hfound
    have hdue : row.due now = true := by
      have := List.find?_some hfound
      simp only [Bool.and_eq_true] at this
      exact this.1
    obtain ⟨affected, s₃, hupdate, h₃⟩ := bind_ok_iff.1 h₂
    have hupdate := Uow.statement_ok_iff.1 hupdate
    obtain ⟨-, hdb⟩ := Prod.mk.inj (Except.ok.inj hupdate)
    by_cases hone : affected = 1
    · rw [if_neg (by simp [hone])] at h₃
      obtain ⟨rfl, rfl⟩ := Prod.mk.inj (pure_ok_iff.1 h₃)
      refine .inr ⟨_, row, { row with
        attempts := row.attempts + (if row.claimedAt.isSome then 0 else 1)
        claimedAt := some now
        updatedAt := now }, rfl, hmem, hdue, rfl, ?_, ?_, rfl, ⟨rfl, rfl, rfl, rfl⟩,
        ⟨rfl, rfl, rfl, rfl⟩, hframe⟩
      · rw [← hdb]
        exact List.mem_map.2 ⟨row, hmem, by simp⟩
      · simp only [OutboxActionRow.due, Bool.and_eq_true] at hdue
        exact hdue.1
    · rw [if_pos hone] at h₃
      cases h₃

/-- The dispatch in progress. -/
def DispatcherPhase.dispatch : DispatcherPhase → Option Dispatch
  | .idle => none
  | .claimed dispatch | .loading dispatch | .calling dispatch _ | .finishing dispatch _ =>
    some dispatch

namespace World

/-- The worker leaves the dispatcher alone. -/
theorem stepWorker_dispatcher {w w' : World} {op : WorkerOp} (h : w.stepWorker op = some w') :
    w'.dispatcher = w.dispatcher := by
  cases stepWorker_step h with
  | rests hrests hlisted hdispatcher => exact hdispatcher
  | takesOn phase htakes hw' =>
    subst hw'
    rfl
  | records event preparedIn hw hop hw' =>
    subst hw'
    exact afterRecord_dispatcher ..

/-- **Where a dispatch comes from**: it goes on, or its action has just been claimed. -/
theorem step_dispatch {w w' : World} {op : Op} {dispatch : Dispatch} (h : w.step op = some w')
    (hdispatch : w'.dispatcher.dispatch = some dispatch) :
    w.dispatcher.dispatch = some dispatch ∨
      ∃ now, op = .dispatcher (.claim now) ∧ w.dispatcher = .idle ∧
        claimDueOutboxAction now w.db = .ok (some dispatch.action, w'.db) ∧
        dispatch.now = now ∧ dispatch.claimedIn = w'.db := by
  cases op with
  | worker op =>
    rw [stepWorker_dispatcher h] at hdispatch
    exact .inl hdispatch
  | crash =>
    cases h
    cases hdispatch
  | dispatcher op =>
    replace h := (Option.ite_none_right_eq_some.1 h).2
    have hadvance (d : Dispatch) (r : Except Error Progress)
        (hd : (advance d r).dispatch = some dispatch) : d = dispatch := by
      cases r with
      | error e => cases hd
      | ok progress => cases progress <;> exact Option.some.inj hd
    unfold stepDispatcher at h
    split at h
    · next now hw =>
      cases h
      cases hx : claimDueOutboxAction now w.db with
      | error e =>
        simp only [commitDispatcher, Txn.commit_of_error hx, afterClaim] at hdispatch
        cases hdispatch
      | ok r =>
        obtain ⟨claimed, db'⟩ := r
        simp only [commitDispatcher, Txn.commit_of_ok hx] at hdispatch ⊢
        cases claimed with
        | none => cases hdispatch
        | some action =>
          obtain rfl := Option.some.inj hdispatch
          exact .inr ⟨now, rfl, hw, hx, rfl, rfl⟩
    · next hw =>
      cases h
      exact .inl (by rw [hw]; exact congrArg some (hadvance _ _ hdispatch))
    · next hw =>
      cases h
      exact .inl (by rw [hw]; exact congrArg some (hadvance _ _ hdispatch))
    · next hw =>
      cases h
      exact .inl (by rw [hw]; exact hdispatch)
    · cases h
      cases hdispatch
    · cases h
      cases hdispatch
    · cases h

/-- The action in flight is the one its row was enqueued with, in the database it was claimed in
and now. -/
structure DispatchKept (w : World) (dispatch : Dispatch) : Prop where
  claimed : ∃ row ∈ dispatch.claimedIn.outboxAction.rows, dispatch.action.Of row ∧
    row.status.unfinished = true
  issued : dispatch.action.id ≤ w.db.outboxSeq
  row : ∀ row ∈ w.db.outboxAction.rows, row.id = dispatch.action.id → dispatch.action.Of row

/-- In every reachable world, the action in flight is the one its row was enqueued with. -/
theorem dispatchKept {ok : World → Op → Prop} {w : World} (h : service.ReachableBy ok w)
    {dispatch : Dispatch} (hdispatch : w.dispatcher.dispatch = some dispatch) :
    w.DispatchKept dispatch := by
  refine h.invariant (P := fun w => ∀ dispatch, w.dispatcher.dispatch = some dispatch →
    w.DispatchKept dispatch) ?_ ?_ dispatch hdispatch
  · rintro w ⟨now, rfl⟩ dispatch hdispatch
    cases hdispatch
  · intro w op w' hr hw _ hstep dispatch hdispatch
    rcases step_dispatch hstep hdispatch with hsame | ⟨now, rfl, -, hclaim, -, hin⟩
    · have hkept := hw dispatch hsame
      -- whatever is committed, the row is kept, or replaced under another id
      have hgrows : ∃ K, OutboxGrows K w.db.toTables w'.db.toTables := by
        rcases step_db hstep with hdb | ⟨x, -, hdb⟩
        · exact ⟨fun _ => True, hdb ▸ .refl _⟩
        · exact ⟨_, hdb ▸ (x.after_writes (eventsPrepared hr).noConnectionChange).outboxGrows⟩
      obtain ⟨K, hgrows⟩ := hgrows
      refine ⟨hkept.claimed, Nat.le_trans hkept.issued hgrows.seq, fun row hrow hid => ?_⟩
      rcases hgrows.row row hrow with ⟨old, hold, hsame⟩ | ⟨hnew, -⟩
      · exact (hkept.row old hold (hsame.id.trans hid)).same hsame
      · have := hkept.issued
        omega
    · rcases claimDueOutboxAction_ok hclaim with ⟨hnone, -⟩ |
        ⟨action, row, row', haction, hrow, -, -, hrow', hunfinished, -, -, hof', -⟩
      · cases hnone
      · obtain rfl := Option.some.inj haction
        refine ⟨⟨row', hin ▸ hrow', hof', hunfinished⟩, ?_, fun row'' hrow'' hid => ?_⟩
        · rw [hof'.id]
          exact w'.db.consistent.updates.outboxIds row' hrow'
        · rw [Table.eq_of_key_eq hrow'' hrow' (hid.trans hof'.id)]
          exact hof'

end World

end ChatHygiene
