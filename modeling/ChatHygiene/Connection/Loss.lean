import ChatHygiene.Connection.Lookup
import ChatHygiene.System.Invariants
/-!
# The loss of a trusted connection

Three paths drop the trusted row. The replacing install cleans up after it: no
action of the old connection is left unfinished and the destructive mode is
off. The retirement of a connection that was not found and the ambiguity of
two generations drop the row alone, so the loss is complete only if there was
nothing to clean up.
-/

namespace ChatHygiene

open Txn (commit)

variable {db db' : Database}

/-- Nothing is left of the connection that could act: the actions on it are finished, and the
destructive mode is off. -/
def Database.LossComplete (db : Database) (connectionId : String) : Prop :=
  db.Retired connectionId ∧ db.destructiveMode = some false

instance (db : Database) (connectionId : String) : Decidable (db.LossComplete connectionId) :=
  inferInstanceAs (Decidable ((∀ a ∈ db.outboxAction.rows, a.status.unfinished = true →
    a.key.any (·.connectionId = connectionId) = false) ∧ db.destructiveMode = some false))

theorem lossComplete_congr {targets : List Target} (h : Frame targets db.toTables db'.toTables)
    (henqueue : .enqueue ∉ targets) (houtbox : .outbox ∉ targets) (hpurge : .purgeUpdate ∉ targets)
    (hmode : .mode ∉ targets) (connectionId : String) :
    db'.LossComplete connectionId ↔ db.LossComplete connectionId := by
  unfold Database.LossComplete Database.Retired
  rw [h.outboxAction henqueue houtbox hpurge, h.destructiveMode hmode]

/-- **How an answer loses a connection**: what was found replaces it and cleans up after it, or
the row goes and nothing else does. -/
theorem LookupCommitted.lost {connectionId : String} {snapshot : ConnectionReconciliationSnapshot}
    {answer : LookupAnswer} {now : DateTime} {r : BusinessConnectionRecord}
    (h : LookupCommitted connectionId snapshot answer now db db')
    (hr : r ∈ db.businessConnection.rows)
    (hlost : db'.businessConnection.contains r.connectionId = false) :
    (∃ a, answer = .ok a ∧ r.connectionEstablishedAt ≠ some a.connectionEstablishedAt ∧
      db'.LossComplete r.connectionId) ∨
    ((∀ a, answer = .ok a → r.connectionEstablishedAt = some a.connectionEstablishedAt) ∧
      (db'.LossComplete r.connectionId ↔ db.LossComplete r.connectionId)) := by
  have hstored : db.businessConnection.contains r.connectionId = true := Table.contains_of_mem hr
  -- whatever leaves the connections alone has not lost one
  have hkept {s : Database} (hs : s.businessConnection.contains r.connectionId = true)
      {targets : List Target} (h : Frame targets s.toTables db'.toTables)
      (hconnection : .connection ∉ targets) (hdrop : .dropConnection ∉ targets) : False := by
    rw [h.businessConnection hconnection hdrop, hs] at hlost
    cases hlost
  cases h with
  | aside h => exact (hkept hstored h (by simp) (by simp)).elim
  | notFound write db₁ hanswer hretire h =>
    cases retireTrustedConnectionNotFound_ok hretire with
    | absent hnone hframe =>
      have hframe : Frame [.candidate, .owner, .update, .audit] db.toTables db'.toTables :=
        (hframe.mono (by simp)).trans (h.mono (by simp))
      exact (hkept hstored hframe (by simp) (by simp)).elim
    | conflict hsame => exact (hkept hstored (hsame ▸ h) (by simp) (by simp)).elim
    | retired t ht hid hcurrent hrows hfloor hages hframe =>
      refine .inr ⟨by rw [hanswer]; nofun, ?_⟩
      rw [lossComplete_congr h (by simp) (by simp) (by simp) (by simp),
        lossComplete_congr hframe (by simp) (by simp) (by simp) (by simp)]
  | authFailed global hanswer h =>
    have hwrites : WritesTo [.reconciliation, .connection] (fun _ => True) db db' :=
      (setTelegramAuthFailed_writes (by simp) _).of_ok h
    rw [hwrites.connectionsKept (by simp) _ hstored] at hlost
    cases hlost
  | found a write db₁ hanswer hreconcile h =>
    cases reconcileAuthoritativeTrustedConnection_ok hreconcile with
    | conflict hwrite hsame => exact (hkept hstored (hsame ▸ h) (by simp) (by simp)).elim
    | installed revision hnone =>
      rw [hnone] at hr
      cases hr
    | same t row ht hid hsame hrows hframe =>
      rw [ht, List.mem_singleton] at hr
      subst hr
      refine (hkept (s := db₁) ?_ h (by simp) (by simp)).elim
      exact Table.contains_iff.2 ⟨row, by simp [hrows], hsame.connectionId⟩
    | replaced t g revision ht hne hcurrent hgeneration howner hlater hfloor hrows hretired hmode hframe =>
      rw [ht, List.mem_singleton] at hr
      subst hr
      refine .inl ⟨a, hanswer, ?_, ?_⟩
      · rw [hgeneration]
        intro hsame
        exact absurd (Option.some.inj hsame) (ne_of_lt hlater)
      · rw [lossComplete_congr h (by simp) (by simp) (by simp) (by simp)]
        exact ⟨hretired, hmode⟩
    | ambiguous t ht hne hcurrent hgeneration hrows hfloor hages hrises hframe =>
      rw [ht, List.mem_singleton] at hr
      subst hr
      refine .inr ⟨fun a' ha' => ?_, ?_⟩
      · obtain rfl : a = a' := by simpa using hanswer.symm.trans ha'
        exact hgeneration
      · rw [lossComplete_congr h (by simp) (by simp) (by simp) (by simp),
          lossComplete_congr hframe (by simp) (by simp) (by simp) (by simp)]

/-! ## Steps -/

/-- The answer to a lookup that the step goes on from. -/
def Op.answer : Op → Option LookupAnswer
  | .worker (.startupAnswer answer _) | .worker (.triggerAnswer answer _)
  | .worker (.startupRetryAnswer answer _) => some answer
  | _ => none

/-- The step goes on from a lookup that found a connection of another generation. -/
def Op.FindsOther (op : Op) (r : BusinessConnectionRecord) : Prop :=
  ∃ a, op.answer = some (.ok a) ∧ r.connectionEstablishedAt ≠ some a.connectionEstablishedAt

/-- **A step that loses a connection goes on from an answer to a lookup.** -/
theorem World.lost_answered {w w' : World} (h : w.EventsPrepared) {op : Op}
    (hstep : w.step op = some w') {r : BusinessConnectionRecord}
    (hr : r ∈ w.db.businessConnection.rows)
    (hlost : w'.db.businessConnection.contains r.connectionId = false) :
    ∃ connectionId snapshot answer now, op.answer = some answer ∧
      LookupCommitted connectionId snapshot answer now w.db w'.db := by
  have hstored : w.db.businessConnection.contains r.connectionId = true := Table.contains_of_mem hr
  rcases step_db hstep with hdb | ⟨x, hx, hdb⟩
  · rw [hdb, hstored] at hlost
    cases hlost
  have hkept (hdrop : .dropConnection ∉ x.targets) : False := by
    have hwrites := x.after_writes h.noConnectionChange
    rw [hdb, hwrites.connectionsKept hdrop _ hstored] at hlost
    cases hlost
  rw [hdb]
  cases hx with
  | @startup connectionId snapshot answer now =>
    exact ⟨connectionId, snapshot, answer, now, rfl, Transaction.startup_answered⟩
  | @startupRetry connectionId snapshot answer now =>
    exact ⟨connectionId, snapshot, answer, now, rfl, Transaction.startup_answered⟩
  | @trigger updateId connectionId occurredAt owner snapshot answer now =>
    exact ⟨connectionId, snapshot, answer, now, rfl, Transaction.trigger_answered⟩
  | _ => exact (hkept (by simp)).elim

/-- **The loss of a connection is complete exactly when it is replaced, or when there is nothing to
complete.** -/
theorem loss_complete_iff {w w' : World} (h : service.Reachable w) {op : Op}
    (hstep : w.step op = some w') {r : BusinessConnectionRecord}
    (hr : r ∈ w.db.businessConnection.rows)
    (hlost : w'.db.businessConnection.contains r.connectionId = false) :
    w'.db.LossComplete r.connectionId ↔ op.FindsOther r ∨ w.db.LossComplete r.connectionId := by
  obtain ⟨connectionId, snapshot, answer, now, hanswer, hanswered⟩ :=
    World.lost_answered (World.eventsPrepared h) hstep hr hlost
  rcases hanswered.lost hr hlost with ⟨a, rfl, hother, hcomplete⟩ | ⟨hsame, hiff⟩
  · exact iff_of_true hcomplete (.inl ⟨a, hanswer, hother⟩)
  · rw [hiff, or_iff_right]
    rintro ⟨a, ha, hother⟩
    exact hother (hsame a (Option.some.inj (hanswer.symm.trans ha)))

section

open Sample

/-- A message is judged spam and its cleanup enqueued, and a lookup asks for the connection
`connectionId`. -/
def lookedUp (connectionId : String) : List Op :=
  connected true ++ message 3 50 1 .inboundMessage .spam .correct 3 ++
    (trigger 4 connectionId (.error .connectionNotFound) 5).take 3

/-- The answer loses the connection `c`, which was established at 200. -/
def World.loses (w : World) (answer : LookupAnswer) : Option World :=
  (w.step (.worker (.triggerAnswer answer 5))).filter fun w' =>
    w.db.businessConnection.rows.any (fun r =>
      r.connectionId = "c" && r.connectionEstablishedAt = some 200) &&
      !w'.db.businessConnection.contains "c"

theorem World.loses_iff {w w' : World} {answer : LookupAnswer} (h : w.loses answer = some w') :
    w.step (.worker (.triggerAnswer answer 5)) = some w' ∧
      (∃ r ∈ w.db.businessConnection.rows, r.connectionId = "c" ∧
        r.connectionEstablishedAt = some 200) ∧
      w'.db.businessConnection.contains "c" = false := by
  obtain ⟨hstep, hlost⟩ := Option.filter_eq_some_iff.1 h
  simp only [Bool.and_eq_true, Bool.not_eq_true', List.any_eq_true, decide_eq_true_eq] at hlost
  exact ⟨hstep, hlost⟩

set_option maxRecDepth 100000 in
theorem lookedUp_replaced : ∃ w, service.Reachable w ∧
    (w.loses (found "d" 300)).isSome = true :=
  Machine.reachable_of_run (lookedUp "d") (fun (w : World) => (w.loses (found "d" 300)).isSome) ⟨0, rfl⟩
    (by decide +kernel)

/-- The connection `c` is replaced by `d`, and its loss is complete. -/
theorem loss_complete_iff_replaced : ∃ w w' : World, service.Reachable w ∧
    w.step (.worker (.triggerAnswer (found "d" 300) 5)) = some w' ∧ w'.db.LossComplete "c" := by
  obtain ⟨w, hw, hloses⟩ := lookedUp_replaced
  obtain ⟨w', hw'⟩ := Option.isSome_iff_exists.1 hloses
  obtain ⟨hstep, ⟨r, hr, hid, hgeneration⟩, hlost⟩ := World.loses_iff hw'
  refine ⟨w, w', hw, hstep, ?_⟩
  rw [← hid] at hlost ⊢
  exact (loss_complete_iff hw hstep hr hlost).2 (.inl ⟨_, rfl, by simp [hgeneration]⟩)

/-- The connection `c` is not found, and its loss is incomplete. -/
def World.losesIncompletely (w : World) : Bool :=
  (w.loses (.error .connectionNotFound)).any fun w' => !decide (w'.db.LossComplete "c")

set_option maxRecDepth 100000 in
theorem lookedUp_retired : ∃ w, service.Reachable w ∧ w.losesIncompletely = true :=
  Machine.reachable_of_run (lookedUp "c") World.losesIncompletely ⟨0, rfl⟩ (by decide +kernel)

/-- **A loss can be incomplete.** The connection is not found; its cleanup is still pending, and
the destructive mode is not off. -/
theorem loss_incomplete : ¬∀ (w w' : World) (op : Op) (r : BusinessConnectionRecord),
    service.Reachable w → w.step op = some w' → r ∈ w.db.businessConnection.rows →
    w'.db.businessConnection.contains r.connectionId = false →
    w'.db.LossComplete r.connectionId := by
  intro h
  obtain ⟨w, hw, hloses⟩ := lookedUp_retired
  obtain ⟨w', hw', hincomplete⟩ := (Option.any_eq_true _ _).1 hloses
  obtain ⟨hstep, ⟨r, hr, hid, -⟩, hlost⟩ := World.loses_iff hw'
  have hcomplete := h w w' _ r hw hstep hr (hid ▸ hlost)
  rw [hid] at hcomplete
  simp [hcomplete] at hincomplete

end

end ChatHygiene
