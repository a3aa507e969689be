import ChatHygiene.Connection.Trust
/-!
# What confirms a connection

A connection becomes confirmed where a response about it is taken on, and
nowhere else: by the startup reconciliation, by its retry, or by a trigger, and
then the transaction that takes it on is committed. The only other writer that
confirms is the promotion of a claim, which an installation runs before its
Owner is bound.
-/

namespace ChatHygiene

open Txn (Respects commit)

variable {db db' : Database}

/-- The response is taken on. -/
def TrustedConnectionWrite.confirms : TrustedConnectionWrite → Bool
  | .installed | .replaced | .reconciled => true
  | _ => false

/-- The connection whose response the reconciliation takes on. -/
def takenOn (snapshot : ConnectionReconciliationSnapshot) (answer : LookupAnswer) (now : DateTime)
    (db : Database) : Option String :=
  match answer with
  | .ok authoritative =>
    match reconcileThrough snapshot (authoritativeCandidate authoritative now) db with
    | .ok (write, _) => if write.confirms then some authoritative.connectionId else none
    | .error _ => none
  | .error _ => none

/-- The connection whose response the step takes on and commits. -/
def World.reconciles (w : World) (op : Op) : Option String :=
  match op, w.worker with
  | .worker (.startupAnswer answer now), .startupLookup _ snapshot
  | .worker (.startupRetryAnswer answer now), .startupRetry _ snapshot =>
    takenOn snapshot answer now w.db
  | .worker (.triggerAnswer answer now),
    .triggerLookup updateId connectionId occurredAt owner snapshot =>
    match reconcileConnectionTrigger updateId connectionId occurredAt owner snapshot answer now
      w.db with
    | .ok (.commit, _) => takenOn snapshot answer now w.db
    | _ => none
  | _, _ => none

/-- Every confirmed connection has been confirmed before, or is the one taken on. -/
def ConfirmedBy (connectionId : Option String) (db db' : Database) : Prop :=
  ∀ c' ∈ db'.businessConnection.rows, c'.reconciliationState = .confirmed →
    (∃ c ∈ db.businessConnection.rows, c.connectionId = c'.connectionId ∧
      c.reconciliationState = .confirmed) ∨ connectionId = some c'.connectionId

theorem ConfirmedBy.of_eq {connectionId : Option String}
    (h : db'.businessConnection = db.businessConnection) : ConfirmedBy connectionId db db' :=
  fun c' hc' hconfirmed => .inl ⟨c', h ▸ hc', rfl, hconfirmed⟩

theorem Withheld.confirmedBy (h : Withheld db db') (connectionId : Option String) :
    ConfirmedBy connectionId db db' := by
  intro c' hc' hconfirmed
  obtain ⟨c, hc, hwithholds⟩ := h.row hc'
  exact .inl ⟨c, hc, hwithholds.connectionId.symm, hwithholds.confirmed hconfirmed⟩

theorem Reconciled.confirmedBy {a : BusinessConnectionCandidate} {expected : Option Nat}
    {write : TrustedConnectionWrite} (h : Reconciled a expected db db' write) :
    ConfirmedBy (if write.confirms then some a.connectionId else none) db db' := by
  have hinstalled {revision : Nat}
      (hrows : db'.businessConnection.rows = [a.installed revision]) :
      ConfirmedBy (some a.connectionId) db db' := by
    intro c' hc' hconfirmed
    rw [hrows, List.mem_singleton] at hc'
    subst hc'
    exact .inr rfl
  cases h with
  | conflict hwrite hsame => exact .of_eq (by rw [hsame])
  | installed revision hnone hexpected howner hfloor hrows hframe => exact hinstalled hrows
  | replaced t g revision ht hne hcurrent hgeneration howner hlater hfloor hrows hretired hmode
      hframe => exact hinstalled hrows
  | ambiguous t ht hne hcurrent hgeneration hrows hfloor hages hrises hframe =>
    intro c' hc'
    rw [hrows] at hc'
    cases hc'
  | same t row ht hid hsame hrows hframe =>
    intro c' hc' hconfirmed
    rw [hrows, List.mem_singleton] at hc'
    subst hc'
    have hmem : t ∈ db.businessConnection.rows := by simp [ht]
    cases hsame with
    | kept hstale => exact .inl ⟨t, hmem, rfl, hconfirmed⟩
    | lessened hstale => exact .inl ⟨t, hmem, rfl, hconfirmed⟩
    | gated hcurrent hwrite hrefused => cases hconfirmed
    | refreshed hcurrent howner hgeneration => exact .inr (congrArg some hid.symm)

theorem NotFound.confirmedBy {connectionId : String} {expectedRevision : Nat}
    (h : NotFound connectionId expectedRevision db db') (taken : Option String) :
    ConfirmedBy taken db db' := by
  cases h with
  | absent hnone hframe => exact .of_eq (hframe.businessConnection (by simp) (by simp))
  | conflict hsame => exact .of_eq (by rw [hsame])
  | retired t ht hid hcurrent hrows hfloor hages hframe =>
    intro c' hc' hconfirmed
    rw [hrows] at hc'
    exact .inl ⟨c', (List.mem_filter.1 hc').1, rfl, hconfirmed⟩

/-- The answer to a lookup confirms what was found, if it is taken on. -/
theorem LookupCommitted.confirmedBy {connectionId : String}
    {snapshot : ConnectionReconciliationSnapshot} {answer : LookupAnswer} {now : DateTime}
    (h : LookupCommitted connectionId snapshot answer now db db') :
    ConfirmedBy (takenOn snapshot answer now db) db db' := by
  cases h with
  | aside h => exact .of_eq (h.businessConnection (by simp) (by simp))
  | notFound write db₁ hanswer hretire h =>
    intro c' hc' hconfirmed
    rw [h.businessConnection (by simp) (by simp)] at hc'
    exact (retireTrustedConnectionNotFound_ok hretire).confirmedBy _ c' hc' hconfirmed
  | authFailed global hanswer h =>
    exact ((setTelegramAuthFailed_withheld _).of_ok h).confirmedBy _
  | found a write db₁ hanswer hreconcile h =>
    intro c' hc' hconfirmed
    rw [h.businessConnection (by simp) (by simp)] at hc'
    have hby := (reconcileAuthoritativeTrustedConnection_ok hreconcile).confirmedBy c' hc' hconfirmed
    subst hanswer
    unfold takenOn
    dsimp only
    rw [hreconcile]
    exact hby

/-! ## Steps -/

/-- A trigger that is tried again confirms nothing. -/
theorem reconcileConnectionTrigger_retry {updateId : Int} {connectionId : String}
    {occurredAt : DateTime} {owner : OwnerIdentity} {snapshot : ConnectionReconciliationSnapshot}
    {answer : LookupAnswer} {now : DateTime} {transient : Bool}
    (h : reconcileConnectionTrigger updateId connectionId occurredAt owner snapshot answer now db =
      .ok (.retry transient, db')) : Withheld db db' := by
  have hrolled {x : Uow TriggerApplication} (h : rollbackRetry x db = .ok (.retry transient, db')) :
      Withheld db db' := by
    unfold rollbackRetry at h
    split at h
    · cases h
      exact .refl _
    · next hne => exact absurd h (hne _ _)
  match answer with
  | .error .connectionNotFound => exact hrolled h
  | .error .botAuthentication =>
    obtain ⟨global, db₁, hfailed, h⟩ := Txn.bind_ok_iff.1 h
    obtain ⟨-, rfl⟩ := Prod.mk.inj (Txn.pure_ok_iff.1 h)
    exact (setTelegramAuthFailed_withheld _).of_ok hfailed
  | .error .transientExhausted | .error .invalidResponse | .error .clientRejected =>
    obtain ⟨-, rfl⟩ := Prod.mk.inj (Txn.pure_ok_iff.1 h)
    exact .refl _
  | .ok authoritative => exact hrolled h

/-- **A step confirms no connection but the one whose response it takes on**, once the Owner is
bound. -/
theorem World.EventsPrepared.confirmedBy {w w' : World} {op : Op} (h : w.EventsPrepared)
    (hclaimed : w.db.ownerIdentity ≠ .ready .unclaimed) (hstep : w.step op = some w') :
    ConfirmedBy (w.reconciles op) w.db w'.db := by
  rcases World.step_db hstep with hdb | ⟨x, hx, hdb⟩
  · exact .of_eq (by rw [hdb])
  rw [hdb]
  have hother (hlookup : x.lookup = none) : ConfirmedBy (w.reconciles op) w.db (x.after w.db) := by
    cases x.trusted h.noConnectionChange with
    | withheld hwithheld => exact hwithheld.confirmedBy _
    | claimed hunclaimed => exact absurd hunclaimed hclaimed
    | answered connectionId snapshot answer now hlookup' =>
      rw [hlookup] at hlookup'
      cases hlookup'
  cases hx with
  | @startup connectionId snapshot answer now hworker hvalid =>
    have htaken : w.reconciles (.worker (.startupAnswer answer now)) =
        takenOn snapshot answer now w.db := by simp [World.reconciles, hworker]
    rw [htaken]
    exact Transaction.startup_answered.confirmedBy
  | @startupRetry connectionId snapshot answer now hworker hvalid =>
    have htaken : w.reconciles (.worker (.startupRetryAnswer answer now)) =
        takenOn snapshot answer now w.db := by simp [World.reconciles, hworker]
    rw [htaken]
    exact Transaction.startup_answered.confirmedBy
  | @trigger updateId connectionId occurredAt owner snapshot answer now hworker hvalid =>
    change ConfirmedBy _ _ (commit (reconcileConnectionTrigger updateId connectionId occurredAt
      owner snapshot answer now) w.db).1
    simp only [World.reconciles, hworker]
    cases hx : reconcileConnectionTrigger updateId connectionId occurredAt owner snapshot answer now
        w.db with
    | error error =>
      rw [Txn.commit_of_error hx]
      exact .of_eq rfl
    | ok r =>
      obtain ⟨application, db'⟩ := r
      rw [Txn.commit_of_ok hx]
      cases application with
      | retry transient => exact (reconcileConnectionTrigger_retry hx).confirmedBy _
      | commit => exact (reconcileConnectionTrigger_ok hx).confirmedBy
  | _ => exact hother rfl

end ChatHygiene
