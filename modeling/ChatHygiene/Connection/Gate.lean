import ChatHygiene.Footprint.Contracts
import ChatHygiene.Lib.Revision
import ChatHygiene.Updates.Log
/-!
# The global gate

The global state closes at a start and at an authentication failure, and opens
when nothing is left to reconcile. Three writers move it, each to a state of
its own, and each move takes a new revision.
-/

namespace ChatHygiene

open Txn (Respects Yields commit)

variable {db db' : Database}

/-! ## Moves -/

/-- The global state is the same, or it is now this one, at a later revision. -/
def MovesTo (state : GlobalReconciliationState) (db db' : Database) : Prop :=
  db'.reconciliation = db.reconciliation ∨
    db'.reconciliation.state = state ∧
      db.reconciliation.stateRevision < db'.reconciliation.stateRevision

namespace MovesTo

variable {state : GlobalReconciliationState}

protected theorem trans {db'' : Database} (h : MovesTo state db db') (h' : MovesTo state db' db'') :
    MovesTo state db db'' := by
  unfold MovesTo at *
  rcases h' with hsame | ⟨hstate, hlt⟩
  · rwa [hsame]
  · rcases h with hsame | ⟨-, hlt'⟩
    · rw [hsame] at hlt
      exact .inr ⟨hstate, hlt⟩
    · exact .inr ⟨hstate, hlt'.trans hlt⟩

instance : Std.Refl (MovesTo state) := ⟨fun _ => .inl rfl⟩

instance : IsTrans Database (MovesTo state) := ⟨fun _ _ _ => MovesTo.trans⟩

theorem advances (h : MovesTo state db db') :
    Advances TelegramReconciliationState.stateRevision db.reconciliation db'.reconciliation :=
  h.imp_right And.right

end MovesTo

variable {state : GlobalReconciliationState}

/-- A transaction that does not write to the global state. -/
theorem movesTo_of_writes {α : Type} {x : Uow α} {K : NewOutboxAction → Prop}
    (targets : List Target) (hnot : Target.reconciliation ∉ targets)
    (h : Respects (WritesTo targets K) x) : Respects (MovesTo state) x :=
  h.mono fun _ _ hw => .inl (hw.frame.reconciliation hnot)

theorem updateReconciliation_movesTo (p : TelegramReconciliationState → Bool) (now : DateTime) :
    Respects (MovesTo state)
      (Uow.updateReconciliation p (TelegramReconciliationState.move state now)) := by
  intro db n db' h
  unfold Uow.updateReconciliation at h
  replace h := Uow.statement_ok_iff.1 h
  unfold Tables.updateReconciliation at h
  split at h
  · obtain ⟨-, hdb⟩ := Prod.mk.inj (Except.ok.inj h)
    have hmoved : db'.reconciliation = TelegramReconciliationState.move state now db.reconciliation := by
      rw [← hdb]
    refine .inr ?_
    rw [hmoved]
    exact ⟨rfl, Nat.lt_succ_self _⟩
  · obtain ⟨-, hdb⟩ := Prod.mk.inj (Except.ok.inj h)
    exact .inl (by rw [← hdb])

theorem updateOne_movesTo (n : Nat) : Respects (MovesTo state) (updateOne n) :=
  movesTo_of_writes (K := fun _ => True) [] (by simp) (updateOne_writes n)

theorem normalizeStartupReconciliation_movesTo (now : DateTime) :
    Respects (MovesTo .pending) (normalizeStartupReconciliation now) := by
  have hgate : Respects (MovesTo .pending) (do
      let affected ← Uow.updateConnection (fun c => c.reconciliationState = .confirmed)
        (BusinessConnectionRecord.gated false now) (BusinessConnectionRecord.gated_change ..)
      if 1 < affected then
        throw (.invalidTelegramReconciliationState "multiple trusted connections are not supported")
      loadTelegramReconciliationState : Uow TelegramReconciliationState) :=
    (movesTo_of_writes (K := fun _ => True) [.connection] (by simp)
      (Uow.updateConnection_writes (by exact List.mem_singleton.2 rfl))).bind fun _ =>
      .ite (fun _ => .throw _) fun _ => .read _
  refine (Respects.read _).bind fun global =>
    (Respects.of_readOnly requireSingleTrusted_readOnly).bind fun _ =>
    .ite (fun _ => ?_) fun _ => hgate
  exact (updateReconciliation_movesTo _ now).bind fun _ => (updateOne_movesTo _).bind fun _ => hgate

theorem setTelegramAuthFailed_movesTo (now : DateTime) :
    Respects (MovesTo .authFailed) (setTelegramAuthFailed now) := by
  have hgate : Respects (MovesTo .authFailed) (do
      let _ ← Uow.updateConnection (fun c => c.enabled || c.reconciliationState ≠ .pending)
        (BusinessConnectionRecord.gated true now) (BusinessConnectionRecord.gated_change ..)
      loadTelegramReconciliationState : Uow TelegramReconciliationState) :=
    (movesTo_of_writes (K := fun _ => True) [.connection] (by simp)
      (Uow.updateConnection_writes (by exact List.mem_singleton.2 rfl))).bind fun _ => .read _
  refine (Respects.read _).bind fun global =>
    (Respects.of_readOnly requireSingleTrusted_readOnly).bind fun _ =>
    .ite (fun _ => ?_) fun _ => hgate
  exact (updateReconciliation_movesTo _ now).bind fun _ => (updateOne_movesTo _).bind fun _ => hgate

/-! ## The opening -/

/-- Nothing is left to reconcile. -/
structure Database.Drained (db : Database) : Prop where
  triggers : ∀ u ∈ db.processedUpdate.rows, u.status = .recorded →
    u.eventType ≠ .businessConnectionChanged
  confirmed : ∀ c ∈ db.businessConnection.rows, c.reconciliationState = .confirmed

/-- What a commit of `publish_ready_if_drained` comes to. -/
structure GateOpened (startupPending : Option String) (db db' : Database) : Prop where
  startup : startupPending = none
  wasPending : db.reconciliation.state = .pending
  drained : db.Drained
  moves : MovesTo .ready db db'
  frame : Frame [.reconciliation] db.toTables db'.toTables

theorem transitionTelegramReconciliationReady_ok {expectedRevision : Nat} {now : DateTime}
    {global : TelegramReconciliationState}
    (h : transitionTelegramReconciliationReady expectedRevision now db = .ok (global, db')) :
    db.reconciliation.state = .pending ∧
      (∀ c ∈ db.businessConnection.rows, c.reconciliationState = .confirmed) ∧
      MovesTo .ready db db' := by
  unfold transitionTelegramReconciliationReady loadTelegramReconciliationState at h
  rw [Txn.read_bind_apply] at h
  obtain ⟨hpending, h⟩ := Txn.guard_ok_iff.1 h
  dsimp only at h
  obtain ⟨trusted, htrusted, h⟩ := Txn.bind_ok_of_readOnly requireSingleTrusted_readOnly h
  obtain ⟨-, hrows⟩ := requireSingleTrusted_ok htrusted
  obtain ⟨hconfirmed, h⟩ := Txn.guard_ok_iff.1 h
  refine ⟨?_, fun c hc => ?_, ?_⟩
  · by_contra hne
    exact hpending (.inl hne)
  · by_contra hne
    rw [hrows] at hc
    refine hconfirmed ?_
    rw [Option.mem_toList.1 hc]
    simp [hne]
  · refine Respects.of_ok ?_ h
    exact (updateReconciliation_movesTo _ now).bind fun _ => (updateOne_movesTo _).bind fun _ =>
      .read _

theorem publishReadyIfDrained_ok {startupPending : Option String} {now : DateTime} {u : Unit}
    (h : publishReadyIfDrained startupPending now db = .ok (u, db')) :
    db' = db ∨ GateOpened startupPending db db' := by
  have hwrites : WritesTo [.reconciliation] (fun _ => True) db db' :=
    (publishReadyIfDrained_writes (by simp) startupPending now).of_ok h
  have hsame {s s' : Database} {u : Unit} (h : (pure () : Uow Unit) s = .ok (u, s')) : s' = s :=
    (Prod.mk.inj (Txn.pure_ok_iff.1 h)).2.symm
  unfold publishReadyIfDrained loadTelegramReconciliationState at h
  split at h
  · exact .inl (hsame h)
  · next hstartup =>
    rw [Txn.read_bind_apply] at h
    split at h
    · exact .inl (hsame h)
    · next hpending =>
      rw [Txn.read_bind_apply] at h
      split at h
      · exact .inl (hsame h)
      · next hremaining =>
        obtain ⟨global, s, htransition, h⟩ := Txn.bind_ok_iff.1 h
        obtain rfl := hsame h
        obtain ⟨hwas, hconfirmed, hmoves⟩ := transitionTelegramReconciliationReady_ok htransition
        refine .inr ⟨by simpa using hstartup, hwas, ⟨fun u hu hrecorded htrigger => ?_, hconfirmed⟩,
          hmoves, hwrites.frame⟩
        refine hremaining (Nat.ne_of_gt (List.countP_pos_iff.2 ⟨u, hu, ?_⟩))
        simp [hrecorded, htrigger]

/-! ## The start -/

/-- The state a start normalises to: the gate is closed, and nothing is confirmed. -/
structure Database.Normalized (db : Database) : Prop where
  pending : db.reconciliation.state = .pending
  single : ∃ trusted, requireSingleTrusted db = .ok (trusted, db)
  gated : ∀ c ∈ db.businessConnection.rows, c.reconciliationState ≠ .confirmed

/-- Where at most one connection is stored, a start normalises. -/
theorem normalizeStartupReconciliation_yields {trusted : Option BusinessConnectionRecord}
    (htrusted : requireSingleTrusted db = .ok (trusted, db)) (now : DateTime) :
    Yields (normalizeStartupReconciliation now) db fun _ db' => db'.Normalized := by
  have hrows := (requireSingleTrusted_ok htrusted).2
  have hgate (s : Database) (hpending : s.reconciliation.state = .pending)
      (hs : s.businessConnection.rows = trusted.toList) : Yields (do
      let affected ← Uow.updateConnection (fun c => c.reconciliationState = .confirmed)
        (BusinessConnectionRecord.gated false now) (BusinessConnectionRecord.gated_change ..)
      if 1 < affected then
        throw (.invalidTelegramReconciliationState "multiple trusted connections are not supported")
      loadTelegramReconciliationState : Uow TelegramReconciliationState) s
      fun _ s' => s'.Normalized := by
    refine Yields.bind (Uow.statement_yields rfl) ?_
    rintro affected s' ⟨rfl, hs'⟩
    have haffected : s.businessConnection.affected (fun c => c.reconciliationState = .confirmed) ≤ 1 := by
      refine List.countP_le_length.trans ?_
      rw [hs]
      exact Option.length_toList_le
    rw [if_neg (Nat.not_lt.2 haffected)]
    refine .read ⟨by rw [hs']; exact hpending, ⟨trusted.map fun c =>
      if c.reconciliationState = .confirmed then c.gated false now else c,
        requireSingleTrusted_of_rows ?_⟩, fun c hc => ?_⟩
    · rw [hs']
      refine (congrArg (List.map _) hs).trans ?_
      cases trusted with
      | none => rfl
      | some c => simp
    · rw [hs'] at hc
      simp only [Table.mem_update] at hc
      obtain ⟨d, -, rfl⟩ := hc
      split
      · simp [BusinessConnectionRecord.gated]
      · next hnot => simpa using hnot
  unfold normalizeStartupReconciliation
  refine Yields.bind_read (Yields.bind_of_ok htrusted ?_)
  split
  · have hupdate : db.toTables.updateReconciliation (fun g =>
        g.stateRevision = db.reconciliation.stateRevision && g.state = db.reconciliation.state)
        (TelegramReconciliationState.move .pending now) = .ok (1, _) := if_pos (by simp)
    refine Yields.bind (Uow.statement_yields hupdate) ?_
    rintro _ s ⟨rfl, hs⟩
    rw [updateOne_of_eq rfl]
    exact Yields.bind_pure (hgate s (by rw [hs]; rfl) (by rw [hs]; exact hrows))
  · next hpending => exact hgate db (by simpa using hpending) hrows

/-- What is normalised stays as it is. -/
theorem normalizeStartupReconciliation_normalized (h : db.Normalized) (now : DateTime) :
    normalizeStartupReconciliation now db = .ok (db.reconciliation, db) := by
  obtain ⟨trusted, htrusted⟩ := h.single
  have hgate : Uow.updateConnection (fun c => c.reconciliationState = .confirmed)
      (BusinessConnectionRecord.gated false now) (BusinessConnectionRecord.gated_change ..) db =
        .ok (0, db) := by
    have hnone : ∀ c ∈ db.businessConnection.rows,
        decide (c.reconciliationState = .confirmed) = false :=
      fun c hc => decide_eq_false (h.gated c hc)
    refine Uow.statement_ok_iff.2 ?_
    unfold Tables.updateConnection
    rw [Table.update_eq_self hnone, Table.affected_eq_zero_iff.2 hnone]
  unfold normalizeStartupReconciliation loadTelegramReconciliationState
  rw [Txn.read_bind_apply, Txn.bind_of_ok htrusted, if_neg (by simp [h.pending])]
  dsimp only
  rw [Txn.bind_of_ok hgate]
  rfl

/-- **Normalising twice is normalising once.** -/
theorem normalizeStartupReconciliation_twice (now later : DateTime) :
    (commit (normalizeStartupReconciliation later)
      (commit (normalizeStartupReconciliation now) db).1).1 =
      (commit (normalizeStartupReconciliation now) db).1 := by
  cases htrusted : requireSingleTrusted db with
  | ok r =>
    obtain ⟨trusted, s⟩ := r
    obtain rfl := (requireSingleTrusted_ok htrusted).1
    obtain ⟨global, db', hnormalize, hnormalized⟩ := normalizeStartupReconciliation_yields htrusted now
    rw [Txn.commit_of_ok hnormalize]
    dsimp only
    rw [Txn.commit_of_ok (normalizeStartupReconciliation_normalized hnormalized later)]
  | error e =>
    have hfails (t : DateTime) : (commit (normalizeStartupReconciliation t) db).1 = db := by
      have herror : normalizeStartupReconciliation t db = .error e := by
        unfold normalizeStartupReconciliation loadTelegramReconciliationState
        rw [Txn.read_bind_apply, Txn.bind_of_error htrusted]
      rw [Txn.commit_of_error herror]
    rw [hfails, hfails]

/-! ## Steps -/

/-- How a transaction moves the global state. -/
inductive GateMove (db db' : Database) : Transaction → Prop where
  | same (x : Transaction) (h : db'.reconciliation = db.reconciliation) : GateMove db db' x
  | failed (x : Transaction) (h : MovesTo .authFailed db db') : GateMove db db' x
  | normalized (now : DateTime) (h : MovesTo .pending db db') : GateMove db db' (.normalize now)
  | opened (startupPending : Option String) (now : DateTime) (h : GateOpened startupPending db db') :
    GateMove db db' (.publishReady startupPending now)

theorem GateMove.advances {x : Transaction} (h : GateMove db db' x) :
    Advances TelegramReconciliationState.stateRevision db.reconciliation db'.reconciliation := by
  match h with
  | .same _ h => exact .inl h
  | .failed _ h => exact h.advances
  | .normalized _ h => exact h.advances
  | .opened _ _ h => exact h.moves.advances

theorem reconcileTrustedCurrentState_movesTo (connectionId : String)
    (snapshot : ConnectionReconciliationSnapshot) (answer : LookupAnswer) (now : DateTime) :
    Respects (MovesTo .authFailed) (reconcileTrustedCurrentState connectionId snapshot answer now) :=
  reconcileTrustedCurrentState_respects
    (movesTo_of_writes (K := fun _ => True) reconciliationTargets (by simp)
      (retireTrustedConnectionNotFound_writes (by simp) _ _))
    (fun _ => movesTo_of_writes (K := fun _ => True) reconciliationTargets (by simp)
      (reconcileAuthoritativeTrustedConnection_writes (fun _ ht => ht) _ _ _ _))
    (setTelegramAuthFailed_movesTo _)

theorem reconcileConnectionTrigger_movesTo (updateId : Int) (connectionId : String)
    (occurredAt : DateTime) (owner : OwnerIdentity) (snapshot : ConnectionReconciliationSnapshot)
    (answer : LookupAnswer) (now : DateTime) : Respects (MovesTo .authFailed)
      (reconcileConnectionTrigger updateId connectionId occurredAt owner snapshot answer now) :=
  reconcileConnectionTrigger_respects
    (movesTo_of_writes (K := fun _ => True) reconciliationTargets (by simp)
      (retireTrustedConnectionNotFound_writes (by simp) _ _))
    (fun _ => movesTo_of_writes (K := fun _ => True) reconciliationTargets (by simp)
      (reconcileAuthoritativeTrustedConnection_writes (fun _ ht => ht) _ _ _ _))
    (fun _ _ => movesTo_of_writes (K := fun _ => True) [.candidate, .guard] (by simp)
      (applyAuthoritativeCandidate_writes (by simp) _ _))
    (movesTo_of_writes (K := fun _ => True) [.candidate, .guard] (by simp)
      (pruneConnectionCandidates_writes (by simp) _ _))
    (fun _ _ _ => movesTo_of_writes (K := fun _ => True) [.owner] (by simp)
      (promoteReportedChat_writes (by simp) _ _ _))
    (setTelegramAuthFailed_movesTo _)
    (fun _ => movesTo_of_writes (K := fun _ => True) [.audit] (by simp)
      (insertConnectionAudit_writes (by simp) _ _ _))
    (movesTo_of_writes (K := fun _ => True) [.update] (by simp)
      (markConnectionTriggerApplied_writes (by simp) _ _))

theorem commitOwnerClaim_movesTo (updateId : Int) (claim : ValidOwnerClaim)
    (snapshot : OwnerClaimSnapshot) (answer : Option LookupAnswer) (serviceNow : DateTime) :
    Respects (MovesTo .authFailed)
      (commitOwnerClaim updateId claim snapshot answer serviceNow) :=
  commitOwnerClaim_respects
    (movesTo_of_writes (K := fun _ => True) [.update] (by simp)
      (insertRedactedUpdate_writes (by simp) _ _))
    (fun _ => movesTo_of_writes (K := fun _ => True) [.audit] (by simp)
      (insertOwnerClaimAudit_writes (by simp) _ _))
    (movesTo_of_writes (K := NewOutboxAction.Of updateId True) [.enqueue] (by simp)
      (enqueuePrivateMessage_writes (by simp) _ _ _))
    (movesTo_of_writes (K := fun _ => True) [.candidate, .guard] (by simp)
      (pruneConnectionCandidates_writes (by simp) _ _))
    (fun _ => movesTo_of_writes (K := fun _ => True) [.owner] (by simp)
      (claimOwner_writes (by simp) _ _ _ _))
    (setTelegramAuthFailed_movesTo _)
    (fun _ _ _ _ => movesTo_of_writes (K := fun _ => True) [.connection, .candidate] (by simp)
      (tryPromoteClaimCandidate_writes (by simp) _ _ _ _ _ _))
    (fun _ _ _ _ => movesTo_of_writes (K := fun _ => True) [.candidate] (by simp)
      (settleClaimCandidates_writes (by simp) _ _ _ _ _))
    fun _ => movesTo_of_writes (K := fun _ => True) [.enqueue] (by simp)
      (enqueueDirectOwnerMessage_writes (by simp) _ _ _ _)

/-- **How the transactions move the global state.** -/
theorem Transaction.gate (h : db.NoConnectionChange) (x : Transaction) :
    GateMove db (x.after db) x := by
  have hframe := x.after_frame h
  cases x with
  | normalize now =>
    exact .normalized now ((normalizeStartupReconciliation_movesTo now).commit db)
  | startup connectionId snapshot answer now =>
    exact .failed _ ((reconcileTrustedCurrentState_movesTo _ _ _ _).commit db)
  | trigger updateId connectionId occurredAt owner snapshot answer now =>
    exact .failed _ ((reconcileConnectionTrigger_movesTo _ _ _ _ _ _ _).commit db)
  | ownerClaim updateId claim snapshot answer now =>
    exact .failed _ ((commitOwnerClaim_movesTo _ _ _ _ _).commit db)
  | publishReady startupPending now =>
    change GateMove db (commit (publishReadyIfDrained startupPending now) db).1 _
    cases hx : publishReadyIfDrained startupPending now db with
    | error e =>
      rw [Txn.commit_of_error hx]
      exact .same _ rfl
    | ok r =>
      rw [Txn.commit_of_ok hx]
      rcases publishReadyIfDrained_ok hx with hsame | hopened
      · exact .same _ (by rw [hsame])
      · exact .opened _ _ hopened
  | _ => exact .same _ (hframe.reconciliation (by simp))

/-- Every step of the service advances the global state. -/
theorem World.step_advances {w w' : World} {op : Op} (h : service.Reachable w)
    (hstep : service.step w op = some w') :
    Advances TelegramReconciliationState.stateRevision w.db.reconciliation w'.db.reconciliation := by
  rcases World.step_db hstep with hsame | ⟨x, -, hdb⟩
  · exact .inl (by rw [hsame])
  · rw [hdb]
    exact (x.gate (World.eventsPrepared h).noConnectionChange).advances

/-- How a step of the service moves the global state. -/
theorem World.step_gate {w w' : World} {op : Op} (h : service.Reachable w)
    (hstep : service.step w op = some w') :
    w'.db.reconciliation = w.db.reconciliation ∨ MovesTo .authFailed w.db w'.db ∨
      (∃ settings now, op = .worker (.boot settings now)) ∧ MovesTo .pending w.db w'.db ∨
      (∃ now, op = .worker (.publishReady now)) ∧ w'.startupPending = w.startupPending ∧
        GateOpened w.startupPending w.db w'.db := by
  rcases World.step_db hstep with hsame | ⟨x, hcommits, hdb⟩
  · exact .inl (by rw [hsame])
  · have hmove := x.gate (World.eventsPrepared h).noConnectionChange
    rw [← hdb] at hmove
    match hmove with
    | .same _ hsame => exact .inl hsame
    | .failed _ hfailed => exact .inr (.inl hfailed)
    | .normalized now hnormalized =>
      cases hcommits with
      | boot => exact .inr (.inr (.inl ⟨⟨_, _, rfl⟩, hnormalized⟩))
    | .opened startupPending now hopened =>
      cases hcommits with
      | publishReady hidle =>
        simp only [service, World.step, World.stepWorker, hidle] at hstep
        obtain rfl := Option.some.inj hstep
        exact .inr (.inr (.inr ⟨⟨_, rfl⟩, rfl, hopened⟩))

/-- **The global gate.** In any run, `READY` is entered only by a publication, with no trigger and no
connection left to reconcile and none pending from the start; `AUTH_FAILED` is left only by a start;
what has changed has a later revision, and only that; and to normalise again changes nothing. -/
theorem global_gate {w : World} (h : service.Reachable w) :
    (∀ op w', service.step w op = some w' → w.db.reconciliation.state ≠ .ready →
      w'.db.reconciliation.state = .ready → (∃ now, op = .worker (.publishReady now)) ∧
        w.startupPending = none ∧ w'.startupPending = none ∧ w.db.Drained ∧ w'.db.Drained) ∧
    (∀ op w', service.step w op = some w' → w.db.reconciliation.state = .authFailed →
      w'.db.reconciliation.state ≠ .authFailed →
        ∃ settings now, op = .worker (.boot settings now)) ∧
    (∀ w', service.Runs (fun _ _ => True) w w' →
      (w'.db.reconciliation ≠ w.db.reconciliation ↔
        w.db.reconciliation.stateRevision < w'.db.reconciliation.stateRevision)) ∧
    ∀ now later, (commit (normalizeStartupReconciliation later)
      (commit (normalizeStartupReconciliation now) w.db).1).1 =
        (commit (normalizeStartupReconciliation now) w.db).1 := by
  refine ⟨fun op w' hstep hne hready => ?_, fun op w' hstep hfailed hne => ?_,
    fun w' hruns => ⟨fun hne => ?_, fun hlt heq => ?_⟩, normalizeStartupReconciliation_twice⟩
  · rcases World.step_gate h hstep with hsame | hmoved | ⟨-, hmoved⟩ | ⟨hop, hstartup, hopened⟩
    · exact absurd (hsame ▸ hready) hne
    · rcases hmoved with hsame | ⟨hstate, -⟩
      · exact absurd (hsame ▸ hready) hne
      · rw [hready] at hstate
        cases hstate
    · rcases hmoved with hsame | ⟨hstate, -⟩
      · exact absurd (hsame ▸ hready) hne
      · rw [hready] at hstate
        cases hstate
    · have hupdates := hopened.frame.processedUpdate (by simp) (by simp) (by simp)
      have hrows := hopened.frame.businessConnection (by simp) (by simp)
      have hdrained : w'.db.Drained :=
        ⟨by rw [hupdates]; exact hopened.drained.triggers,
          by rw [hrows]; exact hopened.drained.confirmed⟩
      obtain ⟨now, rfl⟩ := hop
      exact ⟨⟨now, rfl⟩, hopened.startup, hstartup.trans hopened.startup, hopened.drained, hdrained⟩
  · rcases World.step_gate h hstep with hsame | hmoved | ⟨hop, -⟩ | ⟨-, -, hopened⟩
    · exact absurd (hsame ▸ hfailed) hne
    · rcases hmoved with hsame | ⟨hstate, -⟩
      · exact absurd (hsame ▸ hfailed) hne
      · exact absurd hstate hne
    · exact hop
    · rw [hopened.wasPending] at hfailed
      cases hfailed
  · exact (Advances.of_runs h hruns fun _ _ _ hw _ => World.step_advances hw).lt_of_ne hne
  · rw [heq] at hlt
    exact lt_irrefl _ hlt

/-- A start, a claim and a connection: the service is ready. -/
theorem global_gate_connected : ∃ w, service.Reachable w ∧ w.db.reconciliation.state = .ready ∧
    ∀ w', service.Runs (fun _ _ => True) w w' →
      (w'.db.reconciliation ≠ w.db.reconciliation ↔
        w.db.reconciliation.stateRevision < w'.db.reconciliation.stateRevision) := by
  obtain ⟨w, hw, hready⟩ : ∃ w, service.Reachable w ∧
      decide (w.db.reconciliation.state = .ready) = true :=
    Machine.reachable_of_run (Sample.connected true)
      (fun w : World => w.db.reconciliation.state = .ready) ⟨0, rfl⟩ (by decide +kernel)
  exact ⟨w, hw, of_decide_eq_true hready, (global_gate hw).2.2.1⟩

end ChatHygiene
