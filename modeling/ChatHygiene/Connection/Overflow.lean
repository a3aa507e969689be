import ChatHygiene.Connection.Promotion
import ChatHygiene.Connection.Recovery
import ChatHygiene.Lifecycle.Application
/-!
# Candidate overflow

Before the claim every connection is a candidate. One more than are kept sets
the overflow guard, the claim does not clear it, and from then on no run makes
the service ready.
-/

namespace ChatHygiene

open Txn (Respects Yields Succeeds)

variable {db db' : Database} {n m : Nat}

/-! ## Filling the table -/

/-- An installation that is open and unclaimed, with updates below `m`. -/
structure Database.Unclaimed (db : Database) (m : Nat) : Prop where
  owner : db.ownerIdentity = .ready .unclaimed
  connections : db.businessConnection.rows = []
  updates : ∀ u ∈ db.processedUpdate.rows, u.updateId < m
  ready : db.reconciliation.state = .ready

/-- It has `n` candidates. -/
structure Database.Filled (db : Database) (n m : Nat) : Prop extends Database.Unclaimed db m where
  listed : db.Listed n

/-- It has had more candidates than it keeps. -/
structure Database.Overflowed (db : Database) (m : Nat) : Prop extends Database.Unclaimed db m where
  guard : db.guard.overflowEstablishedAt ≠ none

/-- Nothing the installation is described by has been written to. -/
theorem Database.Unclaimed.of_frame {targets : List Target} (h : db.Unclaimed m)
    (hframe : Frame targets db.toTables db'.toTables)
    (hnot : Target.owner ∉ targets ∧ Target.connection ∉ targets ∧ Target.dropConnection ∉ targets ∧
      Target.reconciliation ∉ targets)
    (hupdates : ∀ u ∈ db'.processedUpdate.rows, u.updateId < m) : db'.Unclaimed m where
  owner := by rw [hframe.ownerIdentity hnot.1, h.owner]
  connections := by rw [hframe.businessConnection hnot.2.1 hnot.2.2.1, h.connections]
  updates := hupdates
  ready := by rw [hframe.reconciliation hnot.2.2.2, h.ready]

theorem Database.Unclaimed.update_absent (h : db.Unclaimed m) :
    db.processedUpdate.lookup m = none := by
  refine Table.lookup_eq_none_iff.2 fun u hu hid => ?_
  have hlt := h.updates u hu
  omega

theorem Database.Unclaimed.connection_absent (h : db.Unclaimed m) (connectionId : String) :
    db.businessConnection.lookup connectionId = none :=
  Table.lookup_eq_none_iff.2 (by simp [h.connections])

section

open Sample

/-- The update that announces the `i`-th candidate. -/
def announcement (i : Nat) : RawBusinessEvent :=
  raw .businessConnectionChanged (candidateId i) none none none 1

/-- What an announcement is prepared as. -/
structure PreparedEvent.Announces (event : PreparedEvent) (i : Nat) : Prop where
  updateId : event.updateId = i
  eventType : event.eventType = .businessConnectionChanged
  action : event.facts.action = .ignore
  connectionId : event.facts.connectionId = some (candidateId i)
  occurredAt : event.occurredAt = 1
  strings : event.facts.strings = [("facts.connection_id", candidateId i)]

theorem prepareUpdate_announcement (h : db.Filled n m) (default : Bool) :
    Yields (prepareUpdate { preparer .allow .correct 1 with destructiveMode := default } n
      (announcement n)) db fun event db' => db' = db ∧ event.Announces n := by
  have hconnection := h.connection_absent
  unfold prepareUpdate makePreclaimBusinessEventInert announcement EventPreparer.prepare
    runtimeDestructiveMode traceOwnerIdentity findBusinessConnection singleConnectionOwner
    findSingleBusinessConnection singleConnection loadTelegramReconciliationState
    traceStateBefore EventPreparer.prepareAction knownBusinessConnection findBusinessConnection
    loadTelegramReconciliationState
  simp [Yields, raw, RawBusinessEvent.isBusinessMessage, requiresKnownConnection, h.ready,
    hconnection, h.connections, -bind_pure_comp]
  exact ⟨rfl, rfl, rfl, rfl, rfl, rfl⟩

theorem recordPreparedEvent_announcement {event : PreparedEvent} (h : db.Filled n n)
    (he : event.Announces n) (hn : n ≤ candidateLimit) :
    Yields (recordPreparedEvent event) db fun receipt db' =>
      receipt = .recorded ∧ db'.Filled n (n + 1) ∧ db'.processedUpdate.lookup n = some event.row := by
  have hshort : ¬maxFactStringLength < (candidateId n).length := by
    rw [candidateId_length]
    simp only [maxFactStringLength, candidateLimit] at hn ⊢
    omega
  have hvalid : validateFacts event.facts db = .ok ((), db) := by
    unfold validateFacts
    simp [he.strings, hshort]
  have htrigger : connectionTriggerId event db = .ok (some (candidateId n), db) := by
    unfold connectionTriggerId PreparedEvent.isTrigger
    simp only [he.eventType, he.action, he.connectionId, Option.filter_some,
      candidateId_not_blank]
    rfl
  have hid : event.row.updateId = n := he.updateId
  have hnew : db.processedUpdate.lookup event.row.updateId = none := by
    rw [hid]
    exact h.update_absent
  have hinsert : db.toTables.insertOrIgnoreUpdate event.row = .ok (true, _) := dif_pos hnew
  unfold recordPreparedEvent
  refine Yields.bind_of_ok hvalid (Yields.bind_of_ok htrigger ?_)
  refine Yields.bind (Uow.statement_yields hinsert) ?_
  rintro _ db₁ ⟨rfl, hdb⟩
  have hgate : gateMatchingTrustedForReconciliation (candidateId n) event.occurredAt db₁ =
      .ok (none, db₁) := by
    unfold gateMatchingTrustedForReconciliation loadBusinessConnectionForReconciliation
    rw [Txn.read_bind_apply, show db₁.businessConnection = db.businessConnection by rw [hdb],
      h.connection_absent]
    rfl
  refine Yields.bind_of_ok hgate (Yields.pure
    ⟨rfl, ⟨⟨?_, ?_, ?_, ?_⟩, h.listed.of_eq (by rw [hdb]) (by rw [hdb])⟩, ?_⟩) <;> rw [hdb]
  · exact h.owner
  · exact h.connections
  · intro u hu
    rcases (Table.mem_insert (h := hnew)).1 hu with hu | rfl
    · have hlt := h.updates u hu
      omega
    · rw [hid]
      omega
  · exact h.ready
  · simp [hid]

theorem triggerSnapshot_filled (h : db.Filled n m) :
    triggerSnapshot (candidateId n) db =
      .ok (some (.unclaimed, ⟨none, none, none, db.guard.stateRevision⟩), db) := by
  have hload : loadSingleTrustedConnection db = .ok (none, db) :=
    loadSingleTrustedConnection_of_rows h.connections
  have hsnapshot : connectionReconciliationSnapshot (candidateId n) db =
      .ok (⟨none, none, none, db.guard.stateRevision⟩, db) := by
    unfold connectionReconciliationSnapshot loadCandidate loadCandidateGuard
    rw [candidateId_not_blank, if_neg (by simp)]
    dsimp only
    rw [Txn.read_bind_apply, h.listed.candidate_absent, Txn.bind_of_ok hload]
    rfl
  unfold triggerSnapshot loadOwnerLifecycleState
  rw [Txn.read_bind_apply, h.owner]
  dsimp only
  rw [Txn.bind_of_ok hsnapshot]
  rfl

theorem applyUnclaimedConnectionTrigger_filled (h : db.Filled n (n + 1)) (updateId : Int) (revision : Nat) :
    Yields (applyUnclaimedConnectionTrigger (candidateNo n) ⟨none, none, none, revision⟩ updateId 1
      1) db fun application db' => application = .commit ∧
      (if n < candidateLimit then db'.Filled (n + 1) (n + 1) else db'.Overflowed (n + 1)) ∧
      Frame [.candidate, .guard] db.toTables db'.toTables := by
  unfold applyUnclaimedConnectionTrigger
  refine Yields.bind h.listed.apply ?_
  rintro _ db₁ ⟨⟨rfl, hadded⟩, hframe⟩
  simp only [reduceCtorEq, or_self, if_false]
  refine Yields.bind (h.listed.prune (by decide) hadded (hframe.guard (by simp))) ?_
  rintro _ db₂ ⟨hlisted, hframe₂⟩
  have hframe' : Frame [.candidate, .guard] db.toTables db₂.toTables :=
    (hframe.mono (by simp)).trans hframe₂
  have hlog := hframe'.processedUpdate (by simp) (by simp) (by simp)
  have hunclaimed : db₂.Unclaimed (n + 1) :=
    h.toUnclaimed.of_frame hframe' (by simp) (by rw [hlog]; exact h.updates)
  refine .pure ⟨rfl, ?_, hframe'⟩
  by_cases hn : n < candidateLimit
  · rw [if_pos hn] at hlisted ⊢
    exact ⟨hunclaimed, hlisted⟩
  · rw [if_neg hn] at hlisted ⊢
    exact ⟨hunclaimed, hlisted⟩

/-- A transaction that is not tried again is not rolled back. -/
theorem rollbackRetry_yields {x : Uow TriggerApplication} {Q : Database → Prop}
    (h : Yields x db fun application db' => application = .commit ∧ Q db') :
    Yields (rollbackRetry x) db fun _ => Q := by
  obtain ⟨_, db', hx, rfl, hQ⟩ := h
  refine ⟨.commit, db', ?_, hQ⟩
  unfold rollbackRetry
  rw [hx]

theorem reconcileConnectionTrigger_filled {row : ProcessedUpdate} (revision : Nat)
    (h : db.Filled n (n + 1)) (hrow : db.processedUpdate.lookup n = some row)
    (hrecorded : row.status = .recorded) :
    Yields (reconcileConnectionTrigger n (candidateId n) 1 .unclaimed
      ⟨none, none, none, revision⟩ (found (candidateId n) (n + 1)) 1) db fun _ db' =>
      if n < candidateLimit then db'.Filled (n + 1) (n + 1) else db'.Overflowed (n + 1) := by
  refine rollbackRetry_yields ?_
  unfold withExpectedOwner loadOwnerLifecycleState
  refine Yields.bind_read ?_
  rw [h.owner]
  simp only [ne_eq, not_true_eq_false, if_false]
  refine Yields.bind (applyUnclaimedConnectionTrigger_filled h _ _) ?_
  rintro _ db₁ ⟨rfl, hfilled, hframe⟩
  have hlog := hframe.processedUpdate (by simp) (by simp) (by simp)
  unfold markConnectionTriggerApplied
  refine Yields.bind (Q := fun _ db₂ => (Settled n db₁ db₂ ∧ Frame [.update] db₁.toTables db₂.toTables)) ?_ ?_
  · refine Yields.bind (markApplied_yields (by rw [hlog, hrow]) hrecorded 1) ?_
    rintro _ db₂ ⟨⟨rfl, hsettled⟩, hframe₂⟩
    exact .pure ⟨hsettled, hframe₂⟩
  rintro _ db₂ ⟨hsettled, hframe₂⟩
  refine .pure ⟨rfl, ?_⟩
  have hupdates : ∀ u ∈ db₂.processedUpdate.rows, u.updateId < ((n + 1 : Nat) : Int) := by
    intro u hu
    by_cases hid : u.updateId = n
    · omega
    · have hlookup := Table.lookup_of_mem hu
      rw [hsettled.others _ hid, hlog] at hlookup
      exact h.updates u (Table.mem_of_lookup hlookup)
  by_cases hn : n < candidateLimit
  · rw [if_pos hn] at hfilled ⊢
    exact ⟨hfilled.toUnclaimed.of_frame hframe₂ (by simp) hupdates,
      hfilled.listed.of_eq (hframe₂.candidate (by simp)) (hframe₂.guard (by simp))⟩
  · rw [if_neg hn] at hfilled ⊢
    refine ⟨hfilled.toUnclaimed.of_frame hframe₂ (by simp) hupdates, ?_⟩
    rw [hframe₂.guard (by simp)]
    exact hfilled.guard

/-- One more candidate is announced, looked up and stored. -/
theorem exists_announced {w : World} (h : service.Reachable w) (hidle : w.worker = .idle)
    (hfilled : w.db.Filled n n) (hn : n ≤ candidateLimit) :
    ∃ w', service.Reachable w' ∧ w'.worker = .idle ∧
      if n < candidateLimit then w'.db.Filled (n + 1) (n + 1) else w'.db.Overflowed (n + 1) := by
  obtain ⟨event, _, hprepare, rfl, he⟩ := prepareUpdate_announcement hfilled w.settings
  obtain ⟨_, db₁, hrecord, rfl, hfilled₁, hrow⟩ := recordPreparedEvent_announcement hfilled he hn
  have hsnapshot := triggerSnapshot_filled hfilled₁
  obtain ⟨application, db₂, hanswer, hdone⟩ :=
    reconcileConnectionTrigger_filled db₁.guard.stateRevision hfilled₁ hrow rfl
  have hprepared : service.step w (.worker (.prepare n (announcement n)
      (preparer .allow .correct 1))) = some { w with worker := .prepared event w.db } := by
    have hraw : (announcement n).WellFormed := by
      constructor <;> simp [announcement, raw, RawBusinessEvent.isBusinessMessage]
    simp only [service, World.step, World.stepWorker, hidle]
    rw [if_pos hraw, hprepare]
  obtain ⟨w₂, hstep₂, hworker₂, hdb₂⟩ : ∃ w₂,
      service.step { w with worker := .prepared event w.db } (.worker .record) = some w₂ ∧
        w₂.worker = .triggered n (candidateId n) 1 ∧ w₂.db = db₁ := by
    refine ⟨_, rfl, ?_, ?_⟩ <;> dsimp only <;> rw [Txn.commit_of_ok hrecord]
    · simp [World.afterRecord, he.eventType, he.connectionId, he.updateId, he.occurredAt]
    · simp [World.afterRecord]
  obtain ⟨w₃, hstep₃, hworker₃, hdb₃⟩ : ∃ w₃, service.step w₂ (.worker .triggerSnapshot) = some w₃ ∧
      w₃.worker = .triggerLookup n (candidateId n) 1 .unclaimed
        ⟨none, none, none, db₁.guard.stateRevision⟩ ∧ w₃.db = db₁ := by
    simp only [service, World.step, World.stepWorker, hworker₂]
    refine ⟨_, rfl, ?_, ?_⟩ <;> unfold World.commitWorker <;> rw [hdb₂, Txn.commit_of_ok hsnapshot]
    rfl
  obtain ⟨w₄, hstep₄, hworker₄, hdb₄⟩ : ∃ w₄,
      service.step w₃ (.worker (.triggerAnswer (found (candidateId n) (n + 1)) 1)) = some w₄ ∧
        w₄.worker = .idle ∧ w₄.db = db₂ := by
    have hvalid : (found (candidateId n) (n + 1)).validFor (candidateId n) = true := by
      have hpositive : (0 : Int) < n + 1 := by omega
      simp [found, LookupAnswer.validFor, hpositive]
    simp only [service, World.step, World.stepWorker, hworker₃]
    rw [if_pos hvalid]
    refine ⟨_, rfl, ?_, ?_⟩ <;> unfold World.commitIdle World.commitWorker
    · rfl
    · rw [hdb₃, Txn.commit_of_ok hanswer]
  refine ⟨w₄, ?_, hworker₄, hdb₄ ▸ hdone⟩
  exact (((h.step trivial hprepared).step trivial hstep₂).step trivial hstep₃).step trivial hstep₄

/-- The service has started, and nothing has happened. -/
def World.fresh (w : World) : Bool :=
  w.db.ownerIdentity = .ready .unclaimed && w.db.businessConnection.rows = [] &&
    w.db.processedUpdate.rows.isEmpty && w.db.reconciliation.state = .ready &&
    w.db.candidate.rows = [] && w.db.guard.overflowEstablishedAt = none &&
    match w.worker with
    | .idle => true
    | _ => false

/-- **The table can be filled**, up to as many candidates as are kept. -/
theorem exists_filled (hn : n ≤ candidateLimit) :
    ∃ w, service.Reachable w ∧ w.worker = .idle ∧ w.db.Filled n n := by
  induction n with
  | zero =>
    obtain ⟨w, hw, hfresh⟩ := Machine.reachable_of_run (M := service) (start false) World.fresh
      ⟨0, rfl⟩ (by decide +kernel)
    simp only [World.fresh, Bool.and_eq_true, decide_eq_true_eq, List.isEmpty_iff] at hfresh
    obtain ⟨⟨⟨⟨⟨⟨howner, hconnections⟩, hupdates⟩, hready⟩, hcandidates⟩, hguard⟩, hidle⟩ := hfresh
    refine ⟨w, hw, ?_, ⟨⟨howner, hconnections, by simp [hupdates], hready⟩, .empty hcandidates hguard⟩⟩
    split at hidle
    · assumption
    · cases hidle
  | succ n ih =>
    obtain ⟨w, hw, hidle, hfilled⟩ := ih (by omega)
    obtain ⟨w', hw', hidle', hdone⟩ := exists_announced hw hidle hfilled (by omega)
    rw [if_pos (by omega)] at hdone
    exact ⟨w', hw', hidle', hdone⟩

/-- **It can overflow.** -/
theorem exists_overflowed : ∃ w, service.Reachable w ∧ w.worker = .idle ∧
    w.db.Overflowed (candidateLimit + 1) := by
  obtain ⟨w, hw, hidle, hfilled⟩ := exists_filled (le_refl candidateLimit)
  obtain ⟨w', hw', hidle', hdone⟩ := exists_announced hw hidle hfilled (le_refl _)
  rw [if_neg (by omega)] at hdone
  exact ⟨w', hw', hidle', hdone⟩

/-! ## The claim -/

/-- The Owner has claimed an installation that had overflowed. -/
structure Database.ClaimedLate (db : Database) : Prop where
  owner : db.ownerIdentity.ownerUserId = some 7
  connections : db.businessConnection.rows = []
  candidates : db.candidate.rows = []
  guard : db.guard.overflowEstablishedAt ≠ none
  ready : db.reconciliation.state = .ready

/-- **A claim after an overflow clears the candidates and leaves the guard set.** -/
theorem commitOwnerClaim_overflowed (h : db.Overflowed m)
    (hnamed : ∀ c ∈ db.candidate.rows, blank c.connectionId = false) (snapshot : OwnerClaimSnapshot) :
    Yields (commitOwnerClaim m ⟨7, 7, 100, 1⟩ snapshot none 1) db fun _ db' => db'.ClaimedLate := by
  have hparsed : (ValidOwnerClaim.mk 7 7 100 1).Parsed := ⟨by decide, by decide, by decide⟩
  have hanswer : ∀ a, (none : Option LookupAnswer) = some a → ∃ id, a.validFor id = true := by simp
  refine (commitOwnerClaim_yields snapshot 1 h.update_absent h.owner h.connections hnamed hparsed
    hanswer).mono ?_
  rintro receipt db' ⟨-, hcommitted⟩
  obtain ⟨floor, howner, -⟩ := hcommitted.bound
  obtain ⟨g, hg⟩ := Option.ne_none_iff_exists'.1 h.guard
  obtain ⟨g', hg', -⟩ := hcommitted.rises g hg
  refine ⟨by rw [howner]; rfl, ?_, hcommitted.cleared h.guard, by simp [hg'], ?_⟩
  · rcases hcommitted.trusted with hnone | ⟨seen, c, fresh, hpromotes, -⟩
    · exact hnone
    · exact absurd hpromotes.unset h.guard
  · rw [hcommitted.global rfl, h.ready]

/-- **The Owner can claim an installation that has overflowed.** -/
theorem exists_claimedLate : ∃ w, service.Reachable w ∧ w.db.ClaimedLate := by
  obtain ⟨w, hw, hidle, h⟩ := exists_overflowed
  have hidentity : loadOwnerIdentity w.db = .ok (.unclaimed, w.db) := by
    unfold loadOwnerIdentity loadOwnerLifecycleState
    rw [Txn.read_bind_apply, h.owner]
    rfl
  obtain ⟨candidates, hsnapshot⟩ : ∃ candidates, snapshotOwnerClaim 7 1 w.db =
      .ok (⟨.unclaimed, w.db.reconciliation, w.db.guard, candidates⟩, w.db) := by
    unfold snapshotOwnerClaim
    rw [Txn.bind_of_ok hidentity]
    exact ⟨_, rfl⟩
  have htarget : (OwnerClaimSnapshot.mk .unclaimed w.db.reconciliation w.db.guard
      candidates).lookupTarget = none := by
    unfold OwnerClaimSnapshot.lookupTarget
    rcases candidates with _ | ⟨_, _ | ⟨_, _⟩⟩ <;> simp [h.guard]
  obtain ⟨receipt, db', hcommit, hlate⟩ := commitOwnerClaim_overflowed h
    (fun c hc => World.named hw _ (.inl ⟨c, hc, rfl⟩)) ⟨.unclaimed, w.db.reconciliation, w.db.guard, candidates⟩
  obtain ⟨w₁, hstep₁, hworker₁, hdb₁⟩ : ∃ w₁, service.step w (.worker (.ownerClaim
      (candidateLimit + 1 : Nat) ⟨7, 7, 100, 1⟩ true 1)) = some w₁ ∧
      w₁.worker = .claimLookup (candidateLimit + 1 : Nat) ⟨7, 7, 100, 1⟩
        ⟨.unclaimed, w.db.reconciliation, w.db.guard, candidates⟩ ∧ w₁.db = w.db := by
    simp only [service, World.step, World.stepWorker, hidle]
    rw [hsnapshot]
    exact ⟨_, rfl, rfl, rfl⟩
  obtain ⟨w₂, hstep₂, hdb₂⟩ : ∃ w₂, service.step w₁ (.worker (.claimAnswer none 1)) = some w₂ ∧
      w₂.db = db' := by
    simp only [service, World.step, World.stepWorker, hworker₁, htarget, if_true]
    refine ⟨_, rfl, ?_⟩
    unfold World.commitIdle World.commitWorker
    rw [hdb₁, Txn.commit_of_ok hcommit]
  exact ⟨w₂, (hw.step trivial hstep₁).step trivial hstep₂, hdb₂ ▸ hlate⟩

/-- A generation that is past the floor. -/
theorem exists_pastFloor (h : db.ownerIdentity.ownerUserId = some 7) (connectionId : String) :
    ∃ e : Int, 0 < e ∧ ∃ floor, generationFloorExcluding connectionId db = .ok (floor, db) ∧
      floor.any (e ≤ ·) = false := by
  obtain ⟨chat, source, ownerFloor, boundAt, howner⟩ := exists_claimed_of_ownerUserId h
  obtain ⟨floor, hfloor⟩ : ∃ floor, generationFloorExcluding connectionId db = .ok (floor, db) := by
    have hidentity : loadOwnerIdentity db = .ok (.claimed 7 chat source ownerFloor boundAt, db) := by
      unfold loadOwnerIdentity loadOwnerLifecycleState
      rw [Txn.read_bind_apply, howner]
      rfl
    unfold generationFloorExcluding
    rw [Txn.bind_of_ok hidentity]
    exact ⟨_, rfl⟩
  refine ⟨max 0 (floor.getD 0) + 1, by omega, floor, hfloor, ?_⟩
  cases floor with
  | none => rfl
  | some g =>
    simp only [Option.getD_some, Option.any_some, decide_eq_false_iff_not]
    omega

/-- A fresh connection of the Owner is taken on after the claim. -/
theorem exists_recovered : ∃ (w : World) (snapshot : ConnectionReconciliationSnapshot)
    (a : BusinessConnectionCandidate) (write : TrustedConnectionWrite) (db' : Database),
    service.Reachable w ∧ w.db.ClaimedLate ∧ reconcileThrough snapshot a w.db = .ok (write, db') ∧
      write.confirms = true := by
  obtain ⟨w, hw, h⟩ := exists_claimedLate
  obtain ⟨e, he, floor, hfloor, hpast⟩ := exists_pastFloor h.owner "c"
  have hgone : w.db.businessConnection.contains "c" = false := by
    unfold Table.contains
    rw [Table.lookup_eq_none_iff.2 (by simp [h.connections])]
    rfl
  have hvalid : validateCandidate ⟨"c", 7, some 7, rights, true, e, 0, 1⟩ w.db = .ok ((), w.db) := by
    have hnot : ¬e ≤ 0 := by omega
    have hblank : blank "c" = false := by decide
    unfold validateCandidate
    simp [hblank, hnot]
  obtain ⟨write, db', hreconcile, hconfirms⟩ := (@reconcileThrough_confirms_iff w.db
    ⟨(w.db.candidate.lookup "c").map (·.stateRevision), none, w.db.trustedRevision,
      w.db.guard.stateRevision⟩ ⟨"c", 7, some 7, rights, true, e, 0, 1⟩
    (World.singleTrusted hw) hgone).2 ⟨hvalid, ⟨rfl, rfl, rfl⟩, h.owner, ⟨floor, hfloor, hpast⟩,
      by simp [h.connections]⟩
  exact ⟨w, _, _, write, db', hw, h, hreconcile, hconfirms⟩

end

/-! ## Readiness -/

/-- A guard that is set stays set, whatever happens. -/
theorem overflow_guard_kept {w w' : World} (h : service.Reachable w)
    (hrun : service.Runs (fun _ _ => True) w w') (hset : w.db.guard.overflowEstablishedAt ≠ none) :
    service.Reachable w' ∧ w'.db.guard.overflowEstablishedAt ≠ none := by
  induction hrun with
  | refl => exact ⟨h, hset⟩
  | tail op _ _ hstep ih =>
    obtain ⟨hw, hset⟩ := ih
    obtain ⟨g, hg⟩ := Option.ne_none_iff_exists'.1 hset
    obtain ⟨g', hg', -⟩ := ((World.eventsPrepared hw).bindingKept hstep).guard g hg
    exact ⟨hw.step trivial hstep, by simp [hg']⟩

/-- **The recovery of readiness works exactly while the overflow guard is unset.** -/
theorem recovery_ready_iff {w : World} {snapshot : ConnectionReconciliationSnapshot}
    {a : BusinessConnectionCandidate} {write : TrustedConnectionWrite} {db' : Database}
    {now : DateTime} (h : service.Reachable w) (hready : w.db.reconciliation.state = .ready)
    (hold : ∀ c ∈ w.db.candidate.rows, c.observedAt < now - candidateRetention)
    (hreconcile : reconcileThrough snapshot a w.db = .ok (write, db'))
    (hconfirms : write.confirms = true) :
    (∃ health, classifyReadinessIn now db' = .ok (health, db')) ↔
      w.db.guard.overflowEstablishedAt = none :=
  (reconcileThrough_recovered (World.singleTrusted h) hreconcile hconfirms).classifies_iff hready hold

/-- With the guard set, the recovery does not help. -/
theorem recovery_ready_iff_overflowed : ∃ (w : World) (db' : Database), service.Reachable w ∧
    w.db.ownerIdentity.ownerUserId = some 7 ∧ w.db.guard.overflowEstablishedAt ≠ none ∧
    ¬∃ health, classifyReadinessIn 1 db' = .ok (health, db') := by
  obtain ⟨w, snapshot, a, write, db', hw, h, hreconcile, hconfirms⟩ := exists_recovered
  have hiff := @recovery_ready_iff w snapshot a write db' 1 hw h.ready (by simp [h.candidates])
    hreconcile hconfirms
  exact ⟨w, db', hw, h.owner, h.guard, fun hhealth => h.guard (hiff.1 hhealth)⟩

/-- **The documented recovery need not help.** -/
theorem recovery_stuck : ¬∀ (w : World) (snapshot : ConnectionReconciliationSnapshot)
    (a : BusinessConnectionCandidate) (write : TrustedConnectionWrite) (db' : Database)
    (now : DateTime), service.Reachable w → w.db.reconciliation.state = .ready →
    w.db.ownerIdentity.isClaimed = true →
    (∀ c ∈ w.db.candidate.rows, c.observedAt < now - candidateRetention) →
    reconcileThrough snapshot a w.db = .ok (write, db') → write.confirms = true →
    ∃ health, classifyReadinessIn now db' = .ok (health, db') := by
  intro hall
  obtain ⟨w, snapshot, a, write, db', hw, h, hreconcile, hconfirms⟩ := exists_recovered
  have hclaimed : w.db.ownerIdentity.isClaimed = true := by
    obtain ⟨chat, source, floor, boundAt, howner⟩ := exists_claimed_of_ownerUserId h.owner
    rw [howner]
    rfl
  have hold : ∀ c ∈ w.db.candidate.rows, c.observedAt < 1 - candidateRetention := by
    simp [h.candidates]
  have hhealth := hall w snapshot a write db' 1 hw h.ready hclaimed hold hreconcile hconfirms
  have hrecovered := reconcileThrough_recovered (World.singleTrusted hw) hreconcile hconfirms
  exact h.guard ((hrecovered.classifies_iff h.ready hold).1 hhealth)

end ChatHygiene
