import ChatHygiene.Connection.Cas
import ChatHygiene.Connection.Confirmed
/-!
# The startup barrier

A trusted connection whose lookup at startup went unanswered is looked up again
until its state converges, and the global state stays closed meanwhile. Another
connection may be trusted by then. The retry still puts the answer through the
reconciliation of a trusted connection, so it converges only if there is
nothing to be found, or if what is found supersedes what is stored.
-/

namespace ChatHygiene

open Txn (commit Succeeds)

variable {db db' : Database}

/-- Every revision the snapshot has captured is the current one. -/
def ConnectionReconciliationSnapshot.Current (snapshot : ConnectionReconciliationSnapshot)
    (connectionId : String) (db : Database) : Prop :=
  db.guard.stateRevision = snapshot.guardRevision ∧
  (db.candidate.lookup connectionId).map (·.stateRevision) = snapshot.candidateRevision ∧
  db.trustedRevision = snapshot.trustedRevision

/-- **The response supersedes what is stored**: it is of the Owner, and of a generation past the
trusted connection and every other one. -/
structure Database.SupersededBy (db : Database) (a : BusinessConnectionCandidate) : Prop where
  owner : db.ownerIdentity.ownerUserId = some a.businessUserId
  floor : db.PastFloor a
  trusted : ∀ t ∈ db.businessConnection.rows, ∃ g, t.connectionEstablishedAt = some g ∧
    g < a.connectionEstablishedAt

/-! ## Installations succeed -/

theorem validateCandidate_ok {a : BusinessConnectionCandidate} {u : Unit}
    (h : validateCandidate a db = .ok (u, db')) :
    0 < a.businessUserId ∧ 0 < a.connectionEstablishedAt := by
  unfold validateCandidate at h
  obtain ⟨-, h⟩ := Txn.guard_ok_iff.1 h
  obtain ⟨huser, h⟩ := Txn.guard_ok_iff.1 h
  obtain ⟨-, h⟩ := Txn.guard_ok_iff.1 h
  by_cases hest : a.connectionEstablishedAt ≤ 0
  · rw [if_pos hest] at h
    cases h
  · exact ⟨by omega, by omega⟩

theorem upsertConnection_succeeds {r : BusinessConnectionRecord} (howner : 0 < r.ownerUserId)
    (hestablished : r.connectionEstablishedAt.all (0 < ·) = true)
    (hnone : db.businessConnection.rows = []) : Succeeds (Uow.upsertConnection r) db := by
  refine Uow.statement_succeeds_iff.2 ?_
  unfold Tables.upsertConnection
  rw [if_pos ⟨howner, hestablished⟩, if_pos (by simp [hnone])]
  split <;> exact ⟨_, rfl⟩

/-- A connection of the Owner is installed, whether there is another one or none. -/
theorem upsertBusinessConnection_succeeds {r : BusinessConnectionRecord}
    (howner : 0 < r.ownerUserId) (hestablished : r.connectionEstablishedAt.all (0 < ·) = true)
    (hrows : db.businessConnection.rows = [] ∨ ∃ t, db.businessConnection.rows = [t] ∧
      t.ownerUserId = r.ownerUserId ∧ t.connectionId ≠ r.connectionId) :
    Succeeds (upsertBusinessConnection r) db := by
  unfold upsertBusinessConnection
  refine Txn.succeeds_bind ⟨_, rfl⟩ fun stale s hread => ?_
  obtain ⟨rfl, rfl⟩ := Prod.mk.inj (Txn.read_ok_iff.1 hread)
  rcases hrows with hnone | ⟨t, ht, huser, hne⟩
  · rw [hnone]
    exact upsertConnection_succeeds howner hestablished hnone
  · rw [ht, List.find?_cons_of_pos (by simp [huser, hne])]
    refine Txn.succeeds_bind (Uow.statement_succeeds_iff.2 ⟨_, rfl⟩) fun n db₁ hfinish => ?_
    refine Txn.succeeds_bind (Uow.statement_succeeds_iff.2 ⟨_, rfl⟩) fun m db₂ hdelete => ?_
    refine Txn.succeeds_bind (Uow.statement_succeeds_iff.2 ⟨_, rfl⟩) fun _ db₃ hmode => ?_
    refine upsertConnection_succeeds howner hestablished ?_
    -- what was trusted is gone by now
    have hframe₁ : WritesTo [.outbox] (fun _ => True) db db₁ :=
      (Uow.updateOutbox_writes (by exact List.mem_singleton.2 rfl)).of_ok hfinish
    have hframe₃ : WritesTo [.mode] (fun _ => True) db₂ db₃ :=
      (Uow.setDestructiveMode_writes (by exact List.mem_singleton.2 rfl)).of_ok hmode
    obtain ⟨-, hrows₂, -⟩ := deleteConnection_ok hdelete
    rw [hframe₃.frame.businessConnection (by simp) (by simp), hrows₂,
      hframe₁.frame.businessConnection (by simp) (by simp), ht]
    simp

/-! ## Retries -/

/-- What supersedes the stored connection is reconciled without a failure. -/
theorem reconcileThrough_succeeds {snapshot : ConnectionReconciliationSnapshot}
    {a : BusinessConnectionCandidate} (hs : db.SingleTrusted)
    (hgone : db.businessConnection.contains a.connectionId = false)
    (hvalid : validateCandidate a db = .ok ((), db)) (h : db.SupersededBy a) :
    Succeeds (reconcileThrough snapshot a) db := by
  obtain ⟨hpositive, hestablished⟩ := validateCandidate_ok hvalid
  obtain ⟨chat, source, floor, boundAt, howner⟩ := exists_claimed_of_ownerUserId h.owner
  obtain ⟨past, hpast, -⟩ := h.floor
  have hother (t : BusinessConnectionRecord) (ht : t ∈ db.businessConnection.rows) :
      t.connectionId ≠ a.connectionId := by
    intro hid
    rw [Table.contains_iff.2 ⟨t, ht, hid⟩] at hgone
    cases hgone
  -- an install breaks no constraint: the response is the Owner's, and of another connection
  have hinstall (revision : Nat) : Succeeds (installTrusted a revision) db := by
    rw [installTrusted_eq]
    refine upsertBusinessConnection_succeeds hpositive
      (by simpa [BusinessConnectionCandidate.installed] using hestablished) ?_
    match ht : db.businessConnection.rows with
    | [] => exact .inl rfl
    | [t] =>
      have hmem : t ∈ db.businessConnection.rows := by simp [ht]
      exact .inr ⟨t, rfl, Option.some.inj ((hs.owned t hmem).symm.trans h.owner), hother t hmem⟩
    | _ :: _ :: _ =>
      have hsingle := hs.single
      simp [ht] at hsingle
  -- each guard ends in a write that is returned, not in an error, so that only the reads and the
  -- install remain
  unfold reconcileThrough reconcileAuthoritativeTrustedConnection
  refine Txn.succeeds_bind ⟨_, hvalid⟩ fun _ s hx => ?_
  obtain rfl : db = s := (validateCandidate_readOnly a).of_ok hx
  refine Txn.succeeds_bind ⟨_, rfl⟩ fun guard s hx => ?_
  obtain ⟨rfl, rfl⟩ := Prod.mk.inj (Txn.read_ok_iff.1 hx)
  split
  · exact ⟨_, rfl⟩
  refine Txn.succeeds_bind ⟨_, rfl⟩ fun retained s hx => ?_
  obtain ⟨rfl, rfl⟩ := Prod.mk.inj (Txn.read_ok_iff.1 hx)
  split
  · exact ⟨_, rfl⟩
  have hload : loadOwnerIdentity db =
      .ok (.claimed a.businessUserId chat source floor boundAt, db) := by
    unfold loadOwnerIdentity loadOwnerLifecycleState
    rw [Txn.read_bind_apply, howner]
    rfl
  refine Txn.succeeds_bind ⟨_, hload⟩ fun owner s hx => ?_
  obtain ⟨rfl, rfl⟩ := Prod.mk.inj (Except.ok.inj (hload.symm.trans hx))
  dsimp only
  split
  · exact ⟨_, rfl⟩
  have hdone (revision : Nat) (write : TrustedConnectionWrite) : Succeeds (do
      installTrusted a revision
      let _ ← deleteConnectionCandidate a.connectionId
      pure write : Uow TrustedConnectionWrite) db :=
    Txn.succeeds_bind (hinstall revision) fun _ _ _ =>
      Txn.succeeds_bind (deleteConnectionCandidate_succeeds _) fun _ _ _ => ⟨_, rfl⟩
  refine Txn.succeeds_bind ⟨_, hs.load⟩ fun trusted s hx => ?_
  obtain ⟨rfl, rfl⟩ := Prod.mk.inj (Except.ok.inj (hs.load.symm.trans hx))
  cases ht : db.businessConnection.rows.head? with
  | none =>
    dsimp only
    split
    · exact ⟨_, rfl⟩
    refine Txn.succeeds_bind ⟨_, hpast⟩ fun floor s hx => ?_
    obtain rfl : db = s := (generationFloorExcluding_readOnly _).of_ok hx
    split
    · exact ⟨_, rfl⟩
    · exact hdone _ _
  | some t =>
    have hmem : t ∈ db.businessConnection.rows := List.mem_of_head? ht
    obtain ⟨g, hg, hlater⟩ := h.trusted t hmem
    dsimp only
    rw [if_neg (hother t hmem)]
    split
    · exact ⟨_, rfl⟩
    split
    · exact ⟨_, rfl⟩
    rw [hg]
    dsimp only
    rw [if_neg (by omega)]
    refine Txn.succeeds_bind ⟨_, hpast⟩ fun floor s hx => ?_
    obtain rfl : db = s := (generationFloorExcluding_readOnly _).of_ok hx
    split
    · exact ⟨_, rfl⟩
    · exact hdone _ _

/-- **What is found of a connection that is not stored converges exactly when it supersedes what
is**, through a snapshot that is still current. -/
theorem reconcileThrough_confirms_iff {snapshot : ConnectionReconciliationSnapshot}
    {a : BusinessConnectionCandidate} (hs : db.SingleTrusted)
    (hgone : db.businessConnection.contains a.connectionId = false) :
    (∃ write db', reconcileThrough snapshot a db = .ok (write, db') ∧ write.confirms = true) ↔
      validateCandidate a db = .ok ((), db) ∧ snapshot.Current a.connectionId db ∧
        db.SupersededBy a := by
  have hother {t : BusinessConnectionRecord} (ht : t ∈ db.businessConnection.rows)
      (hid : t.connectionId = a.connectionId) : False := by
    rw [Table.contains_iff.2 ⟨t, ht, hid⟩] at hgone
    cases hgone
  constructor
  · rintro ⟨write, db', hx, hconfirms⟩
    have hvalid : validateCandidate a db = .ok ((), db) := by
      obtain ⟨⟨⟩, s, hvalid, -⟩ := Txn.bind_ok_iff.1 hx
      rw [hvalid, (validateCandidate_readOnly a).of_ok hvalid]
    have hiff := reconcile_isConflict_iff hx
    have hno : write.isConflict = false := by
      cases write <;> first | rfl | cases hconfirms
    rw [hno] at hiff
    obtain ⟨hcurrent, howner, haccepts⟩ := not_not.1 (mt hiff.2 (by simp))
    refine ⟨hvalid, hcurrent, ?_⟩
    -- of the endings that are no conflict only an install and a replacement confirm
    cases reconcileAuthoritativeTrustedConnection_ok hx with
    | conflict hwrite => simp [hno] at hwrite
    | installed revision hnone =>
      rw [hnone] at haccepts
      exact ⟨howner, haccepts, by simp [hnone]⟩
    | same t row ht hid => exact (hother (by simp [ht]) hid).elim
    | replaced t g revision ht hne hexpected hgeneration _ hlater =>
      rw [ht] at haccepts
      obtain ⟨-, haccepts⟩ := haccepts
      rw [if_neg hne] at haccepts
      obtain ⟨g', hg', hor⟩ := haccepts
      obtain rfl : g = g' := Option.some.inj (hgeneration.symm.trans hg')
      refine ⟨howner, ?_, fun t' ht' => ?_⟩
      · rcases hor with hsame | ⟨-, hpast⟩
        · omega
        · exact hpast
      · rw [ht, List.mem_singleton] at ht'
        subst ht'
        exact ⟨g, hgeneration, hlater⟩
    | ambiguous => cases hconfirms
  · rintro ⟨hvalid, hcurrent, hsup⟩
    obtain ⟨⟨write, db'⟩, hx⟩ := @reconcileThrough_succeeds _ snapshot _ hs hgone hvalid hsup
    refine ⟨write, db', hx, ?_⟩
    -- what supersedes is accepted, so nothing but the ambiguous ending is left to exclude
    have haccepts : db.Accepts a := by
      refine ⟨hsup.owner, ?_⟩
      match ht : db.businessConnection.rows with
      | [] => exact hsup.floor
      | t :: _ =>
        have hmem : t ∈ db.businessConnection.rows := by simp [ht]
        obtain ⟨g, hg, hlater⟩ := hsup.trusted t hmem
        refine ⟨Option.some.inj ((hs.owned t hmem).symm.trans hsup.owner), ?_⟩
        rw [if_neg fun hid => hother hmem hid]
        exact ⟨g, hg, .inr ⟨hlater, hsup.floor⟩⟩
    have hno : ¬write.isConflict = true := fun hconflict =>
      (reconcile_isConflict_iff hx).1 hconflict ⟨hcurrent, haccepts⟩
    cases reconcileAuthoritativeTrustedConnection_ok hx with
    | conflict hwrite => exact absurd hwrite hno
    | installed => rfl
    | same t row ht hid => exact (hother (by simp [ht]) hid).elim
    | replaced => rfl
    | ambiguous t ht hne hexpected hgeneration =>
      obtain ⟨g, hg, hlater⟩ := hsup.trusted t (by simp [ht])
      obtain rfl : a.connectionEstablishedAt = g := Option.some.inj (hgeneration.symm.trans hg)
      omega

/-- A connection that is neither found nor stored is retired. -/
theorem retireThrough_absent {snapshot : ConnectionReconciliationSnapshot} {connectionId : String}
    (hgone : db.businessConnection.contains connectionId = false) :
    ∃ db', retireThrough snapshot connectionId db = .ok (.reconciled, db') := by
  obtain ⟨⟨n, db'⟩, hdelete⟩ := @deleteConnectionCandidate_succeeds db connectionId
  have hnone : db.businessConnection.lookup connectionId = none := by
    cases hlookup : db.businessConnection.lookup connectionId with
    | none => rfl
    | some t =>
      rw [Table.contains_iff.2 ⟨t, Table.mem_of_lookup hlookup, Table.key_of_lookup hlookup⟩] at hgone
      cases hgone
  refine ⟨db', ?_⟩
  unfold retireThrough retireTrustedConnectionNotFound loadBusinessConnectionForReconciliation
  rw [Txn.read_bind_apply, hnone]
  dsimp only
  rw [Txn.bind_of_ok hdelete]
  rfl

/-- Telegram has answered: it finds the connection, or knows of none. -/
def LookupAnswer.answered : LookupAnswer → Bool
  | .ok _ | .error .connectionNotFound => true
  | .error _ => false

/-- **The answer releases the barrier** from a connection that is not stored. -/
def Database.Releases (db : Database) (snapshot : ConnectionReconciliationSnapshot)
    (now : DateTime) : LookupAnswer → Prop
  | .ok authoritative =>
    validateCandidate (authoritativeCandidate authoritative now) db = .ok ((), db) ∧
    snapshot.Current authoritative.connectionId db ∧
    db.SupersededBy (authoritativeCandidate authoritative now)
  | .error _ => True

theorem reconcileTrustedCurrentState_converged_iff {connectionId : String}
    {snapshot : ConnectionReconciliationSnapshot} {answer : LookupAnswer} {now : DateTime}
    (hs : db.SingleTrusted) (hgone : db.businessConnection.contains connectionId = false)
    (hvalid : answer.validFor connectionId = true) (hanswered : answer.answered = true) :
    (∃ db', reconcileTrustedCurrentState connectionId snapshot answer now db =
      .ok (.converged, db')) ↔ db.Releases snapshot now answer := by
  match answer with
  | .error .connectionNotFound =>
    obtain ⟨db', hx⟩ := @retireThrough_absent _ snapshot _ hgone
    refine iff_of_true ⟨db', ?_⟩ trivial
    unfold reconcileTrustedCurrentState
    dsimp only
    rw [Txn.bind_of_ok hx]
    rfl
  | .error .botAuthentication | .error .transientExhausted | .error .invalidResponse
  | .error .clientRejected => cases hanswered
  | .ok authoritative =>
    have hid : authoritative.connectionId = connectionId := by
      simp only [LookupAnswer.validFor, Bool.and_eq_true, decide_eq_true_eq] at hvalid
      exact hvalid.1.1.1
    have hiff := @reconcileThrough_confirms_iff _ snapshot
      (authoritativeCandidate authoritative now) hs (by rw [← hid] at hgone; exact hgone)
    unfold reconcileTrustedCurrentState
    dsimp only
    rw [if_neg (not_not.2 hid)]
    refine Iff.trans ?_ hiff
    constructor
    · rintro ⟨db', hx⟩
      obtain ⟨write, s, hreconcile, hpure⟩ := Txn.bind_ok_iff.1 hx
      obtain ⟨hconverged, -⟩ := Prod.mk.inj (Txn.pure_ok_iff.1 hpure)
      refine ⟨write, s, hreconcile, ?_⟩
      cases write <;> first | rfl | cases hconverged
    · rintro ⟨write, db', hx, hconfirms⟩
      refine ⟨db', ?_⟩
      rw [Txn.bind_of_ok hx]
      cases write <;> first | rfl | cases hconfirms

/-- **The startup barrier lets go of a connection that is no longer trusted exactly when its lookup
finds nothing, or something that supersedes what is stored.** -/
theorem startup_barrier_released_iff {w w' : World} {connectionId : String}
    {snapshot : ConnectionReconciliationSnapshot} {answer : LookupAnswer} {now : DateTime}
    (h : service.Reachable w) (hpending : w.startupPending = some connectionId)
    (hgone : w.db.businessConnection.contains connectionId = false)
    (hworker : w.worker = .startupRetry connectionId snapshot) (hanswered : answer.answered = true)
    (hstep : w.step (.worker (.startupRetryAnswer answer now)) = some w') :
    w'.startupPending = none ↔ w.db.Releases snapshot now answer := by
  simp only [World.step, World.stepWorker, hworker] at hstep
  obtain ⟨hvalid, hstep⟩ := Option.ite_none_right_eq_some.1 hstep
  obtain rfl := Option.some.inj hstep
  rw [← reconcileTrustedCurrentState_converged_iff (World.singleTrusted h) hgone hvalid hanswered]
  dsimp only
  cases hx : reconcileTrustedCurrentState connectionId snapshot answer now w.db with
  | error error =>
    rw [Txn.commit_of_error hx]
    simp [hpending]
  | ok r =>
    obtain ⟨outcome, db'⟩ := r
    rw [Txn.commit_of_ok hx]
    cases outcome with
    | converged => exact iff_of_true rfl ⟨db', rfl⟩
    | pending transient => simp [hpending]
    | authenticationFailed => simp [hpending]

section

open Sample

/-- The lookup of `c` at startup goes unanswered, `d` is trusted in its place, and the retry is
answered. -/
def supersededAtStartup : List Op :=
  connected false ++ [.crash, .worker (.boot false 3), .worker (.initializeOwner 3),
    .worker .startupSnapshot, .worker (.startupAnswer (.error .transientExhausted) 3),
    .worker (.recoverNext 3), .worker (.serve signer)] ++
    trigger 3 "d" (found "d" 300) 4 ++ [.worker .startupRetrySnapshot]

/-- The barrier waits for `c`, which is not trusted, and the answer about it does not help. -/
def World.waitsForSuperseded (w : World) : Bool :=
  w.startupPending = some "c" && !w.db.businessConnection.contains "c" &&
    match w.worker with
    | .startupRetry connectionId _ => connectionId = "c" &&
      (w.step (.worker (.startupRetryAnswer (found "c" 200) 5))).any (·.startupPending = some "c")
    | _ => false

set_option maxRecDepth 100000 in
theorem supersededAtStartup_waits : ∃ (w w' : World) (snapshot : ConnectionReconciliationSnapshot),
    service.Reachable w ∧ w.startupPending = some "c" ∧
    w.db.businessConnection.contains "c" = false ∧ w.worker = .startupRetry "c" snapshot ∧
    w.step (.worker (.startupRetryAnswer (found "c" 200) 5)) = some w' ∧
    w'.startupPending = some "c" := by
  obtain ⟨w, hw, hwaits⟩ := Machine.reachable_of_run (M := service) supersededAtStartup
    World.waitsForSuperseded ⟨0, rfl⟩ (by decide +kernel)
  simp only [World.waitsForSuperseded, Bool.and_eq_true, decide_eq_true_eq, Bool.not_eq_true'] at hwaits
  obtain ⟨⟨hpending, hgone⟩, hwaits⟩ := hwaits
  split at hwaits
  · next connectionId snapshot hworker =>
    simp only [Bool.and_eq_true, decide_eq_true_eq] at hwaits
    obtain ⟨rfl, hwaits⟩ := hwaits
    obtain ⟨w', hstep, hstill⟩ := (Option.any_eq_true _ _).1 hwaits
    exact ⟨w, w', snapshot, hw, hpending, hgone, hworker, hstep, of_decide_eq_true hstill⟩
  · cases hwaits

/-- The superseded connection is let go of exactly if it supersedes what is stored. -/
theorem startup_barrier_released_iff_superseded : ∃ (w w' : World)
    (snapshot : ConnectionReconciliationSnapshot), service.Reachable w ∧
    (w'.startupPending = none ↔ w.db.Releases snapshot 5 (found "c" 200)) := by
  obtain ⟨w, w', snapshot, hw, hpending, hgone, hworker, hstep, -⟩ := supersededAtStartup_waits
  exact ⟨w, w', snapshot, hw, startup_barrier_released_iff hw hpending hgone hworker rfl hstep⟩

/-- **The barrier can wait for a connection that has been superseded.** -/
theorem startup_barrier_held : ¬∀ (w w' : World) (connectionId : String)
    (snapshot : ConnectionReconciliationSnapshot) (answer : LookupAnswer) (now : DateTime),
    service.Reachable w → w.startupPending = some connectionId →
    w.db.businessConnection.contains connectionId = false →
    w.worker = .startupRetry connectionId snapshot → answer.answered = true →
    w.step (.worker (.startupRetryAnswer answer now)) = some w' → w'.startupPending = none := by
  intro h
  obtain ⟨w, w', snapshot, hw, hpending, hgone, hworker, hstep, hstill⟩ := supersededAtStartup_waits
  have hnone := h w w' "c" snapshot _ _ hw hpending hgone hworker rfl hstep
  rw [hstill] at hnone
  cases hnone

end

end ChatHygiene
