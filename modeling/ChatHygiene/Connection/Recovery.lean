import ChatHygiene.Connection.Barrier
/-!
# Recovery of readiness

A fresh connection of the Owner, taken on once every candidate has outlived its
retention, leaves nothing in the way of readiness but the overflow guard. The
guard is set when more candidates arrive before the claim than are kept, and
nothing clears it.
-/

namespace ChatHygiene

open Txn (Respects commit)

variable {db db' : Database}

/-! ## Candidates -/

/-- No candidate is new. -/
def CandidatesFall (db db' : Database) : Prop :=
  ∀ c ∈ db'.candidate.rows, c ∈ db.candidate.rows

instance : Std.Refl CandidatesFall := ⟨fun _ _ => id⟩

instance : IsTrans Database CandidatesFall := ⟨fun _ _ _ h h' c hc => h c (h' c hc)⟩

theorem candidatesFall_of_writes {α : Type} {x : Uow α} (targets : List Target)
    (hcandidate : Target.candidate ∉ targets)
    (h : Respects (WritesTo targets fun _ => True) x) : Respects CandidatesFall x := by
  refine h.mono fun db db' hw c hc => ?_
  rwa [hw.frame.candidate hcandidate] at hc

theorem deleteCandidate_fall (p : BusinessConnectionCandidate → Bool) :
    Respects CandidatesFall (Uow.deleteCandidate p) := by
  intro db n db' h c hc
  obtain ⟨-, hdb⟩ := Prod.mk.inj (Except.ok.inj (Uow.statement_ok_iff.1 h))
  rw [← hdb] at hc
  exact (Table.mem_delete.1 hc).1

theorem deleteConnectionCandidate_fall (connectionId : String) :
    Respects CandidatesFall (deleteConnectionCandidate connectionId) :=
  deleteCandidate_fall _

theorem installTrusted_fall (a : BusinessConnectionCandidate) (revision : Nat) :
    Respects CandidatesFall (installTrusted a revision) :=
  candidatesFall_of_writes [.connection, .dropConnection, .outbox, .mode] (by simp)
    (upsertBusinessConnection_writes (fun _ ht => ht) _)

theorem reconcileSameTrusted_fall (t : BusinessConnectionRecord) (a : BusinessConnectionCandidate)
    (expected : Option Nat) : Respects CandidatesFall (reconcileSameTrusted t a expected) := by
  have hupdate {p : BusinessConnectionRecord → Bool}
      {f : BusinessConnectionRecord → BusinessConnectionRecord} {hf : Tables.ConnectionChange f} :
      Respects CandidatesFall (Uow.updateConnection p f hf) :=
    candidatesFall_of_writes [.connection] (by simp)
      (Uow.updateConnection_writes (by exact List.mem_singleton.2 rfl))
  have hone (n : Nat) : Respects CandidatesFall (updateOne n) :=
    candidatesFall_of_writes [] (by simp) (updateOne_writes n)
  have hgate : Respects CandidatesFall (gateConflictingTrusted t a.observedAt) :=
    hupdate.bind hone
  have hsafety : Respects CandidatesFall (applySafetyIntersection t a) :=
    .ite (fun _ => .pure _) fun _ => hupdate.bind hone
  exact .ite (fun _ => hsafety.bind fun _ => .pure _) fun _ =>
    .ite (fun _ => hgate.bind fun _ => .pure _) fun _ =>
    .ite (fun _ => hgate.bind fun _ => .pure _) fun _ =>
    hupdate.bind fun _ => .ite (fun _ => .pure _) fun _ =>
    (deleteConnectionCandidate_fall _).bind fun _ => .pure _

/-- A response that is taken on leaves no candidate behind that was not there. -/
theorem reconcileThrough_fall {snapshot : ConnectionReconciliationSnapshot}
    {a : BusinessConnectionCandidate} {write : TrustedConnectionWrite}
    (h : reconcileThrough snapshot a db = .ok (write, db')) (hconfirms : write.confirms = true) :
    CandidatesFall db db' := by
  -- a read leaves every candidate, an install deletes one: no ending adds any
  have hpure {conflict : TrustedConnectionWrite}
      (h : (pure conflict : Uow TrustedConnectionWrite) db = .ok (write, db')) :
      CandidatesFall db db' :=
    (Respects.pure (R := CandidatesFall) conflict).of_ok h
  have hdone {revision : Nat} {result : TrustedConnectionWrite} (h : (do
      installTrusted a revision
      let _ ← deleteConnectionCandidate a.connectionId
      pure result : Uow TrustedConnectionWrite) db = .ok (write, db')) : CandidatesFall db db' :=
    (((installTrusted_fall a revision).bind fun _ =>
      (deleteConnectionCandidate_fall _).bind fun _ => .pure result :
        Respects CandidatesFall _)).of_ok h
  unfold reconcileThrough reconcileAuthoritativeTrustedConnection at h
  obtain ⟨⟨⟩, -, h⟩ := Txn.bind_ok_of_readOnly (validateCandidate_readOnly a) h
  obtain ⟨guard, -, h⟩ := Txn.bind_ok_of_readOnly (x := loadCandidateGuard) (Respects.read _) h
  split at h
  · exact hpure h
  obtain ⟨retained, -, h⟩ :=
    Txn.bind_ok_of_readOnly (x := loadCandidate a.connectionId) (Respects.read _) h
  split at h
  · exact hpure h
  obtain ⟨owner, -, h⟩ := Txn.bind_ok_of_readOnly loadOwnerIdentity_readOnly h
  cases owner with
  | unclaimed => exact hpure h
  | claimed user chat source floor boundAt =>
    dsimp only at h
    split at h
    · exact hpure h
    obtain ⟨trusted, -, h⟩ := Txn.bind_ok_of_readOnly loadSingleTrustedConnection_readOnly h
    cases trusted with
    | none =>
      dsimp only at h
      split at h
      · exact hpure h
      obtain ⟨past, -, h⟩ := Txn.bind_ok_of_readOnly (generationFloorExcluding_readOnly _) h
      split at h
      · exact hpure h
      · exact hdone h
    | some t =>
      dsimp only at h
      split at h
      · exact (reconcileSameTrusted_fall t a _).of_ok h
      split at h
      · exact hpure h
      split at h
      · exact hpure h
      cases hgeneration : t.connectionEstablishedAt with
      | none =>
        rw [hgeneration] at h
        exact hpure h
      | some g =>
        rw [hgeneration] at h
        dsimp only at h
        split at h
        · -- two connections of one generation: the response is not taken on
          obtain ⟨⟨⟩, s, -, h⟩ := Txn.bind_ok_iff.1 h
          obtain ⟨rfl, -⟩ := Prod.mk.inj (Txn.pure_ok_iff.1 h)
          cases hconfirms
        obtain ⟨past, -, h⟩ := Txn.bind_ok_of_readOnly (generationFloorExcluding_readOnly _) h
        split at h
        · exact hpure h
        · exact hdone h

/-! ## Readiness -/

/-- What a response that is taken on leaves behind. -/
structure Recovered (db db' : Database) : Prop where
  trusted : ∃ row, db'.businessConnection.rows = [row] ∧ row.reconciliationState = .confirmed ∧
    db.ownerIdentity.ownerUserId = some row.ownerUserId
  candidates : CandidatesFall db db'
  owner : db'.ownerIdentity = db.ownerIdentity
  guard : db'.guard = db.guard
  reconciliation : db'.reconciliation = db.reconciliation

theorem reconcileThrough_recovered {snapshot : ConnectionReconciliationSnapshot}
    {a : BusinessConnectionCandidate} {write : TrustedConnectionWrite} (hs : db.SingleTrusted)
    (h : reconcileThrough snapshot a db = .ok (write, db')) (hconfirms : write.confirms = true) :
    Recovered db db' := by
  have hfall := reconcileThrough_fall h hconfirms
  cases reconcileAuthoritativeTrustedConnection_ok h with
  | conflict hwrite =>
    cases write <;> simp [TrustedConnectionWrite.isConflict, TrustedConnectionWrite.confirms] at hwrite hconfirms
  | installed revision hnone hexpected howner hfloor hrows hframe =>
    exact ⟨⟨_, hrows, rfl, howner⟩, hfall, hframe.ownerIdentity (by simp), hframe.guard (by simp),
      hframe.reconciliation (by simp)⟩
  | same t row ht hid hsame hrows hframe =>
    have howned := hs.owned t (by simp [ht])
    cases hsame with
    | kept => cases hconfirms
    | lessened => cases hconfirms
    | gated hcurrent hwrite =>
      cases write <;> simp [TrustedConnectionWrite.isConflict, TrustedConnectionWrite.confirms] at hwrite hconfirms
    | refreshed =>
      exact ⟨⟨_, hrows, rfl, howned⟩, hfall, hframe.ownerIdentity (by simp), hframe.guard (by simp),
        hframe.reconciliation (by simp)⟩
  | replaced t g revision ht hne hcurrent hgeneration howner hlater hfloor hrows hretired hmode
      hframe =>
    exact ⟨⟨_, hrows, rfl, howner⟩, hfall, hframe.ownerIdentity (by simp), hframe.guard (by simp),
      hframe.reconciliation (by simp)⟩
  | ambiguous => cases hconfirms

/-- The Owner's confirmed connection and no candidate within its retention: nothing else but the
overflow guard stands in the way of readiness. -/
theorem classifyReadinessIn_succeeds_iff {row : BusinessConnectionRecord} {now : DateTime}
    (hready : db.reconciliation.state = .ready) (hrows : db.businessConnection.rows = [row])
    (hconfirmed : row.reconciliationState = .confirmed)
    (howner : db.ownerIdentity.ownerUserId = some row.ownerUserId)
    (hold : ∀ c ∈ db.candidate.rows, c.observedAt < now - candidateRetention) :
    (∃ health, classifyReadinessIn now db = .ok (health, db)) ↔
      db.guard.overflowEstablishedAt = none := by
  obtain ⟨chat, source, floor, boundAt, howner⟩ := exists_claimed_of_ownerUserId howner
  have hload : loadSingleTrustedConnection db = .ok (some row, db) :=
    loadSingleTrustedConnection_of_rows hrows
  have hretained : ((db.candidate.rows.filter fun _ => true).insertionSort fun a b =>
      (!decide (b.connectionId < a.connectionId)) = true).filter
        (fun c => now - candidateRetention ≤ c.observedAt) = [] := by
    refine List.filter_eq_nil_iff.2 fun c hc => ?_
    have hobserved := hold c (by simpa using hc)
    rw [decide_eq_true_eq, Int.not_le]
    exact hobserved
  have hidentity : loadOwnerIdentity db =
      .ok (.claimed row.ownerUserId chat source floor boundAt, db) := by
    unfold loadOwnerIdentity loadOwnerLifecycleState
    rw [Txn.read_bind_apply, howner]
    rfl
  unfold classifyReadinessIn loadTelegramReconciliationState listConnectionCandidates
    candidatesBy loadCandidateGuard
  rw [Txn.read_bind_apply, hready, if_neg (by simp)]
  dsimp only
  rw [Txn.bind_of_ok hidentity, Txn.bind_of_ok hload, Txn.read_bind_apply, Txn.read_bind_apply]
  simp only [hretained, hconfirmed, ne_eq, not_true_eq_false, false_or]
  cases hguard : db.guard.overflowEstablishedAt with
  | some g => simp
  | none =>
    simp only [Option.isSome_none, Bool.false_eq_true, if_false, iff_true]
    split_ifs <;> exact ⟨_, rfl⟩

theorem Recovered.classifies_iff {now : DateTime} (h : Recovered db db')
    (hready : db.reconciliation.state = .ready)
    (hold : ∀ c ∈ db.candidate.rows, c.observedAt < now - candidateRetention) :
    (∃ health, classifyReadinessIn now db' = .ok (health, db')) ↔
      db.guard.overflowEstablishedAt = none := by
  obtain ⟨row, hrows, hconfirmed, howner⟩ := h.trusted
  rw [← h.guard]
  exact classifyReadinessIn_succeeds_iff (by rw [h.reconciliation]; exact hready) hrows hconfirmed
    (by rw [h.owner]; exact howner) fun c hc => hold c (h.candidates c hc)

end ChatHygiene
