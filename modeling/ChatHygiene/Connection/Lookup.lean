import ChatHygiene.Connection.Reconcile
import ChatHygiene.System.Transaction
/-!
# What the answer to a lookup commits

Startup, its retries and the triggers go on from an answer with the same three
operations: the reconciliation of what was found, the retirement of what was
not, and the authentication failure. What a trigger adds leaves the
connection, the outbox and the mode alone.
-/

namespace ChatHygiene

open Txn (Respects commit)

variable {db db' : Database}

/-- **What the answer to a lookup commits.** -/
inductive LookupCommitted (connectionId : String) (snapshot : ConnectionReconciliationSnapshot)
    (answer : LookupAnswer) (now : DateTime) (db db' : Database) : Prop
  | aside (h : Frame [.candidate, .guard, .owner, .update, .audit] db.toTables db'.toTables)
  | notFound (write : TrustedConnectionWrite) (db₁ : Database)
    (hanswer : answer = .error .connectionNotFound)
    (hretire : retireThrough snapshot connectionId db = .ok (write, db₁))
    (h : Frame [.owner, .update, .audit] db₁.toTables db'.toTables)
  | authFailed (global : TelegramReconciliationState) (hanswer : answer = .error .botAuthentication)
    (h : setTelegramAuthFailed now db = .ok (global, db'))
  | found (authoritative : AuthoritativeBusinessConnection) (write : TrustedConnectionWrite)
    (db₁ : Database) (hanswer : answer = .ok authoritative)
    (hreconcile : reconcileThrough snapshot (authoritativeCandidate authoritative now) db =
      .ok (write, db₁))
    (h : Frame [.owner, .update, .audit] db₁.toTables db'.toTables)

variable {connectionId : String} {snapshot : ConnectionReconciliationSnapshot}
  {answer : LookupAnswer} {now : DateTime}

protected theorem LookupCommitted.refl : LookupCommitted connectionId snapshot answer now db db :=
  .aside (.refl _)

instance : Std.Refl (LookupCommitted connectionId snapshot answer now) := ⟨fun _ => .refl⟩

theorem reconcileTrustedCurrentState_ok {r : TrustedStartupReconciliation}
    (h : reconcileTrustedCurrentState connectionId snapshot answer now db = .ok (r, db')) :
    LookupCommitted connectionId snapshot answer now db db' := by
  match answer with
  | .error .connectionNotFound =>
    obtain ⟨write, db₁, hretire, h⟩ := Txn.bind_ok_iff.1 h
    obtain ⟨-, rfl⟩ := Prod.mk.inj (Txn.pure_ok_iff.1 h)
    exact .notFound write db₁ rfl hretire (.refl _)
  | .error .botAuthentication =>
    obtain ⟨global, db₁, hfailed, h⟩ := Txn.bind_ok_iff.1 h
    obtain ⟨-, rfl⟩ := Prod.mk.inj (Txn.pure_ok_iff.1 h)
    exact .authFailed global rfl hfailed
  | .error .transientExhausted | .error .invalidResponse | .error .clientRejected =>
    obtain ⟨-, rfl⟩ := Prod.mk.inj (Txn.pure_ok_iff.1 h)
    exact .refl
  | .ok authoritative =>
    unfold reconcileTrustedCurrentState at h
    dsimp only at h
    split at h
    · obtain ⟨-, rfl⟩ := Prod.mk.inj (Txn.pure_ok_iff.1 h)
      exact .refl
    · obtain ⟨write, db₁, hreconcile, h⟩ := Txn.bind_ok_iff.1 h
      obtain ⟨-, rfl⟩ := Prod.mk.inj (Txn.pure_ok_iff.1 h)
      exact .found authoritative write db₁ rfl hreconcile (.refl _)

/-- A committed trigger went on with the Owner its snapshot saw. -/
theorem withExpectedOwner_ok {owner : OwnerIdentity} {next : Uow TriggerApplication}
    {application : TriggerApplication}
    (h : withExpectedOwner owner next db = .ok (application, db')) :
    db' = db ∨ next db = .ok (application, db') := by
  unfold withExpectedOwner loadOwnerLifecycleState at h
  simp only [Txn.read_bind_apply] at h
  cases howner : db.ownerIdentity with
  | pending =>
    rw [howner] at h
    exact .inl (Prod.mk.inj (Txn.pure_ok_iff.1 h)).2.symm
  | ready current =>
    rw [howner] at h
    dsimp only at h
    split at h
    · exact .inl (Prod.mk.inj (Txn.pure_ok_iff.1 h)).2.symm
    · exact .inr h

theorem markConnectionTriggerApplied_frame {updateId : Int} {u : Unit}
    (h : markConnectionTriggerApplied updateId now db = .ok (u, db')) :
    Frame [.update] db.toTables db'.toTables :=
  (show WritesTo [.update] (fun _ => True) db db' from
    (markConnectionTriggerApplied_writes (by simp) _ _).of_ok h).frame

/-- The trigger of an unclaimed service writes to the candidates. -/
theorem applyUnclaimedConnectionTrigger_frame {candidate : BusinessConnectionCandidate}
    {updateId : Int} {occurredAt serviceNow : DateTime} {application : TriggerApplication}
    (h : applyUnclaimedConnectionTrigger candidate snapshot updateId occurredAt serviceNow db =
      .ok (application, db')) :
    Frame [.candidate, .guard, .audit] db.toTables db'.toTables := by
  refine (show WritesTo [.candidate, .guard, .audit] (fun _ => True) db db' from
    Respects.of_ok ?_ h).frame
  have hprune : Respects (WritesTo [.candidate, .guard, .audit] fun _ => True) (do
      let _ ← pruneConnectionCandidates (serviceNow - candidateRetention) candidateLimit
      pure TriggerApplication.commit) :=
    (pruneConnectionCandidates_writes (by simp) _ _).bind fun _ => .pure _
  refine (applyAuthoritativeCandidate_writes (by simp) _ _).bind fun outcome => ?_
  split
  · exact .pure _
  · exact .ite (fun _ => (insertConnectionAudit_writes (by simp) _ _ _).bind fun _ => hprune)
      fun _ => hprune

/-- The trigger of a claimed service reconciles what was found, or does not go on. -/
theorem applyClaimedConnectionTrigger_ok {authoritative : AuthoritativeBusinessConnection}
    {candidate : BusinessConnectionCandidate} {ownerUserId : Int} {source : OwnerChatSource}
    {updateId : Int} {occurredAt : DateTime} {application : TriggerApplication}
    (h : applyClaimedConnectionTrigger authoritative candidate snapshot ownerUserId source updateId
      occurredAt db = .ok (application, db')) :
    Frame [.audit] db.toTables db'.toTables ∨
      ∃ write db₁, reconcileThrough snapshot candidate db = .ok (write, db₁) ∧
        Frame [.owner, .audit] db₁.toTables db'.toTables := by
  have haudit {eventKind : String} {s : Database}
      (h : (do
        insertConnectionAudit updateId eventKind occurredAt
        pure TriggerApplication.commit : Uow _) s = .ok (application, db')) :
      Frame [.audit] s.toTables db'.toTables :=
    (show WritesTo [.audit] (fun _ => True) s db' from Respects.of_ok
      ((insertConnectionAudit_writes (by simp) _ _ _).bind fun _ => .pure _) h).frame
  unfold applyClaimedConnectionTrigger at h
  split at h
  · obtain ⟨write, db₁, hreconcile, h⟩ := Txn.bind_ok_iff.1 h
    refine .inr ⟨write, db₁, hreconcile, ?_⟩
    split at h
    · rw [(Prod.mk.inj (Txn.pure_ok_iff.1 h)).2]
      exact .refl _
    · split at h
      · rw [(Prod.mk.inj (Txn.pure_ok_iff.1 h)).2]
        exact .refl _
      · exact (haudit h).mono (by simp)
    · split at h
      · rw [(Prod.mk.inj (Txn.pure_ok_iff.1 h)).2]
        exact .refl _
      · exact (haudit h).mono (by simp)
    all_goals
      exact (show WritesTo [.owner, .audit] (fun _ => True) db₁ db' from Respects.of_ok
        ((promoteReportedChat_writes (by simp) _ _ _).bind fun _ => .pure _) h).frame
  · left
    split at h
    · rw [(Prod.mk.inj (Txn.pure_ok_iff.1 h)).2]
      exact .refl _
    · exact haudit h

theorem reconcileConnectionTrigger_ok {updateId : Int} {occurredAt : DateTime}
    {owner : OwnerIdentity} {r : TriggerApplication}
    (h : reconcileConnectionTrigger updateId connectionId occurredAt owner snapshot answer now db =
      .ok (r, db')) : LookupCommitted connectionId snapshot answer now db db' := by
  match answer with
  | .error .connectionNotFound =>
    rcases rollbackRetry_ok h with rfl | h
    · exact .refl
    rcases withExpectedOwner_ok h with rfl | h
    · exact .refl
    obtain ⟨write, db₁, hretire, h⟩ := Txn.bind_ok_iff.1 h
    refine .notFound write db₁ rfl hretire ?_
    cases write with
    | reconciled =>
      obtain ⟨⟨⟩, db₂, hmark, h⟩ := Txn.bind_ok_iff.1 h
      obtain ⟨-, rfl⟩ := Prod.mk.inj (Txn.pure_ok_iff.1 h)
      exact (markConnectionTriggerApplied_frame hmark).mono (by simp)
    | revisionConflict | userConflict | generationConflict =>
      obtain ⟨-, rfl⟩ := Prod.mk.inj (Txn.pure_ok_iff.1 h)
      exact .refl _
    | installed | replaced | ambiguous => cases h
  | .error .botAuthentication =>
    obtain ⟨global, db₁, hfailed, h⟩ := Txn.bind_ok_iff.1 h
    obtain ⟨-, rfl⟩ := Prod.mk.inj (Txn.pure_ok_iff.1 h)
    exact .authFailed global rfl hfailed
  | .error .transientExhausted | .error .invalidResponse | .error .clientRejected =>
    obtain ⟨-, rfl⟩ := Prod.mk.inj (Txn.pure_ok_iff.1 h)
    exact .refl
  | .ok authoritative =>
    rcases rollbackRetry_ok h with rfl | h
    · exact .refl
    rcases withExpectedOwner_ok h with rfl | h
    · exact .refl
    have hrest {application : TriggerApplication} {s : Database}
        (h : endTrigger updateId now application s = .ok (r, db')) :
        Frame [.update] s.toTables db'.toTables :=
      ((endTrigger_writes (by simp) _ _ _).of_ok h : WritesTo [.update] (fun _ => True) _ _).frame
    cases owner with
    | unclaimed =>
      obtain ⟨application, db₁, hunclaimed, h⟩ := Txn.bind_ok_iff.1 h
      exact .aside (((applyUnclaimedConnectionTrigger_frame hunclaimed).mono (by simp)).trans
        ((hrest h).mono (by simp)))
    | claimed =>
      obtain ⟨application, db₁, hclaimed, h⟩ := Txn.bind_ok_iff.1 h
      rcases applyClaimedConnectionTrigger_ok hclaimed with haside | ⟨write, s, hreconcile, hframe⟩
      · exact .aside ((haside.mono (by simp)).trans ((hrest h).mono (by simp)))
      · exact .found authoritative write s rfl hreconcile
          ((hframe.mono (by simp)).trans ((hrest h).mono (by simp)))

/-! ## The transactions that go on from an answer -/

theorem Transaction.startup_answered :
    LookupCommitted connectionId snapshot answer now db
      ((Transaction.startup connectionId snapshot answer now).after db) :=
  Respects.commit (R := LookupCommitted connectionId snapshot answer now)
    (fun _ _ _ h => reconcileTrustedCurrentState_ok h) db

theorem Transaction.trigger_answered {updateId : Int} {occurredAt : DateTime}
    {owner : OwnerIdentity} :
    LookupCommitted connectionId snapshot answer now db
      ((Transaction.trigger updateId connectionId occurredAt owner snapshot answer now).after
        db) :=
  Respects.commit (R := LookupCommitted connectionId snapshot answer now)
    (fun _ _ _ h => reconcileConnectionTrigger_ok h) db

end ChatHygiene
