import ChatHygiene.Health
import ChatHygiene.Storage.Writes
/-!
# What the storage operations write

One lemma an operation: the statements a successful run is made of. A query is
shown to write nothing; an operation that writes asks that its targets are
among those allowed, so that one lemma serves every caller.
-/

namespace ChatHygiene

open Txn (Respects)

variable {targets : List Target} {K : NewOutboxAction → Prop}

/-! ## Queries -/

theorem singleConnection_readOnly (p : BusinessConnectionRecord → Bool) (message : String) :
    Respects Eq (singleConnection p message) :=
  (Respects.read _).bind fun _ => .ite (fun _ => .throw _) fun _ => .pure _

theorem loadSingleTrustedConnection_readOnly : Respects Eq loadSingleTrustedConnection :=
  singleConnection_readOnly _ _

/-- What is loaded is the one row there is, or none. -/
theorem loadSingleTrustedConnection_ok {db db' : Database}
    {trusted : Option BusinessConnectionRecord}
    (h : loadSingleTrustedConnection db = .ok (trusted, db')) :
    db' = db ∧ db.businessConnection.rows = trusted.toList := by
  obtain rfl : db = db' := loadSingleTrustedConnection_readOnly.of_ok h
  refine ⟨rfl, ?_⟩
  unfold loadSingleTrustedConnection singleConnection at h
  simp only [Txn.read_bind_apply, List.filter_true] at h
  obtain ⟨hlength, h⟩ := Txn.guard_ok_iff.1 h
  obtain ⟨rfl, -⟩ := Prod.mk.inj (Txn.pure_ok_iff.1 h)
  match hrows : db.businessConnection.rows with
  | [] => rfl
  | [c] => rfl
  | c :: d :: rows => simp [hrows] at hlength

/-- The one row there is, or none, is loaded. -/
theorem loadSingleTrustedConnection_of_rows {db : Database}
    {trusted : Option BusinessConnectionRecord} (h : db.businessConnection.rows = trusted.toList) :
    loadSingleTrustedConnection db = .ok (trusted, db) := by
  unfold loadSingleTrustedConnection singleConnection
  simp only [Txn.read_bind_apply, List.filter_true, h]
  cases trusted with
  | none => rfl
  | some trusted => rfl

theorem findBusinessConnection_readOnly (connectionId : String) :
    Respects Eq (findBusinessConnection connectionId) :=
  (Respects.read _).bind fun _ => .ite (fun _ => .pure _) fun _ => .read _

theorem findSingleBusinessConnection_readOnly : Respects Eq findSingleBusinessConnection :=
  (Respects.read _).bind fun _ => .ite (fun _ => .pure _) fun _ => singleConnection_readOnly _ _

theorem loadOwnerIdentity_readOnly : Respects Eq loadOwnerIdentity := by
  refine (Respects.read _).bind fun state => ?_
  cases state with
  | pending => exact .throw _
  | ready identity => exact .pure _

theorem candidatesForUser_readOnly (businessUserId : Int) :
    Respects Eq (candidatesForUser businessUserId) :=
  .ite (fun _ => .throw _) fun _ => .read _

theorem connectionReconciliationSnapshot_readOnly (connectionId : String) :
    Respects Eq (connectionReconciliationSnapshot connectionId) :=
  .ite (fun _ => .throw _) fun _ => (Respects.read _).bind fun _ =>
    loadSingleTrustedConnection_readOnly.bind fun _ => (Respects.read _).bind fun _ => .pure _

theorem generationFloorExcluding_readOnly (connectionId : String) :
    Respects Eq (generationFloorExcluding connectionId) :=
  loadOwnerIdentity_readOnly.bind fun _ => (Respects.read _).bind fun _ =>
    (Respects.read _).bind fun _ => (Respects.read _).bind fun _ => .pure _

theorem requireSingleTrusted_readOnly : Respects Eq requireSingleTrusted := by
  intro s a s' h
  unfold requireSingleTrusted at h
  split at h
  · next r hr =>
    cases h
    exact loadSingleTrustedConnection_readOnly _ _ _ hr
  · cases h

theorem requireSingleTrusted_ok {db db' : Database} {trusted : Option BusinessConnectionRecord}
    (h : requireSingleTrusted db = .ok (trusted, db')) :
    db' = db ∧ db.businessConnection.rows = trusted.toList := by
  unfold requireSingleTrusted at h
  split at h
  · next r hr =>
    obtain rfl : r = (trusted, db') := Except.ok.inj h
    exact loadSingleTrustedConnection_ok hr
  · cases h

theorem requireSingleTrusted_of_rows {db : Database} {trusted : Option BusinessConnectionRecord}
    (h : db.businessConnection.rows = trusted.toList) :
    requireSingleTrusted db = .ok (trusted, db) := by
  unfold requireSingleTrusted
  rw [loadSingleTrustedConnection_of_rows h]

theorem validateCandidate_readOnly (candidate : BusinessConnectionCandidate) :
    Respects Eq (validateCandidate candidate) :=
  .ite (fun _ => .throw _) fun _ => .ite (fun _ => .throw _) fun _ =>
    .ite (fun _ => .throw _) fun _ => .ite (fun _ => .throw _) fun _ => .pure _

theorem readinessIn_readOnly (now : DateTime) : Respects Eq (readinessIn now) := by
  intro s a s' h
  unfold readinessIn at h
  split at h <;> cases h <;> rfl

/-! ## Conversations, messages and challenges -/

theorem updateOne_writes (n : Nat) : Respects (WritesTo targets K) (updateOne n) :=
  .ite (fun _ => .pure _) fun _ => .throw _

theorem getOrCreateConversation_writes (h : Target.conversation ∈ targets) (key : ConversationKey)
    (userId : Int) (now : DateTime) :
    Respects (WritesTo targets K) (getOrCreateConversation key userId now) := by
  refine (Respects.read _).bind fun conversation => ?_
  cases conversation with
  | some conversation => exact .pure _
  | none => exact (Uow.insertConversation_writes h).bind fun _ => .pure _

theorem saveConversation_writes (h : Target.conversation ∈ targets) (conversation : Conversation)
    (expectedVersion : Nat) :
    Respects (WritesTo targets K) (saveConversation conversation expectedVersion) :=
  (Uow.updateConversation_writes h).bind fun _ => updateOne_writes _

theorem recordMessage_writes (h : Target.ledger ∈ targets) (message : LedgerMessage) :
    Respects (WritesTo targets K) (recordMessage message) :=
  Uow.insertLedger_writes h

theorem markMessageDeleted_writes (h : Target.ledger ∈ targets) (key : ConversationKey)
    (messageId : Int) (deletedAt : DateTime) :
    Respects (WritesTo targets K) (markMessageDeleted key messageId deletedAt) :=
  (Uow.updateLedger_writes h).bind fun _ => .pure _

theorem createChallenge_writes (h : Target.challenge ∈ targets) (challenge : ChallengeRecord) :
    Respects (WritesTo targets K) (createChallenge challenge) :=
  Uow.insertChallenge_writes h

theorem closeChallenges_writes (h : Target.challenge ∈ targets) (p : ChallengeRow → Bool)
    (closedAt : DateTime) : Respects (WritesTo targets K) (closeChallenges p closedAt) :=
  Uow.updateChallenge_writes h

theorem closeChallenge_writes (h : Target.challenge ∈ targets) (challengeId : Nat)
    (closedAt : DateTime) : Respects (WritesTo targets K) (closeChallenge challengeId closedAt) :=
  (closeChallenges_writes h _ _).bind fun _ => .pure _

theorem closeActiveChallenge_writes (h : Target.challenge ∈ targets) (key : ConversationKey)
    (closedAt : DateTime) : Respects (WritesTo targets K) (closeActiveChallenge key closedAt) :=
  (closeChallenges_writes h _ _).bind fun _ => .pure _

theorem incrementChallengeAttempts_writes (h : Target.challenge ∈ targets) (challengeId : Nat) :
    Respects (WritesTo targets K) (incrementChallengeAttempts challengeId) := by
  refine (Respects.read _).bind fun attempts => (Uow.updateChallenge_writes h).bind fun _ => ?_
  cases attempts with
  | some attempts => exact .pure _
  | none => exact .throw _

theorem markChallengeSent_writes (h : Target.challenge ∈ targets) (challengeId : Nat)
    (promptMessageId : Int) :
    Respects (WritesTo targets K) (markChallengeSent challengeId promptMessageId) :=
  (Uow.updateChallenge_writes h).bind fun _ => updateOne_writes _

theorem markChallengeUncertain_writes (h : Target.challenge ∈ targets) (challengeId : Nat) :
    Respects (WritesTo targets K) (markChallengeUncertain challengeId) :=
  (Uow.updateChallenge_writes h).bind fun _ => updateOne_writes _

/-! ## Outbox actions and audits -/

theorem enqueueOutboxAction_writes (h : Target.enqueue ∈ targets) {action : NewOutboxAction}
    (hK : K action) : Respects (WritesTo targets K) (enqueueOutboxAction action) :=
  Uow.insertOutbox_writes ⟨h, hK⟩

theorem insertAuditEvent_writes (h : Target.audit ∈ targets) (audit : NewAuditEvent) :
    Respects (WritesTo targets K) (insertAuditEvent audit) :=
  Uow.insertAudit_writes h

theorem finishOutbox_writes (h : Target.outbox ∈ targets) (actionId : Nat) (status : OutboxStatus)
    (nextAttemptAt : Option DateTime) (errorCode : Option String) (now : DateTime) :
    Respects (WritesTo targets K) (finishOutbox actionId status nextAttemptAt errorCode now) :=
  (Uow.updateOutbox_writes h).bind fun _ => updateOne_writes _

/-! ## Connections and the Owner -/

theorem upsertBusinessConnection_writes
    (h : [Target.connection, .dropConnection, .outbox, .mode] ⊆ targets)
    (connection : BusinessConnectionRecord) :
    Respects (WritesTo targets K) (upsertBusinessConnection connection) := by
  have hconnection : Target.connection ∈ targets := h (by simp)
  refine (Respects.read _).bind fun stale => ?_
  cases stale with
  | none => exact Uow.upsertConnection_writes hconnection
  | some stale =>
    exact (Uow.updateOutbox_writes (h (by simp))).bind fun _ =>
      (Uow.deleteConnection_writes (h (by simp))).bind fun _ =>
      (Uow.setDestructiveMode_writes (h (by simp))).bind fun _ =>
      Uow.upsertConnection_writes hconnection

theorem disableBusinessConnection_writes (h : Target.connection ∈ targets) (connectionId : String)
    (now : DateTime) :
    Respects (WritesTo targets K) (disableBusinessConnection connectionId now) :=
  (Uow.updateConnection_writes h).bind fun _ => updateOne_writes _

theorem initializeOrLoadOwnerIdentity_writes (h : Target.owner ∈ targets) (now : DateTime) :
    Respects (WritesTo targets K) (initializeOrLoadOwnerIdentity now) := by
  have hload : Respects (WritesTo targets K) loadOwnerIdentity :=
    .of_readOnly loadOwnerIdentity_readOnly
  refine (Respects.read _).bind fun state => ?_
  cases state with
  | ready identity => exact .pure _
  | pending =>
    refine (Respects.read _).bind fun connections => ?_
    match connections with
    | [] =>
      exact (Uow.updateOwner_writes h).bind fun _ => .ite (fun _ => .throw _) fun _ => hload
    | [ownerUserId] =>
      exact .ite (fun _ => (Uow.updateOwner_writes h).bind fun _ =>
        .ite (fun _ => .throw _) fun _ => hload) fun _ => .throw _
    | _ :: _ :: _ => exact .throw _

theorem claimOwner_writes (h : Target.owner ∈ targets) (ownerUserId ownerChatId floor : Int)
    (boundAt : DateTime) :
    Respects (WritesTo targets K) (claimOwner ownerUserId ownerChatId floor boundAt) := by
  refine .ite (fun _ => .throw _) fun _ => (Respects.read _).bind fun state => ?_
  match state with
  | .pending => exact .throw _
  | .ready (.claimed ..) => exact .throw _
  | .ready .unclaimed =>
    exact (Uow.updateOwner_writes h).bind fun _ => .ite (fun _ => .throw _) fun _ =>
      .of_readOnly loadOwnerIdentity_readOnly

theorem promoteOwnerChat_writes (h : Target.owner ∈ targets) (ownerUserId ownerChatId : Int)
    (source : OwnerChatSource) :
    Respects (WritesTo targets K) (promoteOwnerChat ownerUserId ownerChatId source) := by
  have hload : Respects (WritesTo targets K) loadOwnerIdentity :=
    .of_readOnly loadOwnerIdentity_readOnly
  refine .ite (fun _ => .throw _) fun _ => .ite (fun _ => .throw _) fun _ =>
    hload.bind fun identity => ?_
  cases identity with
  | unclaimed => exact .throw _
  | claimed user chat chatSource floor boundAt =>
    exact .ite (fun _ => .throw _) fun _ => .ite (fun _ => .pure _) fun _ =>
      (Uow.updateOwner_writes h).bind fun _ => .ite (fun _ => .throw _) fun _ => hload

theorem advanceOwnerConnectionFloor_writes (h : Target.owner ∈ targets) (floor : Int) :
    Respects (WritesTo targets K) (advanceOwnerConnectionFloor floor) := by
  have hload : Respects (WritesTo targets K) loadOwnerIdentity :=
    .of_readOnly loadOwnerIdentity_readOnly
  refine .ite (fun _ => .throw _) fun _ => hload.bind fun identity => ?_
  cases identity with
  | unclaimed => exact .throw _
  | claimed user chat chatSource floor boundAt =>
    exact (Uow.updateOwner_writes h).bind fun _ => .ite (fun _ => .throw _) fun _ => hload

/-! ## Candidates -/

theorem deleteConnectionCandidate_writes (h : Target.candidate ∈ targets) (connectionId : String) :
    Respects (WritesTo targets K) (deleteConnectionCandidate connectionId) :=
  Uow.deleteCandidate_writes h

theorem deleteConnectionCandidatesForOtherUsers_writes (h : Target.candidate ∈ targets)
    (businessUserId : Int) :
    Respects (WritesTo targets K) (deleteConnectionCandidatesForOtherUsers businessUserId) :=
  .ite (fun _ => .throw _) fun _ => Uow.deleteCandidate_writes h

theorem updateOverflowGuard_writes (h : Target.guard ∈ targets) (establishment : Int) :
    Respects (WritesTo targets K) (updateOverflowGuard establishment) :=
  (Respects.read _).bind fun _ => (Uow.updateGuard_writes h).bind fun _ => updateOne_writes _

theorem advanceOverflowGuardIfActive_writes (h : Target.guard ∈ targets)
    (candidate : BusinessConnectionCandidate) :
    Respects (WritesTo targets K) (advanceOverflowGuardIfActive candidate) :=
  (Respects.read _).bind fun _ =>
    .ite (fun _ => updateOverflowGuard_writes h _) fun _ => .pure _

theorem pruneConnectionCandidates_writes (h : [Target.candidate, .guard] ⊆ targets)
    (cutoff : DateTime) (maximumRows : Nat) :
    Respects (WritesTo targets K) (pruneConnectionCandidates cutoff maximumRows) := by
  have hcandidate : Target.candidate ∈ targets := h (by simp)
  refine (Uow.deleteCandidate_writes hcandidate).bind fun _ => (Respects.read _).bind fun retained =>
    .ite (fun _ => .pure _) fun _ => ?_
  split
  · exact .throw _
  · exact (updateOverflowGuard_writes (h (by simp)) _).bind fun _ =>
      (Uow.deleteCandidate_writes hcandidate).bind fun _ => .pure _

theorem applyAuthoritativeCandidate_writes (h : [Target.candidate, .guard] ⊆ targets)
    (candidate : BusinessConnectionCandidate) (expectedRevision : Option Nat) :
    Respects (WritesTo targets K) (applyAuthoritativeCandidate candidate expectedRevision) := by
  have hcandidate : Target.candidate ∈ targets := h (by simp)
  have hguard : Respects (WritesTo targets K) (advanceOverflowGuardIfActive candidate) :=
    advanceOverflowGuardIfActive_writes (h (by simp)) candidate
  have hdelete (c) : Respects (WritesTo targets K) (deleteExactCandidate c) :=
    (Uow.deleteCandidate_writes hcandidate).bind fun _ => updateOne_writes _
  refine (Respects.of_readOnly (validateCandidate_readOnly candidate)).bind fun _ =>
    (Respects.read _).bind fun existing => ?_
  cases existing with
  | none =>
    exact .ite (fun _ => hguard.bind fun _ => .pure _) fun _ =>
      (Uow.insertCandidate_writes hcandidate).bind fun _ => hguard.bind fun _ => .pure _
  | some existing =>
    exact .ite (fun _ => hguard.bind fun _ => (hdelete _).bind fun _ => .pure _) fun _ =>
      .ite (fun _ => hguard.bind fun _ => (hdelete _).bind fun _ => .pure _) fun _ =>
      .ite (fun _ => hguard.bind fun _ => .pure _) fun _ =>
      (Uow.updateCandidate_writes hcandidate).bind fun _ =>
      .ite (fun _ => .pure _) fun _ => hguard.bind fun _ => .pure _

/-! ## Trusted-connection reconciliation -/

/-- What a reconciliation of the trusted connection may write to. -/
@[simp] def reconciliationTargets : List Target :=
  [.connection, .dropConnection, .outbox, .mode, .candidate, .guard, .owner]

theorem reconcileSameTrusted_writes (h : [Target.connection, .candidate] ⊆ targets)
    (trusted : BusinessConnectionRecord) (authoritative : BusinessConnectionCandidate)
    (expected : Option Nat) :
    Respects (WritesTo targets K) (reconcileSameTrusted trusted authoritative expected) := by
  have hconnection : Target.connection ∈ targets := h (by simp)
  have hgate : Respects (WritesTo targets K)
      (gateConflictingTrusted trusted authoritative.observedAt) :=
    (Uow.updateConnection_writes hconnection).bind fun _ => updateOne_writes _
  have hsafety : Respects (WritesTo targets K) (applySafetyIntersection trusted authoritative) :=
    .ite (fun _ => .pure _) fun _ =>
      (Uow.updateConnection_writes hconnection).bind fun _ => updateOne_writes _
  exact .ite (fun _ => hsafety.bind fun _ => .pure _) fun _ =>
    .ite (fun _ => hgate.bind fun _ => .pure _) fun _ =>
    .ite (fun _ => hgate.bind fun _ => .pure _) fun _ =>
    (Uow.updateConnection_writes hconnection).bind fun _ => .ite (fun _ => .pure _) fun _ =>
    (deleteConnectionCandidate_writes (h (by simp)) _).bind fun _ => .pure _

theorem retainAmbiguousGenerations_writes (h : reconciliationTargets ⊆ targets)
    (trusted : BusinessConnectionRecord) (authoritative : BusinessConnectionCandidate)
    (ownerChatId : Int) :
    Respects (WritesTo targets K)
      (retainAmbiguousGenerations trusted authoritative ownerChatId) := by
  have hcandidate : Target.candidate ∈ targets := h (by simp)
  exact (Uow.deleteConnection_writes (h (by simp))).bind fun _ => (updateOne_writes _).bind fun _ =>
    (Uow.upsertCandidate_writes hcandidate).bind fun _ =>
    (Uow.upsertCandidate_writes hcandidate).bind fun _ =>
    (advanceOwnerConnectionFloor_writes (h (by simp)) _).bind fun _ =>
    advanceOverflowGuardIfActive_writes (h (by simp)) _

theorem installTrusted_writes (h : reconciliationTargets ⊆ targets)
    (authoritative : BusinessConnectionCandidate) (revision : Nat) :
    Respects (WritesTo targets K) (installTrusted authoritative revision) :=
  upsertBusinessConnection_writes (fun _ ht => h (by revert ht; decide +revert)) _

/-- **An answer respects what its outcomes do.** -/
theorem reconcileAuthoritativeTrustedConnection_respects {R : Database → Database → Prop}
    [Std.Refl R] [IsTrans Database R] {authoritative : BusinessConnectionCandidate}
    {trusted candidate : Option Nat} {guard : Nat}
    (hsame : ∀ current,
      Respects R (reconcileSameTrusted current authoritative trusted))
    (hretain : ∀ current ownerChatId,
      Respects R (retainAmbiguousGenerations current authoritative ownerChatId))
    (hinstall : Respects R (installTrusted authoritative (installRevision candidate)))
    (hdelete : Respects R (deleteConnectionCandidate authoritative.connectionId)) :
    Respects R
      (reconcileAuthoritativeTrustedConnection authoritative trusted candidate guard) := by
  have hinstalled (result : TrustedConnectionWrite) : Respects R (do
      installTrusted authoritative (installRevision candidate)
      let _ ← deleteConnectionCandidate authoritative.connectionId
      pure result) :=
    hinstall.bind fun _ => hdelete.bind fun _ => .pure _
  have hfloor : Respects R (generationFloorExcluding authoritative.connectionId) :=
    .of_readOnly (generationFloorExcluding_readOnly _)
  refine (Respects.of_readOnly (validateCandidate_readOnly authoritative)).bind fun _ =>
    (Respects.read _).bind fun _ => .ite (fun _ => .pure _) fun _ =>
    (Respects.read _).bind fun _ => .ite (fun _ => .pure _) fun _ =>
    (Respects.of_readOnly loadOwnerIdentity_readOnly).bind fun owner => ?_
  cases owner with
  | unclaimed => exact .pure _
  | claimed ownerUserId ownerChatId source floor boundAt =>
    refine .ite (fun _ => .pure _) fun _ =>
      (Respects.of_readOnly loadSingleTrustedConnection_readOnly).bind fun current => ?_
    cases current with
    | none =>
      exact .ite (fun _ => .pure _) fun _ => hfloor.bind fun _ =>
        .ite (fun _ => .pure _) fun _ => hinstalled _
    | some current =>
      refine .ite (fun _ => hsame _) fun _ => .ite (fun _ => .pure _) fun _ =>
        .ite (fun _ => .pure _) fun _ => ?_
      split
      · exact .pure _
      · exact .ite (fun _ => (hretain _ _).bind fun _ => .pure _)
          fun _ => hfloor.bind fun _ => .ite (fun _ => .pure _) fun _ => hinstalled _

theorem reconcileAuthoritativeTrustedConnection_writes (h : reconciliationTargets ⊆ targets)
    (authoritative : BusinessConnectionCandidate) (trusted candidate : Option Nat) (guard : Nat) :
    Respects (WritesTo targets K)
      (reconcileAuthoritativeTrustedConnection authoritative trusted candidate guard) :=
  reconcileAuthoritativeTrustedConnection_respects
    (fun _ => reconcileSameTrusted_writes (fun _ ht => h (by revert ht; decide +revert)) _ _ _)
    (fun _ _ => retainAmbiguousGenerations_writes h _ _ _) (installTrusted_writes h _ _)
    (deleteConnectionCandidate_writes (h (by simp)) _)

/-- A first connection is installed without deleting one. -/
theorem installTrusted_writes_of_none (h : Target.connection ∈ targets) {db db' : Database}
    {authoritative : BusinessConnectionCandidate} {revision : Nat} {u : Unit}
    (hnone : db.businessConnection.rows = [])
    (hx : installTrusted authoritative revision db = .ok (u, db')) : WritesTo targets K db db' := by
  unfold installTrusted upsertBusinessConnection at hx
  simp only [Txn.read_bind_apply, hnone, List.find?_nil] at hx
  exact (Uow.upsertConnection_writes h).of_ok hx

theorem promoteClaimCandidate_writes (h : [Target.connection, .candidate] ⊆ targets)
    (authoritative : BusinessConnectionCandidate) (candidateRevision guardRevision : Nat) :
    Respects (WritesTo targets K)
      (promoteClaimCandidate authoritative candidateRevision guardRevision) := by
  refine (Respects.of_readOnly (validateCandidate_readOnly authoritative)).bind fun _ =>
    (Respects.read _).bind fun _ => .ite (fun _ => .pure _) fun _ =>
    (Respects.of_readOnly loadOwnerIdentity_readOnly).bind fun owner => ?_
  cases owner with
  | unclaimed => exact .pure _
  | claimed ownerUserId ownerChatId source floor boundAt =>
    refine .ite (fun _ => .pure _) fun _ => ?_
    -- the row the code has found missing is missing where it installs
    intro db write db' hx
    obtain ⟨trusted, htrusted, hx⟩ :=
      Txn.bind_ok_of_readOnly loadSingleTrustedConnection_readOnly hx
    obtain ⟨-, hrows⟩ := loadSingleTrustedConnection_ok htrusted
    cases trusted with
    | some trusted =>
      obtain ⟨-, rfl⟩ := Prod.mk.inj (Txn.pure_ok_iff.1 hx)
      exact refl _
    | none =>
      obtain ⟨stored, -, hx⟩ := Txn.bind_ok_of_readOnly (x := loadCandidate _) (Respects.read _) hx
      cases stored with
      | none =>
        obtain ⟨-, rfl⟩ := Prod.mk.inj (Txn.pure_ok_iff.1 hx)
        exact refl _
      | some stored =>
        dsimp only at hx
        split at hx
        · obtain ⟨-, rfl⟩ := Prod.mk.inj (Txn.pure_ok_iff.1 hx)
          exact refl _
        split at hx
        · obtain ⟨-, rfl⟩ := Prod.mk.inj (Txn.pure_ok_iff.1 hx)
          exact refl _
        split at hx
        · obtain ⟨-, rfl⟩ := Prod.mk.inj (Txn.pure_ok_iff.1 hx)
          exact refl _
        obtain ⟨⟨⟩, db₁, hinstall, hx⟩ := Txn.bind_ok_iff.1 hx
        refine trans_of (WritesTo _ _) (installTrusted_writes_of_none (h (by simp)) hrows hinstall) ?_
        exact ((deleteConnectionCandidate_writes (h (by simp)) _).bind fun _ => .pure _).of_ok hx

theorem retireTrustedConnectionNotFound_writes
    (h : [Target.candidate, .owner, .dropConnection] ⊆ targets) (connectionId : String)
    (expectedRevision : Nat) :
    Respects (WritesTo targets K)
      (retireTrustedConnectionNotFound connectionId expectedRevision) := by
  refine (Respects.read _).bind fun trusted => ?_
  cases trusted with
  | none => exact (deleteConnectionCandidate_writes (h (by simp)) _).bind fun _ => .pure _
  | some trusted =>
    refine .ite (fun _ => .pure _) fun _ =>
      (Respects.of_readOnly loadOwnerIdentity_readOnly).bind fun owner => ?_
    cases owner with
    | unclaimed => exact .pure _
    | claimed ownerUserId ownerChatId source floor boundAt =>
      exact .ite (fun _ => .pure _) fun _ =>
        (advanceOwnerConnectionFloor_writes (h (by simp)) _).bind fun _ =>
        (Uow.deleteConnection_writes (h (by simp))).bind fun _ =>
        .ite (fun _ => .pure _) fun _ => .pure _

/-! ## The gates -/

theorem gateMatchingTrustedForReconciliation_writes (h : Target.connection ∈ targets)
    (connectionId : String) (now : DateTime) :
    Respects (WritesTo targets K) (gateMatchingTrustedForReconciliation connectionId now) := by
  refine (Respects.read _).bind fun current => ?_
  cases current with
  | none => exact .pure _
  | some current =>
    exact .ite (fun _ => .pure _) fun _ => (Uow.updateConnection_writes h).bind fun _ =>
      (updateOne_writes _).bind fun _ => .pure _

theorem normalizeStartupReconciliation_writes
    (h : [Target.reconciliation, .connection] ⊆ targets) (now : DateTime) :
    Respects (WritesTo targets K) (normalizeStartupReconciliation now) := by
  have hrest : Respects (WritesTo targets K) (do
      let affected ← Uow.updateConnection (fun c => c.reconciliationState = .confirmed)
        (BusinessConnectionRecord.gated false now) (BusinessConnectionRecord.gated_change ..)
      if 1 < affected then
        throw (.invalidTelegramReconciliationState
          "multiple trusted connections are not supported")
      loadTelegramReconciliationState) :=
    (Uow.updateConnection_writes (h (by simp))).bind fun _ =>
      .ite (fun _ => .throw _) fun _ => .read _
  exact (Respects.read _).bind fun _ =>
    (Respects.of_readOnly requireSingleTrusted_readOnly).bind fun _ =>
    .ite (fun _ => (Uow.updateReconciliation_writes (h (by simp))).bind fun _ =>
      (updateOne_writes _).bind fun _ => hrest) fun _ => hrest

theorem setTelegramAuthFailed_writes (h : [Target.reconciliation, .connection] ⊆ targets)
    (now : DateTime) : Respects (WritesTo targets K) (setTelegramAuthFailed now) := by
  have hrest : Respects (WritesTo targets K) (do
      let _ ← Uow.updateConnection (fun c => c.enabled || c.reconciliationState ≠ .pending)
        (BusinessConnectionRecord.gated true now) (BusinessConnectionRecord.gated_change ..)
      loadTelegramReconciliationState) :=
    (Uow.updateConnection_writes (h (by simp))).bind fun _ => .read _
  exact (Respects.read _).bind fun _ =>
    (Respects.of_readOnly requireSingleTrusted_readOnly).bind fun _ =>
    .ite (fun _ => (Uow.updateReconciliation_writes (h (by simp))).bind fun _ =>
      (updateOne_writes _).bind fun _ => hrest) fun _ => hrest

theorem transitionTelegramReconciliationReady_writes (h : Target.reconciliation ∈ targets)
    (expectedRevision : Nat) (now : DateTime) :
    Respects (WritesTo targets K)
      (transitionTelegramReconciliationReady expectedRevision now) :=
  (Respects.read _).bind fun _ => .ite (fun _ => .throw _) fun _ =>
    (Respects.of_readOnly requireSingleTrusted_readOnly).bind fun _ =>
    .ite (fun _ => .throw _) fun _ => (Uow.updateReconciliation_writes h).bind fun _ =>
    (updateOne_writes _).bind fun _ => .read _

end ChatHygiene
