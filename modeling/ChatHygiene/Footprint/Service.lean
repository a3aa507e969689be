import ChatHygiene.Footprint.Processing
import ChatHygiene.System
/-!
# What a step of the service commits

Every step of the machine commits at most one transaction. `Transaction` lists
those that write; each has its targets and a bound on what it enqueues, so that
what a target is not written by is unchanged by the step.
-/

namespace ChatHygiene

open Txn (Respects Returns commit)

variable {targets : List Target} {K : NewOutboxAction → Prop}

/-! ## Triggers and lookups -/

theorem rollbackRetry_ok {x : Uow TriggerApplication} {db db' : Database}
    {application : TriggerApplication} (h : rollbackRetry x db = .ok (application, db')) :
    db' = db ∨ x db = .ok (application, db') := by
  unfold rollbackRetry at h
  split at h
  · cases h
    exact .inl rfl
  · exact .inr h

/-- What goes on from a lookup is committed or rolled back. -/
theorem rollbackRetry_respects {R : Database → Database → Prop} [Std.Refl R]
    [IsTrans Database R] {owner : OwnerIdentity} {next : Uow TriggerApplication}
    (h : Respects R next) : Respects R (rollbackRetry (withExpectedOwner owner next)) := by
  intro db application db' hx
  rcases rollbackRetry_ok hx with rfl | hx
  · exact refl _
  refine Respects.of_ok ((Respects.read _).bind fun state => ?_) hx
  cases state with
  | pending => exact .pure _
  | ready current => exact .ite (fun _ => .pure _) fun _ => h

theorem markConnectionTriggerApplied_writes (h : Target.update ∈ targets) (updateId : Int)
    (appliedAt : DateTime) :
    Respects (WritesTo targets K) (markConnectionTriggerApplied updateId appliedAt) :=
  (markApplied_writes h _ _).bind fun _ => .ite (fun _ => .throw _) fun _ => .pure _

theorem insertConnectionAudit_writes (h : Target.audit ∈ targets) (updateId : Int)
    (eventKind : String) (occurredAt : DateTime) :
    Respects (WritesTo targets K) (insertConnectionAudit updateId eventKind occurredAt) :=
  (insertAuditEvent_writes h _).bind fun _ => .pure _

/-- What the answer to a startup lookup may write to. -/
@[simp] def startupTargets : List Target := reconciliationTargets ++ [.reconciliation]

/-- **The answer to a startup lookup respects what its operations do.** -/
theorem reconcileTrustedCurrentState_respects {R : Database → Database → Prop} [Std.Refl R]
    [IsTrans Database R] {connectionId : String} {snapshot : ConnectionReconciliationSnapshot}
    {answer : LookupAnswer} {observedAt : DateTime}
    (hretire : Respects R (retireThrough snapshot connectionId))
    (hreconcile : ∀ candidate, Respects R (reconcileThrough snapshot candidate))
    (hfailed : Respects R (setTelegramAuthFailed observedAt)) :
    Respects R (reconcileTrustedCurrentState connectionId snapshot answer observedAt) := by
  match answer with
  | .error .connectionNotFound => exact hretire.bind fun _ => .pure _
  | .error .botAuthentication => exact hfailed.bind fun _ => .pure _
  | .error .transientExhausted | .error .invalidResponse | .error .clientRejected => exact .pure _
  | .ok authoritative =>
    exact .ite (fun _ => .pure _) fun _ => (hreconcile _).bind fun _ => .pure _

theorem reconcileTrustedCurrentState_writes (h : startupTargets ⊆ targets) (connectionId : String)
    (snapshot : ConnectionReconciliationSnapshot) (answer : LookupAnswer) (observedAt : DateTime) :
    Respects (WritesTo targets K)
      (reconcileTrustedCurrentState connectionId snapshot answer observedAt) :=
  reconcileTrustedCurrentState_respects
    (retireTrustedConnectionNotFound_writes (fun _ ht => h (by revert ht; decide +revert)) _ _)
    (fun _ => reconcileAuthoritativeTrustedConnection_writes
      (fun _ ht => h (by revert ht; decide +revert)) _ _ _ _)
    (setTelegramAuthFailed_writes (fun _ ht => h (by revert ht; decide +revert)) _)

/-- What reconciling a trigger may write to. -/
@[simp] def triggerTargets : List Target := startupTargets ++ [.update, .audit]

theorem promoteReportedChat_writes (h : Target.owner ∈ targets)
    (authoritative : AuthoritativeBusinessConnection) (ownerUserId : Int)
    (source : OwnerChatSource) :
    Respects (WritesTo targets K) (promoteReportedChat authoritative ownerUserId source) := by
  unfold promoteReportedChat
  split
  · exact .ite (fun _ => (promoteOwnerChat_writes h _ _ _).bind fun _ => .pure _) fun _ => .pure _
  · exact .pure _

/-- What a trigger ends with: it is applied, or will be tried again. -/
def endTrigger (updateId : Int) (now : DateTime) (application : TriggerApplication) :
    Uow TriggerApplication :=
  match application with
  | .retry transient => pure (.retry transient)
  | .commit => do
    markConnectionTriggerApplied updateId now
    pure .commit

theorem endTrigger_writes (h : Target.update ∈ targets) (updateId : Int) (now : DateTime)
    (application : TriggerApplication) :
    Respects (WritesTo targets K) (endTrigger updateId now application) := by
  cases application with
  | retry => exact .pure _
  | commit => exact (markConnectionTriggerApplied_writes h _ _).bind fun _ => .pure _

/-- **A trigger respects what each of its parts does.** -/
theorem reconcileConnectionTrigger_respects {R : Database → Database → Prop} [Std.Refl R]
    [IsTrans Database R] {updateId : Int} {connectionId : String} {occurredAt : DateTime}
    {owner : OwnerIdentity} {snapshot : ConnectionReconciliationSnapshot} {answer : LookupAnswer}
    {now : DateTime} (hretire : Respects R (retireThrough snapshot connectionId))
    (hreconcile : ∀ candidate, Respects R (reconcileThrough snapshot candidate))
    (hcandidate : ∀ candidate revision, Respects R (applyAuthoritativeCandidate candidate revision))
    (hprune : Respects R (pruneConnectionCandidates (now - candidateRetention) candidateLimit))
    (hpromote : ∀ authoritative ownerUserId source,
      Respects R (promoteReportedChat authoritative ownerUserId source))
    (hfailed : Respects R (setTelegramAuthFailed now))
    (haudit : ∀ eventKind, Respects R (insertConnectionAudit updateId eventKind occurredAt))
    (hmark : Respects R (markConnectionTriggerApplied updateId now)) :
    Respects R
      (reconcileConnectionTrigger updateId connectionId occurredAt owner snapshot answer now) := by
  have hend (application : TriggerApplication) :
      Respects R (endTrigger updateId now application) := by
    cases application with
    | retry => exact .pure _
    | commit => exact hmark.bind fun _ => .pure _
  have hcommit (eventKind : String) : Respects R (do
      insertConnectionAudit updateId eventKind occurredAt
      pure TriggerApplication.commit) := (haudit eventKind).bind fun _ => .pure _
  match answer with
  | .error .transientExhausted | .error .invalidResponse | .error .clientRejected => exact .pure _
  | .error .botAuthentication => exact hfailed.bind fun _ => .pure _
  | .error .connectionNotFound =>
    refine rollbackRetry_respects (hretire.bind fun outcome => ?_)
    cases outcome with
    | reconciled => exact hend .commit
    | revisionConflict | userConflict | generationConflict => exact .pure _
    | installed | replaced | ambiguous => exact .throw _
  | .ok authoritative =>
    refine rollbackRetry_respects ?_
    cases owner with
    | unclaimed =>
      have hpruned : Respects R (do
          let _ ← pruneConnectionCandidates (now - candidateRetention) candidateLimit
          pure TriggerApplication.commit) := hprune.bind fun _ => .pure _
      refine Respects.bind ((hcandidate _ _).bind fun outcome => ?_) hend
      split
      · exact .pure _
      · exact .ite (fun _ => (haudit _).bind fun _ => hpruned) fun _ => hpruned
    | claimed ownerUserId ownerChatId source floor boundAt =>
      have hdone : Respects R (do
          promoteReportedChat authoritative ownerUserId source
          pure TriggerApplication.commit) := (hpromote _ _ _).bind fun _ => .pure _
      refine Respects.bind (.ite (fun _ => (hreconcile _).bind fun outcome => ?_) fun _ =>
        .ite (fun _ => .pure _) fun _ => hcommit _) hend
      cases outcome with
      | revisionConflict => exact .pure _
      | userConflict | generationConflict => exact .ite (fun _ => .pure _) fun _ => hcommit _
      | installed | reconciled | replaced | ambiguous => exact hdone

theorem reconcileConnectionTrigger_writes (h : triggerTargets ⊆ targets) (updateId : Int)
    (connectionId : String) (occurredAt : DateTime) (owner : OwnerIdentity)
    (snapshot : ConnectionReconciliationSnapshot) (answer : LookupAnswer) (now : DateTime) :
    Respects (WritesTo targets K)
      (reconcileConnectionTrigger updateId connectionId occurredAt owner snapshot answer now) :=
  reconcileConnectionTrigger_respects
    (retireTrustedConnectionNotFound_writes (fun _ ht => h (by revert ht; decide +revert)) _ _)
    (fun _ => reconcileAuthoritativeTrustedConnection_writes
      (fun _ ht => h (by revert ht; decide +revert)) _ _ _ _)
    (fun _ _ => applyAuthoritativeCandidate_writes
      (fun _ ht => h (by revert ht; decide +revert)) _ _)
    (pruneConnectionCandidates_writes (fun _ ht => h (by revert ht; decide +revert)) _ _)
    (fun _ _ _ => promoteReportedChat_writes (h (by simp)) _ _ _)
    (setTelegramAuthFailed_writes (fun _ ht => h (by revert ht; decide +revert)) _)
    (fun _ => insertConnectionAudit_writes (h (by simp)) _ _ _)
    (markConnectionTriggerApplied_writes (h (by simp)) _ _)

theorem publishReadyIfDrained_writes (h : Target.reconciliation ∈ targets)
    (startupPending : Option String) (now : DateTime) :
    Respects (WritesTo targets K) (publishReadyIfDrained startupPending now) :=
  .ite (fun _ => .pure _) fun _ => (Respects.read _).bind fun _ => .ite (fun _ => .pure _) fun _ =>
    (Respects.read _).bind fun _ => .ite (fun _ => .pure _) fun _ =>
    (transitionTelegramReconciliationReady_writes h _ _).bind fun _ => .pure _

/-! ## The key upgrade -/

theorem upgradeActiveChallengeHmacs_writes (h : Target.challenge ∈ targets)
    (signer : ChallengeSigner) :
    Respects (WritesTo targets K) (upgradeActiveChallengeHmacs signer) := by
  refine .ite (fun _ => .throw _) fun _ => (Respects.read _).bind fun challenges =>
    (Respects.forEach fun challenge _ => ?_).bind fun _ => .pure _
  refine .ite (fun _ => .throw _) fun _ => ?_
  split
  · exact .throw _
  · exact (Uow.updateChallenge_writes h).bind fun _ => updateOne_writes _

/-! ## Dispatch -/

theorem claimDueOutboxAction_writes (h : Target.outbox ∈ targets) (now : DateTime) :
    Respects (WritesTo targets K) (claimDueOutboxAction now) := by
  refine (Respects.of_readOnly (readinessIn_readOnly now)).bind fun _ =>
    (Respects.read _).bind fun row => ?_
  cases row with
  | none => exact .pure _
  | some row =>
    exact (Uow.updateOutbox_writes h).bind fun _ => .ite (fun _ => .throw _) fun _ => .pure _

theorem ensureRight_readOnly (connectionId : String) (required : RequiredRight) :
    Respects Eq (ensureRight connectionId required) :=
  (findBusinessConnection_readOnly _).bind fun _ => .pure _

theorem withRight_readOnly (action : OutboxActionRecord) (required : RequiredRight)
    (next : ConversationKey → Progress) : Respects Eq (withRight action required next) := by
  unfold withRight
  split
  · exact .pure _
  · exact (ensureRight_readOnly _ _).bind fun _ => .ite (fun _ => .pure _) fun _ => .pure _

theorem loadOwnerChat_readOnly (connectionId : String) : Respects Eq (loadOwnerChat connectionId) := by
  refine (Respects.read _).bind fun state => ?_
  match state with
  | .pending => exact (findBusinessConnection_readOnly _).bind fun _ => .pure _
  | .ready (.claimed ..) => exact .pure _
  | .ready .unclaimed => exact .pure _

theorem executeCheck_readOnly (action : OutboxActionRecord) : Respects Eq (executeCheck action) := by
  refine .ite (fun _ => .pure _) fun _ => ?_
  split
  · exact withRight_readOnly _ _ _
  · exact withRight_readOnly _ _ _
  · exact withRight_readOnly _ _ _
  · exact withRight_readOnly _ _ _
  · unfold executeOwnerMessage
    split
    · exact .pure _
    · split
      · exact .pure _
      · refine (loadOwnerChat_readOnly _).bind fun chat => ?_
        cases chat with
        | none => exact .pure _
        | some chat => exact .pure _
  · exact .pure _
  · exact .pure _

theorem executeChallenge_readOnly (action : OutboxActionRecord) :
    Respects Eq (executeChallenge action) := by
  unfold executeChallenge
  split
  · refine (Respects.read _).bind fun challenge => ?_
    cases challenge with
    | none => exact .pure _
    | some challenge => exact .pure _
  · refine (Respects.read _).bind fun challenge => ?_
    cases challenge with
    | none => exact .pure _
    | some challenge =>
      dsimp only
      split
      · exact .pure _
      · exact .ite (fun _ => .pure _) fun _ => .pure _
  · exact .pure _

/-- The only action a dispatch enqueues is an alert to the Owner. -/
def NewOutboxAction.IsAlert (actionId : Nat) (a : NewOutboxAction) : Prop :=
  a.payload.kind = .sendOwnerMessage ∧ ∃ what, a.From (.alert actionId what)

theorem enqueueOwnerAlert_writes (h : Target.enqueue ∈ targets)
    (action : OutboxActionRecord) (hK : ∀ a : NewOutboxAction, a.IsAlert action.id → K a)
    (alert : OwnerAlert) (challengeId : Option Nat) (now : DateTime) :
    Respects (WritesTo targets K) (enqueueOwnerAlert action alert challengeId now) := by
  unfold enqueueOwnerAlert
  split
  · exact .pure _
  · refine (enqueueOutboxAction_writes h ?_).bind fun _ => .pure _
    exact hK _ ⟨rfl, alert, rfl, rfl, challengeId, rfl⟩

/-- What finishing a dispatch may write to. -/
@[simp] def finishTargets : List Target := [.outbox, .challenge, .connection, .mode, .enqueue]

/-- Finishing a dispatch respects what each of its parts does. -/
theorem finishDispatch_respects {R : Database → Database → Prop} [Std.Refl R]
    [IsTrans Database R] {action : OutboxActionRecord} {now : DateTime}
    (hrow : ∀ status next code, Respects R (finishOutbox action.id status next code now))
    (halert : ∀ alert challengeId, Respects R (enqueueOwnerAlert action alert challengeId now))
    (hsent : ∀ challengeId promptMessageId, Respects R (markChallengeSent challengeId promptMessageId))
    (huncertain : ∀ challengeId, Respects R (markChallengeUncertain challengeId))
    (hdisable : ∀ connectionId, Respects R (disableBusinessConnection connectionId now))
    (hmode : Respects R (Uow.setDestructiveMode false)) (finish : Finish) :
    Respects R (finishDispatch action now finish) := by
  cases finish with
  | success challengeSent =>
    refine (hrow _ _ _).bind fun _ => ?_
    cases challengeSent with
    | none => exact .pure _
    | some sent => exact hsent _ _
  | uncertain challengeId errorCode =>
    exact (hrow _ _ _).bind fun _ => (huncertain _).bind fun _ => halert _ _
  | actionUncertain errorCode => exact hrow _ _ _
  | permanent errorCode disableConnection =>
    refine (hrow _ _ _).bind fun _ => .ite (fun _ => ?_) fun _ => .pure _
    refine .bind ?_ fun _ => hmode.bind fun _ => halert _ _
    unfold disableConnectionOf
    split
    · exact hdisable _
    · exact .pure _
  | retry nextAttemptAt errorCode => exact hrow _ _ _

theorem finishDispatch_writes (h : finishTargets ⊆ targets)
    (action : OutboxActionRecord) (hK : ∀ a : NewOutboxAction, a.IsAlert action.id → K a)
    (now : DateTime)
    (finish : Finish) : Respects (WritesTo targets K) (finishDispatch action now finish) :=
  finishDispatch_respects (fun _ _ _ => finishOutbox_writes (h (by simp)) _ _ _ _ _)
    (fun alert challengeId => enqueueOwnerAlert_writes (h (by simp)) action hK alert challengeId now)
    (fun _ _ => markChallengeSent_writes (h (by simp)) _ _)
    (fun _ => markChallengeUncertain_writes (h (by simp)) _)
    (fun _ => disableBusinessConnection_writes (h (by simp)) _ _)
    (Uow.setDestructiveMode_writes (h (by simp))) finish

end ChatHygiene
