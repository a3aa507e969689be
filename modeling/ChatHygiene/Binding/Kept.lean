import ChatHygiene.Connection.Reconcile
import ChatHygiene.System.Invariants
/-!
# The binding, transaction by transaction

Every transaction of the service lets the Owner row age and the overflow guard
rise, and does nothing else to either. The only writers to go through are the
startup, the answers to lookups, the Owner's own updates and the claim: the
targets of every other transaction leave both rows alone.
-/

namespace ChatHygiene

open Txn (Respects commit)

variable {db db' : Database} {updateId : Int}

/-- **What the service never loses of its binding.** -/
structure BindingKept (db db' : Database) : Prop where
  owner : OwnerAges db db'
  guard : GuardRises db db'

instance : Std.Refl BindingKept := ⟨fun _ => ⟨refl _, refl _⟩⟩

instance : IsTrans Database BindingKept :=
  ⟨fun _ _ _ h h' => ⟨trans_of OwnerAges h.owner h'.owner, trans_of GuardRises h.guard h'.guard⟩⟩

theorem BindingKept.of_frame {targets : List Target}
    (hnot : Target.owner ∉ targets ∧ Target.guard ∉ targets)
    (h : Frame targets db.toTables db'.toTables) : BindingKept db db' :=
  ⟨.of_eq (h.ownerIdentity hnot.1), .of_eq (h.guard hnot.2)⟩

/-- A transaction that writes to neither row. -/
theorem bindingKept_of_writes {α : Type} {x : Uow α} (targets : List Target)
    (hnot : Target.owner ∉ targets ∧ Target.guard ∉ targets)
    (h : Respects (WritesTo targets fun _ => True) x) : Respects BindingKept x :=
  h.mono fun _ _ hw => .of_frame hnot hw.frame

/-- An update that only enqueues. -/
theorem bindingKept_of_enqueues {α : Type} {x : Uow α}
    (h : Respects (WritesTo [.enqueue] (NewOutboxAction.Of updateId True)) x) :
    Respects BindingKept x :=
  bindingKept_of_writes [.enqueue] (by simp)
    (h.through_mono fun _ hst => hst.mono (fun _ => id) fun _ _ => trivial)

/-- A transaction that writes to the Owner row and lets it age. -/
theorem bindingKept_of_ages {α : Type} {x : Uow α} (hages : Respects OwnerAges x)
    (h : Respects (WritesTo [.owner] fun _ => True) x) : Respects BindingKept x :=
  fun _ _ _ hx => ⟨hages _ _ _ hx, .of_eq ((h _ _ _ hx).frame.guard (by simp))⟩

theorem promoteOwnerChat_kept (ownerUserId ownerChatId : Int) (source : OwnerChatSource) :
    Respects BindingKept (promoteOwnerChat ownerUserId ownerChatId source) :=
  bindingKept_of_ages (promoteOwnerChat_ages _ _ _) (promoteOwnerChat_writes (by simp) _ _ _)

theorem setTelegramAuthFailed_kept (now : DateTime) :
    Respects BindingKept (setTelegramAuthFailed now) :=
  bindingKept_of_writes [.reconciliation, .connection] (by simp) (setTelegramAuthFailed_writes (by simp) now)

/-! ## Answers to lookups -/

theorem Reconciled.bindingKept {a : BusinessConnectionCandidate} {expected : Option Nat}
    {write : TrustedConnectionWrite} (h : Reconciled a expected db db' write) :
    BindingKept db db' := by
  cases h with
  | conflict hwrite hsame => exact hsame ▸ refl _
  | installed revision hnone hexpected howner hfloor hrows hframe => exact .of_frame (by simp) hframe
  | same t row ht hid hsame hrows hframe => exact .of_frame (by simp) hframe
  | replaced t g revision ht hne hcurrent hgeneration howner hlater hfloor hrows hretired hmode
      hframe => exact .of_frame (by simp) hframe
  | ambiguous t ht hne hcurrent hgeneration hrows hfloor hages hrises hframe =>
    exact ⟨hages, hrises⟩

theorem NotFound.bindingKept {connectionId : String} {expectedRevision : Nat}
    (h : NotFound connectionId expectedRevision db db') : BindingKept db db' := by
  cases h with
  | absent hnone hframe => exact .of_frame (by simp) hframe
  | conflict hsame => exact hsame ▸ refl _
  | retired t ht hid hcurrent hrows hfloor hages hframe =>
    exact ⟨hages, .of_eq (hframe.guard (by simp))⟩

theorem reconcileThrough_kept (snapshot : ConnectionReconciliationSnapshot)
    (candidate : BusinessConnectionCandidate) :
    Respects BindingKept (reconcileThrough snapshot candidate) :=
  fun _ _ _ h => (reconcileAuthoritativeTrustedConnection_ok h).bindingKept

theorem retireThrough_kept (snapshot : ConnectionReconciliationSnapshot) (connectionId : String) :
    Respects BindingKept (retireThrough snapshot connectionId) :=
  fun _ _ _ h => (retireTrustedConnectionNotFound_ok h).bindingKept

theorem pruneConnectionCandidates_kept (cutoff : DateTime) (maximumRows : Nat) :
    Respects BindingKept (pruneConnectionCandidates cutoff maximumRows) := by
  have hwrites : Respects (WritesTo [.candidate, .guard] fun _ => True)
      (pruneConnectionCandidates cutoff maximumRows) :=
    pruneConnectionCandidates_writes (fun _ ht => ht) _ _
  exact fun _ _ _ h =>
    ⟨(ownerAges_of_writes _ (by simp) hwrites).of_ok h, pruneConnectionCandidates_rises _ _ _ _ _ h⟩

theorem applyAuthoritativeCandidate_kept (candidate : BusinessConnectionCandidate)
    (expectedRevision : Option Nat) :
    Respects BindingKept (applyAuthoritativeCandidate candidate expectedRevision) := by
  have hwrites : Respects (WritesTo [.candidate, .guard] fun _ => True)
      (applyAuthoritativeCandidate candidate expectedRevision) :=
    applyAuthoritativeCandidate_writes (fun _ ht => ht) _ _
  exact fun _ _ _ h =>
    ⟨(ownerAges_of_writes _ (by simp) hwrites).of_ok h, applyAuthoritativeCandidate_rises _ _ _ _ _ h⟩

theorem reconcileTrustedCurrentState_kept (connectionId : String)
    (snapshot : ConnectionReconciliationSnapshot) (answer : LookupAnswer) (observedAt : DateTime) :
    Respects BindingKept (reconcileTrustedCurrentState connectionId snapshot answer observedAt) :=
  reconcileTrustedCurrentState_respects (retireThrough_kept _ _) (fun _ => reconcileThrough_kept _ _)
    (setTelegramAuthFailed_kept _)

theorem insertConnectionAudit_kept (eventKind : String) (occurredAt : DateTime) :
    Respects BindingKept (insertConnectionAudit updateId eventKind occurredAt) :=
  bindingKept_of_writes [.audit] (by simp) (insertConnectionAudit_writes (by simp) _ _ _)

theorem promoteReportedChat_kept (authoritative : AuthoritativeBusinessConnection)
    (ownerUserId : Int) (source : OwnerChatSource) :
    Respects BindingKept (promoteReportedChat authoritative ownerUserId source) := by
  unfold promoteReportedChat
  split
  · exact .ite (fun _ => (promoteOwnerChat_kept _ _ _).bind fun _ => .pure _) fun _ => .pure _
  · exact .pure _

theorem reconcileConnectionTrigger_kept (connectionId : String) (occurredAt : DateTime)
    (owner : OwnerIdentity) (snapshot : ConnectionReconciliationSnapshot) (answer : LookupAnswer)
    (now : DateTime) :
    Respects BindingKept
      (reconcileConnectionTrigger updateId connectionId occurredAt owner snapshot answer now) :=
  reconcileConnectionTrigger_respects (retireThrough_kept _ _) (fun _ => reconcileThrough_kept _ _)
    (fun _ _ => applyAuthoritativeCandidate_kept _ _) (pruneConnectionCandidates_kept _ _)
    (fun _ _ _ => promoteReportedChat_kept _ _ _) (setTelegramAuthFailed_kept _)
    (fun _ => insertConnectionAudit_kept _ _)
    (bindingKept_of_writes [.update] (by simp) (markConnectionTriggerApplied_writes (by simp) _ _))

/-! ## The Owner's own updates -/

theorem authorize_kept (source : OwnerCommandSource) (now : DateTime) :
    Respects BindingKept (authorize source now) := by
  have haudit : Respects BindingKept (do
      insertSecurityAudit now
      pure (none : Option AuthorizedOwner)) :=
    bindingKept_of_writes [.audit] (by simp) (Respects.bind
      ((insertAuditEvent_writes (by simp) _).bind fun _ => .pure _) fun _ => .pure _)
  refine (Respects.of_readOnly loadOwnerIdentity_readOnly).bind fun identity => ?_
  cases identity with
  | unclaimed => exact haudit
  | claimed ownerUserId ownerChatId ownerChatSource floor boundAt =>
    have hrest (identity : OwnerIdentity) :
        Respects BindingKept (authorizedAs ownerUserId identity) :=
      .of_readOnly (authorizedAs_readOnly _ _)
    exact .ite (fun _ => haudit) fun _ =>
      .ite (fun _ => (promoteOwnerChat_kept _ _ _).bind fun _ => hrest _)
        fun _ => (Respects.pure _).bind fun _ => hrest _

theorem insertRedactedUpdate_kept (eventType : EventType) (occurredAt : DateTime) :
    Respects BindingKept (insertRedactedUpdate updateId eventType occurredAt) :=
  bindingKept_of_writes [.update] (by simp) (insertRedactedUpdate_writes (by simp) _ _)

theorem processOwnerCommand_kept (snapshot : OwnerCommandSnapshot) (occurredAt : DateTime)
    (default : Bool) :
    Respects BindingKept (processOwnerCommand updateId snapshot occurredAt default) :=
  processOwnerCommand_respects (insertRedactedUpdate_kept _ _) (authorize_kept _ _)
    (fun _ => bindingKept_of_writes commandTargets (by simp)
      (executeCommand_writes (fun _ ht => ht) _ _ _ _))
    (fun _ => bindingKept_of_enqueues
      (enqueueOwnerTelegramActions_writes (by simp) _ (fun _ => trivial) _))
    fun _ _ _ =>
      bindingKept_of_writes [.enqueue] (by simp) (enqueueDirectOwnerMessage_writes (by simp) _ _ _ _)

theorem processOwnerStart_kept (snapshot : OwnerCommandSnapshot) (occurredAt : DateTime)
    (default : Bool) :
    Respects BindingKept (processOwnerStart updateId snapshot occurredAt default) :=
  processOwnerStart_respects (processOwnerCommand_kept _ _ _) (insertRedactedUpdate_kept _ _)
    fun _ => bindingKept_of_enqueues (enqueuePrivateMessage_writes (by simp) _ _ _)

/-! ## Claims -/

theorem claimOwner_kept (ownerUserId ownerChatId floor : Int) (boundAt : DateTime) :
    Respects BindingKept (claimOwner ownerUserId ownerChatId floor boundAt) :=
  bindingKept_of_ages (claimOwner_ages _ _ _ _) (claimOwner_writes (by simp) _ _ _ _)

theorem commitOwnerClaim_kept (claim : ValidOwnerClaim) (snapshot : OwnerClaimSnapshot)
    (answer : Option LookupAnswer) (serviceNow : DateTime) :
    Respects BindingKept (commitOwnerClaim updateId claim snapshot answer serviceNow) :=
  commitOwnerClaim_respects (insertRedactedUpdate_kept _ _)
    (fun _ => bindingKept_of_writes [.audit] (by simp) (insertOwnerClaimAudit_writes (by simp) _ _))
    (bindingKept_of_enqueues (enqueuePrivateMessage_writes (by simp) _ _ _))
    (pruneConnectionCandidates_kept _ _) (fun _ => claimOwner_kept _ _ _ _)
    (setTelegramAuthFailed_kept _)
    (fun _ _ _ _ => bindingKept_of_writes [.connection, .candidate] (by simp)
      (tryPromoteClaimCandidate_writes (fun _ ht => ht) _ _ _ _ _ _))
    (fun _ _ _ _ => bindingKept_of_writes [.candidate] (by simp)
      (settleClaimCandidates_writes (by simp) _ _ _ _ _))
    fun _ =>
      bindingKept_of_writes [.enqueue] (by simp) (enqueueDirectOwnerMessage_writes (by simp) _ _ _ _)

/-! ## Transactions and runs -/

/-- **Every transaction keeps the binding.** -/
theorem Transaction.bindingKept (h : db.NoConnectionChange) (x : Transaction) :
    BindingKept db (x.after db) := by
  have hframe := x.after_frame h
  cases x with
  | initializeOwner now =>
    exact (bindingKept_of_ages (initializeOrLoadOwnerIdentity_ages now)
      (initializeOrLoadOwnerIdentity_writes (by simp) now)).commit db
  | startup connectionId snapshot answer now =>
    exact (reconcileTrustedCurrentState_kept _ _ _ _).commit db
  | trigger updateId connectionId occurredAt owner snapshot answer now =>
    exact (reconcileConnectionTrigger_kept _ _ _ _ _ _).commit db
  | ownerCommand updateId snapshot occurredAt default =>
    exact (processOwnerCommand_kept _ _ _).commit db
  | ownerStart updateId snapshot occurredAt default =>
    exact (processOwnerStart_kept _ _ _).commit db
  | ownerClaim updateId claim snapshot answer now =>
    exact (commitOwnerClaim_kept _ _ _ _).commit db
  | _ => exact .of_frame (by simp) hframe

/-- **A step keeps the binding.** -/
theorem World.EventsPrepared.bindingKept {w w' : World} {op : Op} (h : w.EventsPrepared)
    (hstep : w.step op = some w') : BindingKept w.db w'.db := by
  rcases World.step_db hstep with hdb | ⟨x, -, hdb⟩
  · exact hdb ▸ refl _
  · exact hdb ▸ x.bindingKept h.noConnectionChange

end ChatHygiene
