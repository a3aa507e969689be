import ChatHygiene.Footprint.Storage
import ChatHygiene.Outbox.Keys
import ChatHygiene.Processing.Service
import ChatHygiene.Retention
import ChatHygiene.Telegram.Outbox
import ChatHygiene.Verification
/-!
# What the transactions of the program write

The footprint of every transaction the worker and the dispatcher commit, and
of the functions they are made of. `NewOutboxAction.Of` says of what an update
enqueues that it is enqueued under the update, and whether it may clean up.
-/

namespace ChatHygiene

open Txn (Respects Returns)

variable {targets : List Target} {K : NewOutboxAction → Prop}

/-- The action is enqueued under the update, and reads or deletes messages only if `cleans`. -/
structure NewOutboxAction.Of (updateId : Int) (cleans : Prop) (a : NewOutboxAction) : Prop where
  source : a.sourceUpdateId = updateId
  idempotencyKey : ∃ suffix, a.idempotencyKey = s!"{updateId}:" ++ suffix
  cleans : a.payload.kind.destructive = true → cleans
  origin : ∃ source, a.From source ∧ source.updateId? = some updateId

/-- The event is one that cleans up after itself. -/
def PreparedAction.cleans : PreparedAction → Bool
  | .blockedInbound | .inbound _ .spam _ => true
  | _ => false

/-! ## Application -/

/-- What applying an event may write to. -/
@[simp] def handlerTargets : List Target := [.conversation, .ledger, .challenge, .enqueue, .audit]

section Handler

variable {updateId : Int} {cleans : Prop}

theorem key_readOnly (facts : LifecycleFacts) : Respects Eq facts.key := by
  unfold LifecycleFacts.key
  split
  · exact .throw _
  · exact .throw _
  · exact .pure _

theorem requireUserId_readOnly (facts : LifecycleFacts) : Respects Eq facts.requireUserId := by
  unfold LifecycleFacts.requireUserId
  split
  · exact .throw _
  · exact .pure _

theorem requireMessageId_readOnly (facts : LifecycleFacts) :
    Respects Eq facts.requireMessageId := by
  unfold LifecycleFacts.requireMessageId
  split
  · exact .throw _
  · exact .pure _

theorem setTransition_readOnly (conversation : Conversation) (event : TransitionEvent)
    (now : DateTime) : Respects Eq (setTransition conversation event now) := by
  unfold setTransition
  split
  · exact .pure _
  · exact .throw _

theorem enqueueAction_writes (h : Target.enqueue ∈ targets) (key : ConversationKey)
    (payload : OutboxPayload) (batchIndex : Nat) (now : DateTime)
    (hclean : payload.kind.destructive = true → cleans) :
    Respects (WritesTo targets (NewOutboxAction.Of updateId cleans))
      (enqueueAction updateId key payload batchIndex now) := by
  refine (enqueueOutboxAction_writes h ⟨rfl, ?_, hclean,
    .action updateId payload.kind key batchIndex, ⟨rfl, rfl, rfl, rfl⟩, rfl⟩).bind fun _ => .pure _
  refine ⟨s!"{payload.kind.asStr}:{key.connectionId}:{key.chatId}:{batchIndex}", ?_⟩
  simp [actionIdempotencyKey, String.append_assoc]

theorem enqueueDelete_writes (h : Target.enqueue ∈ targets) (hclean : cleans)
    (key : ConversationKey) (messageIds : List Int) (now : DateTime) :
    Respects (WritesTo targets (NewOutboxAction.Of updateId cleans))
      (enqueueDelete updateId key messageIds now) :=
  .forEach fun _ _ => enqueueAction_writes h _ _ _ _ fun _ => hclean

theorem recordInbound_writes (h : Target.ledger ∈ targets) (facts : LifecycleFacts)
    (key : ConversationKey) : Respects (WritesTo targets K) (recordInbound facts key) :=
  (Respects.of_readOnly (requireMessageId_readOnly facts)).bind fun _ =>
    (recordMessage_writes h _).bind fun _ => .pure _

theorem insertDetectionAudit_writes (h : Target.audit ∈ targets) (key : ConversationKey)
    (stateBefore stateAfter : ConversationState) (detection : DetectionFacts)
    (occurredAt : DateTime) :
    Respects (WritesTo targets K)
      (insertDetectionAudit updateId key stateBefore stateAfter detection occurredAt) :=
  (insertAuditEvent_writes h _).bind fun _ => .pure _

/-- What the outcome of an inbound message may write to. -/
@[simp] def outcomeTargets : List Target := [.challenge, .enqueue]

theorem applyChallengeStart_writes (h : outcomeTargets ⊆ targets) (facts : LifecycleFacts)
    (key : ConversationKey) (conversation : Conversation) (expression answerHmac : String)
    (hmacKeyVersion : Int) (createdAt expiresAt : DateTime) (maxAttempts : Nat) :
    Respects (WritesTo targets (NewOutboxAction.Of updateId cleans))
      (applyChallengeStart updateId facts key conversation expression answerHmac hmacKeyVersion
        createdAt expiresAt maxAttempts) :=
  .ite (fun _ => .throw _) fun _ => (createChallenge_writes (h (by simp)) _).bind fun _ =>
    (Respects.of_readOnly (setTransition_readOnly _ _ _)).bind fun _ =>
    (enqueueAction_writes (h (by simp)) _ _ _ _ nofun).bind
      fun _ => .pure _

theorem enqueueChallengeEdit_writes (h : Target.enqueue ∈ targets) (key : ConversationKey)
    (challengeId : Nat) (status : ChallengeStatus) (attemptsRemaining : Option Nat)
    (now : DateTime) :
    Respects (WritesTo targets (NewOutboxAction.Of updateId cleans))
      (enqueueChallengeEdit updateId key challengeId status attemptsRemaining now) :=
  enqueueAction_writes h _ _ _ _ nofun

theorem applyIncorrectAnswer_writes (h : outcomeTargets ⊆ targets) (facts : LifecycleFacts)
    (key : ConversationKey) (conversation : Conversation) (challengeId : Nat) (exhausted : Bool)
    (attemptsRemaining : Nat) (blockExpiresAt : Option DateTime) :
    Respects (WritesTo targets (NewOutboxAction.Of updateId cleans))
      (applyIncorrectAnswer updateId facts key conversation challengeId exhausted
        attemptsRemaining blockExpiresAt) := by
  have hedit (status remaining) : Respects (WritesTo targets (NewOutboxAction.Of updateId cleans))
      (enqueueChallengeEdit updateId key challengeId status remaining facts.occurredAt) :=
    enqueueChallengeEdit_writes (h (by simp)) _ _ _ _ _
  refine (incrementChallengeAttempts_writes (h (by simp)) _).bind fun _ =>
    .ite (fun _ => (hedit _ _).bind fun _ => .pure _) fun _ =>
    (closeChallenge_writes (h (by simp)) _ _).bind fun _ => ?_
  cases blockExpiresAt with
  | some expiresAt =>
    exact (Respects.of_readOnly (setTransition_readOnly _ _ _)).bind fun _ =>
      (hedit _ _).bind fun _ => .pure _
  | none =>
    exact (Respects.of_readOnly (setTransition_readOnly _ _ _)).bind fun _ =>
      (enqueueAction_writes (h (by simp)) _ _ _ _
        nofun).bind fun _ =>
      (hedit _ _).bind fun _ => .pure _

theorem applySpam_writes (h : outcomeTargets ⊆ targets) (hclean : cleans)
    (facts : LifecycleFacts) (key : ConversationKey) (conversation : Conversation) :
    Respects (WritesTo targets (NewOutboxAction.Of updateId cleans))
      (applySpam updateId facts key conversation) :=
  (Respects.of_readOnly (setTransition_readOnly _ _ _)).bind fun _ =>
    (closeActiveChallenge_writes (h (by simp)) _ _).bind fun _ =>
    (Respects.of_readOnly (requireMessageId_readOnly _)).bind fun _ =>
    (enqueueAction_writes (h (by simp)) _ _ _ _ fun _ => hclean).bind fun _ =>
    (Respects.read _).bind fun _ => (enqueueDelete_writes (h (by simp)) hclean _ _ _).bind fun _ =>
    .pure _

theorem applySettled_writes (h : outcomeTargets ⊆ targets) (facts : LifecycleFacts)
    (key : ConversationKey) (conversation : Conversation) (challengeId : Nat)
    (event : TransitionEvent) (status : ChallengeStatus) :
    Respects (WritesTo targets (NewOutboxAction.Of updateId cleans))
      (applySettled updateId facts key conversation challengeId event status) :=
  (closeChallenge_writes (h (by simp)) _ _).bind fun _ =>
    (Respects.of_readOnly (setTransition_readOnly _ _ _)).bind fun _ =>
    (enqueueChallengeEdit_writes (h (by simp)) _ _ _ _ _).bind fun _ => .pure _

theorem applyInboundOutcome_writes (h : outcomeTargets ⊆ targets) (facts : LifecycleFacts)
    (key : ConversationKey) (conversation : Conversation) (outcome : InboundOutcome)
    (hclean : outcome = .spam → cleans) :
    Respects (WritesTo targets (NewOutboxAction.Of updateId cleans))
      (applyInboundOutcome updateId facts key conversation outcome) := by
  cases outcome with
  | startChallenge => exact applyChallengeStart_writes h _ _ _ _ _ _ _ _ _
  | retain => exact .pure _
  | correct challengeId => exact applySettled_writes h _ _ _ _ _ _
  | incorrect => exact applyIncorrectAnswer_writes h _ _ _ _ _ _ _
  | expired challengeId => exact applySettled_writes h _ _ _ _ _ _
  | spam => exact applySpam_writes h (hclean rfl) _ _ _

theorem enqueueDetectionActions_writes (h : Target.enqueue ∈ targets) (facts : LifecycleFacts)
    (key : ConversationKey) (detection : DetectionFacts) (dryRunSpam : Bool) :
    Respects (WritesTo targets (NewOutboxAction.Of updateId cleans))
      (enqueueDetectionActions updateId facts key detection dryRunSpam) := by
  have halert : Respects (WritesTo targets (NewOutboxAction.Of updateId cleans)) (do
      if detection.error.isSome then
        enqueueAction updateId key
          (.sendOwnerMessage ⟨some .detectorFailed, none, none, none, none⟩) 0
          facts.occurredAt) :=
    .ite (fun _ => enqueueAction_writes h _ _ _ _
      nofun) fun _ => .pure _
  exact .ite (fun _ => (enqueueAction_writes h _ _ _ _
    nofun).bind fun _ => halert)
    fun _ => halert

theorem applyInbound_writes (h : handlerTargets ⊆ targets) (facts : LifecycleFacts)
    (detection : DetectionFacts) (outcome : InboundOutcome) (dryRunSpam : Bool)
    (hclean : outcome = .spam → cleans) :
    Respects (WritesTo targets (NewOutboxAction.Of updateId cleans))
      (applyInbound updateId facts detection outcome dryRunSpam) :=
  (Respects.of_readOnly (key_readOnly facts)).bind fun _ =>
    (Respects.of_readOnly (requireUserId_readOnly facts)).bind fun _ =>
    (getOrCreateConversation_writes (h (by simp)) _ _ _).bind fun _ =>
    (recordInbound_writes (h (by simp)) _ _).bind fun _ =>
    (enqueueDetectionActions_writes (h (by simp)) _ _ _ _).bind fun _ =>
    (applyInboundOutcome_writes (fun _ ht => h (by revert ht; decide +revert)) _ _ _ _
      hclean).bind fun _ =>
    .ite (fun _ => (saveConversation_writes (h (by simp)) _ _).bind fun _ =>
      insertDetectionAudit_writes (h (by simp)) _ _ _ _ _)
      fun _ => insertDetectionAudit_writes (h (by simp)) _ _ _ _ _

theorem applyBlockedInbound_writes (h : handlerTargets ⊆ targets) (hclean : cleans)
    (facts : LifecycleFacts) :
    Respects (WritesTo targets (NewOutboxAction.Of updateId cleans))
      (applyBlockedInbound updateId facts) :=
  (Respects.of_readOnly (key_readOnly facts)).bind fun _ =>
    (Respects.of_readOnly (requireMessageId_readOnly facts)).bind fun _ =>
    (Respects.of_readOnly (requireUserId_readOnly facts)).bind fun _ =>
    (getOrCreateConversation_writes (h (by simp)) _ _ _).bind fun _ =>
    (recordInbound_writes (h (by simp)) _ _).bind fun _ =>
    (enqueueAction_writes (h (by simp)) _ _ _ _ fun _ => hclean).bind fun _ =>
    (Respects.read _).bind fun _ => (enqueueDelete_writes (h (by simp)) hclean _ _ _).bind fun _ =>
    saveConversation_writes (h (by simp)) _ _

theorem applyBlockedFailOpen_writes (h : handlerTargets ⊆ targets) (facts : LifecycleFacts) :
    Respects (WritesTo targets K) (applyBlockedFailOpen facts) :=
  (Respects.of_readOnly (key_readOnly facts)).bind fun _ =>
    (Respects.of_readOnly (requireUserId_readOnly facts)).bind fun _ =>
    (getOrCreateConversation_writes (h (by simp)) _ _ _).bind fun _ =>
    (recordInbound_writes (h (by simp)) _ _).bind fun _ =>
    saveConversation_writes (h (by simp)) _ _

theorem manualOwnerState_readOnly (conversation : Conversation) (now : DateTime) :
    Respects Eq (manualOwnerState conversation now) :=
  .ite (fun _ => setTransition_readOnly _ _ _) fun _ => .pure _

theorem applyManualOwner_writes (h : handlerTargets ⊆ targets) (facts : LifecycleFacts) :
    Respects (WritesTo targets K) (applyManualOwner facts) :=
  (Respects.of_readOnly (key_readOnly facts)).bind fun _ =>
    (Respects.of_readOnly (requireUserId_readOnly facts)).bind fun _ =>
    (getOrCreateConversation_writes (h (by simp)) _ _ _).bind fun _ =>
    (Respects.of_readOnly (requireMessageId_readOnly facts)).bind fun _ =>
    (recordMessage_writes (h (by simp)) _).bind fun _ =>
    (closeActiveChallenge_writes (h (by simp)) _ _).bind fun _ =>
    (Respects.of_readOnly (manualOwnerState_readOnly _ _)).bind fun _ =>
    saveConversation_writes (h (by simp)) _ _

theorem applyBotMessage_writes (h : handlerTargets ⊆ targets) (facts : LifecycleFacts)
    (sender : PreparedSender) : Respects (WritesTo targets K) (applyBotMessage facts sender) :=
  (Respects.of_readOnly (key_readOnly facts)).bind fun _ =>
    (Respects.of_readOnly (requireUserId_readOnly facts)).bind fun _ =>
    (getOrCreateConversation_writes (h (by simp)) _ _ _).bind fun _ =>
    (Respects.of_readOnly (requireMessageId_readOnly facts)).bind fun _ =>
    (recordMessage_writes (h (by simp)) _).bind fun _ => .pure _

theorem applyDeletions_writes (h : handlerTargets ⊆ targets) (facts : LifecycleFacts)
    (messageIds : List Int) : Respects (WritesTo targets K) (applyDeletions facts messageIds) :=
  (Respects.of_readOnly (key_readOnly facts)).bind fun _ =>
    (Respects.of_readOnly (requireUserId_readOnly facts)).bind fun _ =>
    (getOrCreateConversation_writes (h (by simp)) _ _ _).bind fun _ =>
    (Respects.forEach fun _ _ =>
      (markMessageDeleted_writes (h (by simp)) _ _ _).bind fun _ => .pure _).bind fun _ =>
    (Respects.read _).bind fun _ =>
    .ite (fun _ => (Respects.of_readOnly (setTransition_readOnly _ _ _)).bind fun _ =>
      saveConversation_writes (h (by simp)) _ _) fun _ => .pure _

theorem enqueueDryRunTrace_writes (h : Target.enqueue ∈ targets) (event : PreparedEvent)
    (facts : LifecycleFacts) :
    Respects (WritesTo targets (NewOutboxAction.Of event.updateId cleans))
      (enqueueDryRunTrace event facts) := by
  refine .ite (fun _ => .pure _) fun _ => ?_
  split
  · exact .pure _
  · refine (Respects.read _).bind fun _ => (Respects.read _).bind fun _ =>
      (enqueueOutboxAction_writes h ?_).bind fun _ => .pure _
    exact ⟨rfl, ⟨"DRY_RUN_TRACE", by simp only [String.append_assoc]; rfl⟩, nofun,
      .reply event.updateId .trace, ⟨ActionSource.trace_key _, rfl, rfl⟩, rfl⟩

/-- **What applying an event writes.** Connections are left alone, but by a change of connection,
which preparation never produces. -/
theorem apply_writes (h : handlerTargets ⊆ targets) (event : PreparedEvent)
    (hconnection : ∀ o c e r, event.facts.action ≠ .connectionChanged o c e r) :
    Respects (WritesTo targets (NewOutboxAction.Of event.updateId (event.facts.action.cleans = true)))
      (LifecycleHandler.apply event) := by
  refine .bind ?_ fun _ => enqueueDryRunTrace_writes (h (by simp)) _ _
  cases haction : event.facts.action with
  | connectionChanged o c e r => exact absurd haction (hconnection o c e r)
  | inbound detection outcome dryRunSpam =>
    exact applyInbound_writes h _ _ _ _ (by rintro rfl; rfl)
  | activeInbound => exact .pure _
  | blockedInbound => exact applyBlockedInbound_writes h rfl _
  | blockedFailOpen => exact applyBlockedFailOpen_writes h _
  | manualOwner => exact applyManualOwner_writes h _
  | botMessage sender => exact applyBotMessage_writes h _ _
  | messagesDeleted messageIds => exact applyDeletions_writes h _ _
  | ignore => exact .pure _

end Handler

/-! ## Recording -/

theorem markApplied_writes (h : Target.update ∈ targets) (updateId : Int) (now : DateTime) :
    Respects (WritesTo targets K) (markApplied updateId now) :=
  Uow.updateUpdate_writes ⟨h, fun _ => by simp⟩

/-- **What a committed application is**: an applied event, or a recorded one whose effects and whose
mark commit together. -/
theorem applyRecordedEvent_ok {updateId : Int} {now : DateTime} {receipt : ApplyReceipt}
    {db db' : Database} (h : applyRecordedEvent updateId now db = .ok (receipt, db')) :
    receipt = .alreadyApplied ∧ db' = db ∨
      receipt = .applied ∧ ∃ row event db₁, db.processedUpdate.lookup updateId = some row ∧
        row.status = .recorded ∧ row.event = some event ∧
        LifecycleHandler.apply event db = .ok ((), db₁) ∧
        markApplied updateId now db₁ = .ok (1, db') := by
  unfold applyRecordedEvent at h
  simp only [Txn.read_bind_apply] at h
  cases hrow : db.processedUpdate.lookup updateId with
  | none =>
    rw [hrow] at h
    cases h
  | some row =>
    rw [hrow] at h
    dsimp only at h
    cases hstatus : row.status with
    | applied =>
      rw [hstatus] at h
      obtain ⟨rfl, rfl⟩ := Prod.mk.inj (Txn.pure_ok_iff.1 h)
      exact .inl ⟨rfl, rfl⟩
    | failed =>
      rw [hstatus] at h
      cases h
    | recorded =>
      rw [hstatus] at h
      cases hevent : row.event with
      | none =>
        rw [hevent] at h
        cases h
      | some event =>
        rw [hevent] at h
        obtain ⟨⟨⟩, db₁, happly, h⟩ := Txn.bind_ok_iff.1 h
        obtain ⟨affected, db₂, hmark, h⟩ := Txn.bind_ok_iff.1 h
        by_cases hone : affected = 1
        · rw [if_neg (by simp [hone])] at h
          obtain ⟨rfl, rfl⟩ := Prod.mk.inj (Txn.pure_ok_iff.1 h)
          exact .inr ⟨rfl, row, event, db₁, rfl, hstatus, hevent, happly, hone ▸ hmark⟩
        · rw [if_pos hone] at h
          cases h

theorem validateFacts_readOnly (facts : LifecycleFacts) : Respects Eq (validateFacts facts) := by
  unfold validateFacts
  split
  · exact .throw _
  · exact .pure _

theorem connectionTriggerId_readOnly (event : PreparedEvent) :
    Respects Eq (connectionTriggerId event) := by
  refine .ite (fun _ => .pure _) fun _ => ?_
  split
  · exact .pure _
  · exact .throw _

theorem recordPreparedEvent_writes (h : [Target.record, .connection] ⊆ targets)
    (event : PreparedEvent) : Respects (WritesTo targets K) (recordPreparedEvent event) := by
  refine (Respects.of_readOnly (validateFacts_readOnly _)).bind fun _ =>
    (Respects.of_readOnly (connectionTriggerId_readOnly _)).bind fun trigger =>
    (Uow.insertOrIgnoreUpdate_writes (h (by simp))).bind fun _ => .ite (fun _ => ?_) fun _ =>
    (Respects.read _).bind fun status => ?_
  · cases trigger with
    | none => exact .pure _
    | some connectionId =>
      exact (gateMatchingTrustedForReconciliation_writes (h (by simp)) _ _).bind fun _ => .pure _
  · match status with
    | none => exact .throw _
    | some .recorded => exact .pure _
    | some .applied => exact .pure _
    | some .failed => exact .throw _

/-! ## Retention -/

/-- The only action the expiry pass enqueues edits the prompt of a challenge. -/
def NewOutboxAction.IsExpiryEdit (a : NewOutboxAction) : Prop :=
  a.payload.kind = .editChallenge ∧ ∃ challengeId, a.From (.expiry challengeId)

theorem enqueueExpiryEdit_writes (h : Target.enqueue ∈ targets)
    (hK : ∀ a : NewOutboxAction, a.IsExpiryEdit → K a)
    (challenge : ChallengeRecord) (now : DateTime) :
    Respects (WritesTo targets K) (enqueueExpiryEdit challenge now) := by
  refine (Respects.read _).bind fun source => ?_
  cases source with
  | none => exact .pure _
  | some sourceUpdateId =>
    exact (enqueueOutboxAction_writes h (hK _ ⟨rfl, challenge.id, rfl, rfl, rfl⟩)).bind fun _ =>
      .pure _

/-- What the expiry pass may write to. -/
@[simp] def expiryTargets : List Target := [.conversation, .challenge, .enqueue]

theorem expireChallenge_writes (h : expiryTargets ⊆ targets)
    (hK : ∀ a : NewOutboxAction, a.IsExpiryEdit → K a) (now : DateTime)
    (challenge : ChallengeRecord) :
    Respects (WritesTo targets K) (expireChallenge now challenge) :=
  (closeChallenges_writes (h (by simp)) _ _).bind fun _ => .ite (fun _ => .pure _) fun _ =>
    (Uow.updateConversation_writes (h (by simp))).bind fun _ =>
    .ite (fun _ => (enqueueExpiryEdit_writes (h (by simp)) hK _ _).bind fun _ => .pure _)
      fun _ => .pure _

theorem expireChallenges_writes (h : expiryTargets ⊆ targets)
    (hK : ∀ a : NewOutboxAction, a.IsExpiryEdit → K a) (now : DateTime)
    (challenges : List ChallengeRecord) :
    Respects (WritesTo targets K) (expireChallenges now challenges) := by
  induction challenges with
  | nil => exact .pure _
  | cons challenge challenges ih =>
    exact (expireChallenge_writes h hK now challenge).bind fun _ => ih.bind fun _ => .pure _

theorem expireDueState_writes (h : expiryTargets ⊆ targets)
    (hK : ∀ a : NewOutboxAction, a.IsExpiryEdit → K a) (now : DateTime) :
    Respects (WritesTo targets K) (expireDueState now) :=
  (Respects.read _).bind fun _ => (expireChallenges_writes h hK now _).bind fun _ =>
    (Uow.updateConversation_writes (h (by simp))).bind fun _ => .pure _

theorem purgeHistory_writes (h : [Target.ledger, .audit, .outbox, .purgeUpdate] ⊆ targets)
    (now : DateTime) : Respects (WritesTo targets K) (purgeHistory now) :=
  (Respects.read _).bind fun _ => (Uow.deleteLedger_writes (h (by simp))).bind fun _ =>
    Respects.bind ((Respects.read _).bind fun _ => Uow.deleteAudit_writes (h (by simp))) fun _ =>
    (Uow.deleteOutbox_writes (h (by simp))).bind fun _ =>
    Respects.bind ((Respects.read _).bind fun _ => (Respects.read _).bind fun _ =>
      Uow.deleteUpdate_writes (h (by simp))) fun _ => .pure _

/-! ## Owner commands -/

/-- What an Owner command may write to besides its own row and its reply. -/
@[simp] def commandTargets : List Target :=
  [.conversation, .ledger, .challenge, .outbox, .audit, .mode]

/-- What `authorize` ends with: the identity it has settled on, with the connection. -/
def authorizedAs (ownerUserId : Int) (identity : OwnerIdentity) : Uow (Option AuthorizedOwner) := do
  let connection ← findSingleBusinessConnection
  if connection.any (·.ownerUserId ≠ ownerUserId) then
    throw (.invalidEvent
      "owner command storage failed: Business connection belongs to another Owner")
  match identity with
  | .unclaimed => throw (.invalidEvent "authorized identity remains claimed")
  | .claimed _ ownerChatId _ _ _ => pure (some ⟨identity, ownerUserId, ownerChatId, connection⟩)

theorem authorizedAs_readOnly (ownerUserId : Int) (identity : OwnerIdentity) :
    Respects Eq (authorizedAs ownerUserId identity) := by
  refine findSingleBusinessConnection_readOnly.bind fun _ => .ite (fun _ => .throw _) fun _ => ?_
  cases identity with
  | unclaimed => exact .throw _
  | claimed user chat chatSource floor boundAt => exact .pure _

theorem authorize_writes (h : [Target.audit, .owner] ⊆ targets) (source : OwnerCommandSource)
    (now : DateTime) : Respects (WritesTo targets K) (authorize source now) := by
  have haudit : Respects (WritesTo targets K) (do
      insertSecurityAudit now
      pure (none : Option AuthorizedOwner)) :=
    Respects.bind ((insertAuditEvent_writes (h (by simp)) _).bind fun _ => .pure _) fun _ => .pure _
  refine (Respects.of_readOnly loadOwnerIdentity_readOnly).bind fun identity => ?_
  cases identity with
  | unclaimed => exact haudit
  | claimed ownerUserId ownerChatId ownerChatSource floor boundAt =>
    have hrest (identity : OwnerIdentity) :
        Respects (WritesTo targets K) (authorizedAs ownerUserId identity) :=
      .of_readOnly (authorizedAs_readOnly _ _)
    exact .ite (fun _ => haudit) fun _ =>
      .ite (fun _ => (promoteOwnerChat_writes (h (by simp)) _ _ _).bind fun _ => hrest _)
        fun _ => (Respects.pure _).bind fun _ => hrest _

theorem health_readOnly (now : DateTime) (default : Bool) : Respects Eq (health now default) := by
  refine (readinessIn_readOnly now).bind fun snapshot => ?_
  cases snapshot with
  | none => exact .pure _
  | some snapshot => exact (Respects.read _).bind fun _ => .pure _

theorem inspect_readOnly (connection : BusinessConnectionRecord) (chatId : Int) :
    Respects Eq (inspect connection chatId) := by
  refine (Respects.read _).bind fun conversation => ?_
  cases conversation with
  | none => exact .pure _
  | some conversation => exact .pure _

theorem recentErrors_readOnly (limit : Nat) : Respects Eq (recentErrors limit) :=
  (Respects.read _).bind fun _ => .ite (fun _ => .pure _) fun _ => .pure _

theorem labelSample_readOnly (reply : String) (sample : Option LabeledMessageBody) :
    Respects Eq (labelSample reply sample) := by
  unfold labelSample
  split
  · exact .pure _
  · exact .ite (fun _ => .pure _) fun _ => .pure _

theorem resetConversation_writes (h : commandTargets ⊆ targets)
    (connection : BusinessConnectionRecord) (chatId : Int) (now : DateTime) :
    Respects (WritesTo targets K) (resetConversation connection chatId now) := by
  refine (Respects.read _).bind fun conversation => ?_
  cases conversation with
  | none => exact .pure _
  | some conversation =>
    exact (Respects.read _).bind fun _ => (Respects.read _).bind fun _ =>
      (Uow.deleteOutbox_writes (h (by simp))).bind fun _ =>
      (Uow.deleteChallenge_writes (h (by simp))).bind fun _ =>
      (Uow.deleteLedger_writes (h (by simp))).bind fun _ =>
      (Uow.updateConversation_writes (h (by simp))).bind fun _ =>
      Respects.bind ((insertAuditEvent_writes (h (by simp)) _).bind fun _ => .pure _)
        fun _ => .pure _

theorem unblockConversation_writes (h : [Target.conversation, .challenge, .audit] ⊆ targets)
    (connection : BusinessConnectionRecord) (chatId : Int) (now : DateTime) :
    Respects (WritesTo targets K) (unblockConversation connection chatId now) := by
  refine (Uow.updateConversation_writes (h (by simp))).bind fun _ => .ite (fun _ => ?_) fun _ =>
    (closeChallenges_writes (h (by simp)) _ _).bind fun _ =>
    Respects.bind ((insertAuditEvent_writes (h (by simp)) _).bind fun _ => .pure _)
      fun _ => .pure _
  refine (Respects.read _).bind fun conversation => ?_
  cases conversation with
  | none => exact .pure _
  | some conversation => exact .pure _

theorem setDryRun_writes (h : Target.mode ∈ targets)
    (connection : Option BusinessConnectionRecord) (enabled : Bool) :
    Respects (WritesTo targets K) (setDryRun connection enabled) :=
  .ite (fun _ => .pure _) fun _ => (Uow.setDestructiveMode_writes h).bind fun _ => .pure _

/-- A command respects what the commands that write do. -/
theorem executeAuthorized_respects {R : Database → Database → Prop} [Std.Refl R]
    {command : OwnerCommand} {source : OwnerCommandSource} {owner : AuthorizedOwner}
    {now : DateTime} {default : Bool}
    (hreset : ∀ connection chatId, command = .reset chatId →
      Respects R (resetConversation connection chatId now))
    (hunblock : ∀ connection chatId, Respects R (unblockConversation connection chatId now))
    (hdryRun : ∀ connection enabled, Respects R (setDryRun connection enabled)) :
    Respects R (executeAuthorized command source owner now default) := by
  have hconnection {command : BusinessConnectionRecord → Uow CommandResult}
      (hcommand : ∀ c, Respects R (command c)) : Respects R (withConnection owner command) := by
    unfold withConnection
    split
    · exact .pure _
    · exact hcommand _
  cases command with
  | help => exact .pure _
  | health => exact .of_readOnly (health_readOnly _ _)
  | inspect chatId => exact hconnection fun _ => .of_readOnly (inspect_readOnly _ _)
  | reset chatId => exact hconnection fun _ => hreset _ _ rfl
  | unblock chatId => exact hconnection fun _ => hunblock _ _
  | dryRun enabled => exact hdryRun _ _
  | errors limit => exact .of_readOnly (recentErrors_readOnly _)
  | markSpam => exact .of_readOnly (labelSample_readOnly _ _)
  | markHam => exact .of_readOnly (labelSample_readOnly _ _)

theorem executeAuthorized_writes (h : commandTargets ⊆ targets) (command : OwnerCommand)
    (source : OwnerCommandSource) (owner : AuthorizedOwner) (now : DateTime) (default : Bool) :
    Respects (WritesTo targets K) (executeAuthorized command source owner now default) :=
  executeAuthorized_respects (fun _ _ _ => resetConversation_writes h _ _ _)
    (fun _ _ => unblockConversation_writes (fun _ ht => h (by revert ht; decide +revert)) _ _ _)
    (fun _ _ => setDryRun_writes (h (by simp)) _ _)

/-- **Only a reset asks for messages to be deleted.** -/
theorem executeAuthorized_returns {command : OwnerCommand} (hreset : ∀ c, command ≠ .reset c)
    (source : OwnerCommandSource) (owner : AuthorizedOwner) (now : DateTime) (default : Bool) :
    Returns (fun result : CommandResult => result.execution.telegramActions = [])
      (executeAuthorized command source owner now default) := by
  have hconnection {command : BusinessConnectionRecord → Uow CommandResult}
      (hcommand : ∀ c, Returns (fun r : CommandResult => r.execution.telegramActions = [])
        (command c)) :
      Returns (fun r : CommandResult => r.execution.telegramActions = [])
        (withConnection owner command) := by
    unfold withConnection
    split
    · exact .pure rfl
    · exact hcommand _
  have hsample (reply : String) (sample : Option LabeledMessageBody) :
      Returns (fun r : CommandResult => r.execution.telegramActions = [])
        (labelSample reply sample) := by
    unfold labelSample
    split
    · exact .pure rfl
    · exact .ite (fun _ => .pure rfl) fun _ => .pure rfl
  cases command with
  | help => exact .pure rfl
  | health =>
    refine .bind fun snapshot => ?_
    cases snapshot with
    | none => exact .pure rfl
    | some snapshot => exact .bind fun _ => .pure rfl
  | inspect chatId =>
    refine hconnection fun c => .bind fun conversation => ?_
    cases conversation with
    | none => exact .pure rfl
    | some conversation => exact .pure rfl
  | reset chatId => exact absurd rfl (hreset chatId)
  | unblock chatId =>
    refine hconnection fun c => .bind fun _ => .ite (fun _ => .bind fun conversation => ?_)
      fun _ => .bind fun _ => .bind fun _ => .pure rfl
    cases conversation with
    | none => exact .pure rfl
    | some conversation => exact .pure rfl
  | dryRun enabled => exact .ite (fun _ => .pure rfl) fun _ => .bind fun _ => .pure rfl
  | errors limit => exact .bind fun _ => .ite (fun _ => .pure rfl) fun _ => .pure rfl
  | markSpam => exact hsample _ _
  | markHam => exact hsample _ _

/-- The command of a snapshot is a reset. -/
def OwnerCommandSnapshot.isReset (snapshot : OwnerCommandSnapshot) : Bool :=
  match snapshot.command with
  | .ok (.reset _) => true
  | _ => false

section OwnerUpdates

variable {updateId : Int} {cleans : Prop}

theorem receiptForStatus_readOnly (status : UpdateStatus) :
    Respects Eq (receiptForStatus status) := by
  cases status with
  | recorded => exact .pure _
  | applied => exact .pure _
  | failed => exact .throw _

theorem withoutReceipt_respects {R : Database → Database → Prop} [Std.Refl R]
    [IsTrans Database R] {next : Uow RecordReceipt} (h : Respects R next) :
    Respects R (withoutReceipt updateId next) := by
  refine (Respects.read _).bind fun status => ?_
  cases status with
  | none => exact h
  | some status => exact .of_readOnly (receiptForStatus_readOnly status)

theorem withoutReceipt_ok {updateId : Int} {next : Uow RecordReceipt} {receipt : RecordReceipt}
    {db db' : Database} (h : withoutReceipt updateId next db = .ok (receipt, db')) :
    db' = db ∨ db.processedUpdate.lookup updateId = none ∧ next db = .ok (receipt, db') := by
  unfold withoutReceipt at h
  simp only [Txn.read_bind_apply] at h
  cases hrow : db.processedUpdate.lookup updateId with
  | none =>
    rw [hrow] at h
    exact .inr ⟨rfl, h⟩
  | some row =>
    rw [hrow] at h
    exact .inl ((receiptForStatus_readOnly row.status).of_ok h).symm

/-- An update that is delivered for the first time is processed. -/
theorem withoutReceipt_new {next : Uow RecordReceipt} {db : Database}
    (h : db.processedUpdate.lookup updateId = none) :
    withoutReceipt updateId next db = next db := by
  unfold withoutReceipt
  simp only [Txn.read_bind_apply, h]
  rfl

/-- An update that is delivered again changes nothing. -/
theorem withoutReceipt_again {db : Database} {row : ProcessedUpdate}
    (h : db.processedUpdate.lookup updateId = some row) (next : Uow RecordReceipt) :
    (Txn.commit (withoutReceipt updateId next) db).1 = db := by
  have hreceipt : withoutReceipt updateId next db = receiptForStatus row.status db := by
    unfold withoutReceipt
    rw [Txn.read_bind_apply, h]
    rfl
  have hcommit : Txn.commit (withoutReceipt updateId next) db =
      Txn.commit (receiptForStatus row.status) db := by
    unfold Txn.commit
    rw [hreceipt]
  rw [hcommit]
  exact Txn.commit_fst_of_readOnly (receiptForStatus_readOnly _) db

theorem insertRedactedUpdate_writes (h : Target.update ∈ targets) (eventType : EventType)
    (occurredAt : DateTime) :
    Respects (WritesTo targets K) (insertRedactedUpdate updateId eventType occurredAt) :=
  Uow.insertUpdate_writes ⟨h, by simp⟩

theorem enqueueDirectOwnerMessage_writes (h : Target.enqueue ∈ targets) (ownerChatId : Int)
    (message : OwnerText) (occurredAt : DateTime) (suffix : String) :
    Respects (WritesTo targets fun _ => True)
      (enqueueDirectOwnerMessage updateId ownerChatId message occurredAt suffix) :=
  (enqueueOutboxAction_writes h trivial).bind fun _ => .pure _

/-- The messages the Owner is sent have keys of their own. -/
theorem enqueueDirectOwnerMessage_of (h : Target.enqueue ∈ targets) (ownerChatId : Int)
    (message : OwnerText) (occurredAt : DateTime) (owner : OwnerReply) {suffix : String}
    (hsuffix : suffix = owner.suffix) :
    Respects (WritesTo targets (NewOutboxAction.Of updateId cleans))
      (enqueueDirectOwnerMessage updateId ownerChatId message occurredAt suffix) := by
  subst hsuffix
  refine (enqueueOutboxAction_writes h ?_).bind fun _ => .pure _
  exact ⟨rfl, ⟨owner.suffix, by simp only [String.append_assoc]; rfl⟩, nofun,
    .reply updateId owner, ⟨rfl, rfl, rfl⟩, rfl⟩

theorem enqueuePrivateMessage_writes (h : Target.enqueue ∈ targets) (chatId : Int)
    (messageKind : PrivateMessageKind) (occurredAt : DateTime) :
    Respects (WritesTo targets (NewOutboxAction.Of updateId cleans))
      (enqueuePrivateMessage updateId chatId messageKind occurredAt) := by
  refine (enqueueOutboxAction_writes h ?_).bind fun _ => .pure _
  exact ⟨rfl, ⟨messageKind.asStr, by simp only [String.append_assoc]; rfl⟩, nofun,
    .notice updateId messageKind, ⟨rfl, rfl, rfl, chatId, rfl⟩, rfl⟩

theorem insertOwnerClaimAudit_writes (h : Target.audit ∈ targets) (success : Bool)
    (occurredAt : DateTime) :
    Respects (WritesTo targets K) (insertOwnerClaimAudit updateId success occurredAt) :=
  (insertAuditEvent_writes h _).bind fun _ => .pure _

/-- What an Owner command may write to. -/
@[simp] def ownerCommandTargets : List Target :=
  [.conversation, .ledger, .challenge, .outbox, .audit, .mode, .update, .enqueue, .owner]

theorem enqueueOwnerTelegramActions_writes (h : Target.enqueue ∈ targets)
    (actions : List OwnerTelegramAction) (hclean : actions ≠ [] → cleans)
    (occurredAt : DateTime) :
    Respects (WritesTo targets (NewOutboxAction.Of updateId cleans))
      (enqueueOwnerTelegramActions updateId actions occurredAt) := by
  refine .forEach fun action haction => ?_
  cases action with
  | deleteBusinessMessages key messageIds =>
    exact enqueueDelete_writes h (hclean (List.ne_nil_of_mem haction)) _ _ _

theorem executeCommand_respects {R : Database → Database → Prop} [Std.Refl R]
    [IsTrans Database R] {snapshot : OwnerCommandSnapshot} {owner : AuthorizedOwner}
    {occurredAt : DateTime} {default : Bool}
    (h : ∀ command, snapshot.command = .ok command →
      Respects R (executeAuthorized command snapshot.source owner occurredAt default)) :
    Respects R (executeCommand snapshot owner occurredAt default) := by
  unfold executeCommand
  split
  · exact .pure _
  · next command hcommand => exact (h command hcommand).bind fun _ => .pure _

theorem executeCommand_writes (h : commandTargets ⊆ targets) (snapshot : OwnerCommandSnapshot)
    (owner : AuthorizedOwner) (occurredAt : DateTime) (default : Bool) :
    Respects (WritesTo targets K) (executeCommand snapshot owner occurredAt default) :=
  executeCommand_respects fun _ _ => executeAuthorized_writes h _ _ _ _ _

theorem executeCommand_returns {snapshot : OwnerCommandSnapshot} (hreset : snapshot.isReset = false)
    (owner : AuthorizedOwner) (occurredAt : DateTime) (default : Bool) :
    Returns (fun execution : OwnerCommandExecution => execution.telegramActions = [])
      (executeCommand snapshot owner occurredAt default) := by
  unfold executeCommand
  split
  · exact .pure rfl
  · next command hcommand =>
    intro s a s' hx
    obtain ⟨result, s'', hresult, hx⟩ := Txn.bind_ok_iff.1 hx
    cases hx
    refine executeAuthorized_returns (fun c hc => ?_) _ _ _ _ _ _ _ hresult
    simp [OwnerCommandSnapshot.isReset, hcommand, hc] at hreset

theorem processOwnerCommand_writes (h : ownerCommandTargets ⊆ targets)
    (snapshot : OwnerCommandSnapshot) (occurredAt : DateTime) (default : Bool) :
    Respects (WritesTo targets (NewOutboxAction.Of updateId (snapshot.isReset = true)))
      (processOwnerCommand updateId snapshot occurredAt default) := by
  refine withoutReceipt_respects ?_
  refine (Respects.read _).bind fun destructiveMode =>
    (insertRedactedUpdate_writes (h (by simp)) _ _).bind fun _ =>
    (authorize_writes (fun _ ht => h (by revert ht; decide +revert)) _ _).bind fun owner => ?_
  cases owner with
  | none => exact .pure _
  | some owner =>
    have hreply (execution : OwnerCommandExecution)
        (hclean : execution.telegramActions ≠ [] → snapshot.isReset = true) :
        Respects (WritesTo targets (NewOutboxAction.Of updateId (snapshot.isReset = true))) (do
          enqueueOwnerTelegramActions updateId execution.telegramActions occurredAt
          enqueueDirectOwnerMessage updateId owner.ownerChatId execution.response occurredAt
            "OWNER_COMMAND_REPLY"
          if !destructiveMode then
            enqueueOwnerCommandTrace updateId owner.ownerChatId snapshot.messageId occurredAt
          pure RecordReceipt.recorded) :=
      (enqueueOwnerTelegramActions_writes (h (by simp)) _ hclean _).bind fun _ =>
        (enqueueDirectOwnerMessage_of (h (by simp)) _ _ _ .command rfl).bind fun _ =>
        .ite (fun _ => Respects.bind
          ((Respects.read _).bind fun _ =>
            enqueueDirectOwnerMessage_of (h (by simp)) _ _ _ .trace rfl)
          fun _ => .pure _) fun _ => .pure _
    have hexecute := executeCommand_writes (K := NewOutboxAction.Of updateId (snapshot.isReset = true))
      (fun _ ht => h (by revert ht; decide +revert)) snapshot owner occurredAt default
    by_cases hreset : snapshot.isReset = true
    · exact hexecute.bind fun execution => hreply execution fun _ => hreset
    · intro s receipt s' hx
      obtain ⟨execution, s₁, hexecuted, hx⟩ := Txn.bind_ok_iff.1 hx
      have hnone := executeCommand_returns (by simpa using hreset) _ _ _ _ _ _ hexecuted
      exact trans_of (WritesTo targets _) (hexecute _ _ _ hexecuted)
        (hreply execution (fun hne => absurd hnone hne) _ _ _ hx)

/-- An Owner command respects what each of its parts does. -/
theorem processOwnerCommand_respects {R : Database → Database → Prop} [Std.Refl R]
    [IsTrans Database R] {snapshot : OwnerCommandSnapshot} {occurredAt : DateTime} {default : Bool}
    (hupdate : Respects R (insertRedactedUpdate updateId .ownerCommand occurredAt))
    (hauthorize : Respects R (authorize snapshot.source occurredAt))
    (hexecute : ∀ owner, Respects R (executeCommand snapshot owner occurredAt default))
    (hactions : ∀ actions, Respects R (enqueueOwnerTelegramActions updateId actions occurredAt))
    (hreply : ∀ ownerChatId message suffix,
      Respects R (enqueueDirectOwnerMessage updateId ownerChatId message occurredAt suffix)) :
    Respects R (processOwnerCommand updateId snapshot occurredAt default) := by
  refine withoutReceipt_respects ((Respects.read _).bind fun destructiveMode =>
    hupdate.bind fun _ => hauthorize.bind fun owner => ?_)
  cases owner with
  | none => exact .pure _
  | some owner =>
    refine (hexecute owner).bind fun execution => (hactions _).bind fun _ =>
      (hreply _ _ _).bind fun _ => .ite (fun _ => ?_) fun _ => .pure _
    exact Respects.bind ((Respects.read _).bind fun _ => hreply _ _ _) fun _ => .pure _

/-- A start is the help command of the Owner, or an update with at most one message. -/
theorem processOwnerStart_respects {R : Database → Database → Prop} [Std.Refl R]
    [IsTrans Database R] {snapshot : OwnerCommandSnapshot} {occurredAt : DateTime} {default : Bool}
    (hhelp : Respects R
      (processOwnerCommand updateId { snapshot with command := .ok .help } occurredAt default))
    (hupdate : Respects R (insertRedactedUpdate updateId .ownerStart occurredAt))
    (hguide : ∀ chatId,
      Respects R (enqueuePrivateMessage updateId chatId .ownerSetupGuide occurredAt)) :
    Respects R (processOwnerStart updateId snapshot occurredAt default) := by
  have hrest (fromUserId chatId : Int) : Respects R (do
        if !snapshot.privateChat then throw (.invalidEvent "owner Start shape is invalid")
        withoutReceipt updateId do
          let owner ← loadOwnerIdentity
          if isOwnerStart fromUserId chatId owner then
            processOwnerCommand updateId { snapshot with command := .ok .help } occurredAt default
          else
            insertRedactedUpdate updateId .ownerStart occurredAt
            if owner = .unclaimed then
              enqueuePrivateMessage updateId chatId .ownerSetupGuide occurredAt
            pure RecordReceipt.recorded) :=
    .ite (fun _ => .throw _) fun _ => withoutReceipt_respects <|
      (Respects.of_readOnly loadOwnerIdentity_readOnly).bind fun _ => .ite (fun _ => hhelp) fun _ =>
      hupdate.bind fun _ => .ite (fun _ => (hguide _).bind fun _ => .pure _) fun _ => .pure _
  unfold processOwnerStart
  dsimp only
  split
  · refine (Respects.pure _).bind fun fromUserId => ?_
    split
    · exact (Respects.pure _).bind fun chatId => hrest fromUserId chatId
    · exact .throw_bind _ _
  · exact .throw_bind _ _

theorem processOwnerStart_writes (h : ownerCommandTargets ⊆ targets)
    (snapshot : OwnerCommandSnapshot) (occurredAt : DateTime) (default : Bool) :
    Respects (WritesTo targets (NewOutboxAction.Of updateId False))
      (processOwnerStart updateId snapshot occurredAt default) := by
  refine processOwnerStart_respects ?_ (insertRedactedUpdate_writes (h (by simp)) _ _)
    fun _ => enqueuePrivateMessage_writes (h (by simp)) _ _ _
  -- the help command asks for nothing to be deleted
  refine (processOwnerCommand_writes h _ _ _).through_mono fun st hst => ?_
  exact hst.mono (fun _ => id) fun a ha =>
    ⟨ha.source, ha.idempotencyKey, (fun hk => nomatch ha.cleans hk), ha.origin⟩

theorem recordOwnerClaimRejection_writes (h : [Target.update, .audit, .enqueue] ⊆ targets)
    (replyChatId : Option Int) (occurredAt : DateTime) :
    Respects (WritesTo targets (NewOutboxAction.Of updateId cleans))
      (recordOwnerClaimRejection updateId replyChatId occurredAt) := by
  refine withoutReceipt_respects ?_
  refine (insertRedactedUpdate_writes (h (by simp)) _ _).bind fun _ =>
    (insertOwnerClaimAudit_writes (h (by simp)) _ _).bind fun _ => ?_
  cases replyChatId with
  | none => exact .pure _
  | some chatId => exact (enqueuePrivateMessage_writes (h (by simp)) _ _ _).bind fun _ => .pure _

/-- What a claim may write to. -/
@[simp] def claimTargets : List Target :=
  [.connection, .candidate, .guard, .owner, .reconciliation, .update, .audit, .enqueue]

theorem tryPromoteClaimCandidate_writes (h : [Target.connection, .candidate] ⊆ targets)
    (snapshot : OwnerClaimSnapshot) (global : TelegramReconciliationState) (guard : CandidateGuard)
    (candidates : List BusinessConnectionCandidate)
    (authoritative : Option AuthoritativeBusinessConnection) (serviceNow : DateTime) :
    Respects (WritesTo targets K)
      (tryPromoteClaimCandidate snapshot global guard candidates authoritative serviceNow) := by
  unfold tryPromoteClaimCandidate
  split
  · exact .ite (fun _ => .pure _) fun _ => (promoteClaimCandidate_writes h _ _ _).bind fun _ =>
      .pure _
  · exact .pure _

theorem settleClaimCandidates_writes (h : Target.candidate ∈ targets) (promoted : Bool)
    (guard : CandidateGuard) (candidates : List BusinessConnectionCandidate)
    (authoritative : Option AuthoritativeBusinessConnection) (fromUserId : Int) :
    Respects (WritesTo targets K)
      (settleClaimCandidates promoted guard candidates authoritative fromUserId) :=
  .ite (fun _ => (Uow.deleteCandidate_writes h).bind fun _ => .pure _) fun _ =>
    .ite (fun _ => (deleteConnectionCandidatesForOtherUsers_writes h _).bind fun _ => .pure _)
      fun _ => (Uow.deleteCandidate_writes h).bind fun _ => .pure _

/-- What a claim does once the Owner is bound and the answer to its lookup is known. -/
def settleClaim (updateId : Int) (claim : ValidOwnerClaim) (snapshot : OwnerClaimSnapshot)
    (global : TelegramReconciliationState) (guard : CandidateGuard)
    (candidates : List BusinessConnectionCandidate)
    (authoritative : Option AuthoritativeBusinessConnection) (serviceNow : DateTime) :
    Uow RecordReceipt := do
  let promoted ← tryPromoteClaimCandidate snapshot global guard candidates authoritative serviceNow
  let connectionState ←
    settleClaimCandidates promoted guard candidates authoritative claim.fromUserId
  insertRedactedUpdate updateId .ownerClaim claim.occurredAt
  insertOwnerClaimAudit updateId true claim.occurredAt
  enqueueDirectOwnerMessage updateId claim.ownerChatId
    (.plain s!"claim succeeded connection={connectionState}") claim.occurredAt
    "OWNER_CLAIM_CONFIRMATION"
  pure .recorded

/-- A claim respects what each of its parts does. -/
theorem commitOwnerClaim_respects {R : Database → Database → Prop} [Std.Refl R]
    [IsTrans Database R] {claim : ValidOwnerClaim} {snapshot : OwnerClaimSnapshot}
    {answer : Option LookupAnswer} {serviceNow : DateTime}
    (hupdate : Respects R (insertRedactedUpdate updateId .ownerClaim claim.occurredAt))
    (haudit : ∀ success, Respects R (insertOwnerClaimAudit updateId success claim.occurredAt))
    (hreject : Respects R
      (enqueuePrivateMessage updateId claim.ownerChatId .ownerClaimRejected claim.occurredAt))
    (hprune : Respects R
      (pruneConnectionCandidates (serviceNow - candidateRetention) candidateLimit))
    (hclaim : ∀ floor, Respects R (claimOwner claim.fromUserId claim.ownerChatId floor serviceNow))
    (hfailed : Respects R (setTelegramAuthFailed serviceNow))
    (hpromote : ∀ global guard candidates authoritative, Respects R
      (tryPromoteClaimCandidate snapshot global guard candidates authoritative serviceNow))
    (hsettle : ∀ promoted guard candidates authoritative, Respects R
      (settleClaimCandidates promoted guard candidates authoritative claim.fromUserId))
    (hreply : ∀ message, Respects R
      (enqueueDirectOwnerMessage updateId claim.ownerChatId message claim.occurredAt
        "OWNER_CLAIM_CONFIRMATION")) :
    Respects R (commitOwnerClaim updateId claim snapshot answer serviceNow) := by
  refine withoutReceipt_respects ?_
  have hload (user : Int) : Respects R (candidatesForUser user) :=
    .of_readOnly (candidatesForUser_readOnly user)
  refine (Respects.of_readOnly loadOwnerIdentity_readOnly).bind fun owner => ?_
  cases owner with
  | claimed =>
    exact hupdate.bind fun _ => (haudit _).bind fun _ => hreject.bind fun _ => .pure _
  | unclaimed =>
    have hrest (global : TelegramReconciliationState) (guard : CandidateGuard)
        (candidates : List BusinessConnectionCandidate) : Respects R
        (settleClaim updateId claim snapshot global guard candidates
          (answer.bind Except.toOption) serviceNow) :=
      (hpromote _ _ _ _).bind fun _ => (hsettle _ _ _ _).bind fun _ => hupdate.bind fun _ =>
        (haudit _).bind fun _ => (hreply _).bind fun _ => .pure _
    refine (Respects.read _).bind fun global => (Respects.read _).bind fun _ =>
      (hload _).bind fun _ => hprune.bind fun _ => (Respects.read _).bind fun guard =>
      (hload _).bind fun candidates => (hclaim _).bind fun _ => ?_
    split
    · exact hfailed.bind fun _ => hrest global guard candidates
    · exact hrest global guard candidates

theorem commitOwnerClaim_writes (h : claimTargets ⊆ targets) (claim : ValidOwnerClaim)
    (snapshot : OwnerClaimSnapshot) (answer : Option LookupAnswer) (serviceNow : DateTime) :
    Respects (WritesTo targets (NewOutboxAction.Of updateId cleans))
      (commitOwnerClaim updateId claim snapshot answer serviceNow) :=
  commitOwnerClaim_respects (insertRedactedUpdate_writes (h (by simp)) _ _)
    (fun _ => insertOwnerClaimAudit_writes (h (by simp)) _ _)
    (enqueuePrivateMessage_writes (h (by simp)) _ _ _)
    (pruneConnectionCandidates_writes (fun _ ht => h (by revert ht; decide +revert)) _ _)
    (fun _ => claimOwner_writes (h (by simp)) _ _ _ _)
    (setTelegramAuthFailed_writes (fun _ ht => h (by revert ht; decide +revert)) _)
    (fun _ _ _ _ => tryPromoteClaimCandidate_writes
      (fun _ ht => h (by revert ht; decide +revert)) _ _ _ _ _ _)
    (fun _ _ _ _ => settleClaimCandidates_writes (h (by simp)) _ _ _ _ _)
    fun _ => enqueueDirectOwnerMessage_of (h (by simp)) _ _ _ .claim rfl

end OwnerUpdates

end ChatHygiene
