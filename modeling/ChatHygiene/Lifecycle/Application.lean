import ChatHygiene.Lifecycle.Handler
import ChatHygiene.Lifecycle.Prepared
/-!
# Recorded events refine the life of a conversation

The contracts of the handler's actions, and of the transaction that applies a
recorded event: with genuine facts it commits exactly when the event is
`Applicable`, and then every conversation lives on as `Lifecycle.effect` says.
-/

namespace ChatHygiene

open Txn (Respects Yields Fails Succeeds)

/-- The conversation lives on as `l'`, and no other one has moved. -/
structure Lived (key : ConversationKey) (db : Database) (l' : Lifecycle) (db' : Database) :
    Prop where
  life : db'.lifecycle key = l'
  others : ∀ k ≠ key, db'.lifecycle k = db.lifecycle k
  frame : Frame handlerTargets db.toTables db'.toTables

section

variable {updateId : Int} {facts : LifecycleFacts} {key : ConversationKey} {c : Conversation}
  {db db' : Database} {l' : Lifecycle} {userId messageId : Int}

theorem key_of_optionalKey (h : facts.optionalKey = some key) : facts.key = pure key := by
  obtain ⟨hconnection, hchat⟩ := EventPreparer.optionalKey_eq_some_iff.1 h
  simp [LifecycleFacts.key, hconnection, hchat]

theorem requireUserId_of_some (h : facts.userId = some userId) :
    facts.requireUserId = pure userId := by
  simp [LifecycleFacts.requireUserId, h]

theorem requireMessageId_of_some (h : facts.messageId = some messageId) :
    facts.requireMessageId = pure messageId := by
  simp [LifecycleFacts.requireMessageId, h]

theorem key_ok (h : facts.key db = .ok (key, db')) : facts.optionalKey = some key ∧ db = db' := by
  have hsame := (key_readOnly facts).of_ok h
  unfold LifecycleFacts.key at h
  cases hconnection : facts.connectionId with
  | none =>
    rw [hconnection] at h
    cases h
  | some connectionId =>
    cases hchat : facts.chatId with
    | none =>
      rw [hconnection, hchat] at h
      cases h
    | some chatId =>
      rw [hconnection, hchat] at h
      obtain ⟨rfl, -⟩ := Prod.mk.inj (Except.ok.inj h)
      exact ⟨EventPreparer.optionalKey_eq_some_iff.2 ⟨hconnection, hchat⟩, hsame⟩

theorem requireMessageId_ok (h : facts.requireMessageId db = .ok (messageId, db')) :
    facts.messageId = some messageId ∧ db = db' := by
  have hsame := (requireMessageId_readOnly facts).of_ok h
  unfold LifecycleFacts.requireMessageId at h
  cases hsome : facts.messageId with
  | none =>
    rw [hsome] at h
    cases h
  | some found =>
    rw [hsome] at h
    obtain ⟨rfl, -⟩ := Prod.mk.inj (Except.ok.inj h)
    exact ⟨rfl, hsame⟩

/-- What follows the last write of a conversation does not change its life. -/
theorem Lived.then {targets : List Target} {db'' : Database} (h : Lived key db l' db')
    (hframe : Frame targets db'.toTables db''.toTables)
    (ht : targets ⊆ [.ledger, .enqueue, .audit]) : Lived key db l' db'' := by
  have hsame (k : ConversationKey) : db''.lifecycle k = db'.lifecycle k :=
    Database.lifecycle_of_frame hframe (fun m => by simpa using ht m) (fun m => by simpa using ht m)
      (fun m => by simpa using ht m)
  refine ⟨(hsame key).trans h.life, fun k hk => (hsame k).trans (h.others k hk),
    h.frame.trans (hframe.mono fun t m => ?_)⟩
  have := ht m
  simp only [List.mem_cons, List.not_mem_nil, or_false] at this
  rcases this with rfl | rfl | rfl <;> simp

/-- The conversation is in hand as it is stored, and nothing else has happened to any. -/
structure Ready (updateId : Int) (key : ConversationKey) (db : Database) (c : Conversation)
    (db' : Database) : Prop where
  holding : Holding updateId key c db'
  row : db'.conversation.lookup key = some c
  life : c.life (db'.openChallenge key) = db.lifecycle key
  others : ∀ k, db'.lifecycle k = db.lifecycle k
  frame : Frame [.conversation, .ledger, .enqueue] db.toTables db'.toTables

theorem Opened.ready (h : Opened db key c db') (hu : db.processedUpdate.contains updateId = true) :
    Ready updateId key db c db' where
  holding :=
    { update := by
        rw [h.frame.processedUpdate (by simp) (by simp) (by simp)]
        exact hu
      key_eq := h.key_eq
      row := ⟨c, h.row, rfl⟩ }
  row := h.row
  life := h.life
  others := h.others
  frame := h.frame.mono (by simp)

theorem Ready.then {targets : List Target} {db'' : Database} (h : Ready updateId key db c db')
    (hframe : Frame targets db'.toTables db''.toTables) (ht : targets ⊆ [.ledger, .enqueue]) :
    Ready updateId key db c db'' where
  holding := h.holding.frame hframe fun t m => by
    have := ht m
    simp only [List.mem_cons, List.not_mem_nil, or_false] at this
    rcases this with rfl | rfl <;> simp
  row := by
    rw [hframe.conversation (fun m => by simpa using ht m) (fun m => by simpa using ht m)]
    exact h.row
  life := by
    rw [Database.openChallenge_congr
      (hframe.challenge (fun m => by simpa using ht m) (fun m => by simpa using ht m)).1]
    exact h.life
  others k := (Database.lifecycle_of_frame hframe (fun m => by simpa using ht m)
    (fun m => by simpa using ht m) (fun m => by simpa using ht m)).trans (h.others k)
  frame := h.frame.trans (hframe.mono fun t m => by
    have := ht m
    simp only [List.mem_cons, List.not_mem_nil, or_false] at this
    rcases this with rfl | rfl <;> simp)

/-- Saving the conversation in hand ends its move. -/
theorem Ready.save (h : Ready updateId key db c db') {l : Lifecycle} {d : Conversation} {db'' : Database}
    (hmove : Moved updateId key db' l d db'') (now : DateTime) :
    Yields (saveConversation { d with updatedAt := now } d.stateVersion) db'' fun _ db₃ =>
      Lived key db l db₃ := by
  obtain ⟨row, hrow, hversion⟩ := hmove.holding.row
  have hkey := hmove.holding.key_eq
  subst hkey
  refine (saveConversation_yields (c := { d with updatedAt := now }) hrow hversion).mono ?_
  rintro _ db₃ ⟨⟨hlife, hothers⟩, hframe⟩
  refine ⟨?_, fun k hk => ?_, ?_⟩
  · rw [hlife]
    exact hmove.life
  · rw [hothers k hk, ← h.others k]
    exact Database.lifecycle_congr (by rw [hmove.frame.conversation (by simp) (by simp)])
      (hmove.others k hk)
  · exact ((h.frame.mono (by simp)).trans (hmove.frame.mono (by simp))).trans
      (hframe.mono (by simp))

/-! ## Inbound messages -/

theorem enqueueDetectionActions_yields (h : db.processedUpdate.contains updateId = true)
    (detection : DetectionFacts) (dryRunSpam : Bool) :
    Yields (enqueueDetectionActions updateId facts key detection dryRunSpam) db fun _ db' =>
      Frame [.enqueue] db.toTables db'.toTables := by
  have halert (t : Database) (ht : t.processedUpdate.contains updateId = true) :
      Yields (do
        if detection.error.isSome then
          enqueueAction updateId key
            (.sendOwnerMessage ⟨some .detectorFailed, none, none, none, none⟩) 0
            facts.occurredAt) t fun _ t' => Frame [.enqueue] t.toTables t'.toTables := by
    by_cases herror : detection.error.isSome = true
    · rw [if_pos herror]
      exact enqueueAction_yields ht _ _ _
    · rw [if_neg herror]
      exact .pure (.refl _)
  unfold enqueueDetectionActions
  cases dryRunSpam with
  | false => exact halert db h
  | true =>
    refine Yields.bind (enqueueAction_yields h _ _ _) ?_
    intro _ db₁ hframe
    have hu : db₁.processedUpdate.contains updateId = true := by
      rw [hframe.processedUpdate (by simp) (by simp) (by simp)]
      exact h
    exact (halert db₁ hu).mono fun _ _ h' => hframe.trans h'

/-- The challenge an outcome is about still belongs to the conversation. -/
theorem ChallengeOf.frame {targets : List Target} {challengeId : Nat}
    (h : ChallengeOf db challengeId key) (hframe : Frame targets db.toTables db'.toTables)
    (hchallenge : .challenge ∉ targets) (hdrop : .dropConnection ∉ targets) :
    ChallengeOf db' challengeId key := by
  unfold ChallengeOf
  rw [(hframe.challenge hchallenge hdrop).1]
  exact h

theorem applyInbound_yields (hu : db.processedUpdate.contains updateId = true)
    (hkey : facts.optionalKey = some key) (huser : facts.userId = some userId)
    (hmessage : facts.messageId = some messageId) {detection : DetectionFacts}
    (hscore : detection.score ≤ 100) {outcome : InboundOutcome} {dryRunSpam : Bool}
    (hconnection : db.businessConnection.contains key.connectionId = true)
    (hof : ∀ id, outcome.challengeId = some id → ChallengeOf db id key)
    (hl : (db.lifecycle key).outcome (db.challengeSeq + 1) outcome = some l') :
    Yields (applyInbound updateId facts detection outcome dryRunSpam) db fun _ db' =>
      Lived key db l' db' := by
  unfold applyInbound
  rw [key_of_optionalKey hkey, requireUserId_of_some huser]
  refine Yields.bind_pure (Yields.bind_pure ?_)
  refine Yields.bind (getOrCreateConversation_yields _ _ hconnection) ?_
  intro c db₁ hopened
  have hready₁ := hopened.ready hu
  refine Yields.bind (recordInbound_yields hmessage hready₁.holding.contains) ?_
  intro _ db₂ hframe₂
  have hready₂ := hready₁.then hframe₂ (by simp)
  refine Yields.bind (enqueueDetectionActions_yields hready₂.holding.update _ _) ?_
  intro _ db₃ hframe₃
  have hready₃ := hready₂.then hframe₃ (by simp)
  have hchallenges := hready₃.frame.challenge (by simp) (by simp)
  have houtcome : (c.life (db₃.openChallenge key)).outcome (db₃.challengeSeq + 1) outcome =
      some l' := by
    rw [hready₃.life, hchallenges.2]
    exact hl
  refine Yields.bind (applyInboundOutcome_yields hready₃.holding hmessage
    (fun id hid => (hof id hid).frame hready₃.frame (by simp) (by simp)) houtcome) ?_
  intro c' db₄ hmoved
  have haudit (t : Database) (ht : Lived key db l' t) :
      Yields (insertDetectionAudit updateId key c.state c'.state detection facts.occurredAt) t
        fun _ t' => Lived key db l' t' := by
    have hut : t.processedUpdate.contains updateId = true := by
      rw [ht.frame.processedUpdate (by simp) (by simp) (by simp)]
      exact hu
    refine Yields.bind (insertAuditEvent_yields (by simp [hscore]) (by simp [hut])) ?_
    exact fun _ t' hframe => .pure (ht.then hframe (by simp))
  split
  · exact Yields.bind (hready₃.save hmoved.toMoved _) fun _ => haudit
  · next hsame =>
    -- nothing has changed, so the stored conversation is the one in hand
    have hsame : c' = c := hmoved.kept (by simpa using fun h => hsame (.inl h))
    subst hsame
    have hrow : db₄.conversation.lookup key = some c' := by
      rw [hmoved.frame.conversation (by simp) (by simp)]
      exact hready₃.row
    refine haudit db₄ ⟨?_, fun k hk => ?_, ?_⟩
    · rw [Database.lifecycle_of_lookup hrow]
      exact hmoved.life
    · rw [← hready₃.others k]
      exact Database.lifecycle_congr (by rw [hmoved.frame.conversation (by simp) (by simp)])
        (hmoved.others k hk)
    · exact (hready₃.frame.mono (by simp)).trans (hmoved.frame.mono (by simp))

theorem applyInbound_fails (hu : db.processedUpdate.contains updateId = true)
    (hkey : facts.optionalKey = some key) (huser : facts.userId = some userId)
    (hmessage : facts.messageId = some messageId) {detection : DetectionFacts}
    {outcome : InboundOutcome} {dryRunSpam : Bool}
    (hof : ∀ id, outcome.challengeId = some id → ChallengeOf db id key)
    (hrefused : db.businessConnection.contains key.connectionId = true →
      (db.lifecycle key).outcome (db.challengeSeq + 1) outcome = none) :
    Fails (applyInbound updateId facts detection outcome dryRunSpam) db := by
  unfold applyInbound
  rw [key_of_optionalKey hkey, requireUserId_of_some huser]
  refine Txn.fails_bind_pure (Txn.fails_bind_pure ?_)
  cases hconnection : db.businessConnection.contains key.connectionId with
  | false => exact Txn.fails_bind_left (getOrCreateConversation_fails _ _ hconnection) _
  | true =>
    refine (getOrCreateConversation_yields _ _ hconnection).fails_bind ?_
    intro c db₁ hopened
    have hready₁ := hopened.ready hu
    refine (recordInbound_yields hmessage hready₁.holding.contains).fails_bind ?_
    intro _ db₂ hframe₂
    have hready₂ := hready₁.then hframe₂ (by simp)
    refine (enqueueDetectionActions_yields hready₂.holding.update _ _).fails_bind ?_
    intro _ db₃ hframe₃
    have hready₃ := hready₂.then hframe₃ (by simp)
    have hchallenges := hready₃.frame.challenge (by simp) (by simp)
    refine Txn.fails_bind_left (applyInboundOutcome_fails
      (fun id hid => (hof id hid).frame hready₃.frame (by simp) (by simp)) ?_) _
    rw [hready₃.life, hchallenges.2]
    exact hrefused hconnection

/-! ## The other actions -/

/-- The conversation in hand, saved as it is. -/
theorem Ready.touch (h : Ready updateId key db c db') (now : DateTime) :
    Yields (saveConversation { c with updatedAt := now } c.stateVersion) db' fun _ db'' =>
      Lived key db (db.lifecycle key) db'' :=
  h.save ⟨h.holding, h.life, fun _ _ => rfl, .refl _⟩ now

/-- The conversation in hand, as the last thing that happens to it. -/
theorem Ready.lived (h : Ready updateId key db c db') : Lived key db (db.lifecycle key) db' :=
  ⟨h.others key, fun k _ => h.others k, h.frame.mono (by simp)⟩

/-- Loading the conversation of an event, which is what fails when its connection is gone. -/
theorem Uow.fails_without_connection {α : Type} {f : Conversation → Uow α}
    (hconnection : db.businessConnection.contains key.connectionId = false) (now : DateTime) :
    Fails (getOrCreateConversation key userId now >>= f) db :=
  Txn.fails_bind_left (getOrCreateConversation_fails _ _ hconnection) _

theorem applyBlockedInbound_yields (hu : db.processedUpdate.contains updateId = true)
    (hkey : facts.optionalKey = some key) (huser : facts.userId = some userId)
    (hmessage : facts.messageId = some messageId)
    (hconnection : db.businessConnection.contains key.connectionId = true) :
    Yields (applyBlockedInbound updateId facts) db fun _ db' =>
      Lived key db (db.lifecycle key) db' := by
  unfold applyBlockedInbound
  rw [key_of_optionalKey hkey, requireUserId_of_some huser, requireMessageId_of_some hmessage]
  refine Yields.bind_pure (Yields.bind_pure (Yields.bind_pure ?_))
  refine Yields.bind (getOrCreateConversation_yields _ _ hconnection) ?_
  intro c db₁ hopened
  have hready₁ := hopened.ready hu
  refine Yields.bind (recordInbound_yields hmessage hready₁.holding.contains) ?_
  intro _ db₂ hframe₂
  have hready₂ := hready₁.then hframe₂ (by simp)
  refine Yields.bind (enqueueAction_yields hready₂.holding.update _ _ _) ?_
  intro _ db₃ hframe₃
  have hready₃ := hready₂.then hframe₃ (by simp)
  refine Yields.bind_read (Yields.bind (enqueueDelete_yields hready₃.holding.update _ _) ?_)
  intro _ db₄ hframe₄
  exact (hready₃.then hframe₄ (by simp)).touch _

theorem applyBlockedFailOpen_yields (hu : db.processedUpdate.contains updateId = true)
    (hkey : facts.optionalKey = some key) (huser : facts.userId = some userId)
    (hmessage : facts.messageId = some messageId)
    (hconnection : db.businessConnection.contains key.connectionId = true) :
    Yields (applyBlockedFailOpen facts) db fun _ db' => Lived key db (db.lifecycle key) db' := by
  unfold applyBlockedFailOpen
  rw [key_of_optionalKey hkey, requireUserId_of_some huser]
  refine Yields.bind_pure (Yields.bind_pure ?_)
  refine Yields.bind (getOrCreateConversation_yields _ _ hconnection) ?_
  intro c db₁ hopened
  have hready₁ := hopened.ready hu
  refine Yields.bind (recordInbound_yields hmessage hready₁.holding.contains) ?_
  intro _ db₂ hframe₂
  exact (hready₁.then hframe₂ (by simp)).touch _

/-- An Owner message activates every conversation. -/
theorem manualOwnerState_eq (c : Conversation) (now : DateTime) :
    ∃ c' : Conversation, manualOwnerState c now = pure c' ∧ c'.state = .active ∧ c'.key = c.key ∧
      c'.stateVersion = c.stateVersion ∧ c'.blockCount = c.blockCount := by
  have htransition (event : TransitionEvent) (h : transition c.state event = .ok .active) :
      ∃ c' : Conversation, setTransition c event now = pure c' ∧ c'.state = .active ∧
        c'.key = c.key ∧ c'.stateVersion = c.stateVersion ∧ c'.blockCount = c.blockCount :=
    ⟨_, setTransition_of_ok now h, rfl, rfl, rfl, rfl⟩
  unfold manualOwnerState
  cases hstate : c.state with
  | active => exact ⟨c, by simp, hstate, rfl, rfl, rfl⟩
  | spamSoftBlocked => exact htransition .ownerInitiatedMessage (by rw [hstate]; rfl)
  | new => exact htransition .manualOwnerReply (by rw [hstate]; rfl)
  | verifyPending => exact htransition .manualOwnerReply (by rw [hstate]; rfl)
  | verifiedWaitingOwner => exact htransition .manualOwnerReply (by rw [hstate]; rfl)
  | tempSoftBlocked => exact htransition .manualOwnerReply (by rw [hstate]; rfl)

theorem applyManualOwner_yields (hu : db.processedUpdate.contains updateId = true)
    (hkey : facts.optionalKey = some key) (huser : facts.userId = some userId)
    (hmessage : facts.messageId = some messageId)
    (hconnection : db.businessConnection.contains key.connectionId = true) :
    Yields (applyManualOwner facts) db fun _ db' =>
      Lived key db (db.lifecycle key).takenOver db' := by
  unfold applyManualOwner
  rw [key_of_optionalKey hkey, requireUserId_of_some huser, requireMessageId_of_some hmessage]
  refine Yields.bind_pure (Yields.bind_pure ?_)
  refine Yields.bind (getOrCreateConversation_yields _ _ hconnection) ?_
  intro c db₁ hopened
  have hready₁ := hopened.ready hu
  refine Yields.bind_pure (Yields.bind (recordMessage_yields hready₁.holding.contains) ?_)
  intro _ db₂ hframe₂
  have hready₂ := hready₁.then hframe₂ (by simp)
  refine Yields.bind (closeActiveChallenge_yields _) ?_
  rintro _ db₃ ⟨⟨hclosed, hothers⟩, hframe₃⟩
  obtain ⟨c', hc', hactive, hck, hversion, hcount⟩ := manualOwnerState_eq c facts.occurredAt
  rw [hc']
  refine Yields.bind_pure ?_
  refine hready₂.save (d := { c' with blockExpiresAt := none, blockReason := none })
    ⟨(hready₂.holding.frame hframe₃ (by simp)).with hck hversion, ?_, hothers,
      hframe₃.mono (by simp)⟩ _
  rw [hclosed, ← hready₂.life]
  simp [Conversation.life, Lifecycle.takenOver, hactive, hcount]

theorem applyBotMessage_yields (hu : db.processedUpdate.contains updateId = true)
    (hkey : facts.optionalKey = some key) (huser : facts.userId = some userId)
    (hmessage : facts.messageId = some messageId) (sender : PreparedSender)
    (hconnection : db.businessConnection.contains key.connectionId = true) :
    Yields (applyBotMessage facts sender) db fun _ db' =>
      Lived key db (db.lifecycle key) db' := by
  unfold applyBotMessage
  rw [key_of_optionalKey hkey, requireUserId_of_some huser, requireMessageId_of_some hmessage]
  refine Yields.bind_pure (Yields.bind_pure ?_)
  refine Yields.bind (getOrCreateConversation_yields _ _ hconnection) ?_
  intro c db₁ hopened
  have hready₁ := hopened.ready hu
  refine Yields.bind_pure (Yields.bind (recordMessage_yields hready₁.holding.contains) ?_)
  intro _ db₂ hframe₂
  exact .pure (hready₁.then hframe₂ (by simp)).lived

theorem markMessagesDeleted_yields (messageIds : List Int) (now : DateTime) :
    Yields (Txn.forEach (fun messageId => do
      let _ ← markMessageDeleted key messageId now) messageIds) db fun _ db' =>
      Frame [.ledger] db.toTables db'.toTables := by
  refine Yields.forEach (fun messageId _ t ht => ?_) (.refl _)
  refine Yields.bind (markMessageDeleted_yields _ _) ?_
  exact fun _ _ hframe => .pure (ht.trans hframe)

/-- The replies of the Owner that are not deleted. -/
def Database.ownerReplies (db : Database) (key : ConversationKey) : List LedgerMessage :=
  db.messageLedger.rows.filter fun m => m.key = key && m.manualOwnerReply && m.deletedAt.isNone

theorem Database.ownerReplies_of_frame {targets : List Target}
    (h : Frame targets db.toTables db'.toTables) (hledger : .ledger ∉ targets)
    (hdrop : .dropConnection ∉ targets) : db'.ownerReplies key = db.ownerReplies key := by
  unfold Database.ownerReplies
  rw [h.messageLedger hledger hdrop]

/-- Deletions leave a conversation active unless they leave it without a reply of the Owner. -/
theorem applyDeletions_yields (hu : db.processedUpdate.contains updateId = true)
    (hkey : facts.optionalKey = some key) (huser : facts.userId = some userId)
    (messageIds : List Int)
    (hconnection : db.businessConnection.contains key.connectionId = true) :
    Yields (applyDeletions facts messageIds) db fun _ db' =>
      ∃ noReplies, Lived key db ((db.lifecycle key).abandoned noReplies) db' ∧
        (noReplies = true → db'.ownerReplies key = []) := by
  unfold applyDeletions
  rw [key_of_optionalKey hkey, requireUserId_of_some huser]
  refine Yields.bind_pure (Yields.bind_pure ?_)
  refine Yields.bind (getOrCreateConversation_yields _ _ hconnection) ?_
  intro c db₁ hopened
  have hready₁ := hopened.ready hu
  refine Yields.bind (markMessagesDeleted_yields _ _) ?_
  intro _ db₂ hframe₂
  have hready₂ := hready₁.then hframe₂ (by simp)
  have hstate : (db.lifecycle key).state = c.state := by rw [← hready₂.life]; rfl
  refine Yields.bind_read ?_
  split
  · next h =>
    have htransition : transition c.state .allOwnerRepliesDeleted = .ok .new := by rw [h.1]; rfl
    rw [setTransition_of_ok _ htransition]
    refine Yields.bind_pure ?_
    have hsave := hready₂.save (l := (db.lifecycle key).abandoned true)
      (d := { c with state := .new, updatedAt := facts.occurredAt })
      ⟨hready₂.holding.with rfl rfl, by
        rw [Lifecycle.abandoned, if_pos ⟨hstate.trans h.1, rfl⟩, ← hready₂.life]
        rfl, fun _ _ => rfl, .refl _⟩ facts.occurredAt
    have hwrites (d : Conversation) : Respects (WritesTo [.conversation] fun _ => True)
        (saveConversation d c.stateVersion) := saveConversation_writes (by simp) _ _
    refine (hsave.and_respects (hwrites _)).mono ?_
    rintro _ db₃ ⟨hlived, hwrites⟩
    refine ⟨true, hlived, fun _ => ?_⟩
    have hnone : db₂.ownerReplies key = [] := by
      have hlength := congrArg List.length h.2
      rw [List.length_insertionSort, List.length_map] at hlength
      exact List.length_eq_zero_iff.1 hlength
    rw [← hnone, Database.ownerReplies_of_frame hwrites.frame (by simp) (by simp)]
  · refine .pure ⟨false, ?_, by simp⟩
    rw [Lifecycle.abandoned, if_neg (by simp)]
    exact hready₂.lived

/-- Every action on a conversation loads it first, and is rejected when its connection is gone. -/
theorem applyPreparedAction_fails_without_connection (hkey : facts.optionalKey = some key)
    (hcreates : facts.action.createsConversation = true)
    (hconnection : db.businessConnection.contains key.connectionId = false) :
    Fails (applyPreparedAction updateId facts facts.action) db := by
  have hload {α : Type} (x : Int → Conversation → Uow α) :
      Fails (facts.requireUserId >>= fun userId =>
        getOrCreateConversation key userId facts.occurredAt >>= x userId) db :=
    Txn.fails_bind_right fun userId t ht => by
      obtain rfl : db = t := requireUserId_readOnly facts _ _ _ ht
      exact Uow.fails_without_connection hconnection _
  have hkey := key_of_optionalKey hkey
  cases haction : facts.action with
  | inbound detection outcome dryRunSpam =>
    unfold applyPreparedAction applyInbound
    rw [hkey]
    exact Txn.fails_bind_pure (hload _)
  | blockedInbound =>
    unfold applyPreparedAction applyBlockedInbound
    rw [hkey]
    refine Txn.fails_bind_pure (Txn.fails_bind_right fun messageId t ht => ?_)
    obtain rfl : db = t := requireMessageId_readOnly facts _ _ _ ht
    exact hload _
  | blockedFailOpen =>
    unfold applyPreparedAction applyBlockedFailOpen
    rw [hkey]
    exact Txn.fails_bind_pure (hload _)
  | manualOwner =>
    unfold applyPreparedAction applyManualOwner
    rw [hkey]
    exact Txn.fails_bind_pure (hload _)
  | botMessage sender =>
    unfold applyPreparedAction applyBotMessage
    rw [hkey]
    exact Txn.fails_bind_pure (hload _)
  | messagesDeleted messageIds =>
    unfold applyPreparedAction applyDeletions
    rw [hkey]
    exact Txn.fails_bind_pure (hload _)
  | connectionChanged => simp [haction, PreparedAction.createsConversation] at hcreates
  | activeInbound => simp [haction, PreparedAction.createsConversation] at hcreates
  | ignore => simp [haction, PreparedAction.createsConversation] at hcreates

end

/-! ## Recorded events -/

/-- **When a recorded event can be applied**: the connection of its conversation is stored, and
the conversation accepts it. -/
structure PreparedEvent.Applicable (event : PreparedEvent) (db : Database) : Prop where
  connection : event.facts.action.createsConversation = true →
    ∀ key, event.facts.optionalKey = some key →
      db.businessConnection.contains key.connectionId = true
  accepted : ∀ key, event.facts.optionalKey = some key →
    (db.lifecycle key).effect (db.challengeSeq + 1) true event.facts.action ≠ none

/-- **What an applied event does**: the conversation it names lives on as `Lifecycle.effect` says,
and no other one moves. -/
structure Applied (event : PreparedEvent) (db db' : Database) : Prop where
  life : ∀ key, event.facts.optionalKey = some key → ∃ noReplies,
    (db.lifecycle key).effect (db.challengeSeq + 1) noReplies event.facts.action =
      some (db'.lifecycle key) ∧ (noReplies = true → db'.ownerReplies key = [])
  others : ∀ k, event.facts.optionalKey ≠ some k → db'.lifecycle k = db.lifecycle k

section

variable {event : PreparedEvent} {db db' : Database} {key : ConversationKey}

theorem Lived.applied {b : Bool} {l' : Lifecycle}
    (hkey : event.facts.optionalKey = some key)
    (hl : (db.lifecycle key).effect (db.challengeSeq + 1) b event.facts.action = some l')
    (h : Lived key db l' db') (hreplies : b = true → db'.ownerReplies key = []) :
    Applied event db db' ∧ Frame handlerTargets db.toTables db'.toTables := by
  refine ⟨⟨fun k hk => ⟨b, ?_⟩, fun k hk => ?_⟩, h.frame⟩
  · obtain rfl := Option.some.inj (hkey.symm.trans hk)
    rw [h.life, hl]
    exact ⟨rfl, hreplies⟩
  · refine h.others k ?_
    rintro rfl
    exact hk hkey

/-- Only the last Owner reply of a conversation is told from the others, and never rejected. -/
theorem Lifecycle.effect_eq_none_iff {l : Lifecycle} {nextId : Nat} {action : PreparedAction}
    {noReplies : Bool} : l.effect nextId noReplies action = none ↔
      ∃ detection outcome dryRunSpam, action = .inbound detection outcome dryRunSpam ∧
        l.outcome nextId outcome = none := by
  cases action <;> simp [Lifecycle.effect]

theorem applyPreparedAction_yields (hgenuine : event.facts.Genuine)
    (hbelongs : ∀ key, event.facts.optionalKey = some key → event.facts.action.Belongs db key)
    (hu : db.processedUpdate.contains event.updateId = true) (h : event.Applicable db) :
    Yields (applyPreparedAction event.updateId event.facts event.facts.action) db fun _ db' =>
      Applied event db db' ∧ Frame handlerTargets db.toTables db'.toTables := by
  by_cases hcreates : event.facts.action.createsConversation = true
  · obtain ⟨hsome, huser⟩ := hgenuine.named hcreates
    obtain ⟨key, hkey⟩ := Option.isSome_iff_exists.1 hsome
    obtain ⟨userId, huser⟩ := Option.isSome_iff_exists.1 huser
    have hconnection := h.connection hcreates key hkey
    have haccepted := h.accepted key hkey
    -- only a deletion names no message of its own
    have hmessage : (∀ ids, event.facts.action ≠ .messagesDeleted ids) →
        ∃ messageId, event.facts.messageId = some messageId := fun hids =>
      Option.isSome_iff_exists.1 (hgenuine.message hcreates hids)
    cases haction : event.facts.action with
    | inbound detection outcome dryRunSpam =>
      obtain ⟨messageId, hmessage⟩ := hmessage (by simp [haction])
      rw [haction] at haccepted
      obtain ⟨l', hl⟩ := Option.ne_none_iff_exists'.1 haccepted
      refine (applyInbound_yields hu hkey huser hmessage (hgenuine.score _ _ _ haction) hconnection
        (fun id hid => hbelongs key hkey id ?_) hl).mono fun _ _ hlived =>
          hlived.applied (b := false) hkey (by rw [haction]; exact hl) (by simp)
      rw [haction]
      exact hid
    | blockedInbound =>
      obtain ⟨messageId, hmessage⟩ := hmessage (by simp [haction])
      exact (applyBlockedInbound_yields hu hkey huser hmessage hconnection).mono
        fun _ _ hlived => hlived.applied (b := false) hkey (by rw [haction]; rfl) (by simp)
    | blockedFailOpen =>
      obtain ⟨messageId, hmessage⟩ := hmessage (by simp [haction])
      exact (applyBlockedFailOpen_yields hu hkey huser hmessage hconnection).mono
        fun _ _ hlived => hlived.applied (b := false) hkey (by rw [haction]; rfl) (by simp)
    | manualOwner =>
      obtain ⟨messageId, hmessage⟩ := hmessage (by simp [haction])
      exact (applyManualOwner_yields hu hkey huser hmessage hconnection).mono
        fun _ _ hlived => hlived.applied (b := false) hkey (by rw [haction]; rfl) (by simp)
    | botMessage sender =>
      obtain ⟨messageId, hmessage⟩ := hmessage (by simp [haction])
      exact (applyBotMessage_yields hu hkey huser hmessage sender hconnection).mono
        fun _ _ hlived => hlived.applied (b := false) hkey (by rw [haction]; rfl) (by simp)
    | messagesDeleted messageIds =>
      refine (applyDeletions_yields hu hkey huser messageIds hconnection).mono ?_
      rintro _ _ ⟨noReplies, hlived, hreplies⟩
      exact hlived.applied (b := noReplies) hkey (by rw [haction]; rfl) hreplies
    | connectionChanged => simp [haction, PreparedAction.createsConversation] at hcreates
    | activeInbound => simp [haction, PreparedAction.createsConversation] at hcreates
    | ignore => simp [haction, PreparedAction.createsConversation] at hcreates
  · -- an action on no conversation writes nothing
    have hnothing (haction : event.facts.action = .activeInbound ∨ event.facts.action = .ignore) :
        Applied event db db := by
      refine ⟨fun key _ => ⟨false, ?_, by simp⟩, fun _ _ => rfl⟩
      rcases haction with haction | haction <;> rw [haction] <;> rfl
    cases haction : event.facts.action with
    | connectionChanged o c e r => exact absurd haction (hgenuine.noConnectionChange o c e r)
    | activeInbound => exact Yields.pure ⟨hnothing (.inl haction), .refl _⟩
    | ignore => exact Yields.pure ⟨hnothing (.inr haction), .refl _⟩
    | _ => simp [haction, PreparedAction.createsConversation] at hcreates

theorem applyPreparedAction_fails (hgenuine : event.facts.Genuine)
    (hbelongs : ∀ key, event.facts.optionalKey = some key → event.facts.action.Belongs db key)
    (hu : db.processedUpdate.contains event.updateId = true) (h : ¬event.Applicable db) :
    Fails (applyPreparedAction event.updateId event.facts event.facts.action) db := by
  by_cases hcreates : event.facts.action.createsConversation = true
  · obtain ⟨hsome, huser⟩ := hgenuine.named hcreates
    obtain ⟨key, hkey⟩ := Option.isSome_iff_exists.1 hsome
    obtain ⟨userId, huser⟩ := Option.isSome_iff_exists.1 huser
    cases hconnection : db.businessConnection.contains key.connectionId with
    | false => exact applyPreparedAction_fails_without_connection hkey hcreates hconnection
    | true =>
      have honly (k : ConversationKey) (hk : event.facts.optionalKey = some k) : k = key :=
        Option.some.inj (hk.symm.trans hkey)
      have hrejected : (db.lifecycle key).effect (db.challengeSeq + 1) true event.facts.action =
          none := by
        by_contra haccepted
        exact h ⟨fun _ k hk => honly k hk ▸ hconnection, fun k hk => honly k hk ▸ haccepted⟩
      obtain ⟨detection, outcome, dryRunSpam, haction, hnone⟩ :=
        Lifecycle.effect_eq_none_iff.1 hrejected
      obtain ⟨messageId, hmessage⟩ :=
        Option.isSome_iff_exists.1 (hgenuine.message hcreates (by simp [haction]))
      rw [haction]
      refine applyInbound_fails hu hkey huser hmessage (fun id hid => hbelongs key hkey id ?_)
        fun _ => hnone
      rw [haction]
      exact hid
  · refine absurd ⟨fun hc => absurd hc hcreates, fun key hkey hnone => ?_⟩ h
    obtain ⟨detection, outcome, dryRunSpam, haction, -⟩ := Lifecycle.effect_eq_none_iff.1 hnone
    simp [haction, PreparedAction.createsConversation] at hcreates

theorem enqueueDryRunTrace_yields (hu : db.processedUpdate.contains event.updateId = true)
    (facts : LifecycleFacts) :
    Yields (enqueueDryRunTrace event facts) db fun _ db' =>
      Frame [.enqueue] db.toTables db'.toTables := by
  unfold enqueueDryRunTrace
  split
  · exact .pure (.refl _)
  · split
    · exact .pure (.refl _)
    · refine Yields.bind_read (Yields.bind_read ?_)
      refine Yields.bind (enqueueOutboxAction_yields hu) ?_
      rintro _ db' ⟨-, hframe⟩
      exact .pure hframe

theorem LifecycleHandler.apply_yields (hgenuine : event.facts.Genuine)
    (hbelongs : ∀ key, event.facts.optionalKey = some key → event.facts.action.Belongs db key)
    (hu : db.processedUpdate.contains event.updateId = true) (h : event.Applicable db) :
    Yields (LifecycleHandler.apply event) db fun _ db' =>
      Applied event db db' ∧ Frame handlerTargets db.toTables db'.toTables := by
  unfold LifecycleHandler.apply
  refine Yields.bind (applyPreparedAction_yields hgenuine hbelongs hu h) ?_
  rintro _ db₁ ⟨happlied, hframe⟩
  have hu₁ : db₁.processedUpdate.contains event.updateId = true := by
    rw [hframe.processedUpdate (by simp) (by simp) (by simp)]
    exact hu
  refine (enqueueDryRunTrace_yields hu₁ _).mono fun _ db₂ hframe₂ => ?_
  have hsame (k : ConversationKey) : db₂.lifecycle k = db₁.lifecycle k :=
    Database.lifecycle_of_frame hframe₂ (by simp) (by simp) (by simp)
  refine ⟨⟨fun key hkey => ?_, fun k hk => ?_⟩, hframe.trans (hframe₂.mono (by simp))⟩
  · rw [hsame, Database.ownerReplies_of_frame hframe₂ (by simp) (by simp)]
    exact happlied.life key hkey
  · rw [hsame]
    exact happlied.others k hk

/-! ## The transaction that applies a recorded event -/

/-- The update is applied, and no other row of the event log has changed. -/
structure Settled (updateId : Int) (db db' : Database) : Prop where
  applied : (db'.processedUpdate.lookup updateId).map (·.status) = some .applied
  others : ∀ k ≠ updateId, db'.processedUpdate.lookup k = db.processedUpdate.lookup k

variable {updateId : Int} {row : ProcessedUpdate}

/-- Marking a recorded update applied changes its row and nothing else. -/
theorem markApplied_yields (hrow : db.processedUpdate.lookup updateId = some row)
    (hrecorded : row.status = .recorded) (now : DateTime) :
    Yields (markApplied updateId now) db fun affected db' =>
      (affected = 1 ∧ Settled updateId db db') ∧ Frame [.update] db.toTables db'.toTables := by
  have hid := Table.key_of_lookup hrow
  have haffected : db.processedUpdate.affected
      (fun u => u.updateId = updateId && u.status = .recorded) = 1 := by
    rw [Table.affected_key (k := updateId) _ (by simp +contextual)]
    simp [hrow, hid, hrecorded]
  refine yields_frame ?_ (markApplied_writes (List.mem_singleton.2 rfl) updateId now)
  unfold markApplied Uow.updateUpdate
  refine Yields.mono (Uow.statement_yields rfl) ?_
  rintro n db' ⟨rfl, hdb⟩
  refine ⟨haffected, ⟨?_, fun k hk => ?_⟩⟩
  · rw [hdb]
    simp [hrow, hid, hrecorded]
  · rw [hdb]
    simp only [Table.lookup_update]
    cases hk' : db.processedUpdate.lookup k with
    | none => rfl
    | some r =>
      have hne : r.updateId ≠ updateId := fun e => hk ((Table.key_of_lookup hk').symm.trans e)
      simp [hne]

/-- **A recorded event that is applicable is applied.** -/
theorem applyRecordedEvent_yields (hrow : db.processedUpdate.lookup updateId = some row)
    (hrecorded : row.status = .recorded) (hevent : row.event = some event)
    (hid : event.updateId = updateId) (hgenuine : event.facts.Genuine)
    (hbelongs : ∀ key, event.facts.optionalKey = some key → event.facts.action.Belongs db key)
    (h : event.Applicable db) (now : DateTime) :
    Yields (applyRecordedEvent updateId now) db fun receipt db' =>
      receipt = .applied ∧ Applied event db db' ∧ Settled updateId db db' ∧
        Frame (.update :: handlerTargets) db.toTables db'.toTables := by
  subst hid
  have hu : db.processedUpdate.contains event.updateId = true := by simp [Table.contains, hrow]
  unfold applyRecordedEvent
  refine Yields.bind_read ?_
  rw [hrow]
  dsimp only
  rw [hrecorded, hevent]
  refine Yields.bind (LifecycleHandler.apply_yields hgenuine hbelongs hu h) ?_
  rintro _ db₁ ⟨happlied, hframe⟩
  have hlog := hframe.processedUpdate (by simp) (by simp) (by simp)
  have hrow₁ : db₁.processedUpdate.lookup event.updateId = some row := by rw [hlog, hrow]
  refine Yields.bind (markApplied_yields hrow₁ hrecorded now) ?_
  rintro _ db₂ ⟨⟨rfl, hsettled⟩, hframe₂⟩
  have hsame (k : ConversationKey) : db₂.lifecycle k = db₁.lifecycle k :=
    Database.lifecycle_of_frame hframe₂ (by simp) (by simp) (by simp)
  refine .pure ⟨rfl, ⟨fun key hkey => ?_, fun k hk => ?_⟩, ⟨hsettled.applied, fun k hk => ?_⟩,
    (hframe.mono (by simp)).trans (hframe₂.mono (by simp))⟩
  · rw [hsame, Database.ownerReplies_of_frame hframe₂ (by simp) (by simp)]
    exact happlied.life key hkey
  · rw [hsame]
    exact happlied.others k hk
  · rw [hsettled.others k hk, hlog]

/-- A recorded event that is not applicable stays recorded: its application is rolled back. -/
theorem applyRecordedEvent_fails (hrow : db.processedUpdate.lookup updateId = some row)
    (hrecorded : row.status = .recorded) (hevent : row.event = some event)
    (hid : event.updateId = updateId) (hgenuine : event.facts.Genuine)
    (hbelongs : ∀ key, event.facts.optionalKey = some key → event.facts.action.Belongs db key)
    (h : ¬event.Applicable db) (now : DateTime) : Fails (applyRecordedEvent updateId now) db := by
  subst hid
  have hu : db.processedUpdate.contains event.updateId = true := by simp [Table.contains, hrow]
  unfold applyRecordedEvent
  refine Txn.fails_bind_read ?_
  rw [hrow]
  dsimp only
  rw [hrecorded, hevent]
  refine Txn.fails_bind_left (Txn.fails_bind_left ?_ _) _
  exact applyPreparedAction_fails hgenuine hbelongs hu h

end

end ChatHygiene
