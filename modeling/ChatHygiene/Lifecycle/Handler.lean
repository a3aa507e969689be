import ChatHygiene.Footprint.Processing
import ChatHygiene.Lifecycle.Contracts
/-!
# Application refines the life of a conversation

An applied event commits exactly when the connection of its conversation is
stored and `Lifecycle.effect` accepts it, and then the conversation lives on as
`effect` says and no other conversation is touched.
-/

namespace ChatHygiene

open Txn (Yields Fails Succeeds)

/-- The conversation `c` of the update is in hand: its row is stored at the version of `c`, which
may differ in what is still to be saved. -/
structure Holding (updateId : Int) (key : ConversationKey) (c : Conversation) (db : Database) :
    Prop where
  update : db.processedUpdate.contains updateId = true
  key_eq : c.key = key
  row : ∃ r, db.conversation.lookup key = some r ∧ r.stateVersion = c.stateVersion

/-- A step on the conversation in hand: it is still in hand, its life is `l'` once saved, and no
other conversation has moved. -/
structure Moved (updateId : Int) (key : ConversationKey) (db : Database) (l' : Lifecycle)
    (c' : Conversation) (db' : Database) : Prop where
  holding : Holding updateId key c' db'
  life : c'.life (db'.openChallenge key) = l'
  others : ∀ k ≠ key, db'.openChallenge k = db.openChallenge k
  frame : Frame [.challenge, .ledger, .enqueue] db.toTables db'.toTables

/-- The move of an outcome: a conversation that keeps its state has nothing to be saved. -/
structure Answered (updateId : Int) (key : ConversationKey) (c : Conversation) (db : Database)
    (l' : Lifecycle) (c' : Conversation) (db' : Database) : Prop
    extends Moved updateId key db l' c' db' where
  kept : c'.state = c.state → c' = c

section

variable {updateId : Int} {facts : LifecycleFacts} {key : ConversationKey} {c : Conversation}
  {db db' : Database} {l' : Lifecycle}

theorem Holding.contains (h : Holding updateId key c db) : db.conversation.contains key = true := by
  obtain ⟨r, hr, -⟩ := h.row
  simp [Table.contains, hr]

theorem Holding.frame {targets : List Target} (h : Holding updateId key c db)
    (hframe : Frame targets db.toTables db'.toTables)
    (ht : targets ⊆ [.challenge, .ledger, .enqueue, .audit]) : Holding updateId key c db' where
  update := by
    rw [hframe.processedUpdate (fun m => by simpa using ht m) (fun m => by simpa using ht m)
      (fun m => by simpa using ht m)]
    exact h.update
  key_eq := h.key_eq
  row := by
    rw [hframe.conversation (fun m => by simpa using ht m) (fun m => by simpa using ht m)]
    exact h.row

/-- What is enqueued on the way does not matter to the conversation. -/
theorem Moved.enqueued {l' : Lifecycle} {c' : Conversation} {db'' : Database}
    (h : Moved updateId key db l' c' db') (hframe : Frame [.enqueue] db'.toTables db''.toTables) :
    Moved updateId key db l' c' db'' := by
  have hsame (k : ConversationKey) : db''.openChallenge k = db'.openChallenge k :=
    Database.openChallenge_congr (hframe.challenge (by simp) (by simp)).1
  exact
    { holding := h.holding.frame hframe (by simp)
      life := by rw [hsame, h.life]
      others := fun k hk => by rw [hsame, h.others k hk]
      frame := h.frame.trans (hframe.mono (by simp)) }

/-- The same conversation with other columns to save. -/
theorem Holding.with (h : Holding updateId key c db) {c' : Conversation} (hkey : c'.key = c.key)
    (hversion : c'.stateVersion = c.stateVersion) : Holding updateId key c' db where
  update := h.update
  key_eq := hkey.trans h.key_eq
  row := by
    rw [hversion]
    exact h.row

/-! ## What is enqueued -/

theorem enqueueAction_yields (h : db.processedUpdate.contains updateId = true)
    (payload : OutboxPayload) (batchIndex : Nat) (now : DateTime) :
    Yields (enqueueAction updateId key payload batchIndex now) db fun _ db' =>
      Frame [.enqueue] db.toTables db'.toTables := by
  unfold enqueueAction
  refine Yields.bind (enqueueOutboxAction_yields h) ?_
  rintro _ db' ⟨-, hframe⟩
  exact .pure hframe

theorem enqueueDelete_yields (h : db.processedUpdate.contains updateId = true)
    (messageIds : List Int) (now : DateTime) :
    Yields (enqueueDelete updateId key messageIds now) db fun _ db' =>
      Frame [.enqueue] db.toTables db'.toTables := by
  refine Yields.forEach (fun batch _ t ht => ?_) (.refl _)
  have hu : t.processedUpdate.contains updateId = true := by
    rw [ht.processedUpdate (by simp) (by simp) (by simp)]
    exact h
  exact (enqueueAction_yields hu _ _ _).mono fun _ _ h => ht.trans h

theorem recordInbound_yields {messageId : Int} (hmessage : facts.messageId = some messageId)
    (h : db.conversation.contains key = true) :
    Yields (recordInbound facts key) db fun _ db' => Frame [.ledger] db.toTables db'.toTables := by
  unfold recordInbound LifecycleFacts.requireMessageId
  rw [hmessage]
  refine Yields.bind_pure ?_
  refine Yields.bind (recordMessage_yields h) ?_
  exact fun _ _ hframe => .pure hframe

/-! ## Outcomes -/

theorem setTransition_of_ok {event : TransitionEvent} {s : ConversationState} (now : DateTime)
    (h : transition c.state event = .ok s) :
    setTransition c event now = pure { c with state := s, updatedAt := now } := by
  simp [setTransition, h]

theorem setTransition_of_error {event : TransitionEvent} {e : InvalidTransition} (now : DateTime)
    (h : transition c.state event = .error e) :
    setTransition c event now = throw (.application e.message) := by
  simp [setTransition, h]

/-- Closing a challenge by its id closes the open one of the conversation it belongs to. -/
theorem life_closed {challengeId : Nat} (o : Option ChallengeRow) :
    c.life (o.filter (·.id ≠ challengeId)) = (c.life o).closed challengeId := by
  cases o with
  | none => rfl
  | some d => by_cases h : d.id = challengeId <;> simp [Conversation.life, Lifecycle.closed,
      Option.filter, ChallengeRow.asOpen, h]

theorem ChallengeOf.filter_others {challengeId : Nat} (h : ChallengeOf db challengeId key)
    {k : ConversationKey} (hk : k ≠ key) :
    (db.openChallenge k).filter (·.id ≠ challengeId) = db.openChallenge k := by
  cases hd : db.openChallenge k with
  | none => rfl
  | some d =>
    obtain ⟨hmem, hkey, -⟩ := Database.openChallenge_eq_some_iff.1 hd
    have hne : d.id ≠ challengeId := fun hid => hk (hkey.symm.trans (h d hmem hid))
    simp [Option.filter, hne]

theorem applyChallengeStart_yields (hold : Holding updateId key c db) {expression answerHmac : String}
    {hmacKeyVersion : Int} {createdAt expiresAt : DateTime} {maxAttempts : Nat}
    (hl : (c.life (db.openChallenge key)).challenged (db.challengeSeq + 1) maxAttempts = some l') :
    Yields (applyChallengeStart updateId facts key c expression answerHmac hmacKeyVersion createdAt
      expiresAt maxAttempts) db (Answered updateId key c db l') := by
  unfold Lifecycle.challenged at hl
  split at hl
  · next hguard =>
    obtain ⟨s, hs, rfl⟩ := Lifecycle.moved_eq_some_iff.1 hl
    have hopen : db.openChallenge key = none := by simpa [Conversation.life] using hguard.2
    unfold applyChallengeStart
    rw [if_neg (by simp [hguard.1])]
    refine Yields.bind (createChallenge_yields rfl rfl hold.contains hopen) ?_
    rintro id db₁ ⟨⟨rfl, hnew, hothers⟩, hframe⟩
    have hold₁ := hold.frame hframe (by simp)
    change (db₁.openChallenge key).map ChallengeRow.asOpen = _ at hnew
    rw [setTransition_of_ok _ hs]
    refine Yields.bind_pure ?_
    refine Yields.bind (enqueueAction_yields hold₁.update _ _ _) ?_
    intro _ db₂ hframe₂
    refine .pure ⟨Moved.enqueued ⟨hold₁.with rfl rfl, ?_, hothers, hframe.mono (by simp)⟩ hframe₂,
      fun h => absurd h (transition_ne hs)⟩
    rw [Conversation.life, hnew]
    rfl
  · cases hl

theorem applyChallengeStart_fails {expression answerHmac : String}
    {hmacKeyVersion : Int} {createdAt expiresAt : DateTime} {maxAttempts : Nat}
    (hl : (c.life (db.openChallenge key)).challenged (db.challengeSeq + 1) maxAttempts = none) :
    Fails (applyChallengeStart updateId facts key c expression answerHmac hmacKeyVersion createdAt
      expiresAt maxAttempts) db := by
  unfold applyChallengeStart
  by_cases hmax : maxAttempts = 3
  · rw [if_neg (by simp [hmax])]
    by_cases hopen : db.openChallenge key = none
    · refine Txn.fails_bind_right fun id db₁ _ => Txn.fails_bind_left ?_ _
      have hguard : maxAttempts = 3 ∧ (c.life (db.openChallenge key)).challenge = none := by
        simp [hmax, Conversation.life, hopen]
      rw [Lifecycle.challenged, if_pos hguard, Lifecycle.moved_eq_none_iff] at hl
      obtain ⟨e, he⟩ := hl
      rw [setTransition_of_error _ he]
      exact Txn.fails_throw _ _
    · exact Txn.fails_bind_left (createChallenge_fails hopen) _
  · rw [if_pos hmax]
    exact Txn.fails_bind_left (Txn.fails_throw _ _) _

/-- A challenge settled by one message. -/
theorem applySettled_yields (hold : Holding updateId key c db) {challengeId : Nat}
    (hof : ChallengeOf db challengeId key) {event : TransitionEvent} {status : ChallengeStatus}
    (hl : ((c.life (db.openChallenge key)).closed challengeId).moved event = some l') :
    Yields (applySettled updateId facts key c challengeId event status) db
      (Answered updateId key c db l') := by
  obtain ⟨s, hs, rfl⟩ := Lifecycle.moved_eq_some_iff.1 hl
  unfold applySettled
  refine Yields.bind (closeChallenge_yields _ _) ?_
  rintro _ db₁ ⟨hclosed, hframe⟩
  have hold₁ := hold.frame hframe (by simp)
  rw [setTransition_of_ok _ hs]
  refine Yields.bind_pure ?_
  refine Yields.bind (enqueueAction_yields hold₁.update _ _ _) ?_
  intro _ db₂ hframe₂
  refine .pure ⟨Moved.enqueued ⟨hold₁.with rfl rfl, ?_, fun k hk => ?_, hframe.mono (by simp)⟩
    hframe₂, fun h => absurd h (transition_ne hs)⟩
  · rw [hclosed, ← life_closed]
    rfl
  · rw [hclosed, hof.filter_others hk]

theorem applySettled_fails {challengeId : Nat} {event : TransitionEvent} {status : ChallengeStatus}
    (hl : ((c.life (db.openChallenge key)).closed challengeId).moved event = none) :
    Fails (applySettled updateId facts key c challengeId event status) db := by
  unfold applySettled
  refine Txn.fails_bind_right fun _ db₁ _ => Txn.fails_bind_left ?_ _
  obtain ⟨e, he⟩ := Lifecycle.moved_eq_none_iff.1 hl
  rw [setTransition_of_error _ he]
  exact Txn.fails_throw _ _

/-- A wrong answer that is counted. -/
theorem counted_eq_some_iff {challengeId : Nat} {o : Option ChallengeRow} {l₁ : Lifecycle} :
    (c.life o).counted challengeId = some l₁ ↔
      ∃ d, o = some d ∧ d.id = challengeId ∧ d.attemptsUsed < d.maxAttempts ∧
        { c.life o with challenge := some ⟨d.id, d.attemptsUsed + 1, d.maxAttempts⟩ } = l₁ := by
  cases o with
  | none => simp [Lifecycle.counted, Conversation.life]
  | some d =>
    by_cases h : d.id = challengeId ∧ d.attemptsUsed < d.maxAttempts
    · simp [Lifecycle.counted, Conversation.life, ChallengeRow.asOpen, h]
    · simp only [Lifecycle.counted, Conversation.life, ChallengeRow.asOpen, Option.map_some, if_neg h,
        Option.some.injEq, exists_eq_left', reduceCtorEq, false_iff]
      exact fun hd => h ⟨hd.1, hd.2.1⟩

/-- The conversation after the last wrong answer, before its actions are enqueued. -/
theorem applyIncorrectAnswer_yields (hold : Holding updateId key c db) {challengeId : Nat}
    (hof : ChallengeOf db challengeId key) {exhausted : Bool} {attemptsRemaining : Nat}
    {blockExpiresAt : Option DateTime}
    (hl : ((c.life (db.openChallenge key)).counted challengeId).bind (fun l =>
      if exhausted then (l.closed challengeId).exhausted blockExpiresAt else some l) = some l') :
    Yields (applyIncorrectAnswer updateId facts key c challengeId exhausted attemptsRemaining
      blockExpiresAt) db (Answered updateId key c db l') := by
  -- the answer is counted first; only the last one that is allowed closes the challenge
  obtain ⟨l₁, hl₁, hl⟩ := Option.bind_eq_some_iff.1 hl
  obtain ⟨d, hd, hid, hlt, rfl⟩ := counted_eq_some_iff.1 hl₁
  unfold applyIncorrectAnswer
  refine Yields.bind (incrementChallengeAttempts_yields hd hid hlt) ?_
  rintro attempts db₁ ⟨⟨-, hcount, hothers⟩, hframe⟩
  have hold₁ := hold.frame hframe (by simp)
  cases exhausted with
  | false =>
    cases hl
    refine Yields.bind (enqueueAction_yields hold₁.update _ _ _) ?_
    intro _ db₂ hframe₂
    refine .pure ⟨Moved.enqueued ⟨hold₁, ?_, hothers, hframe.mono (by simp)⟩ hframe₂, fun _ => rfl⟩
    rw [Conversation.life, hcount]
    rfl
  | true =>
    refine Yields.bind (closeChallenge_yields _ _) ?_
    rintro _ db₂ ⟨hclosed, hframe₂⟩
    have hold₂ := hold₁.frame hframe₂ (by simp)
    have hopen₂ : db₂.openChallenge key = none := by
      obtain ⟨d₁, hd₁, hdopen⟩ := Option.map_eq_some_iff.1 hcount
      have hd₁id : d₁.id = challengeId := (congrArg OpenChallenge.id hdopen).trans hid
      simp [hclosed, hd₁, Option.filter, hd₁id]
    have hothers₂ (k : ConversationKey) (hk : k ≠ key) :
        db₂.openChallenge k = db.openChallenge k := by
      rw [hclosed, hothers k hk, hof.filter_others hk]
    have hframe₁₂ : Frame [.challenge, .ledger, .enqueue] db.toTables db₂.toTables :=
      (hframe.trans hframe₂).mono (by simp)
    -- the lifecycle forgets the challenge that the statement has closed
    have hclose : (Lifecycle.closed challengeId { c.life (db.openChallenge key) with
        challenge := some ⟨d.id, d.attemptsUsed + 1, d.maxAttempts⟩ }) = c.life none := by
      simp [Lifecycle.closed, Conversation.life, hid]
    simp only [if_true, hclose, Lifecycle.exhausted] at hl
    cases blockExpiresAt with
    | some expiresAt =>
      obtain ⟨l₂, hl₂, rfl⟩ := Option.map_eq_some_iff.1 hl
      obtain ⟨s, hs, rfl⟩ := Lifecycle.moved_eq_some_iff.1 hl₂
      dsimp only
      rw [setTransition_of_ok _ hs]
      refine Yields.bind_pure ?_
      refine Yields.bind (enqueueAction_yields hold₂.update _ _ _) ?_
      intro _ db₃ hframe₃
      refine .pure ⟨Moved.enqueued ⟨hold₂.with rfl rfl, ?_, hothers₂, hframe₁₂⟩ hframe₃,
        fun h => absurd h (transition_ne hs)⟩
      rw [hopen₂]
      rfl
    | none =>
      obtain ⟨s, hs, rfl⟩ := Lifecycle.moved_eq_some_iff.1 hl
      dsimp only
      rw [setTransition_of_ok _ hs]
      refine Yields.bind_pure ?_
      refine Yields.bind (enqueueAction_yields hold₂.update _ _ _) ?_
      intro _ db₃ hframe₃
      have hold₃ := hold₂.frame hframe₃ (by simp)
      refine Yields.bind (enqueueAction_yields hold₃.update _ _ _) ?_
      intro _ db₄ hframe₄
      refine .pure ⟨Moved.enqueued ⟨hold₂.with rfl rfl, ?_, hothers₂, hframe₁₂⟩
        (hframe₃.trans hframe₄), fun h => absurd h (transition_ne hs)⟩
      rw [hopen₂]
      rfl

/-- An answer is refused when it is not counted, or cannot end the verification. -/
theorem applyIncorrectAnswer_fails {challengeId : Nat} (hof : ChallengeOf db challengeId key)
    {exhausted : Bool} {attemptsRemaining : Nat} {blockExpiresAt : Option DateTime}
    (hl : ((c.life (db.openChallenge key)).counted challengeId).bind (fun l =>
      if exhausted then (l.closed challengeId).exhausted blockExpiresAt else some l) = none) :
    Fails (applyIncorrectAnswer updateId facts key c challengeId exhausted attemptsRemaining
      blockExpiresAt) db := by
  unfold applyIncorrectAnswer
  cases hcounted : (c.life (db.openChallenge key)).counted challengeId with
  | none =>
    refine Txn.fails_bind_left (incrementChallengeAttempts_fails fun d hd => ?_) _
    -- a challenge that could be counted would be the open one of this conversation
    by_contra hp
    simp only [Bool.not_eq_false, ChallengeRow.consumable, Bool.and_eq_true,
      decide_eq_true_eq, Option.isNone_iff_eq_none] at hp
    obtain ⟨⟨hid, hopen⟩, hlt⟩ := hp
    have hd := Database.openChallenge_eq_some_iff.2 ⟨hd, hof d hd hid, hopen⟩
    rw [counted_eq_some_iff.2 ⟨d, hd, hid, hlt, rfl⟩] at hcounted
    cases hcounted
  | some l₁ =>
    rw [hcounted, Option.bind_some] at hl
    obtain ⟨d, hd, hid, hlt, rfl⟩ := counted_eq_some_iff.1 hcounted
    cases exhausted with
    | false => cases hl
    | true =>
      refine Txn.fails_bind_right fun _ db₁ _ => Txn.fails_bind_right fun _ db₂ _ => ?_
      cases blockExpiresAt with
      | some expiresAt =>
        simp only [if_true, Lifecycle.exhausted, Option.map_eq_none_iff,
          Lifecycle.moved_eq_none_iff] at hl
        obtain ⟨e, he⟩ := hl
        dsimp only
        rw [setTransition_of_error _ he]
        exact Txn.fails_bind_left (Txn.fails_throw _ _) _
      | none =>
        simp only [if_true, Lifecycle.exhausted, Lifecycle.moved_eq_none_iff] at hl
        obtain ⟨e, he⟩ := hl
        dsimp only
        rw [setTransition_of_error _ he]
        exact Txn.fails_bind_left (Txn.fails_throw _ _) _

theorem applySpam_yields (hold : Holding updateId key c db) {messageId : Int}
    (hmessage : facts.messageId = some messageId)
    (hl : (c.life (db.openChallenge key)).spammed = some l') :
    Yields (applySpam updateId facts key c) db (Answered updateId key c db l') := by
  obtain ⟨l₁, hl₁, rfl⟩ := Option.map_eq_some_iff.1 hl
  obtain ⟨s, hs, rfl⟩ := Lifecycle.moved_eq_some_iff.1 hl₁
  unfold applySpam LifecycleFacts.requireMessageId
  rw [setTransition_of_ok _ hs, hmessage]
  refine Yields.bind_pure ?_
  refine Yields.bind (closeActiveChallenge_yields _) ?_
  rintro _ db₁ ⟨⟨hclosed, hothers⟩, hframe⟩
  have hold₁ := hold.frame hframe (by simp)
  refine Yields.bind_pure ?_
  refine Yields.bind (enqueueAction_yields hold₁.update _ _ _) ?_
  intro _ db₂ hframe₂
  have hold₂ := hold₁.frame hframe₂ (by simp)
  refine Yields.bind_read ?_
  refine Yields.bind (enqueueDelete_yields hold₂.update _ _) ?_
  intro _ db₃ hframe₃
  refine .pure ⟨Moved.enqueued ⟨hold₁.with rfl rfl, ?_, hothers, hframe.mono (by simp)⟩
    (hframe₂.trans hframe₃), fun h => absurd h (transition_ne hs)⟩
  rw [hclosed]
  rfl

theorem applySpam_fails (hl : (c.life (db.openChallenge key)).spammed = none) :
    Fails (applySpam updateId facts key c) db := by
  rw [Lifecycle.spammed, Option.map_eq_none_iff, Lifecycle.moved_eq_none_iff] at hl
  obtain ⟨e, he⟩ := hl
  unfold applySpam
  rw [setTransition_of_error _ he]
  exact Txn.fails_bind_left (Txn.fails_throw _ _) _

/-- **An outcome does to the conversation in hand what its life says.** -/
theorem applyInboundOutcome_yields (hold : Holding updateId key c db) {messageId : Int}
    (hmessage : facts.messageId = some messageId) {outcome : InboundOutcome}
    (hof : ∀ id, outcome.challengeId = some id → ChallengeOf db id key)
    (hl : (c.life (db.openChallenge key)).outcome (db.challengeSeq + 1) outcome = some l') :
    Yields (applyInboundOutcome updateId facts key c outcome) db (Answered updateId key c db l') := by
  cases outcome with
  | startChallenge => exact applyChallengeStart_yields hold hl
  | retain =>
    cases hl
    exact .pure ⟨⟨hold, rfl, fun _ _ => rfl, .refl _⟩, fun _ => rfl⟩
  | correct challengeId => exact applySettled_yields hold (hof challengeId rfl) hl
  | incorrect challengeId => exact applyIncorrectAnswer_yields hold (hof challengeId rfl) hl
  | expired challengeId => exact applySettled_yields hold (hof challengeId rfl) hl
  | spam => exact applySpam_yields hold hmessage hl

theorem applyInboundOutcome_fails {outcome : InboundOutcome}
    (hof : ∀ id, outcome.challengeId = some id → ChallengeOf db id key)
    (hl : (c.life (db.openChallenge key)).outcome (db.challengeSeq + 1) outcome = none) :
    Fails (applyInboundOutcome updateId facts key c outcome) db := by
  cases outcome with
  | startChallenge => exact applyChallengeStart_fails hl
  | retain => cases hl
  | correct challengeId => exact applySettled_fails hl
  | incorrect challengeId => exact applyIncorrectAnswer_fails (hof challengeId rfl) hl
  | expired challengeId => exact applySettled_fails hl
  | spam => exact applySpam_fails hl

end

end ChatHygiene
