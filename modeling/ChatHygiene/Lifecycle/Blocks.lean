import ChatHygiene.Lifecycle.Transitions
/-!
# Blocks

State, expiry and reason of a block are columns of their own, and no statement
checks one against another. In every reachable world they agree all the same,
so the expiry pass finds every temporary block it has to end.
-/

namespace ChatHygiene

open Txn (Respects Yields commit)

namespace Lifecycle

variable {l l' : Lifecycle} {action : PreparedAction} {nextId : Nat} {noReplies : Bool}

/-! ## The block -/

/-- The block of a conversation follows its state. -/
structure BlockFields (l : Lifecycle) : Prop where
  expires : l.state = .tempSoftBlocked ↔ l.blockExpiresAt.isSome = true
  reason : l.state.blocked = true ↔ l.blockReason.isSome = true

theorem blockFields_initial : initial.BlockFields where
  expires := by simp [initial]
  reason := by simp [initial, ConversationState.blocked]

/-- Outside the blocks there is no block. -/
theorem BlockFields.unblocked (h : l.BlockFields) (hstate : l.state.blocked = false) :
    l.blockExpiresAt = none ∧ l.blockReason = none := by
  constructor
  · have hne : l.state ≠ .tempSoftBlocked := by
      intro htemp
      rw [htemp] at hstate
      cases hstate
    have hexpires := h.expires
    simpa [hne] using hexpires
  · have hreason := h.reason
    simpa [hstate] using hreason

theorem blockFields_of_unblocked (hstate : l.state.blocked = false) (hexpires : l.blockExpiresAt = none)
    (hreason : l.blockReason = none) : l.BlockFields := by
  refine ⟨?_, by simp [hstate, hreason]⟩
  have hne : l.state ≠ .tempSoftBlocked := by
    intro htemp
    rw [htemp] at hstate
    cases hstate
  simp [hne, hexpires]

/-- A move between states that are not blocked leaves the block alone, and there is none. -/
theorem BlockFields.moved (h : l.BlockFields) (hstate : l.state.blocked = false)
    (hstate' : l'.state.blocked = false) (hexpires : l'.blockExpiresAt = l.blockExpiresAt)
    (hreason : l'.blockReason = l.blockReason) : l'.BlockFields := by
  obtain ⟨hnone, hnone'⟩ := h.unblocked hstate
  exact blockFields_of_unblocked hstate' (hexpires.trans hnone) (hreason.trans hnone')

theorem outcome_blockFields (h : l.BlockFields) {outcome : InboundOutcome}
    (hl : l.outcome nextId outcome = some l') : l'.BlockFields := by
  cases outcome with
  | startChallenge e a v c x maxAttempts =>
    simp only [Lifecycle.outcome, challenged] at hl
    split at hl
    · obtain ⟨s, hs, rfl⟩ := moved_eq_some_iff.1 hl
      obtain ⟨hnew, rfl⟩ := transition_safeFirstInbound_ok_iff.1 hs
      exact h.moved (by rw [show l.state = _ from hnew]; rfl) rfl rfl rfl
    · cases hl
  | retain =>
    cases hl
    exact h
  | correct challengeId =>
    obtain ⟨s, hs, rfl⟩ := moved_eq_some_iff.1 hl
    obtain ⟨hpending, rfl⟩ := transition_verificationSucceeded_ok_iff.1 hs
    exact h.moved (by rw [show l.state = _ from hpending]; rfl) rfl rfl rfl
  | incorrect challengeId exhausted r b =>
    obtain ⟨l₁, hcounted, hl⟩ := Option.bind_eq_some_iff.1 hl
    obtain ⟨challenge, rfl⟩ := counted_eq hcounted
    cases exhausted with
    | false =>
      cases hl
      exact ⟨h.expires, h.reason⟩
    | true =>
      simp only [if_true, Lifecycle.exhausted] at hl
      cases b with
      | some expiresAt =>
        obtain ⟨l₂, hmoved, rfl⟩ := Option.map_eq_some_iff.1 hl
        obtain ⟨s, hs, rfl⟩ := moved_eq_some_iff.1 hmoved
        obtain ⟨-, rfl⟩ := transition_verificationExhausted_ok_iff.1 hs
        exact ⟨by simp, by simp [ConversationState.blocked]⟩
      | none =>
        obtain ⟨s, hs, rfl⟩ := moved_eq_some_iff.1 hl
        obtain ⟨hpending, rfl⟩ := transition_challengeExpired_ok_iff.1 hs
        exact h.moved (by rw [show l.state = _ from hpending]; rfl) rfl rfl rfl
  | expired challengeId =>
    obtain ⟨s, hs, rfl⟩ := moved_eq_some_iff.1 hl
    obtain ⟨hpending, rfl⟩ := transition_challengeExpired_ok_iff.1 hs
    exact h.moved (by rw [show l.state = _ from hpending]; rfl) rfl rfl rfl
  | spam =>
    obtain ⟨l₁, hmoved, rfl⟩ := Option.map_eq_some_iff.1 hl
    obtain ⟨s, hs, rfl⟩ := moved_eq_some_iff.1 hmoved
    obtain ⟨hstate, rfl⟩ := transition_spamDetected_ok_iff.1 hs
    -- spam is only detected where there is no block, so it finds no expiry to leave behind
    have hunblocked : l.state.blocked = false := by
      rcases hstate with hstate | hstate | hstate <;> rw [hstate] <;> rfl
    have hnone := (h.unblocked hunblocked).1
    exact ⟨by simp [hnone], by simp [ConversationState.blocked]⟩

/-- **An applied event keeps the block with its state.** -/
theorem effect_blockFields (h : l.BlockFields)
    (hl : l.effect nextId noReplies action = some l') : l'.BlockFields := by
  cases action with
  | inbound detection outcome dryRunSpam => exact outcome_blockFields h hl
  | manualOwner =>
    cases hl
    exact blockFields_of_unblocked rfl rfl rfl
  | messagesDeleted messageIds =>
    cases hl
    unfold abandoned
    split
    · next hactive => exact h.moved (by rw [hactive.1]; rfl) rfl rfl rfl
    · exact h
  | _ =>
    cases hl
    exact h

end Lifecycle

/-! ## Along a run -/

theorem Conversation.Renews.blockFields {reset : Prop} {c c' : Conversation}
    (h : c.Renews reset c') {challenge challenge' : Option ChallengeRow}
    (hblock : (c.life challenge).BlockFields) : (c'.life challenge').BlockFields := by
  cases h with
  | kept hstate hexpires hreason =>
    refine ⟨?_, ?_⟩
    · simpa only [Conversation.life, hstate, hexpires] using hblock.expires
    · simpa only [Conversation.life, hstate, hreason] using hblock.reason
  | expired hpending hstate hexpires hreason =>
    exact hblock.moved (by simp only [Conversation.life, hpending]; rfl)
      (by simp only [Conversation.life, hstate]; rfl) hexpires hreason
  | released _ hstate hexpires hreason =>
    exact Lifecycle.blockFields_of_unblocked (by simp only [Conversation.life, hstate]; rfl) hexpires
      hreason

/-- **In every reachable world, the block of a conversation follows its state.** -/
theorem World.blockFields {w : World} (h : service.Reachable w) (key : ConversationKey) :
    (w.db.lifecycle key).BlockFields := by
  refine h.invariant (P := fun w => ∀ key, (w.db.lifecycle key).BlockFields) ?_ ?_ key
  · rintro w ⟨now, rfl⟩ key
    rw [Database.lifecycle_of_lookup_none rfl]
    exact Lifecycle.blockFields_initial
  · intro w op w' hw hblocks _ hstep key
    rcases (World.eventsPrepared hw).step_renewed hstep with
      ⟨row, event, preparedIn, happlies⟩ | hrenewed
    · by_cases hkey : event.facts.optionalKey = some key
      · obtain ⟨noReplies, heffect, -⟩ := happlies.applied.life key hkey
        exact Lifecycle.effect_blockFields (hblocks key) heffect
      · rw [happlies.applied.others key hkey]
        exact hblocks key
    · cases hc : w'.db.conversation.lookup key with
      | none =>
        rw [Database.lifecycle_of_lookup_none hc]
        exact Lifecycle.blockFields_initial
      | some c =>
        obtain ⟨c₀, hc₀, hrenews⟩ := hrenewed key c hc
        have hblock := hblocks key
        rw [Database.lifecycle_of_lookup hc₀] at hblock
        rw [Database.lifecycle_of_lookup hc]
        exact hrenews.blockFields hblock

/-! ## The end of a temporary block -/

section

variable {db : Database} {key : ConversationKey} {c : Conversation}

theorem renewConversations_yields (p : Conversation → Bool) (f : Conversation → Conversation)
    (hf : ∀ c, (f c).key = c.key) (now : DateTime) :
    Yields (renewConversations p f hf now) db fun _ db' =>
      ∀ k, db'.conversation.lookup k = (db.conversation.lookup k).map fun c =>
        if p c then { f c with state := .new, updatedAt := now, stateVersion := c.stateVersion + 1 }
        else c := by
  unfold renewConversations Uow.updateConversation
  refine Yields.mono (Uow.statement_yields rfl) ?_
  rintro _ db' ⟨-, hdb⟩ k
  rw [hdb]
  exact Table.lookup_update _ _ _ (by exact hf) k

theorem enqueueExpiryEdit_yields (challenge : ChallengeRecord) (now : DateTime) :
    Yields (enqueueExpiryEdit challenge now) db fun _ db' =>
      Frame [.enqueue] db.toTables db'.toTables := by
  unfold enqueueExpiryEdit
  refine Yields.bind_read ?_
  cases hfind : db.outboxAction.rows.find? (OutboxActionRow.sendsChallenge challenge.id) with
  | none => exact .pure (.refl _)
  | some a =>
    -- the action is stored, so the update it names is, too
    have hsource := db.consistent.updates.outboxFk a (List.mem_of_find?_eq_some hfind)
    refine Yields.bind (enqueueOutboxAction_yields hsource) ?_
    rintro _ db' ⟨-, hframe⟩
    exact .pure hframe

/-- The expiry pass does not reach a blocked conversation by a challenge. -/
theorem expireChallenge_yields (hc : db.conversation.lookup key = some c)
    (htemp : c.state = .tempSoftBlocked) (now : DateTime) (challenge : ChallengeRecord) :
    Yields (expireChallenge now challenge) db fun _ db' =>
      db'.conversation.lookup key = some c := by
  refine Yields.bind (closeChallenges_yields _ _) ?_
  rintro closed db₁ ⟨-, hframe⟩
  have hc₁ : db₁.conversation.lookup key = some c := by
    rw [hframe.conversation (by simp) (by simp)]
    exact hc
  split
  · exact .pure hc₁
  · refine Yields.bind (renewConversations_yields _ _ _ _) ?_
    intro _ db₂ hrow
    have hc₂ : db₂.conversation.lookup key = some c := by
      rw [hrow, hc₁]
      simp [htemp]
    split
    · refine Yields.bind (enqueueExpiryEdit_yields _ _) ?_
      intro _ db₃ hframe₃
      refine .pure ?_
      rw [hframe₃.conversation (by simp) (by simp)]
      exact hc₂
    · exact .pure hc₂

theorem expireChallenges_yields (now : DateTime) (challenges : List ChallengeRecord)
    (hc : db.conversation.lookup key = some c) (htemp : c.state = .tempSoftBlocked) :
    Yields (expireChallenges now challenges) db fun _ db' =>
      db'.conversation.lookup key = some c := by
  induction challenges generalizing db with
  | nil => exact .pure hc
  | cons challenge challenges ih =>
    refine Yields.bind (expireChallenge_yields hc htemp now challenge) ?_
    intro _ db₁ hc₁
    exact (ih hc₁).bind fun _ _ hc₂ => .pure hc₂

/-- **The expiry pass ends a temporary block that is due.** -/
theorem expireDueState_yields (hc : db.conversation.lookup key = some c)
    (htemp : c.state = .tempSoftBlocked) {now : DateTime}
    (hdue : c.blockExpiresAt.any (· ≤ now) = true) :
    Yields (expireDueState now) db fun _ db' => ∃ c', db'.conversation.lookup key = some c' ∧
      c'.state = .new ∧ c'.blockExpiresAt = none ∧ c'.blockReason = none := by
  refine Yields.bind_read (Yields.bind (expireChallenges_yields now _ hc htemp) ?_)
  intro _ db₁ hc₁
  refine Yields.bind (renewConversations_yields _ _ _ _) ?_
  intro _ db₂ hrow
  have hc₂ := hrow key
  rw [hc₁, Option.map_some, if_pos (by simp [htemp, hdue])] at hc₂
  exact .pure ⟨_, hc₂, rfl, rfl, rfl⟩

end

/-- The expiry pass runs in a transaction of its own. -/
theorem World.expire_db {w w' : World} {now : DateTime}
    (h : w.step (.worker (.expire now)) = some w') :
    (commit (expireDueState now) w.db).1 = w'.db := by
  change w.stepWorker (.expire now) = some w' at h
  unfold stepWorker at h
  split at h <;> try contradiction
  next hworker hop =>
    cases hop
    obtain rfl := Option.some.inj h
    rfl

/-- **Block fields.** In every reachable world, a conversation is `TEMP_SOFT_BLOCKED` if and only
if its block has an expiry, and its block has a reason if and only if it is blocked at all; once the
expiry of a temporary block is due, the expiry pass ends it. -/
theorem block_follows_state {w : World} (hw : service.Reachable w) {c : Conversation}
    (hc : c ∈ w.db.conversation.rows) :
    (c.state = .tempSoftBlocked ↔ c.blockExpiresAt ≠ none) ∧
    (c.blockReason ≠ none ↔ c.state = .tempSoftBlocked ∨ c.state = .spamSoftBlocked) ∧
    (c.state = .tempSoftBlocked → ∃ expiresAt, c.blockExpiresAt = some expiresAt ∧
      ∀ now w', expiresAt ≤ now → w.step (.worker (.expire now)) = some w' →
        ∃ c' ∈ w'.db.conversation.rows, c'.key = c.key ∧ c'.state = .new ∧
          c'.blockExpiresAt = none ∧ c'.blockReason = none) := by
  have hlookup := Table.lookup_of_mem hc
  have hblock := World.blockFields hw c.key
  rw [Database.lifecycle_of_lookup hlookup] at hblock
  have hexpires : c.state = .tempSoftBlocked ↔ c.blockExpiresAt.isSome = true := hblock.expires
  have hreason : c.state.blocked = true ↔ c.blockReason.isSome = true := hblock.reason
  refine ⟨by rw [hexpires, Option.isSome_iff_ne_none], ?_, fun htemp => ?_⟩
  · rw [← Option.isSome_iff_ne_none, ← hreason]
    cases c.state <;> simp [ConversationState.blocked]
  · obtain ⟨expiresAt, hexpiresAt⟩ := Option.isSome_iff_exists.1 (hexpires.1 htemp)
    refine ⟨expiresAt, hexpiresAt, fun now w' hdue hstep => ?_⟩
    have hdue : c.blockExpiresAt.any (· ≤ now) = true := by simp [hexpiresAt, hdue]
    obtain ⟨report, db', hx, c', hc', hended⟩ := expireDueState_yields hlookup htemp hdue
    have hdb : w'.db = db' := by
      have hcommit := congrArg Prod.fst (Txn.commit_of_ok hx)
      exact (World.expire_db hstep).symm.trans hcommit
    exact ⟨c', hdb ▸ Table.mem_of_lookup hc', Table.key_of_lookup hc', hended⟩

section

open Sample

/-- A correspondent answers wrongly three times. -/
def failed : List Op :=
  connected true ++ message 3 50 1 .inboundMessage .allow .correct 3 ++
    message 4 50 2 .inboundMessage .allow .incorrect 4 ++
    message 5 50 3 .inboundMessage .allow .incorrect 5 ++
    message 6 50 4 .inboundMessage .allow .incorrect 6

set_option maxRecDepth 100000 in
theorem block_follows_state_failed : ∃ w, service.Reachable w ∧
    ∃ c ∈ w.db.conversation.rows, c.state = .tempSoftBlocked ∧
    (c.state = .tempSoftBlocked ↔ c.blockExpiresAt ≠ none) ∧
    (c.blockReason ≠ none ↔ c.state = .tempSoftBlocked ∨ c.state = .spamSoftBlocked) ∧
    (c.state = .tempSoftBlocked → ∃ expiresAt, c.blockExpiresAt = some expiresAt ∧
      ∀ now w', expiresAt ≤ now → w.step (.worker (.expire now)) = some w' →
        ∃ c' ∈ w'.db.conversation.rows, c'.key = c.key ∧ c'.state = .new ∧
          c'.blockExpiresAt = none ∧ c'.blockReason = none) := by
  have hreached : ∃ w, service.Reachable w ∧
      (w.db.conversation.rows.any (·.state = .tempSoftBlocked)) = true :=
    Machine.reachable_of_run failed _ ⟨0, rfl⟩ (by decide +kernel)
  obtain ⟨w, hw, hblocked⟩ := hreached
  obtain ⟨c, hc, hstate⟩ := List.any_eq_true.1 hblocked
  exact ⟨w, hw, c, hc, of_decide_eq_true hstate, block_follows_state hw hc⟩

end

end ChatHygiene
