import ChatHygiene.Lifecycle.Renewal
import ChatHygiene.System.Lives
/-!
# The stored state machine

What is stored of a conversation moves as `transition` says, whoever moves it:
the handler that applies an event, the expiry pass, or a command of the Owner.
Only a reset leaves the table of transitions, and only a reset or the deletion
of the Owner's last reply takes a conversation out of `ACTIVE`.
-/

namespace ChatHygiene

open Txn (Respects Yields commit)

/-- The state is the same, or one of its transitions leads to the other. -/
def ConversationState.Moves (s s' : ConversationState) : Prop :=
  s' = s ∨ ∃ event, transition s event = .ok s'

namespace Lifecycle

variable {l l' : Lifecycle} {action : PreparedAction} {nextId : Nat} {noReplies : Bool}

/-! ## Transitions of a life -/

theorem moved_moves {event : TransitionEvent} (h : l.moved event = some l') :
    l.state.Moves l'.state := by
  obtain ⟨s, hs, rfl⟩ := moved_eq_some_iff.1 h
  exact .inr ⟨event, hs⟩

theorem counted_eq {challengeId : Nat} (h : l.counted challengeId = some l') :
    ∃ challenge, l' = { l with challenge := challenge } := by
  unfold counted at h
  split at h
  · split at h
    · cases h
      exact ⟨_, rfl⟩
    · cases h
  · cases h

theorem outcome_moves {outcome : InboundOutcome} (h : l.outcome nextId outcome = some l') :
    l.state.Moves l'.state := by
  cases outcome with
  | startChallenge e a v c x maxAttempts =>
    simp only [Lifecycle.outcome, challenged] at h
    split at h
    · have hmoves := moved_moves h
      exact hmoves
    · cases h
  | retain =>
    cases h
    exact .inl rfl
  | correct challengeId =>
    have hmoves := moved_moves h
    exact hmoves
  | incorrect challengeId exhausted r b =>
    obtain ⟨l₁, hcounted, h⟩ := Option.bind_eq_some_iff.1 h
    obtain ⟨challenge, rfl⟩ := counted_eq hcounted
    cases exhausted with
    | false =>
      cases h
      exact .inl rfl
    | true =>
      simp only [if_true, Lifecycle.exhausted] at h
      cases b with
      | some expiresAt =>
        obtain ⟨l₂, hmoved, rfl⟩ := Option.map_eq_some_iff.1 h
        have hmoves := moved_moves hmoved
        exact hmoves
      | none =>
        change Lifecycle.moved .challengeExpired _ = _ at h
        have hmoves := moved_moves h
        exact hmoves
  | expired challengeId =>
    have hmoves := moved_moves h
    exact hmoves
  | spam =>
    obtain ⟨l₁, hmoved, rfl⟩ := Option.map_eq_some_iff.1 h
    have hmoves := moved_moves hmoved
    exact hmoves

/-- **An applied event moves the state by a transition.** -/
theorem effect_moves (h : l.effect nextId noReplies action = some l') :
    l.state.Moves l'.state := by
  cases action with
  | inbound detection outcome dryRunSpam => exact outcome_moves h
  | manualOwner =>
    cases h
    cases hstate : l.state with
    | active => exact .inl rfl
    | spamSoftBlocked => exact .inr ⟨.ownerInitiatedMessage, rfl⟩
    | new | verifyPending | verifiedWaitingOwner | tempSoftBlocked =>
      exact .inr ⟨.manualOwnerReply, rfl⟩
  | messagesDeleted messageIds =>
    cases h
    unfold abandoned
    split
    · next hactive => exact .inr ⟨.allOwnerRepliesDeleted, by rw [hactive.1]; rfl⟩
    · exact .inl rfl
  | _ =>
    cases h
    exact .inl rfl

/-- An active conversation has one way out. -/
theorem moved_active {event : TransitionEvent} (hactive : l.state = .active)
    (hevent : event ≠ .allOwnerRepliesDeleted) : l.moved event = none := by
  unfold Lifecycle.moved
  rw [hactive]
  cases event <;> first | rfl | exact absurd rfl hevent

/-- No message of the correspondent takes a conversation out of `ACTIVE`. -/
theorem outcome_active {outcome : InboundOutcome} (hactive : l.state = .active)
    (h : l.outcome nextId outcome = some l') : l'.state = .active := by
  cases outcome with
  | startChallenge e a v c x maxAttempts =>
    simp only [Lifecycle.outcome, challenged] at h
    split at h
    · have hnone : Lifecycle.moved .safeFirstInbound
          { l with challenge := some ⟨nextId, 0, 3⟩ } = none := moved_active hactive (by simp)
      rw [hnone] at h
      cases h
    · cases h
  | retain =>
    cases h
    exact hactive
  | correct challengeId =>
    have hnone : (l.closed challengeId).moved .verificationSucceeded = none :=
      moved_active hactive (by simp)
    cases hnone.symm.trans h
  | incorrect challengeId exhausted r b =>
    obtain ⟨l₁, hcounted, h⟩ := Option.bind_eq_some_iff.1 h
    obtain ⟨challenge, rfl⟩ := counted_eq hcounted
    cases exhausted with
    | false =>
      cases h
      exact hactive
    | true =>
      have hnone {event : TransitionEvent} (hevent : event ≠ .allOwnerRepliesDeleted) :
          (closed challengeId { l with challenge := challenge }).moved event = none :=
        moved_active hactive hevent
      simp only [if_true, Lifecycle.exhausted] at h
      cases b with
      | some expiresAt =>
        dsimp only at h
        rw [hnone (by simp)] at h
        cases h
      | none =>
        dsimp only at h
        rw [hnone (by simp)] at h
        cases h
  | expired challengeId =>
    have hnone : (l.closed challengeId).moved .challengeExpired = none :=
      moved_active hactive (by simp)
    cases hnone.symm.trans h
  | spam =>
    simp only [Lifecycle.outcome, spammed] at h
    rw [moved_active hactive (by simp)] at h
    cases h

/-- **Only a deletion takes a conversation out of `ACTIVE`**, and only if no reply is left. -/
theorem effect_active (hactive : l.state = .active)
    (h : l.effect nextId noReplies action = some l') (hne : l'.state ≠ .active) :
    ∃ messageIds, action = .messagesDeleted messageIds := by
  cases action with
  | inbound detection outcome dryRunSpam => exact absurd (outcome_active hactive h) hne
  | manualOwner =>
    cases h
    exact absurd rfl hne
  | messagesDeleted messageIds => exact ⟨messageIds, rfl⟩
  | _ =>
    cases h
    exact absurd hactive hne

end Lifecycle

/-! ## Rows -/

/-- A renewal moves the state by a transition, or is a reset. -/
theorem Conversation.Renews.moves {reset : Prop} {c c' : Conversation} (h : c.Renews reset c') :
    c.state.Moves c'.state ∨ reset ∧ c'.state = .new := by
  cases h with
  | kept hstate => exact .inl (.inl hstate)
  | expired hpending hstate =>
    rw [hpending, hstate]
    exact .inl (.inr ⟨.challengeExpired, rfl⟩)
  | released h hstate =>
    rw [hstate]
    rcases h with hblocked | hreset
    · refine .inl (.inr ?_)
      cases hc : c.state with
      | tempSoftBlocked => exact ⟨.tempBlockExpired, rfl⟩
      | spamSoftBlocked => exact ⟨.ownerUnblocked, rfl⟩
      | new | verifyPending | verifiedWaitingOwner | active =>
        rw [hc] at hblocked
        cases hblocked
    · exact .inr ⟨hreset, rfl⟩

/-! ## Steps -/

/-- The state of a conversation; one without a row is as good as new. -/
def Database.stateOf (db : Database) (key : ConversationKey) : ConversationState :=
  ((db.conversation.lookup key).map (·.state)).getD .new

theorem Database.stateOf_eq (db : Database) (key : ConversationKey) :
    db.stateOf key = (db.lifecycle key).state := by
  unfold Database.stateOf
  cases hc : db.conversation.lookup key with
  | none =>
    rw [Database.lifecycle_of_lookup_none hc]
    rfl
  | some c =>
    rw [Database.lifecycle_of_lookup hc]
    rfl

/-- The input is a command of the Owner that resets the conversations of a chat. -/
def Op.Resets (op : Op) (chatId : Int) : Prop :=
  ∃ updateId snapshot occurredAt, op = .worker (.ownerCommand updateId snapshot occurredAt) ∧
    snapshot.command = .ok (.reset chatId)

/-- **A step applies an event, or renews conversations at most.** -/
theorem World.EventsPrepared.step_renewed {w w' : World} {op : Op} (h : w.EventsPrepared)
    (hstep : w.step op = some w') :
    (∃ row event preparedIn, w.Applies row event preparedIn w'.db) ∨
      Renewed (fun k => op.Resets k.chatId) w.db w'.db := by
  rcases World.step_db hstep with hsame | ⟨x, hcommits, hdb⟩
  · exact .inr (.of_eq (by rw [hsame]))
  · by_cases happly : ∃ updateId now, x = .apply updateId now
    · obtain ⟨updateId, now, rfl⟩ := happly
      rcases h.apply updateId now with hsame | ⟨row, event, preparedIn, -, happlies⟩
      · exact .inr (.of_eq (by rw [hdb, hsame]))
      · rw [← hdb] at happlies
        exact .inl ⟨row, event, preparedIn, happlies⟩
    · have hrenewed := Transaction.renewed h.noConnectionChange
        (fun updateId now hx => happly ⟨updateId, now, hx⟩)
      rw [← hdb] at hrenewed
      refine .inr (hrenewed.mono fun k hk => ?_)
      cases x with
      | ownerCommand updateId snapshot occurredAt default =>
        cases hcommits with
        | ownerCommand => exact ⟨_, _, _, rfl, hk⟩
      | _ => exact absurd hk id

/-- A deletion by which the Owner's last reply in a conversation goes. -/
structure World.Abandons (w : World) (key : ConversationKey) (db' : Database) : Prop where
  event : ∃ row event messageIds, row ∈ w.db.processedUpdate.rows ∧ row.status = .recorded ∧
    row.event = some event ∧ event.facts.optionalKey = some key ∧
    event.facts.action = .messagesDeleted messageIds
  replies : db'.ownerReplies key = []

/-- An applied event moves its conversation by a transition, and no other one. -/
theorem World.Applies.moves {w : World} {row : ProcessedUpdate} {event : PreparedEvent}
    {preparedIn db' : Database} (h : w.Applies row event preparedIn db') (key : ConversationKey) :
    (w.db.lifecycle key).state.Moves (db'.lifecycle key).state := by
  by_cases hkey : event.facts.optionalKey = some key
  · obtain ⟨noReplies, heffect, -⟩ := h.applied.life key hkey
    exact Lifecycle.effect_moves heffect
  · rw [h.applied.others key hkey]
    exact .inl rfl

/-- **An applied event that takes a conversation out of `ACTIVE` abandons it.** -/
theorem World.Applies.abandons {w : World} {row : ProcessedUpdate} {event : PreparedEvent}
    {preparedIn db' : Database} (h : w.Applies row event preparedIn db') {key : ConversationKey}
    (hactive : (w.db.lifecycle key).state = .active)
    (hleft : (db'.lifecycle key).state ≠ .active) : w.Abandons key db' := by
  by_cases hkey : event.facts.optionalKey = some key
  · obtain ⟨noReplies, heffect, hreplies⟩ := h.applied.life key hkey
    obtain ⟨messageIds, haction⟩ := Lifecycle.effect_active hactive heffect hleft
    refine ⟨⟨row, event, messageIds, Table.mem_of_lookup h.lookup, h.recorded,
      h.recordedIn.carries, hkey, haction⟩, hreplies ?_⟩
    rw [haction] at heffect
    have habandoned : (w.db.lifecycle key).abandoned noReplies = db'.lifecycle key :=
      Option.some.inj heffect
    -- with a reply left, the deletion leaves the conversation as it is
    cases noReplies with
    | true => rfl
    | false =>
      rw [Lifecycle.abandoned, if_neg (by simp)] at habandoned
      exact absurd (habandoned ▸ hactive) hleft
  · rw [h.applied.others key hkey] at hleft
    exact absurd hactive hleft

/-- **The stored state machine refines `transition`.** In every reachable world, a step that
changes the state of a conversation changes it by a transition, or is a reset and renews it; it
takes a conversation out of `ACTIVE` only if it is a reset, or deletes the last reply of the
Owner. -/
theorem stored_state_moves {w w' : World} {op : Op} (hw : service.Reachable w)
    (hstep : w.step op = some w') {c : Conversation} (hc : c ∈ w'.db.conversation.rows)
    (hchanged : c.state ≠ w.db.stateOf c.key) :
    ((∃ event, transition (w.db.stateOf c.key) event = .ok c.state) ∨
      op.Resets c.key.chatId ∧ c.state = .new) ∧
    (w.db.stateOf c.key = .active →
      op.Resets c.key.chatId ∨ w.Abandons c.key w'.db) := by
  have hlookup := Table.lookup_of_mem hc
  have hstate : (w'.db.lifecycle c.key).state = c.state := by
    rw [Database.lifecycle_of_lookup hlookup]
    rfl
  have hmoves {s : ConversationState} (h : s.Moves c.state) (hne : c.state ≠ s) :
      ∃ event, transition s event = .ok c.state := h.resolve_left hne
  rcases (World.eventsPrepared hw).step_renewed hstep with ⟨row, event, preparedIn, happlies⟩ | hrenewed
  · rw [Database.stateOf_eq] at hchanged ⊢
    have hmove := happlies.moves c.key
    rw [hstate] at hmove
    refine ⟨.inl (hmoves hmove hchanged), fun hactive => .inr ?_⟩
    refine happlies.abandons hactive ?_
    rw [hstate, ← hactive]
    exact hchanged
  · obtain ⟨c₀, hc₀, hrenews⟩ := hrenewed c.key c hlookup
    have hstate₀ : w.db.stateOf c.key = c₀.state := by
      rw [Database.stateOf, hc₀]
      rfl
    rw [hstate₀] at hchanged ⊢
    refine ⟨hrenews.moves.imp_left fun hmove => hmoves hmove hchanged, fun hactive => .inl ?_⟩
    -- of the renewals, only a reset is about an active conversation
    cases hrenews with
    | kept hsame => exact absurd hsame hchanged
    | expired hpending =>
      rw [hactive] at hpending
      cases hpending
    | released h =>
      refine h.resolve_left ?_
      rw [hactive]
      simp [ConversationState.blocked]

section

open Sample

set_option maxRecDepth 100000 in
theorem stored_state_moves_questioned : ∃ w w' : World, service.Reachable w ∧
    w.step (.worker (.apply 3)) = some w' ∧
    ∃ c ∈ w'.db.conversation.rows, c.state ≠ w.db.stateOf c.key ∧
    ((∃ event, transition (w.db.stateOf c.key) event = .ok c.state) ∨
      Op.Resets (.worker (.apply 3)) c.key.chatId ∧ c.state = .new) ∧
    (w.db.stateOf c.key = .active →
      Op.Resets (.worker (.apply 3)) c.key.chatId ∨ w.Abandons c.key w'.db) := by
  have hreached : ∃ w, service.Reachable w ∧ ((w.step (.worker (.apply 3))).any fun w' =>
      w'.db.conversation.rows.any fun c => c.state ≠ w.db.stateOf c.key) = true :=
    Machine.reachable_of_run (connected true ++ receive 3 50 1 .inboundMessage .allow .correct 3) _
      ⟨0, rfl⟩ (by decide +kernel)
  obtain ⟨w, hw, hchanged⟩ := hreached
  obtain ⟨w', hstep, hchanged⟩ := (Option.any_eq_true _ _).1 hchanged
  obtain ⟨c, hc, hchanged⟩ := List.any_eq_true.1 hchanged
  have hne := of_decide_eq_true hchanged
  exact ⟨w, w', hw, hstep, c, hc, hne, stored_state_moves hw hstep hc hne⟩

end

end ChatHygiene
