import ChatHygiene.Processing.Models
/-!
# The life of a conversation

What a conversation is to its correspondent, with the store left out: a state,
a block, and at most one open challenge. `effect` says what an applied event
does to it; `Sound` is what its state and its challenge owe each other.
-/

namespace ChatHygiene

/-- A challenge that waits for an answer. -/
structure OpenChallenge where
  id : Nat
  attemptsUsed : Nat
  maxAttempts : Nat
  deriving DecidableEq, Repr

structure Lifecycle where
  state : ConversationState
  blockExpiresAt : Option DateTime
  blockReason : Option String
  blockCount : Nat
  challenge : Option OpenChallenge
  deriving DecidableEq, Repr

namespace Lifecycle

/-- A conversation nothing is known of. -/
def initial : Lifecycle where
  state := .new
  blockExpiresAt := none
  blockReason := none
  blockCount := 0
  challenge := none

/-- **A challenge is open exactly while the state waits for its answer**, and the answer may still
be wrong. -/
structure Sound (l : Lifecycle) : Prop where
  pending_iff : l.state = .verifyPending ↔ l.challenge.isSome
  attempts : ∀ c, l.challenge = some c → c.attemptsUsed < c.maxAttempts

/-! ## What an applied event does -/

/-- The state moves, if it may. -/
def moved (event : TransitionEvent) (l : Lifecycle) : Option Lifecycle :=
  match transition l.state event with
  | .ok state => some { l with state := state }
  | .error _ => none

/-- The challenge is closed, if it is the open one. -/
def closed (challengeId : Nat) (l : Lifecycle) : Lifecycle :=
  { l with challenge := l.challenge.filter fun c => c.id ≠ challengeId }

/-- A wrong answer to the challenge is counted, if it is open and has an attempt left. -/
def counted (challengeId : Nat) (l : Lifecycle) : Option Lifecycle :=
  match l.challenge with
  | some c =>
    if c.id = challengeId ∧ c.attemptsUsed < c.maxAttempts then
      some { l with challenge := some { c with attemptsUsed := c.attemptsUsed + 1 } }
    else none
  | none => none

/-- A new challenge, under the id the store gives it next. -/
def challenged (nextId maxAttempts : Nat) (l : Lifecycle) : Option Lifecycle :=
  if maxAttempts = 3 ∧ l.challenge = none then
    ({ l with challenge := some ⟨nextId, 0, 3⟩ } : Lifecycle).moved .safeFirstInbound
  else none

/-- The answers are used up: a block, or a fresh start in dry-run. -/
def exhausted (blockExpiresAt : Option DateTime) (l : Lifecycle) : Option Lifecycle :=
  match blockExpiresAt with
  | some expiresAt =>
    (l.moved .verificationExhausted).map fun l => { l with
      blockExpiresAt := some expiresAt
      blockReason := some "verification_exhausted"
      blockCount := l.blockCount + 1 }
  | none => l.moved .challengeExpired

def spammed (l : Lifecycle) : Option Lifecycle :=
  (l.moved .spamDetected).map fun l => { l with
    challenge := none
    blockReason := some "spam"
    blockCount := l.blockCount + 1 }

/-- What the outcome of an inbound message does; `none` if it is rejected. -/
def outcome (nextId : Nat) (l : Lifecycle) : InboundOutcome → Option Lifecycle
  | .startChallenge _ _ _ _ _ maxAttempts => l.challenged nextId maxAttempts
  | .retain => some l
  | .correct challengeId => (l.closed challengeId).moved .verificationSucceeded
  | .incorrect challengeId exhausted _ blockExpiresAt =>
    (l.counted challengeId).bind fun l =>
      if exhausted then (l.closed challengeId).exhausted blockExpiresAt else some l
  | .expired challengeId => (l.closed challengeId).moved .challengeExpired
  | .spam => l.spammed

/-- The Owner takes over. -/
def takenOver (l : Lifecycle) : Lifecycle where
  state := .active
  blockExpiresAt := none
  blockReason := none
  blockCount := l.blockCount
  challenge := none

/-- An active conversation whose last Owner reply is deleted starts over. -/
def abandoned (noReplies : Bool) (l : Lifecycle) : Lifecycle :=
  if l.state = .active ∧ noReplies then { l with state := .new } else l

/-- What an applied event does; `none` if it is rejected. -/
def effect (nextId : Nat) (noReplies : Bool) (l : Lifecycle) : PreparedAction → Option Lifecycle
  | .inbound _ outcome _ => l.outcome nextId outcome
  | .manualOwner => some l.takenOver
  | .messagesDeleted _ => some (l.abandoned noReplies)
  | .connectionChanged .. | .activeInbound | .blockedInbound | .blockedFailOpen | .botMessage _
  | .ignore => some l

/-! ## What the event was prepared against -/

end Lifecycle

/-- The challenge an outcome is about. -/
def InboundOutcome.challengeId : InboundOutcome → Option Nat
  | .correct challengeId | .incorrect challengeId .. | .expired challengeId => some challengeId
  | .startChallenge .. | .retain | .spam => none

/-- The challenge an action is about. -/
def PreparedAction.challengeId : PreparedAction → Option Nat
  | .inbound _ outcome _ => outcome.challengeId
  | _ => none

/-- An inbound outcome is only prepared for a conversation it can be applied to. -/
structure InboundOutcome.Fits (outcome : InboundOutcome) (l : Lifecycle) : Prop where
  open_state : l.state ≠ .active ∧ l.state.blocked = false
  start : ∀ e h v c x m, outcome = .startChallenge e h v c x m → l.state = .new ∧ m = 3
  challenge : ∀ challengeId, outcome.challengeId = some challengeId →
    l.state = .verifyPending ∧ ∃ c, l.challenge = some c ∧ c.id = challengeId
  exhausts : ∀ challengeId e r b, outcome = .incorrect challengeId e r b →
    ∀ c, l.challenge = some c → (e = true ↔ c.maxAttempts ≤ c.attemptsUsed + 1)

/-- What preparation has seen of the conversation. -/
def PreparedAction.Fits (l : Lifecycle) : PreparedAction → Prop
  | .inbound _ outcome _ => outcome.Fits l
  | .activeInbound => l.state = .active
  | .blockedInbound | .blockedFailOpen => l.state.blocked = true
  | _ => True

/-- What is left of `Fits` after others have closed challenges and renewed states: a challenge that
is still open is the one the event is about. -/
structure PreparedAction.StillFits (action : PreparedAction) (l : Lifecycle) : Prop where
  challenge : ∀ challengeId, action.challengeId = some challengeId →
    ∀ c, l.challenge = some c → c.id = challengeId
  attempts : ∀ detection challengeId r b dryRunSpam,
    action = .inbound detection (.incorrect challengeId false r b) dryRunSpam →
    ∀ c, l.challenge = some c → c.attemptsUsed + 1 < c.maxAttempts

namespace Lifecycle

variable {l l' : Lifecycle} {action : PreparedAction} {nextId : Nat} {noReplies : Bool}

theorem sound_initial : initial.Sound where
  pending_iff := by simp [initial]
  attempts := by simp [initial]

theorem Fits.stillFits (h : action.Fits l) : action.StillFits l where
  challenge challengeId hid c hc := by
    cases action with
    | inbound detection outcome dryRunSpam =>
      obtain ⟨-, c', hc', hid'⟩ := InboundOutcome.Fits.challenge h challengeId hid
      rw [hc] at hc'
      cases hc'
      exact hid'
    | _ => cases hid
  attempts := by
    rintro detection challengeId r b dryRunSpam rfl c hc
    have := (InboundOutcome.Fits.exhausts h challengeId false r b rfl c hc)
    simp only [Bool.false_eq_true, false_iff] at this
    omega

/-- A challenge that others have closed or left alone does not break what is left of a fit. -/
theorem StillFits.recede (h : action.StillFits l)
    (hl : l'.challenge = l.challenge ∨ l'.challenge = none) : action.StillFits l' where
  challenge challengeId hid c hc := by
    rcases hl with hl | hl <;> rw [hl] at hc
    · exact h.challenge challengeId hid c hc
    · cases hc
  attempts detection challengeId r b dryRunSpam haction c hc := by
    rcases hl with hl | hl <;> rw [hl] at hc
    · exact h.attempts detection challengeId r b dryRunSpam haction c hc
    · cases hc

/-! ## Soundness is kept -/

theorem moved_eq_some_iff {event : TransitionEvent} :
    l.moved event = some l' ↔ ∃ s, transition l.state event = .ok s ∧ { l with state := s } = l' := by
  unfold moved
  cases transition l.state event <;> simp

theorem moved_eq_none_iff {event : TransitionEvent} :
    l.moved event = none ↔ ∃ e, transition l.state event = .error e := by
  unfold moved
  cases transition l.state event <;> simp

/-- The open challenge is the one that is closed, if any is. -/
theorem closed_challenge_of_fit {challengeId : Nat}
    (h : ∀ c, l.challenge = some c → c.id = challengeId) : (l.closed challengeId).challenge = none := by
  cases hc : l.challenge with
  | none => simp [closed, hc]
  | some c => simp [closed, hc, h c hc]

/-- A conversation without an open challenge is sound in every state but one. -/
theorem sound_of_none (hs : l.state ≠ .verifyPending) (hc : l.challenge = none) : l.Sound where
  pending_iff := by simp [hs, hc]
  attempts := by simp [hc]

theorem Sound.challenge_eq_none (h : l.Sound) (hs : l.state ≠ .verifyPending) :
    l.challenge = none := by
  have := h.pending_iff
  simpa [hs] using this

theorem outcome_sound (h : l.Sound) {outcome : InboundOutcome}
    (hchallenge : ∀ challengeId, outcome.challengeId = some challengeId →
      ∀ c, l.challenge = some c → c.id = challengeId)
    (hattempts : ∀ challengeId r b, outcome = .incorrect challengeId false r b →
      ∀ c, l.challenge = some c → c.attemptsUsed + 1 < c.maxAttempts)
    (hl : l.outcome nextId outcome = some l') : l'.Sound := by
  cases outcome with
  | startChallenge e a v c x maxAttempts =>
    simp only [Lifecycle.outcome, challenged] at hl
    split at hl
    · obtain ⟨s, hs, rfl⟩ := moved_eq_some_iff.1 hl
      obtain ⟨-, rfl⟩ := transition_safeFirstInbound_ok_iff.1 hs
      exact ⟨by simp, by simp⟩
    · cases hl
  | retain =>
    cases hl
    exact h
  | correct challengeId =>
    obtain ⟨s, hs, rfl⟩ := moved_eq_some_iff.1 hl
    obtain ⟨-, rfl⟩ := transition_verificationSucceeded_ok_iff.1 hs
    exact sound_of_none (by simp) (closed_challenge_of_fit (hchallenge challengeId rfl))
  | incorrect challengeId exhausted r b =>
    obtain ⟨l₁, hl₁, hl⟩ := Option.bind_eq_some_iff.1 hl
    unfold counted at hl₁
    split at hl₁
    · next c hc =>
      split at hl₁
      · next hid =>
        cases hl₁
        cases exhausted with
        | false =>
          cases hl
          -- the challenge stays open, with an attempt to go
          have hlt := hattempts challengeId r b rfl c hc
          refine ⟨?_, by simpa using hlt⟩
          simpa [hc] using h.pending_iff
        | true =>
          -- the last attempt closes the challenge that it was counted on
          have hnone : (closed challengeId { l with
              challenge := some { c with attemptsUsed := c.attemptsUsed + 1 } }).challenge = none := by
            simp [closed, hid.1]
          simp only [if_true, Lifecycle.exhausted] at hl
          cases b with
          | some expiresAt =>
            obtain ⟨l₂, hl₂, rfl⟩ := Option.map_eq_some_iff.1 hl
            obtain ⟨s, hs, rfl⟩ := moved_eq_some_iff.1 hl₂
            obtain ⟨-, rfl⟩ := transition_verificationExhausted_ok_iff.1 hs
            exact sound_of_none (by simp) hnone
          | none =>
            obtain ⟨s, hs, rfl⟩ := moved_eq_some_iff.1 hl
            obtain ⟨-, rfl⟩ := transition_challengeExpired_ok_iff.1 hs
            exact sound_of_none (by simp) hnone
      · cases hl₁
    · cases hl₁
  | expired challengeId =>
    obtain ⟨s, hs, rfl⟩ := moved_eq_some_iff.1 hl
    obtain ⟨-, rfl⟩ := transition_challengeExpired_ok_iff.1 hs
    exact sound_of_none (by simp) (closed_challenge_of_fit (hchallenge challengeId rfl))
  | spam =>
    obtain ⟨l₁, hl₁, rfl⟩ := Option.map_eq_some_iff.1 hl
    obtain ⟨s, hs, rfl⟩ := moved_eq_some_iff.1 hl₁
    obtain ⟨-, rfl⟩ := transition_spamDetected_ok_iff.1 hs
    exact sound_of_none (by simp) rfl

/-- **An event that still fits keeps a conversation sound.** -/
theorem effect_sound (h : l.Sound) (hfit : action.StillFits l)
    (hl : l.effect nextId noReplies action = some l') : l'.Sound := by
  cases action with
  | inbound detection outcome dryRunSpam =>
    refine outcome_sound h hfit.challenge ?_ hl
    rintro challengeId r b rfl c hc
    exact hfit.attempts detection challengeId r b dryRunSpam rfl c hc
  | manualOwner =>
    cases hl
    exact sound_of_none (by simp [takenOver]) rfl
  | messagesDeleted messageIds =>
    cases hl
    unfold abandoned
    split
    · next hactive =>
      exact sound_of_none (by simp) (h.challenge_eq_none (by simp [hactive.1]))
    · exact h
  | _ =>
    cases hl
    exact h

/-! ## What others may do -/

/-- What anything but an applied event may do to a conversation: renew its state, and close its
challenge. -/
structure Recedes (l l' : Lifecycle) : Prop where
  state : l'.state = l.state ∨ l'.state = .new
  challenge : l'.challenge = l.challenge ∨ l'.challenge = none
  sound : l.Sound → l'.Sound

theorem Recedes.refl (l : Lifecycle) : l.Recedes l := ⟨.inl rfl, .inl rfl, id⟩

theorem Recedes.trans {l l' l'' : Lifecycle} (h : l.Recedes l') (h' : l'.Recedes l'') :
    l.Recedes l'' where
  state := by
    rcases h'.state with e | e
    · rw [e]
      exact h.state
    · exact .inr e
  challenge := by
    rcases h'.challenge with e | e
    · rw [e]
      exact h.challenge
    · exact .inr e
  sound hs := h'.sound (h.sound hs)

/-- A fresh start. -/
theorem Recedes.renewed (hstate : l'.state = .new) (hchallenge : l'.challenge = none) :
    l.Recedes l' :=
  ⟨.inr hstate, .inr hchallenge, fun _ => sound_of_none (by simp [hstate]) hchallenge⟩

/-- A conversation that does not wait for an answer is renewed with its challenge left alone. -/
theorem Recedes.of_state (hs : l.state ≠ .verifyPending) (hstate : l'.state = .new)
    (hchallenge : l'.challenge = l.challenge) : l.Recedes l' :=
  ⟨.inr hstate, .inl hchallenge, fun h =>
    sound_of_none (by simp [hstate]) (hchallenge.trans (h.challenge_eq_none hs))⟩

end Lifecycle

end ChatHygiene
