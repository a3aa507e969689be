import Mathlib.Tactic.TypeStar
/-!
# Conversation states and their transitions

The six states of a conversation and the one function that says which event
moves a state where. Every pair outside its table is an `InvalidTransition`.
-/

namespace ChatHygiene

inductive ConversationState where
  | new
  | verifyPending
  | verifiedWaitingOwner
  | active
  | tempSoftBlocked
  | spamSoftBlocked
  deriving DecidableEq, Repr

inductive TransitionEvent where
  | safeFirstInbound
  | spamDetected
  | verificationSucceeded
  | challengeExpired
  | verificationExhausted
  | manualOwnerReply
  | allOwnerRepliesDeleted
  | tempBlockExpired
  | ownerUnblocked
  | ownerInitiatedMessage
  deriving DecidableEq, Repr

structure InvalidTransition where
  state : ConversationState
  event : TransitionEvent
  deriving DecidableEq, Repr

/-- The name of the state in an error. -/
def ConversationState.debugStr : ConversationState → String
  | .new => "New"
  | .verifyPending => "VerifyPending"
  | .verifiedWaitingOwner => "VerifiedWaitingOwner"
  | .active => "Active"
  | .tempSoftBlocked => "TempSoftBlocked"
  | .spamSoftBlocked => "SpamSoftBlocked"

/-- The name of the event in an error. -/
def TransitionEvent.debugStr : TransitionEvent → String
  | .safeFirstInbound => "SafeFirstInbound"
  | .spamDetected => "SpamDetected"
  | .verificationSucceeded => "VerificationSucceeded"
  | .challengeExpired => "ChallengeExpired"
  | .verificationExhausted => "VerificationExhausted"
  | .manualOwnerReply => "ManualOwnerReply"
  | .allOwnerRepliesDeleted => "AllOwnerRepliesDeleted"
  | .tempBlockExpired => "TempBlockExpired"
  | .ownerUnblocked => "OwnerUnblocked"
  | .ownerInitiatedMessage => "OwnerInitiatedMessage"

def InvalidTransition.message (e : InvalidTransition) : String :=
  s!"event {e.event.debugStr} is invalid for state {e.state.debugStr}"

/-- Applies one permitted conversation-state transition. -/
def transition (state : ConversationState) (event : TransitionEvent) :
    Except InvalidTransition ConversationState :=
  match state, event with
  | .new, .safeFirstInbound => .ok .verifyPending
  | .new, .spamDetected
  | .verifyPending, .spamDetected
  | .verifiedWaitingOwner, .spamDetected => .ok .spamSoftBlocked
  | .new, .manualOwnerReply
  | .verifyPending, .manualOwnerReply
  | .verifiedWaitingOwner, .manualOwnerReply
  | .tempSoftBlocked, .manualOwnerReply => .ok .active
  | .verifyPending, .verificationSucceeded => .ok .verifiedWaitingOwner
  | .verifyPending, .challengeExpired
  | .active, .allOwnerRepliesDeleted
  | .tempSoftBlocked, .tempBlockExpired
  | .spamSoftBlocked, .ownerUnblocked => .ok .new
  | .verifyPending, .verificationExhausted => .ok .tempSoftBlocked
  | .spamSoftBlocked, .ownerInitiatedMessage => .ok .active
  | state, event => .error ⟨state, event⟩

def ConversationState.asStr : ConversationState → String
  | .new => "NEW"
  | .verifyPending => "VERIFY_PENDING"
  | .verifiedWaitingOwner => "VERIFIED_WAITING_OWNER"
  | .active => "ACTIVE"
  | .tempSoftBlocked => "TEMP_SOFT_BLOCKED"
  | .spamSoftBlocked => "SPAM_SOFT_BLOCKED"

/-- Whether the state is one of the two soft blocks. -/
def ConversationState.blocked : ConversationState → Bool
  | .tempSoftBlocked | .spamSoftBlocked => true
  | _ => false

/-- **Every permitted transition leaves the state.** -/
theorem transition_ne {s s' : ConversationState} {event : TransitionEvent}
    (h : transition s event = .ok s') : s' ≠ s := by
  cases s <;> cases event <;> cases h <;> decide

/-! What each event asks of the state it is applied to. -/

/-- **Spam is only detected outside `ACTIVE` and the blocks.** -/
theorem transition_spamDetected_ok_iff {s s' : ConversationState} :
    transition s .spamDetected = .ok s' ↔
      (s = .new ∨ s = .verifyPending ∨ s = .verifiedWaitingOwner) ∧ s' = .spamSoftBlocked := by
  cases s <;> simp [transition, eq_comm]

theorem transition_safeFirstInbound_ok_iff {s s' : ConversationState} :
    transition s .safeFirstInbound = .ok s' ↔ s = .new ∧ s' = .verifyPending := by
  cases s <;> simp [transition, eq_comm]

theorem transition_verificationSucceeded_ok_iff {s s' : ConversationState} :
    transition s .verificationSucceeded = .ok s' ↔
      s = .verifyPending ∧ s' = .verifiedWaitingOwner := by
  cases s <;> simp [transition, eq_comm]

theorem transition_challengeExpired_ok_iff {s s' : ConversationState} :
    transition s .challengeExpired = .ok s' ↔ s = .verifyPending ∧ s' = .new := by
  cases s <;> simp [transition, eq_comm]

theorem transition_verificationExhausted_ok_iff {s s' : ConversationState} :
    transition s .verificationExhausted = .ok s' ↔
      s = .verifyPending ∧ s' = .tempSoftBlocked := by
  cases s <;> simp [transition, eq_comm]

end ChatHygiene
