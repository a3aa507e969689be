import ChatHygiene.Lifecycle.Transitions
import ChatHygiene.System.Carried
/-!
# What brings a conversation into a state

Each state but the first has one cause: a contact waits for verification because
they wrote, is verified because their answer was correct, is blocked because of
a verdict or of a last wrong answer, and is active because the Owner wrote. The
cause is seen when an update is prepared, whatever runs before the event is
applied, and without it no run leads into the state.
-/

namespace ChatHygiene

open Txn (bind_ok_iff)

variable {db db' : Database} {key : ConversationKey} {raw : RawBusinessEvent} {s : ConversationState}

/-! ## Causes -/

/-- The state an action leads into. -/
def PreparedAction.enters : PreparedAction → Option ConversationState
  | .inbound _ (.startChallenge ..) _ => some .verifyPending
  | .inbound _ (.correct _) _ => some .verifiedWaitingOwner
  | .inbound _ (.incorrect _ true _ (some _)) _ => some .tempSoftBlocked
  | .inbound _ .spam _ => some .spamSoftBlocked
  | .manualOwner => some .active
  | _ => none

/-- The update is about the conversation. -/
def RawBusinessEvent.Concerns (raw : RawBusinessEvent) (key : ConversationKey) : Prop :=
  raw.connectionId = some key.connectionId ∧ raw.chatId = some key.chatId

instance (raw : RawBusinessEvent) (key : ConversationKey) : Decidable (raw.Concerns key) :=
  inferInstanceAs (Decidable (_ ∧ _))

theorem RawBusinessEvent.Concerns.eq {key' : ConversationKey} (h : raw.Concerns key)
    (h' : raw.Concerns key') : key' = key := by
  have hconnection := Option.some.inj (h'.1.symm.trans h.1)
  have hchat := Option.some.inj (h'.2.symm.trans h.2)
  cases key
  cases key'
  exact ConversationKey.mk.injEq .. ▸ ⟨hconnection, hchat⟩

/-- What the rights on the connection of a conversation allow. -/
def Database.availability (db : Database) (key : ConversationKey) : BusinessAvailability :=
  ((businessAvailability key db).toOption.map Prod.fst).getD ⟨false, false⟩

/-- The challenge is judged: it is open, it has not expired, and the verifier has its key. -/
def EventPreparer.Judges (preparer : EventPreparer) (challenge : ChallengeRow) : Prop :=
  preparer.now < challenge.expiresAt ∧ challenge.hmacKeyVersion = preparer.verifier.keyVersion

instance (preparer : EventPreparer) (challenge : ChallengeRow) :
    Decidable (preparer.Judges challenge) := inferInstanceAs (Decidable (_ ∧ _))

/-- The answer a message gives. -/
def RawBusinessEvent.answer (raw : RawBusinessEvent) : String :=
  (raw.content.bind (·.text)).getD ""

/-- What brings a conversation into a state, where an update is prepared. The mode is that of the
moment. -/
def EventPreparer.Causes (preparer : EventPreparer) (mode : Bool) (raw : RawBusinessEvent)
    (db : Database) (key : ConversationKey) : ConversationState → Prop
  | .new => True
  | .verifyPending =>
    (raw.kind = .inboundMessage ∨ raw.kind = .editedInboundMessage) ∧
      (db.lifecycle key).state = .new ∧ (db.availability key).reply = true
  | .verifiedWaitingOwner =>
    raw.kind = .inboundMessage ∧ preparer.detectionFacts.decision ≠ .spam ∧
      (db.lifecycle key).state = .verifyPending ∧
      ∃ challenge ∈ db.openChallenge key, preparer.Judges challenge ∧
        preparer.verifier.evaluate raw.answer challenge.answerHmac = .correct
  | .active => raw.kind = .manualOwnerMessage
  | .tempSoftBlocked =>
    raw.kind = .inboundMessage ∧ preparer.detectionFacts.decision ≠ .spam ∧
      (db.lifecycle key).state = .verifyPending ∧
      (mode = true ∧ (db.availability key).destructive = true) ∧
      ∃ challenge ∈ db.openChallenge key, preparer.Judges challenge ∧
        preparer.verifier.evaluate raw.answer challenge.answerHmac ≠ .correct ∧
        challenge.maxAttempts ≤ challenge.attemptsUsed + 1
  | .spamSoftBlocked =>
    (raw.kind = .inboundMessage ∨ raw.kind = .editedInboundMessage) ∧
      preparer.detectionFacts.decision = .spam ∧
      (mode = true ∧ (db.availability key).destructive = true) ∧
      (db.lifecycle key).state ≠ .active ∧ (db.lifecycle key).state.blocked = false

instance (preparer : EventPreparer) (mode : Bool) (raw : RawBusinessEvent) (db : Database)
    (key : ConversationKey) : DecidablePred (preparer.Causes mode raw db key) := by
  intro s
  unfold EventPreparer.Causes
  cases s <;> infer_instance

/-! ## Preparation -/

namespace EventPreparer

variable {preparer : EventPreparer} {action : PreparedAction} {mode : Bool}

theorem businessAvailability_ok {availability : BusinessAvailability}
    (h : businessAvailability key db = .ok (availability, db')) :
    availability = db.availability key := by
  unfold Database.availability
  rw [h]
  rfl

/-- What the answer to a safe message leads into. -/
theorem safeOutcome_enters {outcome : InboundOutcome} {dryRunSpam destructive : Bool}
    (hspam : (db.lifecycle key).state = .verifyPending → preparer.detectionFacts.decision ≠ .spam)
    (hreply : (db.lifecycle key).state = .new ∨ (db.lifecycle key).state = .verifyPending →
      (db.availability key).reply = true)
    (hdestructive : destructive = true → mode = true ∧ (db.availability key).destructive = true)
    (hkind : raw.kind = .inboundMessage ∨ raw.kind = .editedInboundMessage)
    (h : preparer.safeOutcome raw.kind (db.lifecycle key).state key raw.content destructive db =
      .ok (outcome, db'))
    (hs : (PreparedAction.inbound preparer.detectionFacts outcome dryRunSpam).enters = some s) :
    preparer.Causes mode raw db key s := by
  unfold safeOutcome at h
  cases hstate : (db.lifecycle key).state with
  | new =>
    rw [hstate] at h hreply
    obtain ⟨rfl, -⟩ := Prod.mk.inj (Txn.pure_ok_iff.1 h)
    obtain rfl : ConversationState.verifyPending = s := Option.some.inj hs
    exact ⟨hkind, hstate, hreply (.inl rfl)⟩
  | verifyPending =>
    rw [hstate] at h
    dsimp only at h
    rw [Txn.bind_of_ok (activeChallenge_apply db key)] at h
    cases hc : db.openChallenge key with
    | none =>
      rw [hc] at h
      cases h
    | some c =>
      rw [hc] at h
      simp only [Option.map_some] at h
      split at h
      · obtain ⟨rfl, -⟩ := Prod.mk.inj (Txn.pure_ok_iff.1 h)
        cases hs
      · next hlive =>
        split at h
        · obtain ⟨rfl, -⟩ := Prod.mk.inj (Txn.pure_ok_iff.1 h)
          cases hs
        · next hedited =>
          split at h
          · cases h
          · next hversion =>
            obtain ⟨rfl, -⟩ := Prod.mk.inj (Txn.pure_ok_iff.1 h)
            have hnew : raw.kind = .inboundMessage := hkind.resolve_right hedited
            have hjudges : preparer.Judges c := ⟨lt_of_not_ge hlive, not_not.1 hversion⟩
            -- the answer is judged against the open challenge
            unfold answerOutcome at hs
            cases hverdict : preparer.verifier.evaluate raw.answer c.answerHmac with
            | correct =>
              rw [show preparer.verifier.evaluate ((raw.content.bind (·.text)).getD "")
                c.toChallengeRecord.answerHmac = .correct from hverdict] at hs
              obtain rfl : ConversationState.verifiedWaitingOwner = s := Option.some.inj hs
              exact ⟨hnew, hspam hstate, hstate, c, hc, hjudges, hverdict⟩
            | incorrect | nonNumeric =>
              rw [show preparer.verifier.evaluate ((raw.content.bind (·.text)).getD "")
                c.toChallengeRecord.answerHmac = _ from hverdict] at hs
              dsimp only at hs
              cases hexhausted : decide (c.toChallengeRecord.maxAttempts ≤
                  c.toChallengeRecord.attemptsUsed + 1) with
              | false =>
                rw [hexhausted] at hs
                cases hs
              | true =>
                rw [hexhausted] at hs
                cases destructive with
                | false => cases hs
                | true =>
                  obtain rfl : ConversationState.tempSoftBlocked = s := Option.some.inj hs
                  exact ⟨hnew, hspam hstate, hstate, hdestructive rfl, c, hc, hjudges,
                    by rw [hverdict]; simp, of_decide_eq_true hexhausted⟩
  | verifiedWaitingOwner =>
    rw [hstate] at h
    obtain ⟨rfl, -⟩ := Prod.mk.inj (Txn.pure_ok_iff.1 h)
    cases hs
  | active | tempSoftBlocked | spamSoftBlocked =>
    rw [hstate] at h
    cases h

/-- **What a message of a contact leads into has its cause.** -/
theorem prepareInbound_enters
    (hkind : raw.kind = .inboundMessage ∨ raw.kind = .editedInboundMessage)
    (h : preparer.prepareInbound raw mode db = .ok (action, db')) (hs : action.enters = some s) :
    ∃ key, raw.Concerns key ∧ preparer.Causes mode raw db key s := by
  obtain ⟨key, s₀, hkey, hrest⟩ := bind_ok_iff.1 h
  clear h
  obtain ⟨rfl, hconcerns⟩ := eventKey_ok hkey
  refine ⟨key, hconcerns, ?_⟩
  obtain ⟨conversation, s₁, hread, h⟩ := bind_ok_iff.1 hrest
  obtain ⟨rfl, rfl⟩ := Prod.mk.inj (Txn.read_ok_iff.1 hread)
  dsimp only at h
  rw [state_eq] at h
  split at h
  · obtain ⟨rfl, -⟩ := Prod.mk.inj (Txn.pure_ok_iff.1 h)
    cases hs
  · next hactive =>
    obtain ⟨availability, s₂, havailable, h⟩ := bind_ok_iff.1 h
    obtain rfl := businessAvailability_ok havailable
    obtain rfl := businessAvailability_readOnly key _ _ _ havailable
    split at h
    · obtain ⟨rfl, -⟩ := Prod.mk.inj (Txn.pure_ok_iff.1 h)
      split at hs <;> cases hs
    · next hblocked =>
      split at h
      · next hspam =>
        obtain ⟨rfl, -⟩ := Prod.mk.inj (Txn.pure_ok_iff.1 h)
        obtain rfl : ConversationState.spamSoftBlocked = s := Option.some.inj hs
        rw [Bool.and_eq_true, Bool.and_eq_true] at hspam
        exact ⟨hkind, of_decide_eq_true hspam.1, hspam.2, hactive, by simpa using hblocked⟩
      · next hharmless =>
        split at h
        · obtain ⟨rfl, -⟩ := Prod.mk.inj (Txn.pure_ok_iff.1 h)
          cases hs
        · next hanswered =>
          obtain ⟨outcome, s₃, hsafe, h⟩ := bind_ok_iff.1 h
          obtain ⟨rfl, -⟩ := Prod.mk.inj (Txn.pure_ok_iff.1 h)
          refine safeOutcome_enters (fun hstate hspam => hanswered ?_) (fun hstate => ?_)
            (fun hdestructive => by simpa using hdestructive) hkind hsafe hs
          · simp [hstate, hspam]
          · by_contra hno
            have hreply : (s₀.availability key).reply = false := Bool.eq_false_iff.2 hno
            refine hanswered ?_
            rcases hstate with hstate | hstate <;> simp [hstate, hreply]

theorem prepareAction_enters (hconcerns : raw.Concerns key)
    (h : preparer.prepareAction raw mode db = .ok (action, db')) (hs : action.enters = some s) :
    preparer.Causes mode raw db key s := by
  obtain ⟨known, s₀, hknown, hrest⟩ := bind_ok_iff.1 h
  clear h
  obtain rfl := knownBusinessConnection_readOnly raw _ _ _ hknown
  split at hrest
  · obtain ⟨rfl, -⟩ := Prod.mk.inj (Txn.pure_ok_iff.1 hrest)
    cases hs
  · have hinbound (hkind : raw.kind = .inboundMessage ∨ raw.kind = .editedInboundMessage)
        (h : preparer.prepareInbound raw mode db = .ok (action, db')) :
        preparer.Causes mode raw db key s := by
      obtain ⟨key', hconcerns', hcause⟩ := prepareInbound_enters hkind h hs
      obtain rfl : key' = key := hconcerns.eq hconcerns'
      exact hcause
    cases hkind : raw.kind with
    | inboundMessage =>
      rw [hkind] at hrest
      exact hinbound (.inl hkind) hrest
    | editedInboundMessage =>
      rw [hkind] at hrest
      exact hinbound (.inr hkind) hrest
    | manualOwnerMessage =>
      rw [hkind] at hrest
      obtain ⟨rfl, -⟩ := Prod.mk.inj (Txn.pure_ok_iff.1 hrest)
      obtain rfl : ConversationState.active = s := Option.some.inj hs
      exact hkind
    | _ =>
      rw [hkind] at hrest
      obtain ⟨rfl, -⟩ := Prod.mk.inj (Txn.pure_ok_iff.1 hrest)
      cases hs

end EventPreparer

/-- **What an event leads into has its cause in the update it was prepared from.** -/
theorem prepareUpdate_enters {preparer : EventPreparer} {updateId : Int} {event : PreparedEvent}
    (h : prepareUpdate preparer updateId raw db = .ok (event, db'))
    (hkey : event.facts.optionalKey = some key) (hs : event.facts.action.enters = some s) :
    raw.Concerns key ∧
      preparer.Causes (db.destructiveMode.getD preparer.destructiveMode) raw db key s := by
  obtain ⟨raw', s₀, hinert, hprepare⟩ := bind_ok_iff.1 h
  clear h
  obtain ⟨-, -, -, ⟨hconnection, hchat, -, -⟩, -⟩ := EventPreparer.prepare_ok hprepare
  obtain ⟨hc, hi⟩ := EventPreparer.optionalKey_eq_some_iff.1 hkey
  have hconcerns : raw'.Concerns key := ⟨hconnection ▸ hc, hchat ▸ hi⟩
  -- an update that is made inert is about no conversation
  obtain ⟨rfl, rfl⟩ : raw' = raw ∧ s₀ = db := by
    unfold makePreclaimBusinessEventInert at hinert
    split at hinert
    · obtain ⟨rfl, rfl⟩ := Prod.mk.inj (Txn.pure_ok_iff.1 hinert)
      exact ⟨rfl, rfl⟩
    · obtain ⟨state, s', hstate, hrest⟩ := bind_ok_iff.1 hinert
      obtain ⟨-, rfl⟩ := Prod.mk.inj (Txn.read_ok_iff.1 hstate)
      split at hrest
      · obtain ⟨rfl, -⟩ := Prod.mk.inj (Txn.pure_ok_iff.1 hrest)
        cases hconcerns.1
      · obtain ⟨rfl, rfl⟩ := Prod.mk.inj (Txn.pure_ok_iff.1 hrest)
        exact ⟨rfl, rfl⟩
  refine ⟨hconcerns, ?_⟩
  unfold EventPreparer.prepare at hprepare
  obtain ⟨mode, s₁, hread, h₁⟩ := bind_ok_iff.1 hprepare
  obtain ⟨rfl, rfl⟩ := Prod.mk.inj (Txn.read_ok_iff.1 hread)
  obtain ⟨owner, s₂, howner, h₂⟩ := bind_ok_iff.1 h₁
  obtain rfl := EventPreparer.traceOwnerIdentity_readOnly raw' _ _ _ howner
  obtain ⟨before, s₃, hbefore, h₃⟩ := bind_ok_iff.1 h₂
  obtain rfl := EventPreparer.traceStateBefore_readOnly raw' _ _ _ hbefore
  obtain ⟨action, s₄, haction, h₄⟩ := bind_ok_iff.1 h₃
  obtain ⟨hevent, -⟩ := Prod.mk.inj (Txn.pure_ok_iff.1 h₄)
  rw [← hevent] at hs
  exact EventPreparer.prepareAction_enters hconcerns haction hs

/-! ## Application -/

/-- **An applied action leads into the state it enters**, or back to the first one, or nowhere. -/
theorem Lifecycle.effect_enters {l l' : Lifecycle} {action : PreparedAction} {nextId : Nat}
    {noReplies : Bool} (h : l.effect nextId noReplies action = some l') :
    l'.state = l.state ∨ l'.state = .new ∨ action.enters = some l'.state := by
  -- where an event leads does not depend on where the conversation was
  have hmoved {l l' : Lifecycle} {event : TransitionEvent} (h : l.moved event = some l')
      {s : ConversationState} (hs : ∀ s₀ s', transition s₀ event = .ok s' → s' = s) :
      l'.state = s := by
    obtain ⟨s', hmoves, rfl⟩ := moved_eq_some_iff.1 h
    exact hs _ _ hmoves
  cases action with
  | inbound detection outcome dryRunSpam =>
    cases outcome with
    | startChallenge expression hmac version createdAt expiresAt maxAttempts =>
      obtain ⟨-, h⟩ := Option.ite_none_right_eq_some.1 h
      have hstate := hmoved h (s := .verifyPending) fun s₀ s' hs =>
        (transition_safeFirstInbound_ok_iff.1 hs).2
      exact .inr (.inr (congrArg some hstate.symm))
    | retain =>
      cases h
      exact .inl rfl
    | correct challengeId =>
      have hstate := hmoved h (s := .verifiedWaitingOwner) fun s₀ s' hs =>
        (transition_verificationSucceeded_ok_iff.1 hs).2
      exact .inr (.inr (congrArg some hstate.symm))
    | incorrect challengeId exhausted remaining blockExpiresAt =>
      obtain ⟨l₁, hcounted, h⟩ := Option.bind_eq_some_iff.1 h
      obtain ⟨challenge, rfl⟩ := counted_eq hcounted
      cases exhausted with
      | false =>
        cases h
        exact .inl rfl
      | true =>
        cases blockExpiresAt with
        | none =>
          have hstate := hmoved h (s := .new) fun s₀ s' hs =>
            (transition_challengeExpired_ok_iff.1 hs).2
          exact .inr (.inl hstate)
        | some expiresAt =>
          obtain ⟨l₂, hblocked, rfl⟩ := Option.map_eq_some_iff.1 h
          have hstate := hmoved hblocked (s := .tempSoftBlocked) fun s₀ s' hs => by
            cases s₀ <;> cases hs
            rfl
          exact .inr (.inr (congrArg some hstate.symm))
    | expired challengeId =>
      have hstate := hmoved h (s := .new) fun s₀ s' hs => (transition_challengeExpired_ok_iff.1 hs).2
      exact .inr (.inl hstate)
    | spam =>
      obtain ⟨l₁, hspammed, rfl⟩ := Option.map_eq_some_iff.1 h
      have hstate := hmoved hspammed (s := .spamSoftBlocked) fun s₀ s' hs =>
        (transition_spamDetected_ok_iff.1 hs).2
      exact .inr (.inr (congrArg some hstate.symm))
  | manualOwner =>
    cases h
    exact .inr (.inr rfl)
  | messagesDeleted messageIds =>
    cases h
    unfold abandoned
    split
    · exact .inr (.inl rfl)
    · exact .inl rfl
  | _ =>
    cases h
    exact .inl rfl

/-! ## Runs -/

namespace World

variable {w w' w₀ : World} {op : Op}

/-- The step prepares an update that brings the conversation into the state. -/
def Causes (w : World) (key : ConversationKey) (s : ConversationState) : Op → Prop
  | .worker (.prepare _ raw preparer) => raw.Concerns key ∧
    preparer.Causes (w.db.destructiveMode.getD w.settings) raw w.db key s
  | _ => False

instance (w : World) (key : ConversationKey) (s : ConversationState) (op : Op) :
    Decidable (w.Causes key s op) := by
  cases op with
  | worker op =>
    cases op with
    | prepare updateId raw preparer => exact inferInstanceAs (Decidable (_ ∧ _))
    | _ => exact inferInstanceAs (Decidable False)
  | _ => exact inferInstanceAs (Decidable False)

/-- The conversation is not in the state, and nothing that waits leads it there. -/
structure Outside (w : World) (key : ConversationKey) (s : ConversationState) : Prop where
  state : (w.db.lifecycle key).state ≠ s
  waiting : w.Carried fun event _ => event.facts.optionalKey = some key →
    event.facts.action.enters ≠ some s

/-- **Without its cause, no step leads into a state.** -/
theorem Outside.step {key : ConversationKey} {s : ConversationState} (h : w.Outside key s)
    (hs : s ≠ .new) (hw : service.Reachable w) (hno : ¬w.Causes key s op)
    (hstep : w.step op = some w') : w'.Outside key s where
  waiting := by
    refine h.waiting.step (eventsPrepared hw) ?_ hstep
    rintro updateId raw preparer event rfl - hevent hkey henters
    exact hno (prepareUpdate_enters hevent hkey henters)
  state := by
    intro hstate
    rcases (eventsPrepared hw).lifeStep hstep with
      ⟨updateId, raw, preparer, event, -, -, -, -, rfl⟩ |
      ⟨event, preparedIn, -, -, hsteady, -⟩ | ⟨row, event, preparedIn, -, happlies⟩ |
      ⟨-, hreceded, -⟩
    · exact h.state hstate
    · rw [hsteady key] at hstate
      exact h.state hstate
    · by_cases hkey : event.facts.optionalKey = some key
      · obtain ⟨noReplies, heffect, -⟩ := happlies.applied.life key hkey
        obtain ⟨-, -, hwaits⟩ := h.waiting.recorded row (Table.mem_of_lookup happlies.lookup)
          happlies.recorded event happlies.recordedIn.carries
        rcases Lifecycle.effect_enters heffect with hsame | hnew | henters
        · exact h.state (hsame.symm.trans hstate)
        · exact hs (hstate.symm.trans hnew)
        · exact hwaits hkey (henters.trans (congrArg some hstate))
      · rw [happlies.applied.others key hkey] at hstate
        exact h.state hstate
    · rcases (hreceded key).state with hsame | hnew
      · exact h.state (hsame.symm.trans hstate)
      · exact hs (hstate.symm.trans hnew)

/-- **Every state has its cause.** Whatever a run has done before: where a conversation is not in a
state and nothing that waits leads it there, no continuation leads it there without a step that
prepares an update which brings it there. -/
theorem state_has_cause {key : ConversationKey} {s : ConversationState} (hs : s ≠ .new)
    (h₀ : service.Reachable w₀) (houtside : w₀.Outside key s)
    (hrun : service.Runs (fun w op => ¬w.Causes key s op) w₀ w) : (w.db.lifecycle key).state ≠ s := by
  have hall : service.Reachable w ∧ w.Outside key s := by
    refine hrun.invariant (P := fun w => service.Reachable w ∧ w.Outside key s) ⟨h₀, houtside⟩ ?_
    rintro w op w' ⟨hw, houtside⟩ hno hstep
    exact ⟨hw.step trivial hstep, houtside.step hs hw hno hstep⟩
  exact hall.2.state

/-- Before the first start every conversation is outside of every other state. -/
theorem outside_initial {key : ConversationKey} {s : ConversationState} (hs : s ≠ .new)
    (now : DateTime) : (World.initial now).Outside key s where
  state := by
    rw [show (World.initial now).db.lifecycle key = Lifecycle.initial from
      Database.lifecycle_of_lookup_none rfl]
    exact hs.symm
  waiting := by
    refine ⟨fun event preparedIn hheld => ?_, fun row hrow => ?_⟩
    · cases hheld
    · cases hrow

section

open Sample

/-- A contact writes, is challenged, and gives a wrong answer. -/
def answeredWrong : List Op :=
  Sample.connected true ++ message 3 50 1 .inboundMessage .allow .incorrect 3 ++
    message 4 50 2 .inboundMessage .allow .incorrect 4

/-- The conversation waits for an answer, and one has been counted. -/
def awaitsAfter (w : World) (key : ConversationKey) (attemptsUsed : Nat) : Bool :=
  (w.db.lifecycle key).state = .verifyPending &&
    (w.db.lifecycle key).challenge.any (·.attemptsUsed = attemptsUsed)

set_option maxRecDepth 100000 in
theorem state_has_cause_answered : ∃ w, w.awaitsAfter ⟨"c", 50⟩ 1 = true ∧
    service.Runs (fun w op => ¬w.Causes ⟨"c", 50⟩ .verifiedWaitingOwner op) (World.initial 0) w ∧
    (w.db.lifecycle ⟨"c", 50⟩).state ≠ .verifiedWaitingOwner := by
  obtain ⟨w, hrun, hawaits⟩ := (Option.any_eq_true _ _).1 (show (service.runWhile
    (fun w op => ¬w.Causes ⟨"c", 50⟩ .verifiedWaitingOwner op) answeredWrong (World.initial 0)).any
      (·.awaitsAfter ⟨"c", 50⟩ 1) = true by decide +kernel)
  have hruns := Machine.runs_of_runWhile _ hrun
  exact ⟨w, hawaits, hruns, state_has_cause (by decide) ⟨_, ⟨0, rfl⟩, .refl _⟩
    (outside_initial (by decide) 0) hruns⟩

end

end World

end ChatHygiene
