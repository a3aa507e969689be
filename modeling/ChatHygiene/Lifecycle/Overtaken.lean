import ChatHygiene.Outbox.Stored
import ChatHygiene.Updates.Due
import ChatHygiene.Lifecycle.Invariant
/-!
# Overtaken events

A decision on a message is frozen when the message is prepared, and carried out
against whatever the conversation has become by then. It stays safe where the
conversation still is what the decision was about.
-/

namespace ChatHygiene

/-! ## What a decision may find -/

namespace Lifecycle

/-- The challenge that waits for an answer. -/
def openId (l : Lifecycle) : Option Nat := l.challenge.map (·.id)

/-- The state is still the one it was, and so is the open challenge. -/
def Same (l l₀ : Lifecycle) : Prop := l.state = l₀.state ∧ l.openId = l₀.openId

instance (l l₀ : Lifecycle) : Decidable (l.Same l₀) := inferInstanceAs (Decidable (_ ∧ _))

/-- Who is verified is not asked any more. -/
def Unasked (l : Lifecycle) : Prop := l.state = .verifiedWaitingOwner → l.challenge = none

instance (l : Lifecycle) : Decidable l.Unasked := inferInstanceAs (Decidable (_ → _))

end Lifecycle

namespace PreparedAction

/-- The action is about a message of the contact. -/
def judges : PreparedAction → Bool
  | .inbound .. | .activeInbound | .blockedInbound | .blockedFailOpen => true
  | _ => false

/-- **What the action decides is not overtaken**: an outcome that moves the conversation finds the
state and the open challenge it was prepared for, and a blocked message no active conversation. -/
def Current (l₀ l : Lifecycle) : PreparedAction → Prop
  | .inbound _ .retain _ => True
  | .inbound .. => l.Same l₀
  | .blockedInbound => l.state ≠ .active
  | _ => True

instance (l₀ l : Lifecycle) (action : PreparedAction) : Decidable (action.Current l₀ l) := by
  unfold Current
  split <;> infer_instance

end PreparedAction

namespace Lifecycle

variable {l l' l₀ : Lifecycle} {action : PreparedAction} {nextId : Nat} {noReplies : Bool}

theorem counted_eq_some {challengeId : Nat} (h : l.counted challengeId = some l') :
    ∃ c, l.challenge = some c ∧ c.id = challengeId ∧
      l' = { l with challenge := some { c with attemptsUsed := c.attemptsUsed + 1 } } := by
  unfold counted at h
  split at h
  · next c hc =>
    obtain ⟨hguard, h⟩ := Option.ite_none_right_eq_some.1 h
    exact ⟨c, hc, hguard.1, (Option.some.inj h).symm⟩
  · cases h

theorem moved_ne {event : TransitionEvent} (h : l.moved event = some l') : l'.state ≠ l.state := by
  obtain ⟨s, hs, rfl⟩ := moved_eq_some_iff.1 h
  exact transition_ne hs

/-- An outcome that does not retain the conversation changes it. -/
theorem outcome_ne {outcome : InboundOutcome} (hretain : outcome ≠ .retain)
    (hl : l.outcome nextId outcome = some l') : l' ≠ l := by
  have hstate (h : l'.state ≠ l.state) : l' ≠ l := fun hsame => h (hsame ▸ rfl)
  cases outcome with
  | retain => exact absurd rfl hretain
  | startChallenge e a v c x maxAttempts =>
    obtain ⟨-, hmoved⟩ := Option.ite_none_right_eq_some.1 hl
    have hne := moved_ne hmoved
    exact hstate hne
  | correct challengeId | expired challengeId =>
    have hne : l'.state ≠ (l.closed challengeId).state := moved_ne hl
    exact hstate hne
  | spam =>
    obtain ⟨m, hmoved, rfl⟩ := Option.map_eq_some_iff.1 hl
    have hne := moved_ne hmoved
    exact hstate hne
  | incorrect challengeId exhausted r b =>
    obtain ⟨m, hm, hl⟩ := Option.bind_eq_some_iff.1 hl
    obtain ⟨c, hc, -, rfl⟩ := counted_eq_some hm
    cases exhausted with
    | false =>
      -- one more answer is counted
      obtain rfl := Option.some.inj hl
      intro hsame
      have hcounted := congrArg (fun l => l.challenge.map (·.attemptsUsed)) hsame
      simp [hc] at hcounted
    | true =>
      refine hstate ?_
      simp only [if_true, Lifecycle.exhausted] at hl
      cases b with
      | none =>
        have hne := moved_ne hl
        exact hne
      | some expiresAt =>
        obtain ⟨m, hmoved, rfl⟩ := Option.map_eq_some_iff.1 hl
        have hne := moved_ne hmoved
        exact hne

/-- The challenge that is found is the one the outcome is about. -/
theorem Same.challenge (h : l.Same l₀) {outcome : InboundOutcome} (hfits : outcome.Fits l₀)
    {challengeId : Nat} (hid : outcome.challengeId = some challengeId) :
    l.state = .verifyPending ∧ ∀ c, l.challenge = some c → c.id = challengeId := by
  obtain ⟨hpending, c₀, hc₀, hid₀⟩ := hfits.challenge challengeId hid
  refine ⟨h.1.trans hpending, fun c hc => ?_⟩
  have hopen := h.2
  unfold openId at hopen
  rw [hc, hc₀] at hopen
  exact (Option.some.inj hopen).trans hid₀

/-- **An outcome that finds what it was prepared for leaves nobody verified beside a challenge.** -/
theorem outcome_unasked {outcome : InboundOutcome} (hfits : outcome.Fits l₀)
    (hsame : outcome = .retain ∨ l.Same l₀) (hunasked : l.Unasked)
    (hl : l.outcome nextId outcome = some l') : l'.Unasked := by
  have hother (h : l'.state ≠ .verifiedWaitingOwner) : l'.Unasked :=
    fun hverified => absurd hverified h
  cases outcome with
  | retain =>
    obtain rfl := Option.some.inj hl
    exact hunasked
  | startChallenge e a v c x maxAttempts =>
    obtain ⟨-, hmoved⟩ := Option.ite_none_right_eq_some.1 hl
    obtain ⟨s, hs, rfl⟩ := moved_eq_some_iff.1 hmoved
    obtain ⟨-, rfl⟩ := transition_safeFirstInbound_ok_iff.1 hs
    exact hother (by simp)
  | correct challengeId =>
    obtain ⟨s, hs, rfl⟩ := moved_eq_some_iff.1 hl
    have hsame := hsame.resolve_left (by simp)
    intro _
    exact closed_challenge_of_fit (hsame.challenge hfits rfl).2
  | expired challengeId =>
    obtain ⟨s, hs, rfl⟩ := moved_eq_some_iff.1 hl
    obtain ⟨-, rfl⟩ := transition_challengeExpired_ok_iff.1 hs
    exact hother (by simp)
  | spam =>
    obtain ⟨m, hmoved, rfl⟩ := Option.map_eq_some_iff.1 hl
    obtain ⟨s, hs, rfl⟩ := moved_eq_some_iff.1 hmoved
    obtain ⟨-, rfl⟩ := transition_spamDetected_ok_iff.1 hs
    exact hother (by simp)
  | incorrect challengeId exhausted r b =>
    have hpending := ((hsame.resolve_left (by simp)).challenge hfits rfl).1
    obtain ⟨m, hm, hl⟩ := Option.bind_eq_some_iff.1 hl
    obtain ⟨c, hc, -, rfl⟩ := counted_eq_some hm
    cases exhausted with
    | false =>
      obtain rfl := Option.some.inj hl
      exact hother (by simp [hpending])
    | true =>
      simp only [if_true, Lifecycle.exhausted] at hl
      cases b with
      | none =>
        obtain ⟨s, hs, rfl⟩ := moved_eq_some_iff.1 hl
        obtain ⟨-, rfl⟩ := transition_challengeExpired_ok_iff.1 hs
        exact hother (by simp)
      | some expiresAt =>
        obtain ⟨m, hmoved, rfl⟩ := Option.map_eq_some_iff.1 hl
        obtain ⟨s, hs, rfl⟩ := moved_eq_some_iff.1 hmoved
        obtain ⟨-, rfl⟩ := transition_verificationExhausted_ok_iff.1 hs
        exact hother (by simp)

/-- Spam is judged of no active conversation. -/
theorem not_active_of_spammed (hl : l.spammed = some l') : l.state ≠ .active := by
  obtain ⟨m, hmoved, -⟩ := Option.map_eq_some_iff.1 hl
  obtain ⟨s, hs, -⟩ := moved_eq_some_iff.1 hmoved
  obtain ⟨hstate, -⟩ := transition_spamDetected_ok_iff.1 hs
  rcases hstate with hstate | hstate | hstate <;> simp [hstate]

/-- **A decision that is carried out is safe exactly when it is not overtaken.** -/
theorem current_iff (hjudges : action.judges = true) (hfits : action.Fits l₀)
    (hl : l.effect nextId noReplies action = some l') :
    action.Current l₀ l ↔ (l' = l ∨ l.Same l₀) ∧ (l.Unasked → l'.Unasked) ∧
      (l.state = .active → action.cleans = false) := by
  cases action with
  | inbound detection outcome dryRunSpam =>
    have hclean (hactive : l.state = .active) :
        (PreparedAction.inbound detection outcome dryRunSpam).cleans = false := by
      cases outcome with
      | spam => exact absurd hactive (not_active_of_spammed hl)
      | _ => rfl
    by_cases hretain : outcome = .retain
    · subst hretain
      obtain rfl := Option.some.inj hl
      exact ⟨fun _ => ⟨.inl rfl, id, hclean⟩, fun _ => trivial⟩
    · have hcurrent : (PreparedAction.inbound detection outcome dryRunSpam).Current l₀ l ↔
          l.Same l₀ := by
        cases outcome with
        | retain => exact absurd rfl hretain
        | _ => exact Iff.rfl
      rw [hcurrent]
      constructor
      · intro hsame
        exact ⟨.inr hsame, fun hunasked => outcome_unasked hfits (.inr hsame) hunasked hl, hclean⟩
      · rintro ⟨hkept, -⟩
        exact hkept.resolve_left (outcome_ne hretain hl)
  | blockedInbound =>
    obtain rfl := Option.some.inj hl
    constructor
    · intro hactive
      exact ⟨.inl rfl, id, fun hstate => absurd hstate hactive⟩
    · rintro ⟨-, -, hcleans⟩ hstate
      cases hcleans hstate
  | activeInbound | blockedFailOpen =>
    obtain rfl := Option.some.inj hl
    exact ⟨fun _ => ⟨.inl rfl, id, fun _ => rfl⟩, fun _ => trivial⟩
  | _ => cases hjudges

/-- An event that is about no message of the contact asks nobody. -/
theorem effect_unasked (hjudges : action.judges = false) (hunasked : l.Unasked)
    (hl : l.effect nextId noReplies action = some l') : l'.Unasked := by
  cases action with
  | manualOwner =>
    obtain rfl := Option.some.inj hl
    exact fun _ => rfl
  | messagesDeleted messageIds =>
    obtain rfl := Option.some.inj hl
    unfold abandoned
    split
    · intro hverified
      cases hverified
    · exact hunasked
  | connectionChanged | botMessage | ignore =>
    obtain rfl := Option.some.inj hl
    exact hunasked
  | _ => cases hjudges

/-- Nobody is asked by anything but an event. -/
theorem Recedes.unasked (h : l.Recedes l') (hunasked : l.Unasked) : l'.Unasked := by
  intro hverified
  rcases h.state with hsame | hnew
  · have hnone := hunasked (hsame ▸ hverified)
    rcases h.challenge with hchallenge | hchallenge
    · rw [hchallenge, hnone]
    · exact hchallenge
  · rw [hnew] at hverified
    cases hverified

end Lifecycle

/-! ## What is enqueued -/

namespace World

variable {w w' : World} {op : Op} {event : PreparedEvent} {row : ProcessedUpdate}
  {preparedIn : Database}

/-- The step reads or deletes no message. -/
def Spares (w w' : World) : Prop :=
  ∀ b ∈ w'.db.outboxAction.rows, w.db.outboxSeq < b.id → b.payload.kind.destructive = false

/-- Only a cleanup reads or deletes messages. -/
theorem spares_of_not_cleans (h : service.Reachable w) (hstep : w.step op = some w')
    (happlies : w.appliesEvent op = some event) (hcleans : event.facts.action.cleans = false) :
    w.Spares w' := by
  have hprepared := eventsPrepared h
  obtain ⟨updateId, now, hcommits, happlied⟩ := appliesEvent_eq_some happlies
  obtain ⟨-, row, -, hrow, hrecorded, hevent, -, -⟩ := hprepared.appliedEvent_spec happlied
  have hdb := hcommits.apply_db hstep
  have hgrows := ((Transaction.apply updateId now).after_writes
    hprepared.noConnectionChange).outboxGrows
  rw [← hdb] at hgrows
  intro b hb hnew
  rcases hgrows.row b hb with ⟨a, ha, hsame⟩ | ⟨-, a, ha, hcarries⟩
  · have hid := w.db.consistent.updates.outboxIds a ha
    rw [hsame.id] at hid
    omega
  · obtain ⟨row', event', hrow', -, hevent', hof⟩ := ha
    obtain rfl : row' = row := Option.some.inj (hrow'.symm.trans hrow)
    obtain rfl : event' = event := Option.some.inj (hevent'.symm.trans hevent)
    rw [hcarries.payload]
    by_contra hdestructive
    rw [Bool.not_eq_false] at hdestructive
    have hyes := hof.cleans hdestructive
    rw [hcleans] at hyes
    cases hyes

/-- A blocked message is read. -/
theorem not_spares_of_blockedInbound (h : service.Reachable w) (hstep : w.step op = some w')
    (happlies : w.appliesEvent op = some event) (hcarried : w.CarriesOut row event preparedIn w'.db)
    (haction : event.facts.action = .blockedInbound) : ¬w.Spares w' := by
  obtain ⟨trace, -, hrows⟩ := applied_actions_stored h hstep happlies
  have hgenuine := hcarried.recordedIn.issued.genuine.facts
  have hcreates : event.facts.action.createsConversation = true := by
    rw [haction]
    rfl
  obtain ⟨key, hkey⟩ := Option.isSome_iff_exists.1 (hgenuine.named hcreates).1
  obtain ⟨messageId, hmessage⟩ := Option.isSome_iff_exists.1
    (hgenuine.message hcreates fun ids => by rw [haction]; simp)
  -- the first of its actions reads the message
  have hactions : event.actions w'.db = actionOf event.updateId key (.readBusinessMessage messageId) 0
      event.facts.occurredAt :: actionsOf event.updateId key event.facts.occurredAt
        (deletions (w'.db.deletionIds key)) := by
    unfold PreparedEvent.actions
    rw [hkey, haction, hmessage]
    rfl
  rw [hactions, List.cons_append, Keyed.numbered] at hrows
  intro hspares
  have hread := hspares _ (hrows ▸ List.mem_append_right _ List.mem_cons_self) (Nat.lt_succ_self _)
  cases hread

/-! ## Late application -/

/-- **The event is applied safely**: it is not refused; it leaves the conversation as it is, or finds
the state and the open challenge it was prepared for; it leaves nobody verified beside an open
challenge who was not; and it reads or deletes no message of an active conversation. -/
structure AppliesSafely (w w' : World) (op : Op) (event : PreparedEvent) (preparedIn : Database)
    (key : ConversationKey) : Prop where
  applied : w.appliesEvent op = some event
  kept : w'.db.lifecycle key = w.db.lifecycle key ∨
    (w.db.lifecycle key).Same (preparedIn.lifecycle key)
  unasked : (w.db.lifecycle key).Unasked → (w'.db.lifecycle key).Unasked
  spares : (w.db.lifecycle key).state = .active → w.Spares w'

/-- A message that comes to be applied is applicable, and what is decided of it not overtaken. -/
def AppliesCurrent (w : World) (op : Op) : Prop :=
  ∀ event ∈ w.dueEvent op, event.facts.action.judges = true → event.Applicable w.db ∧
    ∀ key ∈ event.facts.optionalKey, ∀ preparedIn ∈ w.preparedIn event.updateId,
      event.facts.action.Current (preparedIn.lifecycle key) (w.db.lifecycle key)

instance (event : PreparedEvent) (db : Database) : Decidable (event.Applicable db) :=
  decidable_of_iff ((event.facts.action.createsConversation = true →
      ∀ key ∈ event.facts.optionalKey, db.businessConnection.contains key.connectionId = true) ∧
    ∀ key ∈ event.facts.optionalKey,
      (db.lifecycle key).effect (db.challengeSeq + 1) true event.facts.action ≠ none)
    ⟨fun h => ⟨h.1, h.2⟩, fun h => ⟨h.connection, h.accepted⟩⟩

instance (w : World) (op : Op) : Decidable (AppliesCurrent w op) := by
  unfold AppliesCurrent
  infer_instance

/-- A step that reads or deletes no message of an active conversation carries out no cleanup of it. -/
theorem spares_iff (h : service.Reachable w) (hstep : w.step op = some w')
    (happlies : w.appliesEvent op = some event) (hcarried : w.CarriesOut row event preparedIn w'.db)
    (hjudges : event.facts.action.judges = true) {key : ConversationKey}
    (hkey : event.facts.optionalKey = some key) :
    ((w.db.lifecycle key).state = .active → w.Spares w') ↔
      ((w.db.lifecycle key).state = .active → event.facts.action.cleans = false) := by
  refine forall_congr' fun hactive => ⟨fun hspares => ?_, fun hcleans =>
    spares_of_not_cleans h hstep happlies hcleans⟩
  cases haction : event.facts.action with
  | inbound detection outcome dryRunSpam =>
    cases outcome with
    | spam =>
      obtain ⟨noReplies, heffect, -⟩ := hcarried.applied.life key hkey
      rw [haction] at heffect
      exact absurd hactive (Lifecycle.not_active_of_spammed heffect)
    | _ => rfl
  | blockedInbound =>
    exact absurd hspares (not_spares_of_blockedInbound h hstep happlies hcarried haction)
  | activeInbound | blockedFailOpen => rfl
  | _ =>
    rw [haction] at hjudges
    cases hjudges

/-- **A carried out decision on a message is safe exactly when it is not overtaken.** -/
theorem appliesSafely_iff (h : service.Reachable w) (hstep : w.step op = some w')
    (happlies : w.appliesEvent op = some event) (hcarried : w.CarriesOut row event preparedIn w'.db)
    (hjudges : event.facts.action.judges = true) {key : ConversationKey}
    (hkey : event.facts.optionalKey = some key) :
    w.AppliesSafely w' op event preparedIn key ↔
      event.facts.action.Current (preparedIn.lifecycle key) (w.db.lifecycle key) := by
  obtain ⟨default, hprepared⟩ := hcarried.recordedIn.prepared
  obtain ⟨noReplies, heffect, -⟩ := hcarried.applied.life key hkey
  rw [Lifecycle.current_iff hjudges (hprepared.fits key hkey) heffect,
    ← spares_iff h hstep happlies hcarried hjudges hkey]
  exact ⟨fun hsafe => ⟨hsafe.kept, hsafe.unasked, hsafe.spares⟩,
    fun ⟨hkept, hunasked, hspares⟩ => ⟨happlies, hkept, hunasked, hspares⟩⟩

/-- **One step leaves nobody verified beside an open challenge.** -/
theorem unasked_step (h : service.Reachable w) (hunasked : ∀ key, (w.db.lifecycle key).Unasked)
    (hok : AppliesCurrent w op) (hstep : w.step op = some w') (key : ConversationKey) :
    (w'.db.lifecycle key).Unasked := by
  have hprepared := eventsPrepared h
  cases hprepared.dueStep hstep with
  | carried row event preparedIn hdue happlies hcarried =>
    by_cases hkey : event.facts.optionalKey = some key
    · cases hjudges : event.facts.action.judges with
      | true =>
        have hhistory : w.preparedIn event.updateId = some preparedIn :=
          hcarried.recordedIn.updateId ▸ hcarried.history
        have hcurrent := (hok event hdue hjudges).2 key hkey preparedIn hhistory
        have hsafe := (appliesSafely_iff h hstep happlies hcarried hjudges hkey).2 hcurrent
        exact hsafe.unasked (hunasked key)
      | false =>
        obtain ⟨noReplies, heffect, -⟩ := hcarried.applied.life key hkey
        exact Lifecycle.effect_unasked hjudges (hunasked key) heffect
    · rw [hcarried.applied.others key hkey]
      exact hunasked key
  | rejected row event preparedIn hdue hin hhistory hno happlies hsame =>
    rw [hsame]
    exact hunasked key
  | other hdue happlies hdb =>
    rcases hdb with hsame | ⟨x, -, hdb, hx⟩
    · rw [hsame]
      exact hunasked key
    · rw [hdb]
      exact (Transaction.receded hprepared.noConnectionChange hx key).unasked (hunasked key)

end World

section

open Sample

/-- The right answer is given and not applied at first; the challenge expires, the contact writes
again and is asked anew, and the answer is delivered again. -/
def answeredAnew : List Op :=
  questioned ++ receive 4 50 2 .inboundMessage .allow .correct 5 ++
    [.worker .storageFailure, .worker (.expire (DateTime.seconds 200))] ++
    message 5 50 3 .inboundMessage .allow .correct (DateTime.seconds 201) ++
    receive 4 50 2 .inboundMessage .allow .correct (DateTime.seconds 202)

/-- The right answer is given and not applied at first; another contact writes, and the answer is
delivered again. -/
def answeredLate : List Op :=
  questioned ++ receive 4 50 2 .inboundMessage .allow .correct 5 ++ [.worker .storageFailure] ++
    message 5 51 3 .inboundMessage .allow .correct 6 ++
    receive 4 50 2 .inboundMessage .allow .correct 7

/-- The step applies a message, and leaves its contact verified, with or without an open challenge. -/
def World.verifies (w : World) (op : Op) (asked : Bool) : Bool :=
  (w.appliesEvent op).any fun event => event.facts.action.judges &&
    event.facts.optionalKey.any fun key => (w.step op).any fun w' =>
      (w'.db.lifecycle key).state = .verifiedWaitingOwner &&
        (w'.db.lifecycle key).challenge.isSome = asked

theorem World.verifies_spec {w : World} {op : Op} {asked : Bool} (h : w.verifies op asked = true) :
    ∃ (w' : World) (event : PreparedEvent) (key : ConversationKey), w.step op = some w' ∧
      w.appliesEvent op = some event ∧ event.facts.action.judges = true ∧
      event.facts.optionalKey = some key ∧
      (w'.db.lifecycle key).state = .verifiedWaitingOwner ∧
      (w'.db.lifecycle key).challenge.isSome = asked := by
  unfold World.verifies at h
  obtain ⟨event, happlies, h⟩ := (Option.any_eq_true _ _).1 h
  rw [Bool.and_eq_true] at h
  obtain ⟨hjudges, h⟩ := h
  obtain ⟨key, hkey, h⟩ := (Option.any_eq_true _ _).1 h
  obtain ⟨w', hstep, h⟩ := (Option.any_eq_true _ _).1 h
  rw [Bool.and_eq_true, decide_eq_true_eq, decide_eq_true_eq] at h
  exact ⟨w', event, key, hstep, happlies, hjudges, hkey, h.1, h.2⟩

end

end ChatHygiene
