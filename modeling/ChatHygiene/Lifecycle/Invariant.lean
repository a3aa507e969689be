import ChatHygiene.System.Lives
/-!
# Conversations and their challenges

As long as every recorded event is applied before a later one is prepared, a
conversation waits for an answer exactly while it has an open challenge. The
invariant carries what is left of the fit of an event from its preparation to
its application: until then lives only recede.
-/

namespace ChatHygiene

open Txn (commit)

/-- The row is an event that waits for its application. -/
def ProcessedUpdate.Waiting (row : ProcessedUpdate) : Prop :=
  row.status = .recorded ∧ row.eventType = .lifecycle

instance (row : ProcessedUpdate) : Decidable row.Waiting :=
  inferInstanceAs (Decidable (_ ∧ _))

/-- The update that a step prepares. -/
def Op.prepares : Op → Option Int
  | .worker (.prepare updateId ..) => some updateId
  | _ => none

/-- **Events are applied in order**: one is prepared only when none but itself waits for its
application. -/
def AppliedInOrder (w : World) (op : Op) : Prop :=
  ∀ updateId ∈ op.prepares, ∀ row ∈ w.db.processedUpdate.rows, row.Waiting →
    row.updateId = updateId

instance (w : World) (op : Op) : Decidable (AppliedInOrder w op) :=
  inferInstanceAs (Decidable (∀ updateId ∈ op.prepares, _))

/-- The event can be applied without breaking its conversation. -/
def PreparedEvent.StillFits (event : PreparedEvent) (db : Database) : Prop :=
  ∀ key, event.facts.optionalKey = some key →
    event.facts.action.StillFits (db.lifecycle key)

theorem PreparedEvent.StillFits.recede {event : PreparedEvent} {db db' : Database}
    (h : event.StillFits db) (hdb : Receded db db') : event.StillFits db' :=
  fun key hkey => Lifecycle.StillFits.recede (h key hkey) (hdb key).challenge

theorem PreparedEvent.PreparedIn.stillFits {event : PreparedEvent} {db : Database} {default : Bool}
    (h : event.PreparedIn db default) : event.StillFits db :=
  fun key hkey => Lifecycle.Fits.stillFits (h.fits key hkey)

/-- Every conversation is sound, and at most one event waits; it still fits. -/
structure World.LivesSound (w : World) : Prop where
  sound : ∀ k, (w.db.lifecycle k).Sound
  held : ∀ event preparedIn, w.worker.held = some (event, preparedIn) →
    event.StillFits w.db ∧
      ∀ row ∈ w.db.processedUpdate.rows, row.Waiting → row.updateId = event.updateId
  fits : ∀ row ∈ w.db.processedUpdate.rows, row.Waiting → ∀ event, row.event = some event →
    event.StillFits w.db
  one : ∀ row ∈ w.db.processedUpdate.rows, ∀ row' ∈ w.db.processedUpdate.rows,
    row.Waiting → row'.Waiting → row.updateId = row'.updateId

namespace World

variable {w w' : World}

/-- Receding lives keep the invariant. -/
theorem LivesSound.recede (h : w.LivesSound)
    (hheld : w'.worker.held = none ∨ w'.worker = w.worker) (hdb : Receded w.db w'.db)
    (hrows : ∀ row ∈ w'.db.processedUpdate.rows, row.status = .recorded →
      row ∈ w.db.processedUpdate.rows) : w'.LivesSound where
  sound k := (hdb k).sound (h.sound k)
  held event preparedIn hevent := by
    rcases hheld with hnone | hsame
    · rw [hnone] at hevent
      cases hevent
    · obtain ⟨hfits, hone⟩ := h.held event preparedIn (hsame ▸ hevent)
      exact ⟨hfits.recede hdb, fun row hrow hw => hone row (hrows row hrow hw.1) hw⟩
  fits row hrow hw event hevent := (h.fits row (hrows row hrow hw.1) hw event hevent).recede hdb
  one row hrow row' hrow' hw hw' :=
    h.one row (hrows row hrow hw.1) row' (hrows row' hrow' hw'.1) hw hw'

/-- The event of a connection trigger does nothing to conversations. -/
theorem Applies.steady_of_trigger {row : ProcessedUpdate} {event : PreparedEvent}
    {preparedIn db' : Database} (h : w.Applies row event preparedIn db')
    (htype : row.eventType ≠ .lifecycle) : Steady w.db db' := by
  have haction : event.facts.action = .ignore := by
    rcases h.recordedIn.issued.genuine.eventType with hlifecycle | ⟨-, hignore⟩
    · exact absurd (h.recordedIn.eventType.symm.trans hlifecycle) htype
    · exact hignore
  intro k
  by_cases hk : event.facts.optionalKey = some k
  · obtain ⟨noReplies, heffect, -⟩ := h.applied.life k hk
    rw [haction] at heffect
    exact (Option.some.inj heffect).symm
  · exact h.applied.others k hk

/-- **An application keeps the invariant**: the event that waits is the one that is applied. -/
theorem LivesSound.apply (h : w.LivesSound) {row : ProcessedUpdate} {event : PreparedEvent}
    {preparedIn : Database} (happlies : w.Applies row event preparedIn w'.db)
    (hnone : w'.worker.held = none) : w'.LivesSound := by
  have hrows {u : ProcessedUpdate} (hu : u ∈ w'.db.processedUpdate.rows)
      (hrecorded : u.status = .recorded) := happlies.mem_of_recorded hu hrecorded
  by_cases htype : row.eventType = .lifecycle
  · have hrow := Table.mem_of_lookup happlies.lookup
    have hwaiting : row.Waiting := ⟨happlies.recorded, htype⟩
    -- nothing else waits
    have hlast (u : ProcessedUpdate) (hu : u ∈ w'.db.processedUpdate.rows) : ¬u.Waiting := by
      intro hw
      obtain ⟨hmem, hne⟩ := hrows hu hw.1
      exact hne (h.one u hmem row hrow hw hwaiting)
    refine
      { sound := fun k => ?_
        held := fun event' preparedIn' hheld => ?_
        fits := fun u hu hw => absurd hw (hlast u hu)
        one := fun u hu _ _ hw => absurd hw (hlast u hu) }
    · by_cases hk : event.facts.optionalKey = some k
      · obtain ⟨noReplies, heffect, -⟩ := happlies.applied.life k hk
        have hfits := h.fits row hrow hwaiting event happlies.recordedIn.carries k hk
        exact Lifecycle.effect_sound (h.sound k) hfits heffect
      · rw [happlies.applied.others k hk]
        exact h.sound k
    · rw [hnone] at hheld
      cases hheld
  · exact h.recede (.inl hnone) (happlies.steady_of_trigger htype).receded
      fun u hu hrecorded => (hrows hu hrecorded).1

/-- **One step keeps conversations sound.** -/
theorem LivesSound.step {op : Op} (h : w.LivesSound) (hprepared : w.EventsPrepared)
    (hok : AppliedInOrder w op) (hstep : w.step op = some w') : w'.LivesSound := by
  rcases hprepared.lifeStep hstep with
    ⟨updateId, raw, preparer, event, rfl, rfl, hin, -, rfl⟩ |
    ⟨event, preparedIn, hheld, hnone, hsteady, hrows⟩ |
    ⟨row, event, preparedIn, hnone, happlies⟩ | ⟨hheld, hreceded, hrows⟩
  · refine { h with held := fun event' preparedIn hevent => ?_ }
    obtain ⟨rfl, rfl⟩ := Prod.mk.inj (Option.some.inj hevent)
    exact ⟨hin.stillFits, hok event.updateId rfl⟩
  · obtain ⟨hfits, hone⟩ := h.held event preparedIn hheld
    have hids (row : ProcessedUpdate) (hrow : row ∈ w'.db.processedUpdate.rows)
        (hw : row.Waiting) : row.updateId = event.updateId := by
      rcases hrows row hrow with hrow | rfl
      · exact hone row hrow hw
      · rfl
    refine
      { sound := fun k => (hsteady.receded k).sound (h.sound k)
        held := fun event' preparedIn' hheld' => ?_
        fits := fun row hrow hw event' hevent' => ?_
        one := fun row hrow row' hrow' hw hw' => (hids row hrow hw).trans (hids row' hrow' hw').symm }
    · rw [hnone] at hheld'
      cases hheld'
    · rcases hrows row hrow with hrow | rfl
      · exact (h.fits row hrow hw event' hevent').recede hsteady.receded
      · obtain rfl : event = event' := Option.some.inj hevent'
        exact hfits.recede hsteady.receded
  · exact h.apply happlies hnone
  · exact h.recede hheld hreceded hrows

/-- **In every world reached by applying events in order, conversations are sound.** -/
theorem livesSound (h : service.ReachableBy AppliedInOrder w) : w.LivesSound := by
  refine h.invariant ?_ fun w op w' hw hsound hok hstep => hsound.step (eventsPrepared hw) hok hstep
  rintro w ⟨now, rfl⟩
  have hinitial (k : ConversationKey) :
      (World.initial now).db.lifecycle k = Lifecycle.initial := Database.lifecycle_of_lookup_none rfl
  refine
    { sound := fun k => hinitial k ▸ Lifecycle.sound_initial
      held := fun event preparedIn hheld => ?_
      fits := fun row hrow => ?_
      one := fun row hrow => ?_ }
  · cases hheld
  · cases hrow
  · cases hrow

end World

/-- The challenge is an open one of the conversation. -/
def ChallengeRow.OpenFor (r : ChallengeRow) (key : ConversationKey) : Prop :=
  r.key = key ∧ r.closedAt = none

/-- **The challenge and state invariant.** In every world reached by applying events in order, a
conversation is `VERIFY_PENDING` if and only if it has exactly one open challenge, any other has
none, and an open challenge has an attempt left. -/
theorem verifyPending_iff_openChallenge {w : World} (h : service.ReachableBy AppliedInOrder w) :
    (∀ c ∈ w.db.conversation.rows,
      (c.state = .verifyPending ↔ ∃! r, r ∈ w.db.challenge.rows ∧ r.OpenFor c.key) ∧
      (c.state ≠ .verifyPending → ∀ r ∈ w.db.challenge.rows, ¬r.OpenFor c.key)) ∧
    ∀ r ∈ w.db.challenge.rows, r.closedAt = none → r.attemptsUsed < r.maxAttempts := by
  have hsound := (World.livesSound h).sound
  have hopen {r : ChallengeRow} {key : ConversationKey} :
      w.db.openChallenge key = some r ↔ r ∈ w.db.challenge.rows ∧ r.OpenFor key :=
    Database.openChallenge_eq_some_iff
  refine ⟨fun c hc => ?_, fun r hr hclosed => ?_⟩
  · have hlife := Database.lifecycle_of_lookup (Table.lookup_of_mem hc)
    have hiff := (hsound c.key).pending_iff
    simp only [hlife, Conversation.life, Option.isSome_map] at hiff
    rw [Option.isSome_iff_exists] at hiff
    refine ⟨⟨fun hpending => ?_, fun hopened => hiff.2 ⟨_, hopen.2 hopened.choose_spec.1⟩⟩,
      fun hother r hr hfor => hother (hiff.2 ⟨r, hopen.2 ⟨hr, hfor⟩⟩)⟩
    obtain ⟨r, hr⟩ := hiff.1 hpending
    refine ⟨r, hopen.1 hr, fun s hs => ?_⟩
    exact Option.some.inj ((hopen.2 hs).symm.trans hr)
  · have hattempts := (hsound r.key).attempts r.asOpen
    rw [Database.lifecycle, Conversation.life, hopen.2 ⟨hr, rfl, hclosed⟩] at hattempts
    exact hattempts rfl

section

open Sample

/-- A new correspondent is asked a question. -/
def questioned : List Op :=
  connected true ++ message 3 50 1 .inboundMessage .allow .correct 3

set_option maxRecDepth 100000 in
theorem verifyPending_iff_openChallenge_questioned : ∃ w, service.ReachableBy AppliedInOrder w ∧
    (w.db.conversation.rows.any (·.state = .verifyPending)) = true ∧
    (∀ c ∈ w.db.conversation.rows,
      (c.state = .verifyPending ↔ ∃! r, r ∈ w.db.challenge.rows ∧ r.OpenFor c.key) ∧
      (c.state ≠ .verifyPending → ∀ r ∈ w.db.challenge.rows, ¬r.OpenFor c.key)) ∧
    ∀ r ∈ w.db.challenge.rows, r.closedAt = none → r.attemptsUsed < r.maxAttempts := by
  obtain ⟨w, hw, hpending⟩ := Machine.reachableBy_of_runWhile (M := service)
    AppliedInOrder questioned (fun w => w.db.conversation.rows.any (·.state = .verifyPending)) ⟨0, rfl⟩ (by decide +kernel)
  exact ⟨w, hw, hpending, verifyPending_iff_openChallenge hw⟩

end

end ChatHygiene
