import ChatHygiene.Lifecycle.Invariant
import ChatHygiene.Updates.Due
/-!
# From preparation to application

What an event was prepared for may be gone when it is applied: passes, commands
of the Owner, crashes and other deliveries come in between. As long as events
are applied in order, none of them carries a conversation on: it is found as it
was prepared for, or renewed, and its challenge is open still, or closed.
-/

namespace ChatHygiene

open Txn (commit)

namespace World

variable {w w' : World} {op : Op}

/-- A commit that records nothing applies an event, or lets lives recede. -/
theorem EventsPrepared.applies_or_recedes (h : w.EventsPrepared)
    (hdb : w'.db = w.db ∨ ∃ x, w.Commits op x ∧ (∀ event, x ≠ .record event) ∧
      w'.db = x.after w.db) :
    (w.worker.held = none ∧ ∃ row event preparedIn, w.Applies row event preparedIn w'.db) ∨
      Receded w.db w'.db ∧ ∀ row ∈ w'.db.processedUpdate.rows, row.status = .recorded →
        row ∈ w.db.processedUpdate.rows := by
  have hsame (hdb : w'.db = w.db) : Receded w.db w'.db ∧ ∀ row ∈ w'.db.processedUpdate.rows,
      row.status = .recorded → row ∈ w.db.processedUpdate.rows := by
    rw [hdb]
    exact ⟨refl _, fun row hrow _ => hrow⟩
  rcases hdb with hdb | ⟨x, hx, hrecord, hdb⟩
  · exact .inr (hsame hdb)
  by_cases happly : ∃ updateId now, x = .apply updateId now
  · obtain ⟨updateId, now, rfl⟩ := happly
    rcases h.apply updateId now with hnothing | ⟨row, event, preparedIn, -, happlies⟩
    · exact .inr (hsame (hdb.trans hnothing))
    · rw [← hdb] at happlies
      have hnone : w.worker.held = none := by
        cases hx with
        | recover hw => rw [hw]; rfl
        | apply hw => rw [hw]; rfl
      exact .inl ⟨hnone, row, event, preparedIn, happlies⟩
  · have hwrites := x.after_writes h.noConnectionChange
    rw [hdb]
    refine .inr ⟨Transaction.receded h.noConnectionChange fun updateId now hx =>
      happly ⟨updateId, now, hx⟩, fun row hrow hrecorded => hwrites.recorded ?_ hrow hrecorded⟩
    cases x with
    | record event => exact absurd rfl (hrecord event)
    | _ => simp

/-- Since an event that waits was prepared, lives have only receded. -/
structure Receding (w : World) : Prop where
  held : ∀ event preparedIn, w.worker.held = some (event, preparedIn) → Receded preparedIn w.db
  waiting : ∀ row ∈ w.db.processedUpdate.rows, row.Waiting → ∀ preparedIn,
    w.preparedIn row.updateId = some preparedIn → Receded preparedIn w.db

/-- Recording hands what was held on to the row. -/
theorem Receding.record (h : w.Receding) {event : PreparedEvent} {preparedIn : Database}
    (hworker : w.worker = .prepared event preparedIn) :
    (({ w with db := (commit (recordPreparedEvent event) w.db).1 } : World).afterRecord event
      preparedIn (commit (recordPreparedEvent event) w.db).2).Receding where
  held event' preparedIn' hheld := by
    rw [afterRecord_held] at hheld
    cases hheld
  waiting row hrow hwaiting preparedIn' hhistory := by
    have hsteady : Steady w.db (commit (recordPreparedEvent event) w.db).1 :=
      (recordPreparedEvent_steady event).commit w.db
    have hheld := h.held event preparedIn (by rw [hworker]; rfl)
    rw [afterRecord_preparedIn] at hhistory
    rw [afterRecord_db] at hrow ⊢
    refine trans_of Receded ?_ hsteady.receded
    rcases mem_record hrow with hold | ⟨rfl, hresult⟩
    · have hother : (commit (recordPreparedEvent event) w.db).2 = .ok .recorded →
          row.updateId ≠ event.updateId := by
        intro hresult hid
        have hnew := lookup_of_recorded hresult
        rw [← hid, Table.lookup_of_mem hold] at hnew
        cases hnew
      split at hhistory
      · next hresult =>
        rw [Function.update_of_ne (hother hresult)] at hhistory
        exact h.waiting row hold hwaiting preparedIn' hhistory
      · exact h.waiting row hold hwaiting preparedIn' hhistory
    · rw [if_pos hresult] at hhistory
      have hsame : Function.update w.preparedIn event.updateId (some preparedIn) event.updateId =
          some preparedIn := Function.update_self _ _ _
      obtain rfl : preparedIn = preparedIn' := Option.some.inj (hsame.symm.trans hhistory)
      exact hheld

/-- **One step keeps it.** -/
theorem Receding.step (h : w.Receding) (hprepared : w.EventsPrepared) (hsound : w.LivesSound)
    (hstep : w.step op = some w') : w'.Receding := by
  rcases step_event hstep with
    ⟨updateId, raw, preparer, event, rfl, hraw, hevent, hidle, rfl⟩ |
    ⟨event, preparedIn, hworker, rfl, rfl⟩ | ⟨hheld, hhistory, -, hdb⟩
  · refine ⟨fun event' preparedIn hheld => ?_, h.waiting⟩
    obtain ⟨-, rfl⟩ := Prod.mk.inj (Option.some.inj hheld)
    exact refl _
  · exact h.record hworker
  · -- neither the worker nor the history learns of an event
    have hkept (hdb : Receded w.db w'.db)
        (hrows : ∀ row ∈ w'.db.processedUpdate.rows, row.status = .recorded →
          row ∈ w.db.processedUpdate.rows) : w'.Receding := by
      refine ⟨fun event preparedIn hevent => ?_, fun row hrow hwaiting preparedIn hrecorded => ?_⟩
      · rcases hheld with hnone | hsame
        · rw [hnone] at hevent
          cases hevent
        · exact trans_of Receded (h.held event preparedIn (hsame ▸ hevent)) hdb
      · rw [hhistory] at hrecorded
        exact trans_of Receded
          (h.waiting row (hrows row hrow hwaiting.1) hwaiting preparedIn hrecorded) hdb
    rcases hprepared.applies_or_recedes hdb with
      ⟨hnone, row, event, preparedIn, happlies⟩ | ⟨hreceded, hrows⟩
    · have hrows {u : ProcessedUpdate} (hu : u ∈ w'.db.processedUpdate.rows)
          (hrecorded : u.status = .recorded) := happlies.mem_of_recorded hu hrecorded
      by_cases htype : row.eventType = .lifecycle
      · refine ⟨fun event' preparedIn' hheld' => ?_, fun u hu hwaiting => ?_⟩
        · have hnone' : w'.worker.held = none := hheld.elim id fun hsame => hsame ▸ hnone
          rw [hnone'] at hheld'
          cases hheld'
        · -- the one event that waited is the one that is applied
          obtain ⟨hmem, hne⟩ := hrows hu hwaiting.1
          exact absurd (hsound.one u hmem row (Table.mem_of_lookup happlies.lookup) hwaiting
            ⟨happlies.recorded, htype⟩) hne
      · exact hkept (happlies.steady_of_trigger htype).receded
          fun u hu hrecorded => (hrows hu hrecorded).1
    · exact hkept hreceded hrows

/-- **Events that are applied in order find lives that have receded.** -/
theorem receding (h : service.ReachableBy AppliedInOrder w) : w.Receding := by
  refine h.invariant (P := Receding) ?_ fun w op w' hw hreceding hok hstep => ?_
  · rintro w ⟨now, rfl⟩
    refine ⟨fun event preparedIn hheld => ?_, fun row hrow => ?_⟩
    · cases hheld
    · cases hrow
  · exact hreceding.step (eventsPrepared hw) (livesSound hw) hstep

end World

/-- **However late an event is applied, it finds what it was prepared for, or a renewal of it.** In
every world reached by applying events in order, an event of a conversation that a step carries out
finds the conversation in the state it was prepared for, or new, with the challenge that was open
then, or with none. -/
theorem applied_finds_prepared {w w' : World} {op : Op}
    (h : service.ReachableBy AppliedInOrder w) (hstep : w.step op = some w')
    {event : PreparedEvent} (happlies : w.appliesEvent op = some event)
    (htype : event.eventType = .lifecycle) :
    ∃ preparedIn, w.preparedIn event.updateId = some preparedIn ∧
      (∃ default, event.PreparedIn preparedIn default) ∧
      ∀ key, event.facts.optionalKey = some key →
        ((w.db.lifecycle key).state = (preparedIn.lifecycle key).state ∨
          (w.db.lifecycle key).state = .new) ∧
        ((w.db.lifecycle key).challenge = (preparedIn.lifecycle key).challenge ∨
          (w.db.lifecycle key).challenge = none) := by
  cases (World.eventsPrepared h).dueStep hstep with
  | carried row event' preparedIn hdue happlies' hcarried =>
    obtain rfl : event' = event := Option.some.inj (happlies'.symm.trans happlies)
    have hin := hcarried.recordedIn
    have hwaiting : row.Waiting := ⟨hcarried.recorded, hin.eventType.symm.trans htype⟩
    have hreceded := (World.receding h).waiting row (Table.mem_of_lookup hcarried.lookup) hwaiting
      preparedIn hcarried.history
    rw [hin.updateId]
    exact ⟨preparedIn, hcarried.history, hin.prepared,
      fun key _ => ⟨(hreceded key).state, (hreceded key).challenge⟩⟩
  | rejected row event' preparedIn hdue hin hhistory hno hnone hsame =>
    cases hnone.symm.trans happlies
  | other hdue hnone hdb => cases hnone.symm.trans happlies

section

open Sample

/-- A message is judged spam while an answer is awaited. It is not applied at first, the challenge
expires, and the message is delivered again. -/
def expiredMeanwhile : List Op :=
  questioned ++ receive 4 50 2 .inboundMessage .spam .correct 5 ++
    [.worker .storageFailure, .worker (.expire (DateTime.seconds 200))] ++
    receive 4 50 2 .inboundMessage .spam .correct (DateTime.seconds 201)

/-- The step applies a message to a conversation that is new. -/
def World.appliesToNew (w : World) (op : Op) : Bool :=
  (w.step op).isSome && (w.appliesEvent op).any fun event =>
    event.eventType = .lifecycle && event.facts.optionalKey.any fun key =>
      (w.db.lifecycle key).state = .new

set_option maxRecDepth 100000 in
theorem applied_finds_prepared_expired : ∃ (w w' : World) (event : PreparedEvent),
    service.ReachableBy AppliedInOrder w ∧ w.appliesToNew (.worker (.apply 7)) = true ∧
    w.step (.worker (.apply 7)) = some w' ∧ w.appliesEvent (.worker (.apply 7)) = some event ∧
    ∃ preparedIn, w.preparedIn event.updateId = some preparedIn ∧
      (∃ default, event.PreparedIn preparedIn default) ∧
      ∀ key, event.facts.optionalKey = some key →
        ((w.db.lifecycle key).state = (preparedIn.lifecycle key).state ∨
          (w.db.lifecycle key).state = .new) ∧
        ((w.db.lifecycle key).challenge = (preparedIn.lifecycle key).challenge ∨
          (w.db.lifecycle key).challenge = none) := by
  obtain ⟨w, hw, hnew⟩ : ∃ w, service.ReachableBy AppliedInOrder w ∧
      w.appliesToNew (.worker (.apply 7)) = true :=
    Machine.reachableBy_of_runWhile AppliedInOrder expiredMeanwhile
      (fun w : World => w.appliesToNew (.worker (.apply 7))) ⟨0, rfl⟩ (by decide +kernel)
  have happlied := hnew
  unfold World.appliesToNew at happlied
  rw [Bool.and_eq_true] at happlied
  obtain ⟨w', hstep⟩ := Option.isSome_iff_exists.1 happlied.1
  obtain ⟨event, happlies, htype⟩ := (Option.any_eq_true _ _).1 happlied.2
  rw [Bool.and_eq_true, decide_eq_true_eq] at htype
  exact ⟨w, w', event, hw, hnew, hstep, happlies,
    applied_finds_prepared hw hstep happlies htype.1⟩

end

end ChatHygiene
