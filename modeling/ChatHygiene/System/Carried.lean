import ChatHygiene.System.Lives
/-!
# What is true of an event until it is applied

An event is prepared once, and from then on it is held by the worker or stands
in the log with the facts it was prepared with. What preparation makes true of
it is true of it for as long.
-/

namespace ChatHygiene

namespace World

variable {w w' : World} {op : Op} {P : PreparedEvent → Database → Prop}

/-- What waits to be applied has the property, with the database it was prepared in. -/
structure Carried (w : World) (P : PreparedEvent → Database → Prop) : Prop where
  held : ∀ event preparedIn, w.worker.held = some (event, preparedIn) → P event preparedIn
  recorded : ∀ row ∈ w.db.processedUpdate.rows, row.status = .recorded → ∀ event,
    row.event = some event → ∃ preparedIn, w.preparedIn row.updateId = some preparedIn ∧
      P event preparedIn

/-- Preparation makes the property true of an event. -/
def Establishes (w : World) (op : Op) (P : PreparedEvent → Database → Prop) : Prop :=
  ∀ updateId raw preparer event, op = .worker (.prepare updateId raw preparer) → raw.WellFormed →
    prepareUpdate { preparer with destructiveMode := w.settings } updateId raw w.db =
      .ok (event, w.db) → P event w.db

theorem Carried.step (h : w.Carried P) (hprepared : w.EventsPrepared) (hop : w.Establishes op P)
    (hstep : w.step op = some w') : w'.Carried P where
  held event preparedIn hheld := by
    rcases step_event hstep with
      ⟨updateId, raw, preparer, event', hprepare, hraw, hevent, hidle, rfl⟩ |
      ⟨event', preparedIn', hheld', rfl, rfl⟩ | ⟨hheld', -, -, -⟩
    · obtain ⟨rfl, rfl⟩ := Prod.mk.inj (Option.some.inj hheld)
      exact hop updateId raw preparer event' hprepare hraw hevent
    · rw [afterRecord_held] at hheld
      cases hheld
    · rcases hheld' with hnone | hsame
      · rw [hnone] at hheld
        cases hheld
      · exact h.held event preparedIn (hsame ▸ hheld)
  recorded row hrow hrecorded event hevent := by
    rcases step_event hstep with
      ⟨updateId, raw, preparer, event', rfl, hraw, hevent', hidle, rfl⟩ |
      ⟨event', preparedIn', hheld, rfl, rfl⟩ | ⟨-, hhistory, -, hdb⟩
    · exact h.recorded row hrow hrecorded event hevent
    · rw [afterRecord_db] at hrow
      rw [afterRecord_preparedIn]
      rcases mem_record hrow with hrow | ⟨rfl, hok⟩
      · obtain ⟨preparedIn, hpast, hP⟩ := h.recorded row hrow hrecorded event hevent
        refine ⟨preparedIn, ?_, hP⟩
        split
        · next hok =>
          have hne : row.updateId ≠ event'.updateId :=
            Table.lookup_eq_none_iff.1 (lookup_of_recorded hok) row hrow
          rw [Function.update_of_ne hne]
          exact hpast
        · exact hpast
      · obtain rfl : event' = event := Option.some.inj hevent
        rw [if_pos hok]
        exact ⟨preparedIn', Function.update_self .., h.held _ _ (by rw [hheld]; rfl)⟩
    · rw [hhistory]
      refine h.recorded row ?_ hrecorded event hevent
      rcases hdb with hsame | ⟨x, hx, hrecord, hdb⟩
      · exact hsame ▸ hrow
      · -- nothing but a recording records an event
        rw [hdb] at hrow
        refine (x.after_writes hprepared.noConnectionChange).recorded ?_ hrow hrecorded
        cases x with
        | record event => exact absurd rfl (hrecord event)
        | _ => simp

/-- **What preparation makes true of an event is true of it until it is applied.** -/
theorem carried {ok : World → Op → Prop} (h : service.ReachableBy ok w)
    (hok : ∀ w op, ok w op → w.Establishes op P) : w.Carried P := by
  refine h.invariant (P := fun w => w.Carried P) ?_ fun w op w' hw hcarried hop hstep =>
    hcarried.step (eventsPrepared hw) (hok w op hop) hstep
  rintro w ⟨now, rfl⟩
  refine ⟨fun event preparedIn hheld => ?_, fun row hrow => ?_⟩
  · cases hheld
  · cases hrow

end World

end ChatHygiene
