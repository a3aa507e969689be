import ChatHygiene.System.Lives
/-!
# Dry-run does nothing to anybody

While the configured default is dry-run and the destructive mode is never set,
every event is prepared as an inert one, and stays so when it is applied later.
So no conversation is blocked, and only a reset by the Owner enqueues a cleanup.
-/

namespace ChatHygiene

namespace Lifecycle

variable {l l' : Lifecycle} {nextId : Nat} {noReplies : Bool}

theorem moved_state {event : TransitionEvent} (h : l.moved event = some l') :
    transition l.state event = .ok l'.state := by
  obtain ⟨s, hs, rfl⟩ := moved_eq_some_iff.1 h
  exact hs

/-- Of the moves, only two lead to a block. -/
theorem moved_unblocked {event : TransitionEvent} (hspam : event ≠ .spamDetected)
    (hexhausted : event ≠ .verificationExhausted) (h : l.moved event = some l') :
    l'.state.blocked = false := by
  have hstate := moved_state h
  cases hl : l.state <;> cases event <;> simp_all [transition, ConversationState.blocked] <;>
    simp [← hstate]

/-- **An inert action blocks nobody.** -/
theorem effect_unblocked {action : PreparedAction} (hinert : action.inert = true)
    (hl : l.state.blocked = false) (h : l.effect nextId noReplies action = some l') :
    l'.state.blocked = false := by
  cases action with
  | inbound detection outcome dryRunSpam =>
    cases outcome with
    | startChallenge expression hmac version createdAt expiresAt maxAttempts =>
      obtain ⟨-, h⟩ := Option.ite_none_right_eq_some.1 h
      exact moved_unblocked (by simp) (by simp) h
    | retain =>
      cases h
      exact hl
    | correct challengeId => exact moved_unblocked (by simp) (by simp) h
    | incorrect challengeId exhausted remaining blockExpiresAt =>
      cases blockExpiresAt with
      | some expiresAt => cases hinert
      | none =>
        obtain ⟨l₁, hcounted, h⟩ := Option.bind_eq_some_iff.1 h
        cases exhausted with
        | true => exact moved_unblocked (by simp) (by simp) h
        | false =>
          cases h
          unfold counted at hcounted
          split at hcounted
          · split at hcounted
            · cases hcounted
              exact hl
            · cases hcounted
          · cases hcounted
    | expired challengeId => exact moved_unblocked (by simp) (by simp) h
    | spam => cases hinert
  | manualOwner =>
    cases h
    rfl
  | messagesDeleted messageIds =>
    cases h
    unfold abandoned
    split
    · rfl
    · exact hl
  | _ =>
    cases h
    exact hl

theorem Recedes.unblocked (h : l.Recedes l') (hl : l.state.blocked = false) :
    l'.state.blocked = false := by
  rcases h.state with hstate | hstate
  · rw [hstate]
    exact hl
  · rw [hstate]
    rfl

end Lifecycle

/-- An inert action asks for no cleanup. -/
theorem PreparedAction.cleans_of_inert {action : PreparedAction} (h : action.inert = true) :
    action.cleans = false := by
  cases action with
  | inbound detection outcome dryRunSpam => cases outcome <;> first | rfl | cases h
  | blockedInbound => cases h
  | _ => rfl

/-! ## Runs in dry-run -/

/-- The default a start is configured with. -/
def Op.configures : Op → Option Bool
  | .worker (.boot settings _) => some settings
  | _ => none

/-- **The service stays in dry-run**: it starts with dry-run as the default, and no step sets the
destructive mode. -/
def StaysDryRun (w : World) (op : Op) : Prop :=
  (∀ settings ∈ op.configures, settings = false) ∧
    ∀ w' ∈ w.step op, w'.db.destructiveMode ≠ some true

instance (w : World) (op : Op) : Decidable (StaysDryRun w op) :=
  inferInstanceAs (Decidable ((∀ settings ∈ op.configures, settings = false) ∧ _))

/-- The step is a reset by the Owner. -/
def Op.IsReset (op : Op) : Prop :=
  ∃ updateId snapshot occurredAt,
    op = .worker (.ownerCommand updateId snapshot occurredAt) ∧ snapshot.isReset = true

namespace World

variable {w w' : World} {op : Op}

/-- Nothing that is recorded or in hand would block or clean up, and nothing is blocked. -/
structure Inert (w : World) : Prop where
  settings : w.settings = false
  mode : w.db.destructiveMode ≠ some true
  held : ∀ event preparedIn, w.worker.held = some (event, preparedIn) →
    event.facts.action.inert = true
  recorded : ∀ row ∈ w.db.processedUpdate.rows, row.status = .recorded →
    ∀ event, row.event = some event → event.facts.action.inert = true
  unblocked : ∀ k, (w.db.lifecycle k).state.blocked = false

/-- **One step in dry-run keeps everything inert.** -/
theorem Inert.step (h : w.Inert) (hprepared : w.EventsPrepared) (hok : StaysDryRun w op)
    (hstep : w.step op = some w') : w'.Inert := by
  have hsettings : w'.settings = false := by
    rcases step_settings hstep with hsame | ⟨now, hboot⟩
    · rw [hsame, h.settings]
    · exact hok.1 _ (hboot ▸ rfl)
  have hmode := hok.2 w' hstep
  rcases hprepared.lifeStep hstep with
    ⟨updateId, raw, preparer, event, -, -, hin, -, rfl⟩ |
    ⟨event, preparedIn, hheld, hnone, hsteady, hrows⟩ |
    ⟨row, event, preparedIn, hnone, happlies⟩ | ⟨hheld, hreceded, hrows⟩
  · refine ⟨hsettings, hmode, fun event' preparedIn hevent => ?_, h.recorded, h.unblocked⟩
    obtain ⟨rfl, rfl⟩ := Prod.mk.inj (Option.some.inj hevent)
    refine hin.inert ?_
    cases hdb : w.db.destructiveMode with
    | none => exact h.settings
    | some mode =>
      cases mode with
      | false => rfl
      | true => exact absurd hdb h.mode
  · refine ⟨hsettings, hmode, fun event' preparedIn' hheld' => ?_,
      fun row hrow hrecorded event' hevent' => ?_, fun k => ?_⟩
    · rw [hnone] at hheld'
      cases hheld'
    · rcases hrows row hrow with hrow | rfl
      · exact h.recorded row hrow hrecorded event' hevent'
      · obtain rfl : event = event' := Option.some.inj hevent'
        exact h.held event preparedIn hheld
    · rw [hsteady k]
      exact h.unblocked k
  · refine ⟨hsettings, hmode, fun event' preparedIn' hheld' => ?_,
      fun u hu hrecorded => ?_, fun k => ?_⟩
    · rw [hnone] at hheld'
      cases hheld'
    · exact h.recorded u (happlies.mem_of_recorded hu hrecorded).1 hrecorded
    · by_cases hk : event.facts.optionalKey = some k
      · obtain ⟨noReplies, heffect, -⟩ := happlies.applied.life k hk
        have hinert := h.recorded row (Table.mem_of_lookup happlies.lookup) happlies.recorded event
          happlies.recordedIn.carries
        exact Lifecycle.effect_unblocked hinert (h.unblocked k) heffect
      · rw [happlies.applied.others k hk]
        exact h.unblocked k
  · refine ⟨hsettings, hmode, fun event preparedIn hevent => ?_,
      fun row hrow hrecorded => h.recorded row (hrows row hrow hrecorded) hrecorded,
      fun k => (hreceded k).unblocked (h.unblocked k)⟩
    rcases hheld with hnone | hsame
    · rw [hnone] at hevent
      cases hevent
    · exact h.held event preparedIn (hsame ▸ hevent)

theorem inert (h : service.ReachableBy StaysDryRun w) : w.Inert := by
  refine h.invariant ?_ fun w op w' hw hinert hok hstep => hinert.step (eventsPrepared hw) hok hstep
  rintro w ⟨now, rfl⟩
  refine ⟨rfl, fun hmode => ?_, fun event preparedIn hheld => ?_, fun row hrow => ?_, fun k => ?_⟩
  · cases hmode
  · cases hheld
  · cases hrow
  rw [show (World.initial now).db.lifecycle k = Lifecycle.initial from
    Database.lifecycle_of_lookup_none rfl]
  rfl

/-- What a transaction enqueues in an inert world is no cleanup, unless it is a reset. -/
theorem Inert.enqueues (h : w.Inert) {x : Transaction} (hx : w.Commits op x) {a : NewOutboxAction} (ha : x.Enqueues w.db a)
    (hkind : a.payload.kind.destructive = true) : op.IsReset := by
  cases hx with
  | ownerCommand hw => exact ⟨_, _, _, rfl, ha.cleans hkind⟩
  | recover hw | apply hw =>
    obtain ⟨row, event, hrow, hrecorded, hevent, hof⟩ := ha
    have hinert := h.recorded row (Table.mem_of_lookup hrow) hrecorded event hevent
    have hcleans := hof.cleans hkind
    rw [PreparedAction.cleans_of_inert hinert] at hcleans
    cases hcleans
  | ownerStart hw | ownerClaimRejected hw | ownerClaimRefused hw | ownerClaim hw =>
    exact absurd (ha.cleans hkind) id
  | expire hw =>
    rw [ha.1] at hkind
    cases hkind
  | finish hw =>
    rw [ha.1] at hkind
    cases hkind
  | _ => exact absurd ha id

end World

/-- **Dry-run is inert.** While the service stays in dry-run, no conversation is soft blocked, and
no step but a reset by the Owner enqueues an action that reads or deletes messages. -/
theorem dryRun_inert {w : World} (h : service.ReachableBy StaysDryRun w) :
    (∀ c ∈ w.db.conversation.rows, c.state ≠ .tempSoftBlocked ∧ c.state ≠ .spamSoftBlocked) ∧
    ∀ op w', w.step op = some w' → ∀ b ∈ w'.db.outboxAction.rows,
      (b.payload.kind = .readBusinessMessage ∨ b.payload.kind = .deleteBusinessMessages) →
      (∃ a ∈ w.db.outboxAction.rows, a.Same b) ∨ op.IsReset := by
  have hinert := World.inert h
  have hprepared := World.eventsPrepared h
  refine ⟨fun c hc => ?_, fun op w' hstep b hb hkind => ?_⟩
  · have hstate := hinert.unblocked c.key
    rw [state_of_lookup (Table.lookup_of_mem hc)] at hstate
    cases hc : c.state <;> simp_all [ConversationState.blocked]
  · rcases World.step_db hstep with hsame | ⟨x, hx, hdb⟩
    · exact .inl ⟨b, hsame ▸ hb, .rfl⟩
    · rw [hdb] at hb
      have hgrows := (x.after_writes hprepared.noConnectionChange).outboxGrows
      rcases hgrows.row b hb with hold | ⟨-, a, ha, hcarries⟩
      · exact .inl hold
      · refine .inr (hinert.enqueues hx ha ?_)
        rw [← hcarries.payload]
        rcases hkind with hkind | hkind <;> rw [hkind] <;> rfl

section

open Sample

/-- In dry-run a message is judged spam, and only the Owner is told. -/
def proposed : List Op :=
  connected false ++ message 3 50 1 .inboundMessage .spam .correct 3

set_option maxRecDepth 100000 in
theorem dryRun_inert_proposed : ∃ w, service.ReachableBy StaysDryRun w ∧
    (w.db.outboxAction.rows.any (·.payload.kind = .proposedDestructiveAction)) = true ∧
    (∀ c ∈ w.db.conversation.rows, c.state ≠ .tempSoftBlocked ∧ c.state ≠ .spamSoftBlocked) ∧
    ∀ op w', w.step op = some w' → ∀ b ∈ w'.db.outboxAction.rows,
      (b.payload.kind = .readBusinessMessage ∨ b.payload.kind = .deleteBusinessMessages) →
      (∃ a ∈ w.db.outboxAction.rows, a.Same b) ∨ op.IsReset := by
  obtain ⟨w, hw, hproposed⟩ := Machine.reachableBy_of_runWhile (M := service)
    StaysDryRun proposed (fun w => w.db.outboxAction.rows.any
      (·.payload.kind = .proposedDestructiveAction)) ⟨0, rfl⟩ (by decide +kernel)
  exact ⟨w, hw, hproposed, dryRun_inert hw⟩

end

end ChatHygiene
