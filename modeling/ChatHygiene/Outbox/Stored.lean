import ChatHygiene.Outbox.Attempted
import ChatHygiene.Updates.Once
/-!
# Every action that is meant is stored

Until an update is carried out no action is stored for it, so its keys are its
own. What an applied event means to enqueue has distinct keys, and each of these
actions gets a row.
-/

namespace ChatHygiene

open Txn (Respects commit)

variable {db db' : Database} {updateId : Int} {key : ConversationKey}

/-! ## An update that is not carried out has no action -/

variable {source : ActionSource} {a : NewOutboxAction} {b c : OutboxActionRow}

theorem OutboxActionRow.From.sourceUpdateId (h : b.From source)
    (hid : source.updateId? = some updateId) : b.sourceUpdateId = updateId := by
  have hdescribes := h.describes
  cases source with
  | action | reply | notice =>
    obtain rfl := Option.some.inj hid
    exact hdescribes.1
  | expiry | alert => cases hid

theorem OutboxActionRow.Carries.from_row (h : b.Carries a) (hb : b.From source) :
    a.From source where
  key := h.idempotencyKey.symm.trans hb.key
  describes := by
    rw [← h.sourceUpdateId, ← h.key, ← h.payload]
    exact hb.describes

theorem OutboxActionRow.Same.symm (h : b.Same c) : c.Same b :=
  ⟨h.id.symm, h.sourceUpdateId.symm, h.key.symm, h.payload.symm, h.idempotencyKey.symm⟩

/-- An update that actions are stored for is no longer recorded. -/
def Database.CarriedOut (db : Database) : Prop :=
  ∀ b ∈ db.outboxAction.rows, ∀ source, b.From source → ∀ updateId,
    source.updateId? = some updateId → ∀ row, db.processedUpdate.lookup updateId = some row →
      row.status ≠ .recorded

/-- An action that is new was not enqueued by a transaction that changed nothing. -/
theorem Transaction.after_ne_of_new {x : Transaction}
    (hb : b ∈ (x.after db).outboxAction.rows) (hnew : db.outboxSeq < b.id) : x.after db ≠ db := by
  intro hsame
  rw [hsame] at hb
  have hold := db.consistent.updates.outboxIds b hb
  omega

/-- A row that is new is the row of an update that has just been carried out. -/
theorem World.EventsPrepared.new_row {w : World} (h : w.EventsPrepared) {x : Transaction}
    (henqueues : x.Enqueues w.db a) (hsource : a.From source)
    (hid : source.updateId? = some updateId) (hchanged : x.after w.db ≠ w.db)
    {row : ProcessedUpdate} (hrow : (x.after w.db).processedUpdate.lookup updateId = some row) :
    row.status ≠ .recorded := by
  have hsubject {id : Int} {cleans : Prop} (hof : a.Of id cleans) : id = updateId := by
    obtain ⟨source', hsource', hid'⟩ := hof.origin
    rw [hsource'.eq hsource rfl, hid] at hid'
    exact (Option.some.inj hid').symm
  -- the row of an Owner's update is inserted as applied
  have howner {id : Int} (hx : x.subject = some id) {cleans : Prop} (hof : a.Of id cleans)
      (hrecord : ∀ event, x ≠ .record event) (hpurge : ∀ now, x ≠ .purge now)
      (happly : ∀ now, x ≠ .apply id now)
      (htrigger : ∀ connectionId occurredAt owner snapshot answer now,
        x ≠ .trigger id connectionId occurredAt owner snapshot answer now) :
      row.status ≠ .recorded := by
    obtain rfl := hsubject hof
    cases hbefore : w.db.processedUpdate.lookup id with
    | some u =>
      rcases Transaction.after_of_stored hx hbefore with ⟨now, rfl⟩ |
        ⟨connectionId, occurredAt, owner, snapshot, answer, now, rfl⟩ | hsame
      · exact absurd rfl (happly now)
      · exact absurd rfl (htrigger _ _ _ _ _ _)
      · exact absurd hsame hchanged
    | none =>
      rcases Transaction.log h.noConnectionChange hrecord hpurge with hsame | ⟨id', hx', hlog⟩
      · rw [hsame, hbefore] at hrow
        cases hrow
      · obtain rfl := Option.some.inj (hx.symm.trans hx')
        rw [(hlog.fresh row hrow hbefore).applied]
        decide
  cases x with
  | apply id now =>
    obtain ⟨u, event, hu, hrecorded, hevent, hof⟩ := henqueues
    obtain ⟨event', preparedIn, -, hin⟩ := h.recorded u (Table.mem_of_lookup hu) hrecorded
    obtain rfl : event = event' := Option.some.inj (hevent.symm.trans hin.carries)
    have hevent : event.updateId = id := hin.updateId.trans (Table.key_of_lookup hu)
    obtain rfl : id = updateId := hevent.symm.trans (hsubject hof)
    rcases h.apply id now with hsame | ⟨u', event', preparedIn, rfl, happlies⟩
    · exact absurd hsame hchanged
    · have happlied := happlies.settled.applied
      rw [hrow] at happlied
      have hstatus : row.status = .applied := Option.some.inj happlied
      rw [hstatus]
      decide
  | ownerCommand id => exact howner rfl henqueues (by simp) (by simp) (by simp) (by simp)
  | ownerStart id => exact howner rfl henqueues (by simp) (by simp) (by simp) (by simp)
  | ownerClaimRejected id => exact howner rfl henqueues (by simp) (by simp) (by simp) (by simp)
  | ownerClaim id => exact howner rfl henqueues (by simp) (by simp) (by simp) (by simp)
  | expire now =>
    obtain ⟨-, challengeId, hsource'⟩ := henqueues
    rw [← hsource'.eq hsource rfl] at hid
    cases hid
  | finish action now result =>
    obtain ⟨-, what, hsource'⟩ := henqueues
    rw [← hsource'.eq hsource rfl] at hid
    cases hid
  | _ => cases henqueues

/-- **A transaction enqueues nothing for an update that stays recorded.** -/
theorem World.EventsPrepared.carriedOut {w : World} (h : w.EventsPrepared) (x : Transaction)
    (hdb : w.db.CarriedOut) : (x.after w.db).CarriedOut := by
  intro b hb source hsource updateId hid row hrow hrecorded
  have hwrites := x.after_writes h.noConnectionChange
  rcases hwrites.outboxGrows.row b hb with ⟨a, ha, hsame⟩ | ⟨hnew, a, ha, hcarries⟩
  · -- the action was there, so its update was stored and carried out
    have hasource := hsame.symm.from hsource
    have hstored := w.db.consistent.updates.outboxFk a ha
    rw [hasource.sourceUpdateId hid] at hstored
    have hbefore (hmem : row ∈ w.db.processedUpdate.rows) : False := by
      have hlookup := Table.lookup_of_mem hmem
      rw [Table.key_of_lookup hrow] at hlookup
      exact hdb a ha source hasource updateId hid row hlookup hrecorded
    cases x with
    | record event =>
      rcases mem_record (Table.mem_of_lookup hrow) with hmem | ⟨rfl, hok⟩
      · exact hbefore hmem
      · have hnone := lookup_of_recorded hok
        have hevent : event.row.updateId = updateId := Table.key_of_lookup hrow
        rw [show event.updateId = updateId from hevent] at hnone
        rw [Table.contains, hnone] at hstored
        cases hstored
    | _ => exact hbefore (hwrites.recorded (by simp) (Table.mem_of_lookup hrow) hrecorded)
  · exact h.new_row ha (hcarries.from_row hsource) hid (Transaction.after_ne_of_new hb hnew) hrow hrecorded

namespace World

variable {w w' : World} {op : Op}

theorem carriedOut (h : service.Reachable w) : w.db.CarriedOut := by
  refine h.invariant (P := fun w => w.db.CarriedOut) ?_ fun w op w' hw hcarried _ hstep => ?_
  · rintro w ⟨now, rfl⟩ b hb
    cases hb
  · rcases step_db hstep with hdb | ⟨x, -, hdb⟩
    · exact hdb ▸ hcarried
    · exact hdb ▸ (eventsPrepared hw).carriedOut x hcarried

end World

/-- No stored action has the key of an action of the update. -/
def Database.Untaken (db : Database) (updateId : Int) : Prop :=
  ∀ b ∈ db.outboxAction.rows, ∀ source : ActionSource, source.updateId? = some updateId →
    b.idempotencyKey ≠ source.idempotencyKey

/-- **An update that is not carried out yet has its keys to itself.** -/
theorem World.untaken {w : World} (h : service.Reachable w)
    (hpending : ∀ row, w.db.processedUpdate.lookup updateId = some row → row.status = .recorded) :
    w.db.Untaken updateId := by
  intro b hb source hid hkey
  obtain ⟨source', hsource⟩ := World.sourced h b hb
  obtain rfl : source' = source := ActionSource.idempotencyKey_injective (hsource.key.symm.trans hkey)
  have hstored := w.db.consistent.updates.outboxFk b hb
  rw [hsource.sourceUpdateId hid] at hstored
  obtain ⟨row, hrow⟩ := Option.isSome_iff_exists.1 hstored
  exact World.carriedOut h b hb source' hsource updateId hid row hrow (hpending row hrow)

/-- What comes and goes leaves the keys of the update alone. -/
theorem Database.Untaken.of_grows {K : NewOutboxAction → Prop} (h : db.Untaken updateId)
    (hgrows : OutboxGrows K db.toTables db'.toTables) (hK : ∀ a, ¬K a) : db'.Untaken updateId := by
  intro b hb source hid hkey
  rcases hgrows.row b hb with ⟨a, ha, hsame⟩ | ⟨-, a, ha, -⟩
  · exact h a ha source hid (hsame.idempotencyKey.trans hkey)
  · exact hK a ha

/-! ## Keys of their own -/

/-- The kind and the index of each action. -/
def slots (payloads : List (OutboxPayload × Nat)) : List (OutboxActionKind × Nat) :=
  payloads.map fun payload => (payload.1.kind, payload.2)

/-- Actions on one conversation are told by their kind and their index. -/
theorem nodup_keys_actionsOf {payloads : List (OutboxPayload × Nat)} {now : DateTime}
    (h : (slots payloads).Nodup) :
    ((actionsOf updateId key now payloads).map (·.idempotencyKey)).Nodup := by
  have hkeys : (actionsOf updateId key now payloads).map (·.idempotencyKey) =
      (slots payloads).map fun slot =>
        (ActionSource.action updateId slot.1 key slot.2).idempotencyKey := by
    unfold actionsOf slots
    rw [List.map_map, List.map_map]
    rfl
  rw [hkeys]
  refine h.map fun slot slot' hsame => ?_
  obtain ⟨-, hkind, -, hbatch⟩ := ActionSource.action.inj (ActionSource.idempotencyKey_injective hsame)
  exact Prod.ext hkind hbatch

theorem slots_deletions (messageIds : List Int) :
    slots (deletions messageIds) = (List.range' 0 (deleteMessageBatches messageIds).length).map
      fun batchIndex => (.deleteBusinessMessages, batchIndex) := by
  rw [← List.zipIdx_map_snd 0 (deleteMessageBatches messageIds)]
  unfold slots deletions
  rw [List.map_map, List.map_map]
  rfl

/-- What is enqueued before the deletions of a cleanup, told by kind and index. -/
structure Precedes (before : List (OutboxPayload × Nat)) : Prop where
  nodup : (slots before).Nodup
  kinds : ∀ payload ∈ before, payload.1.kind ≠ .deleteBusinessMessages

theorem Precedes.none : Precedes [] :=
  ⟨List.nodup_nil, fun _ hpayload => absurd hpayload List.not_mem_nil⟩

/-- The batches have indices of their own. -/
theorem Precedes.nodup_slots {before : List (OutboxPayload × Nat)} (h : Precedes before)
    (messageIds : List Int) : (slots (before ++ deletions messageIds)).Nodup := by
  have happend : slots (before ++ deletions messageIds) =
      slots before ++ slots (deletions messageIds) := List.map_append
  rw [happend]
  refine h.nodup.append ?_ fun slot hslot hdeleted => ?_
  · rw [slots_deletions]
    exact List.Nodup.map (fun i j hij => congrArg Prod.snd hij) List.nodup_range'
  · rw [slots_deletions] at hdeleted
    obtain ⟨payload, hpayload, rfl⟩ := List.mem_map.1 hslot
    obtain ⟨batchIndex, -, hkind⟩ := List.mem_map.1 hdeleted
    exact h.kinds payload hpayload (congrArg Prod.fst hkind).symm

/-- A message that is read before it is deleted. -/
def reading (messageId : Option Int) : List (OutboxPayload × Nat) :=
  messageId.toList.map fun messageId => (.readBusinessMessage messageId, 0)

theorem precedes_reading (messageId : Option Int) : Precedes (reading messageId) := by
  constructor
  · cases messageId <;> simp [reading, slots]
  · cases messageId <;> simp [reading, OutboxPayload.kind]

theorem precedes_detection (detection : DetectionFacts) (dryRunSpam : Bool)
    (messageId : Option Int) :
    Precedes (detectionPayloads detection dryRunSpam ++ reading messageId) := by
  constructor
  · cases messageId <;> cases dryRunSpam <;> cases herror : detection.error <;>
      simp [reading, slots, detectionPayloads, herror, OutboxPayload.kind]
  · cases messageId <;> cases dryRunSpam <;> cases herror : detection.error <;>
      simp [reading, detectionPayloads, herror, OutboxPayload.kind]

/-- The answer to a message is told from what the detector's decision enqueues. -/
theorem nodup_slots_outcome {detection : DetectionFacts} {dryRunSpam : Bool}
    {messageId : Option Int} {outcome : InboundOutcome} (hspam : outcome ≠ .spam) :
    (slots (detectionPayloads detection dryRunSpam ++
      outcome.payloads messageId key db)).Nodup := by
  cases dryRunSpam <;> cases herror : detection.error
  all_goals
    cases outcome with
    | spam => exact absurd rfl hspam
    | incorrect challengeId exhausted attemptsRemaining blockExpiresAt =>
      cases exhausted <;> cases blockExpiresAt <;>
        simp [slots, detectionPayloads, InboundOutcome.payloads, herror, OutboxPayload.kind]
    | _ => simp [slots, detectionPayloads, InboundOutcome.payloads, herror, OutboxPayload.kind]

/-- **What an event enqueues on its conversation is told by kind and index.** -/
theorem PreparedAction.nodup_slots (action : PreparedAction) (messageId : Option Int) :
    (slots (action.payloads messageId key db)).Nodup := by
  cases action with
  | blockedInbound => exact (precedes_reading messageId).nodup_slots _
  | inbound detection outcome dryRunSpam =>
    by_cases hspam : outcome = .spam
    · subst hspam
      have hall := (precedes_detection detection dryRunSpam messageId).nodup_slots
        (db.deletionIds key)
      rw [List.append_assoc] at hall
      exact hall
    · exact nodup_slots_outcome hspam
  | _ => exact List.nodup_nil

theorem Replies.owner {replies : List NewOutboxAction} (h : Replies updateId replies)
    {a : NewOutboxAction} (ha : a ∈ replies) : ∃ owner, a.From (.reply updateId owner) := by
  rcases h.source a ha with hsource | hsource
  · exact ⟨_, hsource⟩
  · exact ⟨_, hsource⟩

theorem Traced.replies {trace : List NewOutboxAction} (h : Traced updateId trace) :
    Replies updateId trace := by
  refine ⟨fun a ha => .inr (h.source a ha), ?_⟩
  cases trace with
  | nil => exact List.nodup_nil
  | cons a as =>
    have hsingle := h.single
    rw [List.length_cons] at hsingle
    have hnone : as = [] := List.length_eq_zero_iff.1 (by omega)
    rw [hnone]
    exact List.nodup_singleton _

/-! ## What is added -/

/-- **Actions of an update under keys of their own are all stored.** -/
theorem Attempted.numbered {as : List NewOutboxAction} (h : Attempted as db db')
    (huntaken : db.Untaken updateId)
    (hsources : ∀ a ∈ as, ∃ source, a.From source ∧ source.updateId? = some updateId)
    (hnodup : (as.map (·.idempotencyKey)).Nodup) :
    db'.outboxAction.rows = db.outboxAction.rows ++
      Keyed.numbered NewOutboxAction.row db.outboxSeq as := by
  have hall : enqueueAll db.outbox as =
      (db.outboxAction.rows ++ Keyed.numbered NewOutboxAction.row db.outboxSeq as,
        db.outboxSeq + as.length) := by
    refine Keyed.foldl_insertOrIgnore (fun _ _ => rfl) hnodup fun a ha b hb hkey => ?_
    obtain ⟨source, hsource, hid⟩ := hsources a ha
    exact huntaken b hb source hid (hkey.trans hsource.key)
  unfold Attempted at h
  exact congrArg Prod.fst (h.trans hall)

/-- **Actions on a conversation, and the replies to their update, are all stored.** -/
theorem Attempted.stored {payloads : List (OutboxPayload × Nat)} {now : DateTime}
    {replies : List NewOutboxAction}
    (h : Attempted (actionsOf updateId key now payloads ++ replies) db db')
    (huntaken : db.Untaken updateId) (hslots : (slots payloads).Nodup)
    (hreplies : Replies updateId replies) :
    db'.outboxAction.rows = db.outboxAction.rows ++
      Keyed.numbered NewOutboxAction.row db.outboxSeq
        (actionsOf updateId key now payloads ++ replies) := by
  refine h.numbered huntaken (fun a ha => ?_) ?_
  · rcases List.mem_append.1 ha with ha | ha
    · obtain ⟨payload, -, rfl⟩ := List.mem_map.1 ha
      exact ⟨_, actionOf_from, rfl⟩
    · obtain ⟨owner, hsource⟩ := hreplies.owner ha
      exact ⟨_, hsource, rfl⟩
  · rw [List.map_append]
    refine (nodup_keys_actionsOf hslots).append hreplies.once fun k hk hk' => ?_
    obtain ⟨a, ha, rfl⟩ := List.mem_map.1 hk
    obtain ⟨a', ha', hsame⟩ := List.mem_map.1 hk'
    obtain ⟨payload, -, rfl⟩ := List.mem_map.1 ha
    obtain ⟨owner, hsource⟩ := hreplies.owner ha'
    -- an action on a conversation is no reply
    cases hsource.eq actionOf_from hsame

namespace World

variable {w w' : World} {op op' : Op}

/-- **Every action that an applied event means to enqueue is stored**, and so is its trace. -/
theorem applied_actions_stored (h : service.Reachable w) (hstep : w.step op = some w')
    {event : PreparedEvent} (happlies : w.appliesEvent op = some event) :
    ∃ trace, Traced event.updateId trace ∧ w'.db.outboxAction.rows = w.db.outboxAction.rows ++
      Keyed.numbered NewOutboxAction.row w.db.outboxSeq (event.actions w'.db ++ trace) := by
  obtain ⟨id, now, hcommits, happlied⟩ := appliesEvent_eq_some happlies
  have hdb := hcommits.apply_db hstep
  obtain ⟨rfl, row, db₁, hrow, hrecorded, hevent, happly, hmark⟩ :=
    (eventsPrepared h).appliedEvent_spec happlied
  have hconnection := (eventsPrepared h).noConnectionChange row (Table.mem_of_lookup hrow) hrecorded
    event hevent
  obtain ⟨trace, htrace, hattempted⟩ := apply_attempted hconnection happly
  have huntaken : w.db.Untaken event.updateId := untaken h fun u hu => by
    rw [hrow] at hu
    exact Option.some.inj hu ▸ hrecorded
  -- the mark changes neither the outbox nor what the actions are described by
  have hmarked : WritesTo [.update] (fun _ => False) db₁ w'.db := by
    rw [hdb]
    exact (markApplied_writes (by simp) _ _).of_ok hmark
  have hrows : w'.db.outboxAction = db₁.outboxAction :=
    hmarked.frame.outboxAction (by simp) (by simp) (by simp)
  have hactions : event.actions w'.db = event.actions db₁ := by
    unfold PreparedEvent.actions
    simp only [PreparedAction.payloads_of_frame hmarked.frame (by simp)]
  refine ⟨trace, htrace, ?_⟩
  rw [hrows, hactions]
  unfold PreparedEvent.actions at hattempted ⊢
  cases hkey : event.facts.optionalKey with
  | none =>
    rw [hkey] at hattempted
    have hempty : Attempted (actionsOf event.updateId ⟨"", 0⟩ now [] ++ trace) w.db db₁ := hattempted
    exact hempty.stored huntaken List.nodup_nil htrace.replies
  | some key =>
    rw [hkey] at hattempted
    exact hattempted.stored huntaken (PreparedAction.nodup_slots _ _) htrace.replies

/-- **Keys never collide.** Two attempts of whatever steps of whatever runs that share a key are of
one source, and an action that is dropped is dropped for one of its own source. The actions of one
event are of different sources, and each of them is stored. -/
theorem idempotency_keys_never_collide (h : service.Reachable w) :
    (∀ op a db, w.Attempts op a db → ∃ source, a.From source ∧
      (∀ (w' : World) (op' : Op) (a' : NewOutboxAction) (db' : Database),
        w'.Attempts op' a' db' → a'.idempotencyKey = a.idempotencyKey →
          ∀ source', a'.From source' ↔ source' = source) ∧
      ∀ inserted db', enqueueOutboxAction a db = .ok (inserted, db') →
        (inserted = true ∧ ∃ b ∈ db'.outboxAction.rows, b.Carries a) ∨
          (inserted = false ∧ ∃ b ∈ db.outboxAction.rows, b.From source)) ∧
    ∀ op w' event, w.step op = some w' → w.appliesEvent op = some event →
      ∃ trace, Traced event.updateId trace ∧ w'.db.outboxAction.rows = w.db.outboxAction.rows ++
        Keyed.numbered NewOutboxAction.row w.db.outboxSeq (event.actions w'.db ++ trace) := by
  refine ⟨fun op a db ha => ?_, fun op w' event hstep => applied_actions_stored h hstep⟩
  obtain ⟨source, hsource⟩ := ha.from
  refine ⟨source, hsource, fun w' op' a' db' ha' hkey source' => ?_, fun inserted db' hx => ?_⟩
  · obtain ⟨source'', hsource''⟩ := ha'.from
    have hsame : source'' = source := hsource''.eq hsource hkey
    constructor
    · exact fun hsource' => hsource'.eq hsource hkey
    · rintro rfl
      exact hsame ▸ hsource''
  · rcases enqueueOutboxAction_ok hx with hinserted | ⟨hdropped, b, hb, hkey⟩
    · exact .inl hinserted
    · obtain ⟨source', hsource'⟩ := ha.sourced h b hb
      exact .inr ⟨hdropped, b, hb, hsource'.eq hsource hkey ▸ hsource'⟩

/-- The step applies an event of the conversation. -/
def appliesOn (w : World) (op : Op) (key : ConversationKey) : Bool :=
  (w.appliesEvent op).any (·.facts.optionalKey = some key) && (w.step op).isSome

end World

section

open Sample

/-- A first message is recorded on a connection whose id has the separator in it. -/
def separated : List Op :=
  start true ++ claim ++ trigger 2 "b:1" (found "b:1" 200) 2 ++
    [.worker (.prepare 3 (raw .inboundMessage "b:1" (some 50) (some 1) (some "3") 3)
      (preparer .allow .correct 3)), .worker .record]

set_option maxRecDepth 100000 in
/-- Whatever answers that message is stored. -/
theorem World.idempotency_keys_never_collide_separated : ∃ (w w' : World) (event : PreparedEvent)
    (trace : List NewOutboxAction), service.Reachable w ∧ w.step (.worker (.apply 3)) = some w' ∧
      w.appliesEvent (.worker (.apply 3)) = some event ∧
      event.facts.optionalKey = some ⟨"b:1", 50⟩ ∧
      w'.db.outboxAction.rows = w.db.outboxAction.rows ++
        Keyed.numbered NewOutboxAction.row w.db.outboxSeq (event.actions w'.db ++ trace) := by
  obtain ⟨w, hw, hon⟩ : ∃ w, service.Reachable w ∧
      w.appliesOn (.worker (.apply 3)) ⟨"b:1", 50⟩ = true :=
    Machine.reachable_of_run separated
      (fun w : World => w.appliesOn (.worker (.apply 3)) ⟨"b:1", 50⟩) ⟨0, rfl⟩ (by decide +kernel)
  unfold appliesOn at hon
  rw [Bool.and_eq_true] at hon
  obtain ⟨event, happlies, hkey⟩ := (Option.any_eq_true _ _).1 hon.1
  obtain ⟨w', hstep⟩ := Option.isSome_iff_exists.1 hon.2
  obtain ⟨trace, -, hrows⟩ := (World.idempotency_keys_never_collide hw).2 _ w' event hstep happlies
  exact ⟨w, w', event, trace, hw, hstep, happlies, of_decide_eq_true hkey, hrows⟩

end

end ChatHygiene
