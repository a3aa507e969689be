import ChatHygiene.Outbox.Stored
import Mathlib.Data.List.Dedup
import Mathlib.Data.List.Sort
/-!
# A cleanup loses nothing

An update that cleans up a conversation deletes each of its messages once, in
batches that Telegram accepts. None of the batches is dropped: the update has no
action yet when it is carried out, and the batches have keys of their own.
-/

namespace ChatHygiene

open Txn (Respects commit bind_ok_iff)

variable {db db' : Database} {updateId : Int} {key : ConversationKey}

/-! ## Batches -/

theorem flatten_batchesOf {size fuel : Nat} {ids : List Int} (hsize : 0 < size)
    (hfuel : ids.length ≤ fuel) : (batchesOf size fuel ids).flatten = ids := by
  induction fuel generalizing ids with
  | zero => rw [List.length_eq_zero_iff.1 (Nat.le_zero.1 hfuel)]; rfl
  | succ fuel ih =>
    cases ids with
    | nil => rfl
    | cons id ids =>
      have hrest : ((id :: ids).drop size).length ≤ fuel := by
        rw [List.length_drop]
        rw [List.length_cons] at hfuel ⊢
        omega
      rw [batchesOf, List.flatten_cons, ih hrest, List.take_append_drop]

theorem length_of_mem_batchesOf {size fuel : Nat} {ids batch : List Int} (hsize : 0 < size)
    (h : batch ∈ batchesOf size fuel ids) : 1 ≤ batch.length ∧ batch.length ≤ size := by
  induction fuel generalizing ids with
  | zero => cases h
  | succ fuel ih =>
    cases ids with
    | nil => cases h
    | cons id ids =>
      rcases List.mem_cons.1 h with rfl | h
      · rw [List.length_take, List.length_cons]
        omega
      · exact ih h

/-- **The batches are the ids, in order.** -/
theorem flatten_deleteMessageBatches (ids : List Int) : (deleteMessageBatches ids).flatten = ids :=
  flatten_batchesOf (by decide) (Nat.le_refl _)

theorem length_of_mem_deleteMessageBatches {ids batch : List Int}
    (h : batch ∈ deleteMessageBatches ids) : 1 ≤ batch.length ∧ batch.length ≤ 100 :=
  length_of_mem_batchesOf (by decide) h

/-! ## Messages -/

/-- The message is in the ledger, to be cleaned up and not deleted. -/
def Database.Eligible (db : Database) (key : ConversationKey) (messageId : Int) : Prop :=
  ∃ m ∈ db.messageLedger.rows, m.key = key ∧ m.eligibleForDeletion = true ∧ m.deletedAt = none ∧
    m.messageId = messageId

/-- The message is the prompt of a challenge. -/
def Database.Prompted (db : Database) (key : ConversationKey) (messageId : Int) : Prop :=
  ∃ c ∈ db.challenge.rows, c.key = key ∧ c.promptMessageId = some messageId

theorem Database.mem_deletionIds {messageId : Int} :
    messageId ∈ db.deletionIds key ↔ db.Eligible key messageId := by
  simp only [deletionIds, List.mem_insertionSort, List.mem_map, List.mem_filter, Bool.and_eq_true,
    decide_eq_true_eq, Option.isNone_iff_eq_none, Eligible]
  constructor
  · rintro ⟨m, ⟨hm, ⟨hkey, heligible⟩, hdeleted⟩, hid⟩
    exact ⟨m, hm, hkey, heligible, hdeleted, hid⟩
  · rintro ⟨m, hm, hkey, heligible, hdeleted, hid⟩
    exact ⟨m, ⟨hm, ⟨hkey, heligible⟩, hdeleted⟩, hid⟩

/-- The ledger has one row a message. -/
theorem Database.nodup_deletionIds (db : Database) (key : ConversationKey) :
    (db.deletionIds key).Nodup := by
  unfold deletionIds
  rw [(List.perm_insertionSort _ _).nodup_iff]
  have hrows : db.messageLedger.rows.Nodup := db.messageLedger.nodup.of_map _
  refine (hrows.filter _).map_on fun m hm n hn hid => ?_
  obtain ⟨hm, hmkey⟩ := List.mem_filter.1 hm
  obtain ⟨hn, hnkey⟩ := List.mem_filter.1 hn
  simp only [Bool.and_eq_true, decide_eq_true_eq] at hmkey hnkey
  refine Table.eq_of_key_eq hm hn ?_
  unfold LedgerMessage.pk
  rw [hmkey.1.1, hnkey.1.1, hid]

theorem Database.mem_resetIds {messageId : Int} :
    messageId ∈ db.resetIds key ↔ db.Eligible key messageId ∨ db.Prompted key messageId := by
  unfold resetIds
  rw [List.mem_dedup, List.mem_insertionSort, List.mem_append, mem_deletionIds]
  refine or_congr Iff.rfl ?_
  simp only [List.mem_filterMap, List.mem_filter, decide_eq_true_eq, Prompted, and_assoc]

theorem Database.nodup_resetIds (db : Database) (key : ConversationKey) :
    (db.resetIds key).Nodup := List.nodup_dedup _

/-! ## What is added -/

/-- The ids a deletion carries. -/
def OutboxPayload.messageIds : OutboxPayload → List Int
  | .deleteBusinessMessages messageIds => messageIds
  | _ => []

/-- The deletions stored since `db`. -/
def addedDeletions (db db' : Database) : List OutboxActionRow :=
  db'.outboxAction.rows.filter fun b =>
    db.outboxSeq < b.id && b.payload.kind = .deleteBusinessMessages

/-- The deletions that were added for the update carry the messages of the conversation, each once,
in batches that are accepted, under keys of their own. -/
structure CleansUp (updateId : Int) (key : ConversationKey) (messages : Int → Prop)
    (db db' : Database) : Prop where
  exactly : ∀ messageId, messageId ∈ (addedDeletions db db').flatMap (·.payload.messageIds) ↔
    messages messageId
  once : ((addedDeletions db db').flatMap (·.payload.messageIds)).Nodup
  batch : ∀ b ∈ addedDeletions db db',
    1 ≤ b.payload.messageIds.length ∧ b.payload.messageIds.length ≤ 100
  keys : ((addedDeletions db db').map (·.idempotencyKey)).Nodup
  conversation : ∀ b ∈ addedDeletions db db', b.sourceUpdateId = updateId ∧ b.key = some key

/-- None is added where there is nothing to delete. -/
theorem CleansUp.none {messages : Int → Prop} (h : CleansUp updateId key messages db db')
    (hnone : ∀ messageId, ¬messages messageId) : addedDeletions db db' = [] := by
  refine List.eq_nil_iff_forall_not_mem.2 fun b hb => ?_
  have hpositive := (h.batch b hb).1
  obtain ⟨messageId, hid⟩ := List.exists_mem_of_length_pos hpositive
  exact hnone messageId ((h.exactly messageId).1 (List.mem_flatMap.2 ⟨b, hb, hid⟩))

theorem map_fst_deletions (messageIds : List Int) :
    (deletions messageIds).map (·.1.messageIds) = deleteMessageBatches messageIds := by
  unfold deletions
  rw [List.map_map]
  exact List.zipIdx_map_fst _ _

/-- **Deletions among actions of an update under keys of their own are a cleanup.** -/
theorem CleansUp.of_rows {before : List (OutboxPayload × Nat)} {messageIds : List Int}
    {messages : Int → Prop} {now : DateTime} {replies : List NewOutboxAction}
    {rows : List OutboxActionRow} (hbefore : Precedes before) (hreplies : Replies updateId replies)
    (hrows : db'.outboxAction.rows = rows ++ Keyed.numbered NewOutboxAction.row db.outboxSeq
      (actionsOf updateId key now (before ++ deletions messageIds) ++ replies))
    (hold : ∀ b ∈ rows, b.id ≤ db.outboxSeq)
    (hids : ∀ messageId, messageId ∈ messageIds ↔ messages messageId) (hnodup : messageIds.Nodup) :
    CleansUp updateId key messages db db' := by
  -- the rows that are added are those of the deletions
  have hadds : addedDeletions db db' = (Keyed.numbered NewOutboxAction.row db.outboxSeq
      (actionsOf updateId key now (before ++ deletions messageIds) ++ replies)).filter
        fun b => b.payload.kind = .deleteBusinessMessages := by
    unfold addedDeletions
    have hnone : (rows.filter fun b => db.outboxSeq < b.id &&
        b.payload.kind = .deleteBusinessMessages) = [] := by
      refine List.filter_eq_nil_iff.2 fun b hb => ?_
      have hid := hold b hb
      simp [Nat.not_lt.2 hid]
    rw [hrows, List.filter_append, hnone, List.nil_append]
    refine List.filter_congr fun b hb => ?_
    obtain ⟨a, -, m, hm, rfl⟩ := Keyed.mem_numbered hb
    have hid : db.outboxSeq < (a.row m).id := hm
    simp [hid]
  have hdeletions : (actionsOf updateId key now (before ++ deletions messageIds) ++ replies).filter
      (fun a => a.payload.kind = .deleteBusinessMessages) =
        actionsOf updateId key now (deletions messageIds) := by
    have hbefores : ((actionsOf updateId key now before).filter
        fun a => a.payload.kind = .deleteBusinessMessages) = [] := by
      refine List.filter_eq_nil_iff.2 fun a ha => ?_
      obtain ⟨payload, hpayload, rfl⟩ := List.mem_map.1 ha
      exact fun hkind => hbefore.kinds payload hpayload (of_decide_eq_true hkind)
    have hreply : (replies.filter fun a => a.payload.kind = .deleteBusinessMessages) = [] := by
      refine List.filter_eq_nil_iff.2 fun a ha => ?_
      obtain ⟨owner, hsource⟩ := hreplies.owner ha
      simp [hsource.describes.2]
    rw [actionsOf_append, List.filter_append, List.filter_append, hbefores, hreply, List.nil_append,
      List.append_nil]
    refine List.filter_eq_self.2 fun a ha => ?_
    obtain ⟨payload, hpayload, rfl⟩ := List.mem_map.1 ha
    obtain ⟨batch, -, rfl⟩ := List.mem_map.1 hpayload
    rfl
  have hadded {γ : Type} {f : OutboxActionRow → γ} {g : NewOutboxAction → γ}
      (hfg : ∀ a n, f (a.row n) = g a) : (addedDeletions db db').map f =
        (actionsOf updateId key now (deletions messageIds)).map g := by
    rw [hadds]
    refine (Keyed.map_filter_numbered (q := fun a => a.payload.kind = .deleteBusinessMessages) ?_
      hfg).trans (congrArg (List.map g) hdeletions)
    exact fun _ _ => rfl
  have hbatches : (addedDeletions db db').map (·.payload.messageIds) =
      deleteMessageBatches messageIds := by
    rw [hadded (g := (·.payload.messageIds)) fun _ _ => rfl, actionsOf, List.map_map]
    exact map_fst_deletions messageIds
  have hflat : (addedDeletions db db').flatMap (·.payload.messageIds) = messageIds := by
    rw [List.flatMap_def, hbatches, flatten_deleteMessageBatches]
  refine ⟨fun messageId => ?_, ?_, fun b hb => ?_, ?_, fun b hb => ?_⟩
  · rw [hflat]
    exact hids messageId
  · rw [hflat]
    exact hnodup
  · have hbatch := List.mem_map_of_mem (f := (·.payload.messageIds)) hb
    rw [hbatches] at hbatch
    exact length_of_mem_deleteMessageBatches hbatch
  · rw [hadded (g := (·.idempotencyKey)) fun _ _ => rfl]
    exact nodup_keys_actionsOf (Precedes.none.nodup_slots messageIds)
  · have hmem := List.mem_map_of_mem (f := fun b : OutboxActionRow => (b.sourceUpdateId, b.key)) hb
    rw [hadded (g := fun a => (a.sourceUpdateId, a.key)) fun _ _ => rfl, actionsOf, List.map_map] at hmem
    obtain ⟨payload, -, heq⟩ := List.mem_map.1 hmem
    exact ⟨(congrArg Prod.fst heq).symm, (congrArg Prod.snd heq).symm⟩

/-! ## Events -/

/-- What an event that cleans up enqueues ends with the deletions. -/
theorem PreparedAction.payloads_cleans {messageId : Option Int} {action : PreparedAction}
    (h : action.cleans = true) : ∃ before, Precedes before ∧
      action.payloads messageId key db = before ++ deletions (db.deletionIds key) := by
  cases action with
  | blockedInbound => exact ⟨_, precedes_reading messageId, rfl⟩
  | inbound detection outcome dryRunSpam =>
    cases outcome with
    | spam => exact ⟨_, precedes_detection detection dryRunSpam messageId,
        (List.append_assoc _ _ _).symm⟩
    | _ => cases h
  | _ => cases h

/-- An event that cleans up has a conversation. -/
theorem PreparedAction.key_of_cleans {facts : LifecycleFacts} {action : PreparedAction}
    (h : action.cleans = true) (hok : applyPreparedAction updateId facts action db = .ok ((), db')) :
    ∃ key, facts.optionalKey = some key := by
  cases action with
  | blockedInbound =>
    obtain ⟨key, hkey, -⟩ := applyBlockedInbound_attempted hok
    exact ⟨key, hkey⟩
  | inbound =>
    obtain ⟨key, hkey, -⟩ := applyInbound_attempted hok
    exact ⟨key, hkey⟩
  | _ => cases h

namespace World

variable {w w' : World} {op : Op}

/-- The update and the conversation of a reset that the step commits. -/
def resets (w : World) (op : Op) : Option (Int × ConversationKey) :=
  match op, w.worker with
  | .worker (.ownerCommand updateId snapshot occurredAt), .idle =>
    match processOwnerCommand updateId snapshot occurredAt w.settings w.db with
    | .ok _ => (resetKey updateId snapshot occurredAt w.db).map fun key => (updateId, key)
    | .error _ => none
  | _, _ => none

/-- **A reset deletes the messages of its conversation, and its prompts.** -/
theorem resets_cleansUp (h : service.Reachable w) (hstep : w.step op = some w')
    (hresets : w.resets op = some (updateId, key)) :
    CleansUp updateId key (fun messageId => w.db.Eligible key messageId ∨ w.db.Prompted key messageId)
      w.db w'.db := by
  unfold resets at hresets
  split at hresets
  · next id snapshot occurredAt hidle =>
    split at hresets
    · next r hprocessed =>
      obtain ⟨receipt, db'⟩ := r
      obtain ⟨key', hkey, hpair⟩ := Option.map_eq_some_iff.1 hresets
      obtain ⟨rfl, rfl⟩ := Prod.mk.inj hpair
      simp only [World.step, stepWorker, hidle] at hstep
      obtain rfl := Option.some.inj hstep
      have hdb : (w.commitIdle (processOwnerCommand id snapshot occurredAt w.settings)).db = db' :=
        congrArg Prod.fst (Txn.commit_of_ok hprocessed)
      rw [hdb]
      obtain ⟨db₁, replies, hwrites, hreplies, hattempted⟩ :=
        processOwnerCommand_resets hprocessed hkey
      obtain ⟨_, _, _, _, _, -, hinsert, -⟩ := resetKey_eq_some hkey
      have huntaken : w.db.Untaken id := untaken h fun row hrow => by
        rw [insertRedactedUpdate_new hinsert] at hrow
        cases hrow
      -- what is stored when the deletions are enqueued was stored before
      have hseq : db₁.outboxSeq = w.db.outboxSeq := hwrites.frame.outboxSeq (by simp)
      have hrows := hattempted.stored (huntaken.of_grows hwrites.outboxGrows fun _ hfalse => hfalse)
        (Precedes.none.nodup_slots _) hreplies
      rw [hseq] at hrows
      refine CleansUp.of_rows Precedes.none hreplies hrows (fun b hb => ?_)
        (fun _ => Database.mem_resetIds) (Database.nodup_resetIds _ _)
      rw [← hseq]
      exact db₁.consistent.updates.outboxIds b hb
    · cases hresets
  · cases hresets

/-- **An event that cleans up deletes the messages of its conversation.** -/
theorem appliesEvent_cleansUp (h : service.Reachable w) (hstep : w.step op = some w')
    {event : PreparedEvent} (happlies : w.appliesEvent op = some event)
    (hcleans : event.facts.action.cleans = true) :
    ∃ key, event.facts.optionalKey = some key ∧
      CleansUp event.updateId key (w'.db.Eligible key) w.db w'.db := by
  obtain ⟨trace, htrace, hrows⟩ := applied_actions_stored h hstep happlies
  obtain ⟨id, now, hcommits, happlied⟩ := appliesEvent_eq_some happlies
  obtain ⟨-, row, db₁, -, -, -, happly, -⟩ := (eventsPrepared h).appliedEvent_spec happlied
  obtain ⟨_, _, haction, -⟩ := bind_ok_iff.1 happly
  obtain ⟨key, hkey⟩ := PreparedAction.key_of_cleans hcleans haction
  obtain ⟨before, hbefore, hpayloads⟩ : ∃ before, Precedes before ∧
      event.facts.action.payloads event.facts.messageId key w'.db =
        before ++ deletions (w'.db.deletionIds key) := PreparedAction.payloads_cleans hcleans
  have hactions : event.actions w'.db = actionsOf event.updateId key event.facts.occurredAt
      (before ++ deletions (w'.db.deletionIds key)) := by
    unfold PreparedEvent.actions
    rw [hkey]
    exact congrArg _ hpayloads
  rw [hactions] at hrows
  exact ⟨key, hkey, CleansUp.of_rows hbefore htrace.replies hrows
    w.db.consistent.updates.outboxIds (fun _ => Database.mem_deletionIds)
    (Database.nodup_deletionIds _ _)⟩

/-- **A cleanup loses nothing.** The deletions added by an event that cleans up carry the messages of
its conversation that are eligible, those added by a reset the prompts as well: each of these once,
in batches of 1 to 100, under keys of their own; and none is added where there is no message. -/
theorem cleanup_loses_nothing (h : service.Reachable w) (hstep : w.step op = some w') :
    (∀ event, w.appliesEvent op = some event → event.facts.action.cleans = true →
      ∃ key, event.facts.optionalKey = some key ∧
        CleansUp event.updateId key (w'.db.Eligible key) w.db w'.db ∧
        ((∀ messageId, ¬w'.db.Eligible key messageId) → addedDeletions w.db w'.db = [])) ∧
    ∀ updateId key, w.resets op = some (updateId, key) →
      CleansUp updateId key
        (fun messageId => w.db.Eligible key messageId ∨ w.db.Prompted key messageId) w.db w'.db ∧
      ((∀ messageId, ¬(w.db.Eligible key messageId ∨ w.db.Prompted key messageId)) →
        addedDeletions w.db w'.db = []) := by
  constructor
  · intro event happlies hcleans
    obtain ⟨key, hkey, hcleaned⟩ := appliesEvent_cleansUp h hstep happlies hcleans
    exact ⟨key, hkey, hcleaned, hcleaned.none⟩
  · intro updateId key hresets
    have hcleaned := resets_cleansUp h hstep hresets
    exact ⟨hcleaned, hcleaned.none⟩

/-- The step applies an event that cleans up one message. -/
def cleansOne (w : World) (op : Op) (messageId : Int) : Bool :=
  (w.appliesEvent op).any (·.facts.action.cleans) && (w.step op).any fun w' =>
    (addedDeletions w.db w'.db).flatMap (·.payload.messageIds) = [messageId]

end World

section

open Sample

set_option maxRecDepth 100000 in
/-- A first message that is spam is the one that is deleted. -/
theorem World.cleanup_loses_nothing_spam : ∃ (w w' : World) (event : PreparedEvent)
    (key : ConversationKey), service.Reachable w ∧ w.step (.worker (.apply 3)) = some w' ∧
      w.appliesEvent (.worker (.apply 3)) = some event ∧ event.facts.optionalKey = some key ∧
      CleansUp event.updateId key (w'.db.Eligible key) w.db w'.db ∧ w'.db.Eligible key 1 := by
  obtain ⟨w, hw, hcleans⟩ : ∃ w, service.Reachable w ∧ w.cleansOne (.worker (.apply 3)) 1 = true :=
    Machine.reachable_of_run (Sample.connected true ++ receive 3 50 1 .inboundMessage .spam .correct 3)
      (fun w : World => w.cleansOne (.worker (.apply 3)) 1) ⟨0, rfl⟩ (by decide +kernel)
  unfold cleansOne at hcleans
  rw [Bool.and_eq_true] at hcleans
  obtain ⟨event, happlies, haction⟩ := (Option.any_eq_true _ _).1 hcleans.1
  obtain ⟨w', hstep, hids⟩ := (Option.any_eq_true _ _).1 hcleans.2
  obtain ⟨key, hkey, hcleaned, -⟩ := (World.cleanup_loses_nothing hw hstep).1 event happlies haction
  refine ⟨w, w', event, key, hw, hstep, happlies, hkey, hcleaned, (hcleaned.exactly 1).1 ?_⟩
  rw [of_decide_eq_true hids]
  exact List.mem_singleton_self _

end

end ChatHygiene
