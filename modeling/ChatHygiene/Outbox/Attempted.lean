import ChatHygiene.Footprint.Contracts
import ChatHygiene.Lib.Keyed
import ChatHygiene.Lifecycle.Application
import ChatHygiene.Outbox.Sources
/-!
# What an application enqueues

The actions an event means to enqueue are read off the event and the state it
leaves. The handler attempts these and no others, in order; whether an attempt
leaves a row is a matter of its key.
-/

namespace ChatHygiene

open Txn (Respects bind_ok_iff pure_ok_iff)

/-! ## Attempts -/

/-- The stored actions, and the last id given to one. -/
def Tables.outbox (t : Tables) : List OutboxActionRow × Nat := (t.outboxAction.rows, t.outboxSeq)

/-- The outbox after the actions are enqueued in order, each unless its key is taken. -/
def enqueueAll (s : List OutboxActionRow × Nat) (as : List NewOutboxAction) :
    List OutboxActionRow × Nat :=
  as.foldl (Keyed.insertOrIgnore NewOutboxAction.row OutboxActionRow.idempotencyKey
    NewOutboxAction.idempotencyKey) s

/-- What becomes of the outbox is that the actions are enqueued. -/
def Attempted (as : List NewOutboxAction) (db db' : Database) : Prop :=
  db'.outbox = enqueueAll db.outbox as

variable {db db' db'' : Database} {as bs : List NewOutboxAction} {a : NewOutboxAction}
  {updateId : Int} {key : ConversationKey} {facts : LifecycleFacts} {c c' : Conversation}

theorem Attempted.trans (h : Attempted as db db') (h' : Attempted bs db' db'') :
    Attempted (as ++ bs) db db'' := by
  unfold Attempted enqueueAll at *
  rw [h', h, List.foldl_append]

/-- The targets that are not the outbox. -/
def Target.quiet : Target → Bool
  | .enqueue | .outbox | .purgeUpdate => false
  | _ => true

theorem Attempted.of_frame {targets : List Target} (h : Frame targets db.toTables db'.toTables)
    (hquiet : ∀ t ∈ targets, t.quiet = true) : Attempted [] db db' := by
  have hnot (t : Target) (ht : t.quiet = false) : t ∉ targets := fun hmem => by
    rw [hquiet t hmem] at ht
    cases ht
  have hrows := h.outboxAction (hnot _ rfl) (hnot _ rfl) (hnot _ rfl)
  have hseq := h.outboxSeq (hnot _ rfl)
  change (_, _) = (_, _)
  rw [hrows, hseq]

theorem attempted_of_writes {α : Type} {x : Uow α} {K : NewOutboxAction → Prop}
    (targets : List Target) (hquiet : ∀ t ∈ targets, t.quiet = true)
    (h : Respects (WritesTo targets K) x) : Respects (Attempted []) x :=
  h.mono fun _ _ hw => .of_frame hw.frame hquiet

/-- A transaction that may enqueue nothing. -/
theorem WritesTo.attempted_none {targets : List Target}
    (h : WritesTo targets (fun _ => False) db db')
    (hquiet : Target.outbox ∉ targets ∧ Target.purgeUpdate ∉ targets) : Attempted [] db db' := by
  induction h with
  | refl => exact rfl
  | tail _ hstep ih =>
    obtain ⟨st, hst, heffect⟩ := hstep
    refine ih.trans (.of_frame heffect.frame fun t ht => ?_)
    rw [List.mem_singleton.1 ht]
    have htarget := hst.target_mem
    cases st with
    | insertOutbox a => exact hst.2.elim
    | updateOutbox | deleteOutbox => exact absurd htarget hquiet.1
    | deleteUpdate => exact absurd htarget hquiet.2
    | _ => rfl

theorem attempted_of_readOnly {α : Type} {x : Uow α} (h : Respects Eq x) :
    Respects (Attempted []) x :=
  h.mono fun _ _ heq => heq ▸ rfl

theorem attempted_pure {α : Type} (x : α) : Respects (Attempted []) (pure x : Uow α) :=
  attempted_of_readOnly (.pure x)

theorem attempted_bind {α β : Type} {x : Uow α} {f : α → Uow β} (hx : Respects (Attempted as) x)
    (hf : ∀ a, Respects (Attempted bs) (f a)) : Respects (Attempted (as ++ bs)) (x >>= f) := by
  intro db b db' h
  obtain ⟨a, db₁, hx₁, hf₁⟩ := bind_ok_iff.1 h
  exact (hx.of_ok hx₁).trans ((hf a).of_ok hf₁)

/-- What comes before does not enqueue. -/
theorem attempted_after {α β : Type} {x : Uow α} {f : α → Uow β} (hx : Respects (Attempted []) x)
    (hf : ∀ a, Respects (Attempted as) (f a)) : Respects (Attempted as) (x >>= f) :=
  attempted_bind hx hf

/-- What comes after does not enqueue. -/
theorem attempted_before {α β : Type} {x : Uow α} {f : α → Uow β} (hx : Respects (Attempted as) x)
    (hf : ∀ a, Respects (Attempted []) (f a)) : Respects (Attempted as) (x >>= f) := by
  have hbind := attempted_bind hx hf
  rwa [List.append_nil] at hbind

theorem enqueueOutboxAction_attempted (a : NewOutboxAction) :
    Respects (Attempted [a]) (enqueueOutboxAction a) := by
  intro db inserted db' h
  unfold enqueueOutboxAction Uow.insertOutbox at h
  have hok := Uow.statement_ok_iff.1 h
  unfold Tables.insertOutbox at hok
  change db'.outbox = Keyed.insertOrIgnore _ _ _ db.outbox a
  split at hok
  · next htaken =>
    have hsame := (Prod.mk.inj (Except.ok.inj hok)).2
    rw [← hsame]
    exact (if_pos htaken).symm
  · next huntaken =>
    dsimp only at hok
    split_ifs at hok
    have hinserted := (Prod.mk.inj (Except.ok.inj hok)).2
    rw [← hinserted]
    exact (if_neg huntaken).symm

theorem enqueueAction_attempted (payload : OutboxPayload) (batchIndex : Nat) (now : DateTime) :
    Respects (Attempted [actionOf updateId key payload batchIndex now])
      (enqueueAction updateId key payload batchIndex now) :=
  attempted_before (enqueueOutboxAction_attempted _) fun _ => attempted_pure _

theorem attempted_forEach {α : Type} {g : α → Uow Unit} {f : α → NewOutboxAction}
    (h : ∀ x, Respects (Attempted [f x]) (g x)) (l : List α) :
    Respects (Attempted (l.map f)) (Txn.forEach g l) := by
  induction l with
  | nil => exact attempted_pure _
  | cons x l ih => exact attempted_bind (h x) fun _ => ih

/-! ## Cleanups -/

/-- The ids of the messages of a conversation that are to be cleaned up. -/
def Database.deletionIds (db : Database) (key : ConversationKey) : List Int :=
  ((db.messageLedger.rows.filter fun m =>
    m.key = key && m.eligibleForDeletion && m.deletedAt.isNone).map (·.messageId)).insertionSort
      (· ≤ ·)

theorem eligibleDeletionIds_apply (key : ConversationKey) (db : Database) :
    eligibleDeletionIds key db = .ok (db.deletionIds key, db) := rfl

theorem Database.deletionIds_of_frame {targets : List Target}
    (h : Frame targets db.toTables db'.toTables)
    (ht : Target.ledger ∉ targets ∧ Target.dropConnection ∉ targets) :
    db'.deletionIds key = db.deletionIds key := by
  unfold Database.deletionIds
  rw [h.messageLedger ht.1 ht.2]

/-- What a cleanup deletes, with the index of each batch. -/
def deletions (messageIds : List Int) : List (OutboxPayload × Nat) :=
  (deleteMessageBatches messageIds).zipIdx.map fun batch => (.deleteBusinessMessages batch.1, batch.2)

/-- The payloads as actions of an update on a conversation. -/
def actionsOf (updateId : Int) (key : ConversationKey) (now : DateTime)
    (payloads : List (OutboxPayload × Nat)) : List NewOutboxAction :=
  payloads.map fun payload => actionOf updateId key payload.1 payload.2 now

theorem actionsOf_append (updateId : Int) (key : ConversationKey) (now : DateTime)
    (payloads payloads' : List (OutboxPayload × Nat)) :
    actionsOf updateId key now (payloads ++ payloads') =
      actionsOf updateId key now payloads ++ actionsOf updateId key now payloads' :=
  List.map_append

theorem enqueueDelete_attempted (messageIds : List Int) (now : DateTime) :
    Respects (Attempted (actionsOf updateId key now (deletions messageIds)))
      (enqueueDelete updateId key messageIds now) := by
  unfold actionsOf deletions enqueueDelete
  rw [List.map_map]
  exact attempted_forEach (fun batch => enqueueAction_attempted _ _ _) _

/-- A message that is cleaned up after is read, and the messages of its conversation deleted. -/
def cleanup (messageId : Option Int) (messageIds : List Int) : List (OutboxPayload × Nat) :=
  messageId.toList.map (fun messageId => (.readBusinessMessage messageId, 0)) ++ deletions messageIds

/-- The three statements of a cleanup. -/
theorem cleanup_attempted {messageId : Int} (hmessage : facts.messageId = some messageId)
    {α : Type} {x : Uow α} (hx : Respects (WritesTo [.conversation] fun _ => True) x) {r : α}
    (h : (do
      enqueueRead updateId key messageId facts.occurredAt
      let deletionIds ← eligibleDeletionIds key
      enqueueDelete updateId key deletionIds facts.occurredAt
      x) db = .ok (r, db')) :
    Attempted (actionsOf updateId key facts.occurredAt
      (cleanup facts.messageId (db'.deletionIds key))) db db' := by
  obtain ⟨_, db₁, hread, h⟩ := bind_ok_iff.1 h
  obtain ⟨messageIds, db₂, hids, h⟩ := bind_ok_iff.1 h
  obtain ⟨rfl, rfl⟩ := Prod.mk.inj (Except.ok.inj ((eligibleDeletionIds_apply key db₁).symm.trans hids))
  obtain ⟨_, db₃, hdelete, h⟩ := bind_ok_iff.1 h
  have hlast := hx.of_ok h
  -- what is deleted is what the ledger says in the end
  have hwrites : WritesTo [.enqueue] (NewOutboxAction.Of updateId True) db₁ db₃ :=
    (enqueueDelete_writes (by simp) trivial _ _ _).of_ok hdelete
  have hdeleted : Frame [.enqueue] db₁.toTables db₃.toTables := hwrites.frame
  have hsame : db'.deletionIds key = db₁.deletionIds key :=
    (Database.deletionIds_of_frame hlast.frame (by simp)).trans
      (Database.deletionIds_of_frame hdeleted (by simp))
  have hattempts := (((enqueueAction_attempted _ _ _).of_ok hread).trans
    ((enqueueDelete_attempted _ _).of_ok hdelete)).trans (.of_frame hlast.frame (by simp [Target.quiet]))
  rw [hsame, hmessage]
  rw [List.append_nil] at hattempts
  exact hattempts

/-! ## Outcomes -/

/-- What an outcome enqueues, in terms of the state it leaves. -/
def InboundOutcome.payloads (messageId : Option Int) (key : ConversationKey) (db : Database) :
    InboundOutcome → List (OutboxPayload × Nat)
  | .startChallenge expression _ _ _ expiresAt maxAttempts =>
    [(.sendChallenge db.challengeSeq expression expiresAt maxAttempts, 0)]
  | .retain => []
  | .correct challengeId => [(.editChallenge challengeId .success none, 0)]
  | .incorrect challengeId false attemptsRemaining _ =>
    let attemptsUsed := (db.challenge.lookup challengeId).elim 0 (·.attemptsUsed)
    let attemptsRemaining :=
      if attemptsRemaining = legacyAttemptsRemaining then 3 - attemptsUsed else attemptsRemaining
    [(.editChallenge challengeId .incorrect (some attemptsRemaining), 0)]
  | .incorrect challengeId true _ (some _) => [(.editChallenge challengeId .exhausted (some 0), 0)]
  | .incorrect challengeId true _ none =>
    [(.proposedDestructiveAction "verification_exhausted" none (some 24), 1),
      (.editChallenge challengeId .exhaustedDryRun (some 0), 0)]
  | .expired challengeId => [(.editChallenge challengeId .expired none, 0)]
  | .spam => cleanup messageId (db.deletionIds key)

theorem InboundOutcome.payloads_of_frame {targets : List Target} {messageId : Option Int}
    {outcome : InboundOutcome} (h : Frame targets db.toTables db'.toTables)
    (ht : Target.challenge ∉ targets ∧ Target.ledger ∉ targets ∧ Target.dropConnection ∉ targets) :
    outcome.payloads messageId key db' = outcome.payloads messageId key db := by
  have hchallenge := h.challenge ht.1 ht.2.2
  have hids : db'.deletionIds key = db.deletionIds key := Database.deletionIds_of_frame h ht.2
  cases outcome with
  | startChallenge => simp only [payloads, hchallenge.2]
  | incorrect challengeId exhausted attemptsRemaining blockExpiresAt =>
    cases exhausted with
    | false => simp only [payloads, hchallenge.1]
    | true => cases blockExpiresAt <;> rfl
  | spam => simp only [payloads, hids]
  | _ => rfl

theorem setTransition_attempted (event : TransitionEvent) (now : DateTime) :
    Respects (Attempted []) (setTransition c event now) :=
  attempted_of_readOnly (setTransition_readOnly _ _ _)

theorem closeChallenge_attempted (challengeId : Nat) (now : DateTime) :
    Respects (Attempted []) (closeChallenge challengeId now) :=
  attempted_of_writes (K := fun _ => True) [.challenge] (by simp [Target.quiet])
    (closeChallenge_writes (by simp) _ _)

theorem applySettled_attempted (challengeId : Nat) (event : TransitionEvent)
    (status : ChallengeStatus) :
    Respects (Attempted (actionsOf updateId key facts.occurredAt
      [(.editChallenge challengeId status none, 0)]))
      (applySettled updateId facts key c challengeId event status) :=
  attempted_after (closeChallenge_attempted _ _) fun _ =>
    attempted_after (setTransition_attempted _ _) fun _ =>
      attempted_before (enqueueAction_attempted _ _ _) fun _ => attempted_pure _

theorem createChallenge_ok {r : ChallengeRecord} {challengeId : Nat}
    (h : createChallenge r db = .ok (challengeId, db')) : challengeId = db'.challengeSeq := by
  unfold createChallenge Uow.insertChallenge at h
  have hok := Uow.statement_ok_iff.1 h
  unfold Tables.insertChallenge at hok
  dsimp only at hok
  split_ifs at hok
  obtain ⟨hid, htables⟩ := Prod.mk.inj (Except.ok.inj hok)
  rw [← hid, ← htables]

/-- The count that is returned is the one that is stored. -/
theorem incrementChallengeAttempts_ok {challengeId attemptsUsed : Nat}
    (h : incrementChallengeAttempts challengeId db = .ok (attemptsUsed, db')) :
    (db'.challenge.lookup challengeId).elim 0 (·.attemptsUsed) = attemptsUsed := by
  obtain ⟨found, db₁, hfound, h⟩ := bind_ok_iff.1 h
  obtain ⟨rfl, rfl⟩ := Prod.mk.inj (Except.ok.inj hfound)
  obtain ⟨affected, db₂, hupdate, h⟩ := bind_ok_iff.1 h
  dsimp only at h
  cases hrow : db.challenge.rows.find? (ChallengeRow.consumable challengeId) with
  | none =>
    rw [hrow] at h
    cases h
  | some d =>
    rw [hrow] at h
    obtain ⟨rfl, rfl⟩ := Prod.mk.inj (Except.ok.inj h)
    have hconsumable := List.find?_some hrow
    have hid : d.id = challengeId := by
      simp only [ChallengeRow.consumable, Bool.and_eq_true, decide_eq_true_eq] at hconsumable
      exact hconsumable.1.1
    have hlookup : db.challenge.lookup challengeId = some d :=
      hid ▸ Table.lookup_of_mem (List.mem_of_find?_eq_some hrow)
    unfold Uow.updateChallenge at hupdate
    have htables := (Prod.mk.inj (Except.ok.inj (Uow.statement_ok_iff.1 hupdate))).2
    have hrows : db₂.challenge.lookup challengeId = (db.challenge.lookup challengeId).map fun c =>
        if ChallengeRow.consumable challengeId c then { c with attemptsUsed := c.attemptsUsed + 1 }
        else c := by
      refine (congrArg (·.challenge.lookup challengeId) htables).symm.trans
        (Table.lookup_update _ _ _ ?_ challengeId)
      exact fun _ => rfl
    rw [hrows, hlookup, Option.map_some, if_pos hconsumable]
    rfl

theorem applyChallengeStart_attempted {expression answerHmac : String} {hmacKeyVersion : Int}
    {createdAt expiresAt : DateTime} {maxAttempts : Nat}
    (h : applyChallengeStart updateId facts key c expression answerHmac hmacKeyVersion createdAt
      expiresAt maxAttempts db = .ok (c', db')) :
    Attempted (actionsOf updateId key facts.occurredAt
      [(.sendChallenge db'.challengeSeq expression expiresAt maxAttempts, 0)]) db db' := by
  unfold applyChallengeStart at h
  split at h
  · obtain ⟨_, _, hthrow, -⟩ := bind_ok_iff.1 h
    cases hthrow
  · obtain ⟨challengeId, db₁, hcreate, h⟩ := bind_ok_iff.1 h
    obtain ⟨d, db₂, htransition, h⟩ := bind_ok_iff.1 h
    obtain ⟨_, db₃, hsend, h⟩ := bind_ok_iff.1 h
    obtain ⟨rfl, rfl⟩ := Prod.mk.inj (Except.ok.inj h)
    obtain rfl : db₁ = db₂ := (setTransition_readOnly _ _ _).of_ok htransition
    have hcreated : WritesTo [.challenge] (fun _ => True) db db₁ :=
      (createChallenge_writes (by simp) _).of_ok hcreate
    have hwrites : WritesTo [.enqueue] (NewOutboxAction.Of updateId True) db₁ db₃ :=
      (enqueueAction_writes (by simp) _ _ _ _ fun _ => trivial).of_ok hsend
    have hsent : Frame [.enqueue] db₁.toTables db₃.toTables := hwrites.frame
    have hid : challengeId = db₃.challengeSeq :=
      (createChallenge_ok hcreate).trans (hsent.challenge (by simp) (by simp)).2.symm
    rw [← hid]
    exact Attempted.trans (.of_frame hcreated.frame (by simp [Target.quiet]))
      ((enqueueAction_attempted _ _ _).of_ok hsend)

theorem applyIncorrectAnswer_attempted {challengeId : Nat} {exhausted : Bool}
    {attemptsRemaining : Nat} {blockExpiresAt : Option DateTime}
    (h : applyIncorrectAnswer updateId facts key c challengeId exhausted attemptsRemaining
      blockExpiresAt db = .ok (c', db')) :
    Attempted (actionsOf updateId key facts.occurredAt
      ((InboundOutcome.incorrect challengeId exhausted attemptsRemaining blockExpiresAt).payloads
        facts.messageId key db')) db db' := by
  obtain ⟨attemptsUsed, db₁, hcount, h⟩ := bind_ok_iff.1 h
  have hcounts : Respects (WritesTo [.challenge] fun _ => True)
      (incrementChallengeAttempts challengeId) := incrementChallengeAttempts_writes (by simp) _
  have hcounted : Attempted [] db db₁ :=
    (attempted_of_writes _ (by simp [Target.quiet]) hcounts).of_ok hcount
  cases exhausted with
  | false =>
    obtain ⟨_, db₂, hedit, h⟩ := bind_ok_iff.1 h
    obtain ⟨rfl, rfl⟩ := Prod.mk.inj (Except.ok.inj h)
    have hwrites : WritesTo [.enqueue] (NewOutboxAction.Of updateId True) db₁ db₂ :=
      (enqueueChallengeEdit_writes (by simp) _ _ _ _ _).of_ok hedit
    have hedited : Frame [.enqueue] db₁.toTables db₂.toTables := hwrites.frame
    have hused := incrementChallengeAttempts_ok hcount
    rw [← (hedited.challenge (by simp) (by simp)).1] at hused
    dsimp only [InboundOutcome.payloads]
    rw [hused]
    exact hcounted.trans ((enqueueAction_attempted _ _ _).of_ok hedit)
  | true =>
    obtain ⟨_, db₂, hclose, h⟩ := bind_ok_iff.1 h
    have hclosed := hcounted.trans ((closeChallenge_attempted _ _).of_ok hclose)
    cases blockExpiresAt with
    | some expiresAt =>
      exact hclosed.trans ((attempted_after (setTransition_attempted _ _) fun _ =>
        attempted_before (enqueueAction_attempted _ _ _) fun _ => attempted_pure _).of_ok h)
    | none =>
      exact hclosed.trans ((attempted_after (setTransition_attempted _ _) fun _ =>
        attempted_bind (enqueueAction_attempted _ _ _) fun _ =>
          attempted_before (enqueueAction_attempted _ _ _) fun _ => attempted_pure _).of_ok h)

theorem closeActiveChallenge_attempted (key : ConversationKey) (now : DateTime) :
    Respects (Attempted []) (closeActiveChallenge key now) :=
  attempted_of_writes (K := fun _ => True) [.challenge] (by simp [Target.quiet])
    (closeActiveChallenge_writes (by simp) _ _)

theorem applySpam_attempted (h : applySpam updateId facts key c db = .ok (c', db')) :
    Attempted (actionsOf updateId key facts.occurredAt
      (cleanup facts.messageId (db'.deletionIds key))) db db' := by
  obtain ⟨d, db₁, htransition, h⟩ := bind_ok_iff.1 h
  obtain ⟨_, db₂, hclose, h⟩ := bind_ok_iff.1 h
  obtain ⟨messageId, db₃, hmessage, h⟩ := bind_ok_iff.1 h
  obtain ⟨hsome, rfl⟩ := requireMessageId_ok hmessage
  have hbefore := ((setTransition_attempted _ _).of_ok htransition).trans
    ((closeActiveChallenge_attempted _ _).of_ok hclose)
  exact hbefore.trans (cleanup_attempted hsome (.pure _) h)

theorem applyInboundOutcome_attempted {outcome : InboundOutcome}
    (h : applyInboundOutcome updateId facts key c outcome db = .ok (c', db')) :
    Attempted (actionsOf updateId key facts.occurredAt (outcome.payloads facts.messageId key db'))
      db db' := by
  cases outcome with
  | startChallenge => exact applyChallengeStart_attempted h
  | retain =>
    obtain ⟨rfl, rfl⟩ := Prod.mk.inj (Except.ok.inj h)
    exact rfl
  | correct challengeId => exact (applySettled_attempted _ _ _).of_ok h
  | incorrect => exact applyIncorrectAnswer_attempted h
  | expired challengeId => exact (applySettled_attempted _ _ _).of_ok h
  | spam => exact applySpam_attempted h

/-! ## Events -/

/-- What the detector's decision enqueues. -/
def detectionPayloads (detection : DetectionFacts) (dryRunSpam : Bool) :
    List (OutboxPayload × Nat) :=
  (if dryRunSpam then [(.proposedDestructiveAction "spam" (some detection.score) none, 0)] else []) ++
    if detection.error.isSome then
      [(.sendOwnerMessage ⟨some .detectorFailed, none, none, none, none⟩, 0)]
    else []

theorem enqueueDetectionActions_attempted (detection : DetectionFacts) (dryRunSpam : Bool) :
    Respects (Attempted (actionsOf updateId key facts.occurredAt
      (detectionPayloads detection dryRunSpam)))
      (enqueueDetectionActions updateId facts key detection dryRunSpam) := by
  have halert : Respects (Attempted (actionsOf updateId key facts.occurredAt
      (if detection.error.isSome then
        [(.sendOwnerMessage ⟨some .detectorFailed, none, none, none, none⟩, 0)]
      else []))) (do
        if detection.error.isSome then
          enqueueAction updateId key
            (.sendOwnerMessage ⟨some .detectorFailed, none, none, none, none⟩) 0
            facts.occurredAt) := by
    cases detection.error.isSome with
    | false => exact attempted_pure _
    | true => exact enqueueAction_attempted _ _ _
  unfold enqueueDetectionActions detectionPayloads
  rw [actionsOf_append]
  cases dryRunSpam with
  | false => exact halert
  | true => exact attempted_bind (enqueueAction_attempted _ _ _) fun _ => halert

/-- What an event enqueues on its conversation, in terms of the state it leaves. -/
def PreparedAction.payloads (messageId : Option Int) (key : ConversationKey) (db : Database) :
    PreparedAction → List (OutboxPayload × Nat)
  | .inbound detection outcome dryRunSpam =>
    detectionPayloads detection dryRunSpam ++ outcome.payloads messageId key db
  | .blockedInbound => cleanup messageId (db.deletionIds key)
  | _ => []

theorem recordInbound_attempted :
    Respects (Attempted []) (recordInbound facts key) :=
  attempted_of_writes (K := fun _ => True) [.ledger] (by simp [Target.quiet])
    (recordInbound_writes (by simp) _ _)

theorem getOrCreateConversation_attempted (userId : Int) (now : DateTime) :
    Respects (Attempted []) (getOrCreateConversation key userId now) :=
  attempted_of_writes (K := fun _ => True) [.conversation] (by simp [Target.quiet])
    (getOrCreateConversation_writes (by simp) _ _ _)

theorem applyBlockedInbound_attempted (h : applyBlockedInbound updateId facts db = .ok ((), db')) :
    ∃ key, facts.optionalKey = some key ∧ Attempted (actionsOf updateId key facts.occurredAt
      (cleanup facts.messageId (db'.deletionIds key))) db db' := by
  obtain ⟨key, db₁, hkey, h⟩ := bind_ok_iff.1 h
  obtain ⟨hchat, rfl⟩ := key_ok hkey
  obtain ⟨messageId, db₂, hmessage, h⟩ := bind_ok_iff.1 h
  obtain ⟨hsome, rfl⟩ := requireMessageId_ok hmessage
  obtain ⟨userId, db₃, huser, h⟩ := bind_ok_iff.1 h
  obtain rfl : db = db₃ := (requireUserId_readOnly facts).of_ok huser
  obtain ⟨c, db₄, hopen, h⟩ := bind_ok_iff.1 h
  obtain ⟨_, db₅, hrecord, h⟩ := bind_ok_iff.1 h
  have hbefore := ((getOrCreateConversation_attempted _ _).of_ok hopen).trans
    (recordInbound_attempted.of_ok hrecord)
  exact ⟨key, hchat, hbefore.trans (cleanup_attempted hsome (saveConversation_writes (by simp) _ _) h)⟩

theorem applyInbound_attempted {detection : DetectionFacts} {outcome : InboundOutcome}
    {dryRunSpam : Bool}
    (h : applyInbound updateId facts detection outcome dryRunSpam db = .ok ((), db')) :
    ∃ key, facts.optionalKey = some key ∧ Attempted (actionsOf updateId key facts.occurredAt
      (detectionPayloads detection dryRunSpam ++ outcome.payloads facts.messageId key db'))
      db db' := by
  obtain ⟨key, db₁, hkey, h⟩ := bind_ok_iff.1 h
  obtain ⟨hchat, rfl⟩ := key_ok hkey
  obtain ⟨userId, db₂, huser, h⟩ := bind_ok_iff.1 h
  obtain rfl : db = db₂ := (requireUserId_readOnly facts).of_ok huser
  obtain ⟨c, db₃, hopen, h⟩ := bind_ok_iff.1 h
  obtain ⟨_, db₄, hrecord, h⟩ := bind_ok_iff.1 h
  obtain ⟨_, db₅, hdetect, h⟩ := bind_ok_iff.1 h
  obtain ⟨d, db₆, houtcome, h⟩ := bind_ok_iff.1 h
  -- what comes last neither enqueues nor changes what an outcome is described by
  have haudit (stateBefore stateAfter) : Respects (WritesTo [.conversation, .audit] fun _ => True)
      (insertDetectionAudit updateId key stateBefore stateAfter detection facts.occurredAt) :=
    insertDetectionAudit_writes (by simp) _ _ _ _ _
  have hlast : WritesTo [.conversation, .audit] (fun _ => True) db₆ db' :=
    (Respects.ite (fun _ => (saveConversation_writes (by simp) _ _).bind fun _ => haudit _ _)
      fun _ => haudit _ _).of_ok h
  have hsame : outcome.payloads facts.messageId key db' =
      outcome.payloads facts.messageId key db₆ :=
    InboundOutcome.payloads_of_frame hlast.frame (by simp)
  have hbefore := ((getOrCreateConversation_attempted _ _).of_ok hopen).trans
    (recordInbound_attempted.of_ok hrecord)
  have hactions := (hbefore.trans ((enqueueDetectionActions_attempted _ _).of_ok hdetect)).trans
    (applyInboundOutcome_attempted houtcome)
  refine ⟨key, hchat, ?_⟩
  rw [actionsOf_append, hsame]
  have hall := hactions.trans (.of_frame hlast.frame (by simp [Target.quiet]))
  rw [List.append_nil] at hall
  exact hall

/-- A committed trace is one action of the update, or none. -/
structure Traced (updateId : Int) (trace : List NewOutboxAction) : Prop where
  source : ∀ a ∈ trace, a.From (.reply updateId .trace)
  single : trace.length ≤ 1

theorem Traced.none : Traced updateId [] :=
  ⟨fun _ ha => absurd ha List.not_mem_nil, Nat.zero_le _⟩

theorem enqueueDryRunTrace_attempted {event : PreparedEvent}
    (h : enqueueDryRunTrace event facts db = .ok ((), db')) :
    ∃ trace, Traced event.updateId trace ∧ Attempted trace db db' := by
  unfold enqueueDryRunTrace at h
  split at h
  · obtain ⟨-, rfl⟩ := Prod.mk.inj (Except.ok.inj h)
    exact ⟨[], .none, rfl⟩
  · cases howner : facts.ownerUserId with
    | none =>
      rw [howner] at h
      obtain ⟨-, rfl⟩ := Prod.mk.inj (Except.ok.inj h)
      exact ⟨[], .none, rfl⟩
    | some ownerUserId =>
      rw [howner] at h
      obtain ⟨stateAfter, db₁, hstate, h⟩ := bind_ok_iff.1 h
      obtain ⟨-, rfl⟩ := Prod.mk.inj (Except.ok.inj hstate)
      obtain ⟨sourceActions, db₂, hlist, h⟩ := bind_ok_iff.1 h
      obtain ⟨-, rfl⟩ := Prod.mk.inj (Except.ok.inj hlist)
      obtain ⟨inserted, db₃, henqueue, h⟩ := bind_ok_iff.1 h
      obtain ⟨-, rfl⟩ := Prod.mk.inj (Except.ok.inj h)
      refine ⟨[_], ⟨fun a ha => ?_, Nat.le_refl _⟩, (enqueueOutboxAction_attempted _).of_ok henqueue⟩
      rw [List.mem_singleton.1 ha]
      exact ⟨ActionSource.trace_key _, rfl, rfl⟩

/-- What an event enqueues on its conversation, in terms of the state it leaves. -/
def PreparedEvent.actions (event : PreparedEvent) (db : Database) : List NewOutboxAction :=
  match event.facts.optionalKey with
  | none => []
  | some key => actionsOf event.updateId key event.facts.occurredAt
      (event.facts.action.payloads event.facts.messageId key db)

theorem PreparedAction.payloads_of_frame {targets : List Target} {messageId : Option Int}
    {action : PreparedAction} (h : Frame targets db.toTables db'.toTables)
    (ht : Target.challenge ∉ targets ∧ Target.ledger ∉ targets ∧ Target.dropConnection ∉ targets) :
    action.payloads messageId key db' = action.payloads messageId key db := by
  cases action with
  | inbound detection outcome dryRunSpam =>
    simp only [payloads, InboundOutcome.payloads_of_frame h ht]
  | blockedInbound => simp only [payloads, Database.deletionIds_of_frame h ht.2]
  | _ => rfl

theorem applyPreparedAction_attempted {event : PreparedEvent}
    (hconnection : ∀ o c e r, event.facts.action ≠ .connectionChanged o c e r)
    (h : applyPreparedAction event.updateId event.facts event.facts.action db = .ok ((), db')) :
    Attempted (event.actions db') db db' := by
  have hnone (hquiet : Respects (WritesTo handlerTargets fun _ => False)
        (applyPreparedAction event.updateId event.facts event.facts.action))
      (hpayloads : ∀ key, event.facts.action.payloads event.facts.messageId key db' = []) :
      Attempted (event.actions db') db db' := by
    have hactions : event.actions db' = [] := by
      unfold PreparedEvent.actions
      split
      · rfl
      · next key _ => rw [hpayloads key]; rfl
    rw [hactions]
    exact (hquiet.of_ok h).attempted_none (by simp)
  have hkeyed {key : ConversationKey} (hkey : event.facts.optionalKey = some key)
      (hattempted : Attempted (actionsOf event.updateId key event.facts.occurredAt
        (event.facts.action.payloads event.facts.messageId key db')) db db') :
      Attempted (event.actions db') db db' := by
    unfold PreparedEvent.actions
    rw [hkey]
    exact hattempted
  cases haction : event.facts.action with
  | connectionChanged o c e r => exact absurd haction (hconnection o c e r)
  | inbound detection outcome dryRunSpam =>
    rw [haction] at h hkeyed
    obtain ⟨key, hkey, hattempted⟩ := applyInbound_attempted h
    exact hkeyed hkey hattempted
  | blockedInbound =>
    rw [haction] at h hkeyed
    obtain ⟨key, hkey, hattempted⟩ := applyBlockedInbound_attempted h
    exact hkeyed hkey hattempted
  | activeInbound | ignore =>
    rw [haction] at hnone
    exact hnone (.pure _) fun _ => rfl
  | blockedFailOpen =>
    rw [haction] at hnone
    exact hnone (applyBlockedFailOpen_writes (by simp) _) fun _ => rfl
  | manualOwner =>
    rw [haction] at hnone
    exact hnone (applyManualOwner_writes (by simp) _) fun _ => rfl
  | botMessage sender =>
    rw [haction] at hnone
    exact hnone (applyBotMessage_writes (by simp) _ _) fun _ => rfl
  | messagesDeleted messageIds =>
    rw [haction] at hnone
    exact hnone (applyDeletions_writes (by simp) _ _) fun _ => rfl

theorem apply_attempted {event : PreparedEvent}
    (hconnection : ∀ o c e r, event.facts.action ≠ .connectionChanged o c e r)
    (h : LifecycleHandler.apply event db = .ok ((), db')) :
    ∃ trace, Traced event.updateId trace ∧ Attempted (event.actions db' ++ trace) db db' := by
  obtain ⟨_, db₁, haction, h⟩ := bind_ok_iff.1 h
  obtain ⟨trace, htrace, hattempted⟩ := enqueueDryRunTrace_attempted h
  have htraced : WritesTo [.enqueue] (NewOutboxAction.Of event.updateId True) db₁ db' :=
    (enqueueDryRunTrace_writes (by simp) _ _).of_ok h
  have hsame : event.actions db' = event.actions db₁ := by
    unfold PreparedEvent.actions
    simp only [PreparedAction.payloads_of_frame htraced.frame (by simp)]
  refine ⟨trace, htrace, ?_⟩
  rw [hsame]
  exact (applyPreparedAction_attempted hconnection haction).trans hattempted

/-! ## Resets -/

/-- The ids of the messages a reset deletes: those to be cleaned up, and the prompts. -/
def Database.resetIds (db : Database) (key : ConversationKey) : List Int :=
  ((db.deletionIds key ++
    (db.challenge.rows.filter (·.key = key)).filterMap (·.promptMessageId)).insertionSort
      (· ≤ ·)).dedup

/-- A reset of a stored conversation asks for the deletion of its messages. -/
theorem resetConversation_ok {connection : BusinessConnectionRecord} {chatId : Int}
    {now : DateTime} {result : CommandResult}
    (hstored : db.conversation.contains ⟨connection.connectionId, chatId⟩ = true)
    (h : resetConversation connection chatId now db = .ok (result, db')) :
    ∃ response, result = .ok ⟨response,
      if db.resetIds ⟨connection.connectionId, chatId⟩ = [] then []
      else [.deleteBusinessMessages ⟨connection.connectionId, chatId⟩
        (db.resetIds ⟨connection.connectionId, chatId⟩)]⟩ := by
  obtain ⟨conversation, hrow⟩ := Option.isSome_iff_exists.1 hstored
  obtain ⟨found, db₁, hfound, h⟩ := bind_ok_iff.1 h
  obtain ⟨rfl, rfl⟩ := Prod.mk.inj (Except.ok.inj hfound)
  dsimp only at h
  rw [hrow] at h
  obtain ⟨messageIds, db₂, hids, h⟩ := bind_ok_iff.1 h
  obtain ⟨rfl, rfl⟩ := Prod.mk.inj (Except.ok.inj hids)
  obtain ⟨promptMessageIds, db₃, hprompts, h⟩ := bind_ok_iff.1 h
  obtain ⟨rfl, rfl⟩ := Prod.mk.inj (Except.ok.inj hprompts)
  obtain ⟨_, _, -, h⟩ := bind_ok_iff.1 h
  obtain ⟨_, _, -, h⟩ := bind_ok_iff.1 h
  obtain ⟨_, _, -, h⟩ := bind_ok_iff.1 h
  obtain ⟨_, _, -, h⟩ := bind_ok_iff.1 h
  obtain ⟨_, _, -, h⟩ := bind_ok_iff.1 h
  exact ⟨_, (Prod.mk.inj (Except.ok.inj h)).1.symm⟩

theorem enqueueDirectOwnerMessage_attempted (ownerChatId : Int) (message : OwnerText)
    (occurredAt : DateTime) (owner : OwnerReply) :
    Respects (fun db db' => ∃ a : NewOutboxAction, a.From (.reply updateId owner) ∧ Attempted [a] db db')
      (enqueueDirectOwnerMessage updateId ownerChatId message occurredAt owner.suffix) := by
  intro db r db' h
  obtain ⟨inserted, db₁, henqueue, h⟩ := bind_ok_iff.1 h
  obtain ⟨-, rfl⟩ := Prod.mk.inj (Except.ok.inj h)
  exact ⟨_, ⟨rfl, rfl, rfl⟩, (enqueueOutboxAction_attempted _).of_ok henqueue⟩

/-- The conversation that a command resets, once it is authorized. -/
def resetKey (updateId : Int) (snapshot : OwnerCommandSnapshot) (occurredAt : DateTime)
    (db : Database) : Option ConversationKey :=
  match snapshot.command, (do
      insertRedactedUpdate updateId .ownerCommand occurredAt
      authorize snapshot.source occurredAt) db with
  | .ok (.reset chatId), .ok (some owner, db') =>
    (owner.connection.map fun connection => ⟨connection.connectionId, chatId⟩).filter
      db'.conversation.contains
  | _, _ => none

/-- What a command that resets a conversation enqueues besides. -/
structure Replies (updateId : Int) (replies : List NewOutboxAction) : Prop where
  source : ∀ a ∈ replies, a.From (.reply updateId .command) ∨ a.From (.reply updateId .trace)
  once : (replies.map (·.idempotencyKey)).Nodup

theorem resetKey_eq_some {snapshot : OwnerCommandSnapshot} {occurredAt : DateTime}
    (h : resetKey updateId snapshot occurredAt db = some key) :
    ∃ chatId owner connection db₁ db₂, snapshot.command = .ok (.reset chatId) ∧
      insertRedactedUpdate updateId .ownerCommand occurredAt db = .ok ((), db₁) ∧
      authorize snapshot.source occurredAt db₁ = .ok (some owner, db₂) ∧
      owner.connection = some connection ∧ key = ⟨connection.connectionId, chatId⟩ ∧
      db₂.conversation.contains key = true := by
  unfold resetKey at h
  split at h
  · next chatId owner db₂ hcommand hauthorized =>
    obtain ⟨_, db₁, hinsert, hauthorize⟩ := bind_ok_iff.1 hauthorized
    obtain ⟨hconnection, hstored⟩ := Option.filter_eq_some_iff.1 h
    obtain ⟨connection, howner, rfl⟩ := Option.map_eq_some_iff.1 hconnection
    exact ⟨chatId, owner, connection, db₁, db₂, hcommand, hinsert, hauthorize, howner, rfl, hstored⟩
  · cases h

theorem insertRedactedUpdate_new {eventType : EventType} {occurredAt : DateTime}
    (h : insertRedactedUpdate updateId eventType occurredAt db = .ok ((), db')) :
    db.processedUpdate.lookup updateId = none := by
  unfold insertRedactedUpdate Uow.insertUpdate at h
  have hok := Uow.statement_ok_iff.1 h
  unfold Tables.insertUpdate at hok
  split at hok
  · next hnone => exact hnone
  · cases hok

/-- What a command has written when it has been executed. -/
@[simp] def executionTargets : List Target := .update :: .owner :: commandTargets

theorem Database.resetIds_of_frame {targets : List Target}
    (h : Frame targets db.toTables db'.toTables)
    (ht : Target.challenge ∉ targets ∧ Target.ledger ∉ targets ∧ Target.dropConnection ∉ targets) :
    db'.resetIds key = db.resetIds key := by
  unfold Database.resetIds
  rw [Database.deletionIds_of_frame h ht.2, (h.challenge ht.1 ht.2.2).1]

/-- The batches of a reset, whether or not there are any. -/
theorem enqueueOwnerTelegramActions_attempted (messageIds : List Int) (occurredAt : DateTime) :
    Respects (Attempted (actionsOf updateId key occurredAt (deletions messageIds)))
      (enqueueOwnerTelegramActions updateId
        (if messageIds = [] then [] else [.deleteBusinessMessages key messageIds]) occurredAt) := by
  by_cases hnone : messageIds = []
  · rw [if_pos hnone, hnone]
    exact attempted_pure _
  · rw [if_neg hnone]
    exact attempted_before (enqueueDelete_attempted _ _) fun _ => attempted_pure _

/-- **A reset enqueues its deletions, and the replies to its command.** -/
theorem processOwnerCommand_resets {snapshot : OwnerCommandSnapshot} {occurredAt : DateTime}
    {default : Bool} {receipt : RecordReceipt}
    (h : processOwnerCommand updateId snapshot occurredAt default db = .ok (receipt, db'))
    (hkey : resetKey updateId snapshot occurredAt db = some key) :
    ∃ db₁ replies, WritesTo executionTargets (fun _ => False) db db₁ ∧ Replies updateId replies ∧
      Attempted (actionsOf updateId key occurredAt (deletions (db.resetIds key)) ++ replies)
        db₁ db' := by
  obtain ⟨chatId, owner, connection, db₁, db₂, hcommand, hinsert, hauthorize, howner, rfl, hstored⟩ :=
    resetKey_eq_some hkey
  unfold processOwnerCommand at h
  rw [withoutReceipt_new (insertRedactedUpdate_new hinsert)] at h
  obtain ⟨destructiveMode, db₀, hmode, h⟩ := bind_ok_iff.1 h
  obtain ⟨-, rfl⟩ := Prod.mk.inj (Except.ok.inj hmode)
  obtain ⟨_, db₁', hinsert', h⟩ := bind_ok_iff.1 h
  obtain ⟨-, rfl⟩ := Prod.mk.inj (Except.ok.inj (hinsert.symm.trans hinsert'))
  obtain ⟨found, db₂', hauthorize', h⟩ := bind_ok_iff.1 h
  obtain ⟨rfl, rfl⟩ := Prod.mk.inj (Except.ok.inj (hauthorize.symm.trans hauthorize'))
  obtain ⟨execution, db₃, hexecute, h⟩ := bind_ok_iff.1 h
  have hauthorized : WritesTo [.update, .audit, .owner] (fun _ => False) db db₂ :=
    trans_of (WritesTo _ _) ((insertRedactedUpdate_writes (by simp) _ _).of_ok hinsert)
      ((authorize_writes (by simp) _ _).of_ok hauthorize)
  have hexecuted : WritesTo executionTargets (fun _ => False) db₂ db₃ :=
    (executeCommand_writes (by simp) _ _ _ _).of_ok hexecute
  have hwrites : WritesTo executionTargets (fun _ => False) db db₃ :=
    trans_of (WritesTo _ _) (hauthorized.mono fun st hst => hst.mono (by simp) fun _ => id) hexecuted
  -- nothing before the reset touches the ledger, so its deletions are those of the start
  have hids : db₂.resetIds ⟨connection.connectionId, chatId⟩ =
      db.resetIds ⟨connection.connectionId, chatId⟩ :=
    Database.resetIds_of_frame hauthorized.frame (by simp)
  unfold executeCommand at hexecute
  rw [hcommand] at hexecute
  obtain ⟨result, db₄, hresult, hexecute⟩ := bind_ok_iff.1 hexecute
  obtain ⟨rfl, rfl⟩ := Prod.mk.inj (Except.ok.inj hexecute)
  have hreset : resetConversation connection chatId occurredAt db₂ = .ok (result, db₄) := by
    unfold executeAuthorized withConnection at hresult
    rw [howner] at hresult
    exact hresult
  obtain ⟨response, rfl⟩ := resetConversation_ok hstored hreset
  rw [hids] at h
  obtain ⟨_, db₅, hactions, h⟩ := bind_ok_iff.1 h
  obtain ⟨_, db₆, hreply, h⟩ := bind_ok_iff.1 h
  have hdeleted := (enqueueOwnerTelegramActions_attempted _ _).of_ok hactions
  obtain ⟨reply, hsource, hreplied⟩ :=
    (enqueueDirectOwnerMessage_attempted _ _ _ .command).of_ok hreply
  have hanswered := hdeleted.trans hreplied
  -- in dry-run a trace of what was queued follows the reply
  cases hdestructive : destructiveMode with
  | true =>
    rw [hdestructive] at h
    obtain ⟨-, rfl⟩ := Prod.mk.inj (Except.ok.inj h)
    refine ⟨db₄, [reply], hwrites, ⟨fun a ha => ?_, List.nodup_singleton _⟩, hanswered⟩
    exact .inl (List.mem_singleton.1 ha ▸ hsource)
  | false =>
    rw [hdestructive] at h
    obtain ⟨_, db₇, htrace, h⟩ := bind_ok_iff.1 h
    obtain ⟨-, rfl⟩ := Prod.mk.inj (Except.ok.inj h)
    obtain ⟨kinds, db₈, hlist, htrace⟩ := bind_ok_iff.1 htrace
    obtain ⟨-, rfl⟩ := Prod.mk.inj (Except.ok.inj hlist)
    obtain ⟨trace, hsource', htraced⟩ :=
      (enqueueDirectOwnerMessage_attempted _ _ _ .trace).of_ok htrace
    have hall := hanswered.trans htraced
    rw [List.append_assoc] at hall
    refine ⟨db₄, [reply, trace], hwrites, ⟨fun a ha => ?_, ?_⟩, hall⟩
    · rcases List.mem_pair.1 ha with rfl | rfl
      · exact .inl hsource
      · exact .inr hsource'
    · refine List.nodup_cons.2 ⟨fun hmem => ?_, List.nodup_singleton _⟩
      have hsame := hsource.eq hsource' (List.mem_singleton.1 hmem)
      cases hsame

end ChatHygiene
