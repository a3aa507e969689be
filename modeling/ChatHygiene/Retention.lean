import ChatHygiene.Processing.Handler
/-!
# Retention

Two passes of the worker. The expiry pass returns conversations whose
challenge or temporary block is due to `NEW`; the purge pass deletes history
past its age, but never the live rows the rest of the program goes on with.
-/

namespace ChatHygiene

open Txn (read forEach)

structure ExpiryReport where
  expiredChallenges : Nat
  expiredTemporaryBlocks : Nat
  deriving DecidableEq, Repr

structure PurgeReport where
  purgedLedgerMessages : Nat
  purgedAuditEvents : Nat
  purgedOutboxActions : Nat
  purgedProcessedUpdates : Nat
  deriving DecidableEq, Repr

/-! ## The expiry pass -/

/-- `closed_at IS NULL AND expires_at <= ? ORDER BY id`. -/
def dueChallenges (now : DateTime) : Uow (List ChallengeRecord) :=
  read fun db =>
    ((db.challenge.rows.filter fun c => c.closedAt.isNone && c.expiresAt ≤ now).map
      ChallengeRow.toChallengeRecord).insertionSort fun a b => a.id ≤ b.id

/-- The action sends the challenge. -/
def OutboxActionRow.sendsChallenge (challengeId : Nat) (a : OutboxActionRow) : Bool :=
  match a.payload with
  | .sendChallenge id _ _ _ => id = challengeId
  | _ => false

/-- Edits the prompt of an expired challenge, under the update that sent it. -/
def enqueueExpiryEdit (challenge : ChallengeRecord) (now : DateTime) : Uow Unit := do
  let source ← read fun db =>
    (db.outboxAction.rows.find? (OutboxActionRow.sendsChallenge challenge.id)).map
      (·.sourceUpdateId)
  match source with
  | none => pure ()
  | some sourceUpdateId =>
    let _ ← enqueueOutboxAction
      { sourceUpdateId := sourceUpdateId
        key := some challenge.key
        payload := .editChallenge challenge.id .expired none
        idempotencyKey := s!"retention:challenge:{challenge.id}:expired"
        createdAt := now }

/-- Returns the conversations that satisfy a condition to `NEW`. -/
def renewConversations (p : Conversation → Bool) (f : Conversation → Conversation)
    (hf : ∀ c, (f c).key = c.key) (now : DateTime) : Uow Nat :=
  Uow.updateConversation p
    (fun c => { f c with state := .new, updatedAt := now, stateVersion := c.stateVersion + 1 }) hf

/-- Expires one due challenge, unless it has been closed since. -/
def expireChallenge (now : DateTime) (challenge : ChallengeRecord) : Uow Nat := do
  let closed ← closeChallenges (fun c => c.id = challenge.id) now
  if closed = 0 then pure 0
  else
    let _ ← renewConversations (fun c => c.key = challenge.key && c.state = .verifyPending) id
      (fun _ => rfl) now
    if challenge.promptMessageId.isSome then enqueueExpiryEdit challenge now
    pure 1

/-- Expires due challenges in turn and counts them. -/
def expireChallenges (now : DateTime) : List ChallengeRecord → Uow Nat
  | [] => pure 0
  | challenge :: challenges => do
    let expired ← expireChallenge now challenge
    let rest ← expireChallenges now challenges
    pure (expired + rest)

/-- Expires due challenges and temporary soft blocks atomically. -/
def expireDueState (now : DateTime) : Uow ExpiryReport := do
  let due ← dueChallenges now
  let expiredChallenges ← expireChallenges now due
  let expiredTemporaryBlocks ← renewConversations
    (fun c => c.state = .tempSoftBlocked && c.blockExpiresAt.any (· ≤ now))
    (fun c => { c with blockExpiresAt := none, blockReason := none }) (fun _ => rfl) now
  pure ⟨expiredChallenges, expiredTemporaryBlocks⟩

/-! ## The purge pass -/

/-- The messages an unfinished deletion still names. -/
def protectedDeletionIds : Uow (List (ConversationKey × Int)) :=
  read fun db => db.outboxAction.rows.flatMap fun a =>
    match a.key, a.payload with
    | some key, .deleteBusinessMessages messageIds =>
      if a.status.unfinished then messageIds.map (key, ·) else []
    | _, _ => []

/-- Purges old inbound messages. The loop of the source deletes one key at a time; one statement
with the loop's condition deletes the same rows. -/
def purgeLedger (cutoff : DateTime) (protectedIds : List (ConversationKey × Int)) : Uow Nat :=
  Uow.deleteLedger fun m =>
    m.direction = .inbound && !m.manualOwnerReply && m.sentAt ≤ cutoff &&
      !protectedIds.contains (m.key, m.messageId)

/-- The latest audit of every conversation that is blocked as spam. -/
def latestSpamAudits (db : Database) : List Nat :=
  (db.conversation.rows.filter (·.state = .spamSoftBlocked)).filterMap fun c =>
    ((db.auditEvent.rows.filter (·.key = some c.key)).map (·.id)).max?

def purgeAudits (cutoff : DateTime) : Uow Nat := do
  let kept ← read latestSpamAudits
  Uow.deleteAudit fun a => a.occurredAt ≤ cutoff && !kept.contains a.id

def purgeOutbox (succeededCutoff failedCutoff : DateTime) : Uow Nat :=
  Uow.deleteOutbox fun a =>
    (a.status = .succeeded && a.updatedAt ≤ succeededCutoff) ||
      ((a.status = .uncertain || a.status = .permanentFailure) && a.updatedAt ≤ failedCutoff)

def purgeProcessedUpdates (cutoff : DateTime) : Uow Nat := do
  let actions ← read fun db => db.outboxAction.rows.map (·.sourceUpdateId)
  let audits ← read fun db => db.auditEvent.rows.filterMap (·.sourceUpdateId)
  Uow.deleteUpdate fun u =>
    u.receivedAt ≤ cutoff && !actions.contains u.updateId && !audits.contains u.updateId

/-- Purges bounded operational history while retaining active identities, manual owner replies,
persistent blocks and settings. -/
def purgeHistory (now : DateTime) : Uow PurgeReport := do
  let protectedIds ← protectedDeletionIds
  let purgedLedgerMessages ← purgeLedger (now - DateTime.hours 72) protectedIds
  let purgedAuditEvents ← purgeAudits (now - DateTime.days 90)
  let purgedOutboxActions ← purgeOutbox (now - DateTime.days 30) (now - DateTime.days 90)
  let purgedProcessedUpdates ← purgeProcessedUpdates (now - DateTime.days 7)
  pure ⟨purgedLedgerMessages, purgedAuditEvents, purgedOutboxActions, purgedProcessedUpdates⟩

end ChatHygiene
