import ChatHygiene.Storage.Consistency
import Mathlib.Data.List.Sort
/-!
# Repositories

The queries and updates the rest of the program is written with. An update
that must hit exactly one row fails with `concurrentModification` when it hits
none.
-/

namespace ChatHygiene

open Txn (read)

/-- `update_one`: the statement affected exactly one row. -/
def updateOne (rowsAffected : Nat) : Uow Unit :=
  if rowsAffected = 1 then pure () else throw .concurrentModification

/-! ## Conversations -/

/-- Loads a conversation without creating missing state. -/
def findConversation (key : ConversationKey) : Uow (Option Conversation) :=
  read fun db => db.conversation.lookup key

/-- A conversation as it is first inserted. -/
def Conversation.initial (key : ConversationKey) (userId : Int) (now : DateTime) :
    Conversation where
  key := key
  userId := userId
  state := .new
  createdAt := now
  updatedAt := now
  blockExpiresAt := none
  blockReason := none
  blockCount := 0
  stateVersion := 0

/-- Loads a conversation or inserts its initial `NEW` state. -/
def getOrCreateConversation (key : ConversationKey) (userId : Int) (now : DateTime) :
    Uow Conversation := do
  match ← findConversation key with
  | some conversation => pure conversation
  | none =>
    Uow.insertConversation (.initial key userId now)
    pure (.initial key userId now)

/-- Saves a conversation only when its stored version matches `expectedVersion`. -/
def saveConversation (conversation : Conversation) (expectedVersion : Nat) : Uow Unit := do
  let affected ← Uow.updateConversation
    (fun c => c.key = conversation.key && c.stateVersion = expectedVersion)
    (fun c => { c with
      state := conversation.state
      updatedAt := conversation.updatedAt
      blockExpiresAt := conversation.blockExpiresAt
      blockReason := conversation.blockReason
      blockCount := conversation.blockCount
      stateVersion := c.stateVersion + 1 })
    fun _ => rfl
  updateOne affected

/-! ## The message ledger -/

/-- Inserts one observed message if its composite identity is new. -/
def recordMessage (message : LedgerMessage) : Uow Bool := Uow.insertLedger message

/-- Marks one known message deleted once. -/
def markMessageDeleted (key : ConversationKey) (messageId : Int) (deletedAt : DateTime) :
    Uow Bool := do
  let affected ← Uow.updateLedger
    (fun m => m.key = key && m.messageId = messageId && m.deletedAt.isNone)
    (fun m => { m with deletedAt := some deletedAt }) fun _ => rfl
  pure (affected = 1)

/-- The ids of the ledger rows that satisfy a condition, in message order. -/
def ledgerIds (p : LedgerMessage → Bool) : Uow (List Int) :=
  read fun db => ((db.messageLedger.rows.filter p).map (·.messageId)).insertionSort (· ≤ ·)

/-- Lists undeleted manual owner replies in message order. -/
def activeOwnerReplyIds (key : ConversationKey) : Uow (List Int) :=
  ledgerIds fun m => m.key = key && m.manualOwnerReply && m.deletedAt.isNone

/-- Lists every known undeleted message eligible for cleanup. -/
def eligibleDeletionIds (key : ConversationKey) : Uow (List Int) :=
  ledgerIds fun m => m.key = key && m.eligibleForDeletion && m.deletedAt.isNone

/-! ## Challenges -/

/-- Creates the only active challenge for a conversation. -/
def createChallenge (challenge : ChallengeRecord) : Uow Nat := Uow.insertChallenge challenge

/-- Loads the active challenge, if one exists. -/
def activeChallenge (key : ConversationKey) : Uow (Option ChallengeRecord) :=
  read fun db =>
    (db.challenge.rows.find? fun c => c.key = key && c.closedAt.isNone).map
      ChallengeRow.toChallengeRecord

/-- Loads one challenge by its stable outbox payload identity. -/
def findChallengeById (challengeId : Nat) : Uow (Option ChallengeRecord) :=
  read fun db => (db.challenge.lookup challengeId).map ChallengeRow.toChallengeRecord

/-- The columns closing a challenge sets. -/
def ChallengeRow.close (closedAt : DateTime) (c : ChallengeRow) : ChallengeRow :=
  { c with closedAt := some closedAt, deliveryStatus := .closed }

theorem ChallengeRow.close_change (p : ChallengeRow → Bool) (closedAt : DateTime) :
    Tables.ChallengeChange p (ChallengeRow.close closedAt) where
  id _ := rfl
  key _ := rfl
  closed _ h := by simp [ChallengeRow.close] at h
  attempts _ _ h h' := ⟨h, h'⟩

/-- Closes the open challenges that satisfy a condition. -/
def closeChallenges (p : ChallengeRow → Bool) (closedAt : DateTime) : Uow Nat :=
  Uow.updateChallenge (fun c => p c && c.closedAt.isNone) (ChallengeRow.close closedAt)
    (ChallengeRow.close_change _ closedAt)

/-- Closes an active challenge exactly once. -/
def closeChallenge (challengeId : Nat) (closedAt : DateTime) : Uow Bool := do
  let affected ← closeChallenges (fun c => c.id = challengeId) closedAt
  pure (affected = 1)

/-- Closes the active challenge for a conversation, if present. -/
def closeActiveChallenge (key : ConversationKey) (closedAt : DateTime) : Uow Bool := do
  let affected ← closeChallenges (fun c => c.key = key) closedAt
  pure (affected = 1)

/-- The challenge may consume one more attempt. -/
def ChallengeRow.consumable (challengeId : Nat) (c : ChallengeRow) : Bool :=
  c.id = challengeId && c.closedAt.isNone && c.attemptsUsed < c.maxAttempts

theorem ChallengeRow.increment_change (challengeId : Nat) :
    Tables.ChallengeChange (ChallengeRow.consumable challengeId)
      fun c => { c with attemptsUsed := c.attemptsUsed + 1 } where
  id _ := rfl
  key _ := rfl
  closed _ h := h
  attempts c hp _ hmax := by
    simp only [ChallengeRow.consumable, Bool.and_eq_true, decide_eq_true_eq] at hp
    exact ⟨by simp only; omega, hmax⟩

/-- Increments a challenge's numeric-attempt counter and returns the new value. -/
def incrementChallengeAttempts (challengeId : Nat) : Uow Nat := do
  let attempts ← read fun db =>
    (db.challenge.rows.find? (ChallengeRow.consumable challengeId)).map (·.attemptsUsed + 1)
  let _ ← Uow.updateChallenge (ChallengeRow.consumable challengeId)
    (fun c => { c with attemptsUsed := c.attemptsUsed + 1 })
    (ChallengeRow.increment_change challengeId)
  match attempts with
  | some attempts => pure attempts
  | none => throw (.invalidData s!"challenge {challengeId} cannot consume another attempt")

/-- A delivery report sets the prompt id and leaves the status of a closed challenge. -/
def ChallengeRow.delivered (prompt : Option Int) (status : DeliveryStatus) (c : ChallengeRow) :
    ChallengeRow :=
  { c with
    promptMessageId := prompt
    deliveryStatus := if c.closedAt.isNone then status else c.deliveryStatus }

/-- Records a delivered challenge prompt without reopening a closed challenge. -/
def markChallengeSent (challengeId : Nat) (promptMessageId : Int) : Uow Unit := do
  let affected ← Uow.updateChallenge (fun c => c.id = challengeId)
    (fun c => c.delivered (some promptMessageId) .sent)
    ⟨fun _ => rfl, fun _ => rfl, fun _ h => h, fun _ _ h h' => ⟨h, h'⟩⟩
  updateOne affected

/-- Records that Telegram may have delivered a challenge prompt. -/
def markChallengeUncertain (challengeId : Nat) : Uow Unit := do
  let affected ← Uow.updateChallenge (fun c => c.id = challengeId)
    (fun c => c.delivered c.promptMessageId .uncertain)
    ⟨fun _ => rfl, fun _ => rfl, fun _ h => h, fun _ _ h h' => ⟨h, h'⟩⟩
  updateOne affected

/-! ## Outbox actions and audits -/

/-- Enqueues one idempotent Telegram-side action. -/
def enqueueOutboxAction (action : NewOutboxAction) : Uow Bool := Uow.insertOutbox action

/-- Lists every outbox action already created by one source update. -/
def listOutboxActionsForUpdate (sourceUpdateId : Int) : Uow (List OutboxActionRecord) :=
  read fun db =>
    (db.outboxAction.rows.filter fun a => a.sourceUpdateId = sourceUpdateId).map
      OutboxActionRow.toRecord

/-- Records one body-free lifecycle or decision audit row. -/
def insertAuditEvent (audit : NewAuditEvent) : Uow Nat := Uow.insertAudit audit

/-- The columns that finishing an unfinished action sets. -/
def OutboxActionRow.finish (status : OutboxStatus) (nextAttemptAt : Option DateTime)
    (errorCode : Option String) (now : DateTime) (a : OutboxActionRow) : OutboxActionRow :=
  { a with
    status := status
    nextAttemptAt := nextAttemptAt
    claimedAt := none
    lastError := errorCode
    updatedAt := now }

theorem OutboxActionRow.finish_change (status : OutboxStatus) (nextAttemptAt : Option DateTime)
    (errorCode : Option String) (now : DateTime) :
    Tables.OutboxChange (OutboxActionRow.finish status nextAttemptAt errorCode now) :=
  ⟨fun _ => rfl, fun _ => rfl, fun _ => rfl, fun _ => rfl, fun _ => rfl⟩

/-- Moves one unfinished action to a status, with its claim cleared. -/
def finishOutbox (actionId : Nat) (status : OutboxStatus) (nextAttemptAt : Option DateTime)
    (errorCode : Option String) (now : DateTime) : Uow Unit := do
  let affected ← Uow.updateOutbox (fun a => a.id = actionId && a.status.unfinished)
    (OutboxActionRow.finish status nextAttemptAt errorCode now)
    (OutboxActionRow.finish_change status nextAttemptAt errorCode now)
  updateOne affected

def setOutboxTerminal (actionId : Nat) (status : OutboxStatus) (errorCode : Option String)
    (now : DateTime) : Uow Unit :=
  finishOutbox actionId status none errorCode now

/-- Marks an outbox action successfully applied. -/
def markOutboxSucceeded (actionId : Nat) (now : DateTime) : Uow Unit :=
  setOutboxTerminal actionId .succeeded none now

/-- Schedules a retry for a recoverable outbox failure. -/
def markOutboxRetry (actionId : Nat) (nextAttemptAt : DateTime) (errorCode : String)
    (now : DateTime) : Uow Unit :=
  finishOutbox actionId .retry (some nextAttemptAt) (some errorCode) now

/-- Marks an ambiguous non-idempotent action for manual recovery. -/
def markOutboxUncertain (actionId : Nat) (errorCode : String) (now : DateTime) : Uow Unit :=
  setOutboxTerminal actionId .uncertain (some errorCode) now

/-- Marks an outbox action permanently failed. -/
def markOutboxPermanentFailure (actionId : Nat) (errorCode : String) (now : DateTime) :
    Uow Unit :=
  setOutboxTerminal actionId .permanentFailure (some errorCode) now

/-! ## Connections -/

/-- The at-most-one connection among the rows that satisfy a condition. -/
def singleConnection (p : BusinessConnectionRecord → Bool) (message : String) :
    Uow (Option BusinessConnectionRecord) := do
  let rows ← read fun db => db.businessConnection.rows.filter p
  if 1 < rows.length then throw (.invalidData message)
  pure rows.head?

/-- Strictly loads the singleton Telegram reconciliation state. -/
def loadTelegramReconciliationState : Uow TelegramReconciliationState :=
  read fun db => db.reconciliation

/-- Loads a configured Business connection. -/
def findBusinessConnection (connectionId : String) : Uow (Option BusinessConnectionRecord) := do
  if (← loadTelegramReconciliationState).state ≠ .ready then pure none
  else
    read fun db => (db.businessConnection.lookup connectionId).filter fun c => c.reconciliationState = .confirmed

/-- Loads the only configured Business connection for the single-account MVP. -/
def findSingleBusinessConnection : Uow (Option BusinessConnectionRecord) := do
  if (← loadTelegramReconciliationState).state ≠ .ready then pure none
  else
    singleConnection (fun c => c.reconciliationState = .confirmed)
      "single-account mode found multiple Business connections"

/-- Loads one trusted connection without applying the global/effect gate. -/
def loadBusinessConnectionForReconciliation (connectionId : String) :
    Uow (Option BusinessConnectionRecord) :=
  read fun db => db.businessConnection.lookup connectionId

/-- Loads the at-most-one trusted connection without applying the effect gate. -/
def loadSingleTrustedConnection : Uow (Option BusinessConnectionRecord) :=
  singleConnection (fun _ => true)
    "single-account mode found multiple trusted Business connections"

/-- Inserts, refreshes, or replaces the one configured Business connection. Replacement retires
unfinished actions and resets destructive mode before connection-scoped state is removed. -/
def upsertBusinessConnection (connection : BusinessConnectionRecord) : Uow Unit := do
  let stale ← read fun db => db.businessConnection.rows.find? fun c =>
    c.ownerUserId = connection.ownerUserId && c.connectionId ≠ connection.connectionId
  match stale with
  | some stale =>
    let _ ← Uow.updateOutbox
      (fun a => a.key.any (·.connectionId = stale.connectionId) && a.status.unfinished)
      (OutboxActionRow.finish .permanentFailure none (some "business_connection_replaced")
        connection.updatedAt)
      (OutboxActionRow.finish_change ..)
    let _ ← Uow.deleteConnection fun c => c.connectionId = stale.connectionId
    Uow.setDestructiveMode false
    Uow.upsertConnection connection
  | none => Uow.upsertConnection connection

/-- Disables Business-side effects until a fresh connection update restores it. -/
def disableBusinessConnection (connectionId : String) (now : DateTime) : Uow Unit := do
  let affected ← Uow.updateConnection (fun c => c.connectionId = connectionId)
    (fun c => { c with
      enabled := false
      stateRevision := c.stateRevision + 1
      updatedAt := now })
    ⟨fun _ => rfl, fun _ => rfl⟩
  updateOne affected

end ChatHygiene
