import ChatHygiene.Storage.Database
/-!
# SQL statements

The writes of the program, table by table, each with the proof that it keeps
the constraints. An `UPDATE` is a condition and a change of columns; it
returns the number of rows affected, as the driver does.
-/

namespace ChatHygiene

namespace Tables

/-! ## Conversations -/

def insertConversation (c : Conversation) (t : Tables) : Except Error (Unit × Tables) :=
  if h : t.conversation.lookup c.key = none then
    if t.businessConnection.contains c.key.connectionId then
      .ok ((), { t with conversation := t.conversation.insert c h })
    else .error (.sqlite .foreignKey)
  else .error (.sqlite .unique)

def updateConversation (p : Conversation → Bool) (f : Conversation → Conversation)
    (hf : ∀ c, (f c).key = c.key) (t : Tables) : Except Error (Nat × Tables) :=
  .ok (t.conversation.affected p, { t with conversation := t.conversation.update p f hf })

/-! ## The message ledger -/

/-- `INSERT OR IGNORE`: an existing message is left as it is. -/
def insertLedger (m : LedgerMessage) (t : Tables) : Except Error (Bool × Tables) :=
  if h : t.messageLedger.lookup m.pk = none then
    if t.conversation.contains m.key then
      .ok (true, { t with messageLedger := t.messageLedger.insert m h })
    else .error (.sqlite .foreignKey)
  else .ok (false, t)

def updateLedger (p : LedgerMessage → Bool) (f : LedgerMessage → LedgerMessage)
    (hf : ∀ m, (f m).pk = m.pk) (t : Tables) : Except Error (Nat × Tables) :=
  .ok (t.messageLedger.affected p, { t with messageLedger := t.messageLedger.update p f hf })

def deleteLedger (p : LedgerMessage → Bool) (t : Tables) : Except Error (Nat × Tables) :=
  .ok (t.messageLedger.affected p, { t with messageLedger := t.messageLedger.delete p })

/-! ## Challenges -/

/-- The partial unique index `challenge_one_active_idx` admits another open challenge for the
key. -/
def noActiveChallenge (t : Tables) (key : ConversationKey) : Bool :=
  t.challenge.rows.all fun c => !(c.key = key && c.closedAt.isNone)

def insertChallenge (r : ChallengeRecord) (t : Tables) : Except Error (Nat × Tables) :=
  if r.attemptsUsed ≤ 3 ∧ r.maxAttempts = 3 then
    if t.conversation.contains r.key then
      if t.noActiveChallenge r.key then
        let row : ChallengeRow := ⟨{ r with id := t.challengeSeq + 1 }, none⟩
        if h : t.challenge.lookup row.pk = none then
          .ok (row.id, { t with
            challenge := t.challenge.insert row h
            challengeSeq := t.challengeSeq + 1 })
        else .error (.sqlite .unique)
      else .error (.sqlite .unique)
    else .error (.sqlite .foreignKey)
  else .error (.sqlite .check)

/-- What a change of challenge columns keeps: the identity, a closed challenge closed, and the
`CHECK` on the attempts. -/
structure ChallengeChange (p : ChallengeRow → Bool) (f : ChallengeRow → ChallengeRow) : Prop where
  id : ∀ c, (f c).id = c.id
  key : ∀ c, (f c).key = c.key
  closed : ∀ c, (f c).closedAt = none → c.closedAt = none
  attempts : ∀ c, p c → c.attemptsUsed ≤ 3 → c.maxAttempts = 3 →
    (f c).attemptsUsed ≤ 3 ∧ (f c).maxAttempts = 3

def updateChallenge (p : ChallengeRow → Bool) (f : ChallengeRow → ChallengeRow)
    (hf : ChallengeChange p f) (t : Tables) : Except Error (Nat × Tables) :=
  .ok (t.challenge.affected p, { t with challenge := t.challenge.update p f hf.id })

def deleteChallenge (p : ChallengeRow → Bool) (t : Tables) : Except Error (Nat × Tables) :=
  .ok (t.challenge.affected p, { t with challenge := t.challenge.delete p })

/-! ## Recorded updates -/

def insertUpdate (u : ProcessedUpdate) (t : Tables) : Except Error (Unit × Tables) :=
  if h : t.processedUpdate.lookup u.updateId = none then
    .ok ((), { t with processedUpdate := t.processedUpdate.insert u h })
  else .error (.sqlite .unique)

/-- `INSERT OR IGNORE`: a recorded update keeps its first facts. -/
def insertOrIgnoreUpdate (u : ProcessedUpdate) (t : Tables) : Except Error (Bool × Tables) :=
  if h : t.processedUpdate.lookup u.updateId = none then
    .ok (true, { t with processedUpdate := t.processedUpdate.insert u h })
  else .ok (false, t)

def updateUpdate (p : ProcessedUpdate → Bool) (f : ProcessedUpdate → ProcessedUpdate)
    (hf : ∀ u, (f u).updateId = u.updateId) (t : Tables) : Except Error (Nat × Tables) :=
  .ok (t.processedUpdate.affected p, { t with processedUpdate := t.processedUpdate.update p f hf })

/-- Deleting an update deletes its actions and detaches its audits. -/
def deleteUpdate (p : ProcessedUpdate → Bool) (t : Tables) : Except Error (Nat × Tables) :=
  let updates := t.processedUpdate.delete p
  .ok (t.processedUpdate.affected p, { t with
    processedUpdate := updates
    outboxAction := t.outboxAction.delete fun a => !updates.contains a.sourceUpdateId
    auditEvent := t.auditEvent.update (fun a => a.sourceUpdateId.any fun u => !updates.contains u)
      (fun a => { a with sourceUpdateId := none }) fun _ => rfl })

/-! ## Outbox actions -/

/-- `INSERT OR IGNORE`: an action whose idempotency key is taken is dropped. -/
def insertOutbox (a : NewOutboxAction) (t : Tables) : Except Error (Bool × Tables) :=
  if t.outboxAction.rows.any fun b => b.idempotencyKey = a.idempotencyKey then .ok (false, t)
  else if t.processedUpdate.contains a.sourceUpdateId then
    let row : OutboxActionRow :=
      { id := t.outboxSeq + 1
        sourceUpdateId := a.sourceUpdateId
        key := a.key
        payload := a.payload
        idempotencyKey := a.idempotencyKey
        status := .pending
        attempts := 0
        nextAttemptAt := none
        lastError := none
        createdAt := a.createdAt
        updatedAt := a.createdAt
        claimedAt := none }
    if h : t.outboxAction.lookup row.id = none then
      .ok (true, { t with
        outboxAction := t.outboxAction.insert row h
        outboxSeq := t.outboxSeq + 1 })
    else .error (.sqlite .unique)
  else .error (.sqlite .foreignKey)

/-- What a change of action columns keeps. -/
structure OutboxChange (f : OutboxActionRow → OutboxActionRow) : Prop where
  id : ∀ a, (f a).id = a.id
  sourceUpdateId : ∀ a, (f a).sourceUpdateId = a.sourceUpdateId
  key : ∀ a, (f a).key = a.key
  payload : ∀ a, (f a).payload = a.payload
  idempotencyKey : ∀ a, (f a).idempotencyKey = a.idempotencyKey

def updateOutbox (p : OutboxActionRow → Bool) (f : OutboxActionRow → OutboxActionRow)
    (hf : OutboxChange f) (t : Tables) : Except Error (Nat × Tables) :=
  .ok (t.outboxAction.affected p, { t with outboxAction := t.outboxAction.update p f hf.id })

def deleteOutbox (p : OutboxActionRow → Bool) (t : Tables) : Except Error (Nat × Tables) :=
  .ok (t.outboxAction.affected p, { t with outboxAction := t.outboxAction.delete p })

/-! ## Audits -/

def insertAudit (a : NewAuditEvent) (t : Tables) : Except Error (Nat × Tables) :=
  if a.score.all (· ≤ 100) then
    if a.sourceUpdateId.all t.processedUpdate.contains then
      let row : AuditEvent := { a with id := t.auditSeq + 1 }
      if h : t.auditEvent.lookup row.id = none then
        .ok (row.id, { t with
          auditEvent := t.auditEvent.insert row h
          auditSeq := t.auditSeq + 1 })
      else .error (.sqlite .unique)
    else .error (.sqlite .foreignKey)
  else .error (.sqlite .check)

def deleteAudit (p : AuditEvent → Bool) (t : Tables) : Except Error (Nat × Tables) :=
  .ok (t.auditEvent.affected p, { t with auditEvent := t.auditEvent.delete p })

/-! ## Connections -/

/-- `INSERT … ON CONFLICT(connection_id) DO UPDATE SET` every other column. -/
def upsertConnection (r : BusinessConnectionRecord) (t : Tables) : Except Error (Unit × Tables) :=
  if 0 < r.ownerUserId ∧ r.connectionEstablishedAt.all (0 < ·) then
    if t.businessConnection.rows.all fun c =>
        c.connectionId = r.connectionId || c.ownerUserId ≠ r.ownerUserId then
      if h : t.businessConnection.lookup r.connectionId = none then
        .ok ((), { t with businessConnection := t.businessConnection.insert r h })
      else
        .ok ((), { t with
          businessConnection := t.businessConnection.update (·.connectionId = r.connectionId)
            (fun c => { r with connectionId := c.connectionId }) fun _ => rfl })
    else .error (.sqlite .unique)
  else .error (.sqlite .check)

/-- What a change of connection columns keeps. -/
structure ConnectionChange (f : BusinessConnectionRecord → BusinessConnectionRecord) : Prop where
  connectionId : ∀ c, (f c).connectionId = c.connectionId
  ownerUserId : ∀ c, (f c).ownerUserId = c.ownerUserId

def updateConnection (p : BusinessConnectionRecord → Bool)
    (f : BusinessConnectionRecord → BusinessConnectionRecord) (hf : ConnectionChange f)
    (t : Tables) : Except Error (Nat × Tables) :=
  .ok (t.businessConnection.affected p, { t with
    businessConnection := t.businessConnection.update p f hf.connectionId })

/-- Deleting a connection deletes its conversations, and with them their messages and
challenges. -/
def deleteConnection (p : BusinessConnectionRecord → Bool) (t : Tables) :
    Except Error (Nat × Tables) :=
  let connections := t.businessConnection.delete p
  let conversations := t.conversation.delete fun c => !connections.contains c.key.connectionId
  .ok (t.businessConnection.affected p, { t with
    businessConnection := connections
    conversation := conversations
    messageLedger := t.messageLedger.delete fun m => !conversations.contains m.key
    challenge := t.challenge.delete fun c => !conversations.contains c.key })

/-! ## Candidates and the singletons -/

/-- The `CHECK`s of a candidate row. -/
def candidateCheck (c : BusinessConnectionCandidate) : Bool :=
  c.connectionId ≠ "" && 0 < c.businessUserId && c.userChatId.all (0 < ·) &&
    0 < c.connectionEstablishedAt

def insertCandidate (c : BusinessConnectionCandidate) (t : Tables) :
    Except Error (Unit × Tables) :=
  if candidateCheck c then
    if h : t.candidate.lookup c.connectionId = none then
      .ok ((), { t with candidate := t.candidate.insert c h })
    else .error (.sqlite .unique)
  else .error (.sqlite .check)

/-- `INSERT … ON CONFLICT(connection_id) DO UPDATE SET` every other column, with the stored
revision increased. -/
def upsertCandidate (c : BusinessConnectionCandidate) (t : Tables) :
    Except Error (Unit × Tables) :=
  if candidateCheck c then
    if h : t.candidate.lookup c.connectionId = none then
      .ok ((), { t with candidate := t.candidate.insert c h })
    else
      .ok ((), { t with
        candidate := t.candidate.update (·.connectionId = c.connectionId)
          (fun d => { c with connectionId := d.connectionId, stateRevision := d.stateRevision + 1 })
          fun _ => rfl })
  else .error (.sqlite .check)

def updateCandidate (p : BusinessConnectionCandidate → Bool)
    (f : BusinessConnectionCandidate → BusinessConnectionCandidate)
    (hf : ∀ c, (f c).connectionId = c.connectionId) (t : Tables) : Except Error (Nat × Tables) :=
  .ok (t.candidate.affected p, { t with candidate := t.candidate.update p f hf })

def deleteCandidate (p : BusinessConnectionCandidate → Bool) (t : Tables) :
    Except Error (Nat × Tables) :=
  .ok (t.candidate.affected p, { t with candidate := t.candidate.delete p })

def updateGuard (p : CandidateGuard → Bool) (f : CandidateGuard → CandidateGuard) (t : Tables) :
    Except Error (Nat × Tables) :=
  if p t.guard then .ok (1, { t with guard := f t.guard }) else .ok (0, t)

def updateReconciliation (p : TelegramReconciliationState → Bool)
    (f : TelegramReconciliationState → TelegramReconciliationState) (t : Tables) :
    Except Error (Nat × Tables) :=
  if p t.reconciliation then .ok (1, { t with reconciliation := f t.reconciliation })
  else .ok (0, t)

def updateOwner (p : OwnerLifecycleState → Bool)
    (f : OwnerLifecycleState → OwnerLifecycleState) (t : Tables) : Except Error (Nat × Tables) :=
  if p t.ownerIdentity then .ok (1, { t with ownerIdentity := f t.ownerIdentity }) else .ok (0, t)

/-- The upsert of the `runtime_setting` row `destructive_mode`. -/
def setDestructiveMode (value : Bool) (t : Tables) : Except Error (Unit × Tables) :=
  .ok ((), { t with destructiveMode := some value })

end Tables

end ChatHygiene
