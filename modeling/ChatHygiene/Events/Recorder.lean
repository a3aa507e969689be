import ChatHygiene.Processing.Handler
/-!
# Recording, applying and recovering events

An update is first recorded, with the facts preparation froze, then applied
and marked applied in one transaction. What an interrupted worker left
recorded is replayed at startup in update order, one transaction an event.
-/

namespace ChatHygiene

open Txn (read)

/-- `MAX_FACT_STRING_LENGTH`. -/
def maxFactStringLength : Nat := 512

/-- The strings of a list of facts, each at its path. -/
def indexedStrings (path : String) (values : List String) : List (String × String) :=
  values.zipIdx.map fun v => (s!"{path}[{v.2}]", v.1)

def optionalString (path : String) : Option String → List (String × String)
  | none => []
  | some value => [(path, value)]

/-- The strings of the recorded action, in the order of its keys. -/
def PreparedAction.strings : PreparedAction → List (String × String)
  | .inbound detection outcome _ =>
    [("facts.action.detection.detector_name", detection.detectorName),
      ("facts.action.detection.detector_version", detection.detectorVersion)] ++
    optionalString "facts.action.detection.error" detection.error ++
    indexedStrings "facts.action.detection.matched_rules" detection.matchedRules ++
    [("facts.action.detection.normalized_hash", detection.normalizedHash)] ++
    indexedStrings "facts.action.detection.reasons" detection.reasons ++
    (match outcome with
      | .startChallenge expression answerHmac _ _ _ _ =>
        [("facts.action.outcome.answer_hmac", answerHmac),
          ("facts.action.outcome.expression", expression)]
      | _ => [])
  | _ => []

/-- The strings of the facts that can be long, in the order of their keys. -/
def LifecycleFacts.strings (facts : LifecycleFacts) : List (String × String) :=
  facts.action.strings ++
  optionalString "facts.connection_id" facts.connectionId ++
  optionalString "facts.contact_display_name" facts.contactDisplayName ++
  optionalString "facts.contact_username" facts.contactUsername ++
  optionalString "facts.media_group_id" facts.mediaGroupId

/-- Facts are refused when one of their strings is too long. None of their keys is a forbidden
one. -/
def validateFacts (facts : LifecycleFacts) : Uow Unit :=
  match facts.strings.find? fun s => maxFactStringLength < s.2.length with
  | some (path, _) =>
    throw (.unsafeFacts s!"string at {path} exceeds {maxFactStringLength} characters")
  | none => pure ()

/-- The connection a trigger names. -/
def connectionTriggerId (event : PreparedEvent) : Uow (Option String) :=
  if !event.isTrigger then pure none
  else
    match event.facts.connectionId.filter (!blank ·) with
    | some connectionId => pure (some connectionId)
    | none => throw (.application "connection trigger ID is invalid")

/-- Persists a body-free derived event before any state changes are applied. -/
def recordPreparedEvent (event : PreparedEvent) : Uow RecordReceipt := do
  validateFacts event.facts
  let connectionTrigger ← connectionTriggerId event
  let inserted ← Uow.insertOrIgnoreUpdate
    { updateId := event.updateId
      eventType := event.eventType
      event := some event
      status := .recorded
      receivedAt := event.occurredAt
      appliedAt := none }
  if inserted then
    match connectionTrigger with
    | some connectionId =>
      let _ ← gateMatchingTrustedForReconciliation connectionId event.occurredAt
      pure .recorded
    | none => pure .recorded
  else
    let status : Option UpdateStatus ←
      read fun db => (db.processedUpdate.lookup event.updateId).map (·.status)
    match status with
    | none => throw (.missingUpdate event.updateId)
    | some .recorded => pure .duplicateRecorded
    | some .applied => pure .duplicateApplied
    | some .failed => throw (.invalidStatus "FAILED")

/-- Marks a recorded update applied. -/
def markApplied (updateId : Int) (now : DateTime) : Uow Nat :=
  Uow.updateUpdate (fun u => u.updateId = updateId && u.status = .recorded)
    (fun u => { u with status := .applied, appliedAt := some now }) fun _ => rfl

/-- Applies one recorded event and marks it applied in the same transaction. -/
def applyRecordedEvent (updateId : Int) (now : DateTime) : Uow ApplyReceipt := do
  match ← read fun db => db.processedUpdate.lookup updateId with
  | none => throw (.missingUpdate updateId)
  | some row =>
    match row.status with
    | .applied => pure .alreadyApplied
    | .failed => throw (.invalidStatus "FAILED")
    | .recorded =>
      match row.event with
      | none => throw (.invalidEvent "recorded event cannot be decoded")
      | some event =>
        LifecycleHandler.apply event
        let affected ← markApplied updateId now
        if affected ≠ 1 then throw (.invalidStatus "changed during application")
        pure .applied

/-! ## Recovery -/

/-- `status = 'RECORDED' ORDER BY update_id`. -/
def recordedUpdates (db : Database) : List ProcessedUpdate :=
  (db.processedUpdate.rows.filter fun u => u.status = .recorded).insertionSort
    fun u v => u.updateId ≤ v.updateId

/-- `is_authoritative_connection_trigger`: recovery leaves these to reconciliation. -/
def ProcessedUpdate.isTrigger (u : ProcessedUpdate) : Bool :=
  u.eventType = .businessConnectionChanged && u.event.any fun e => e.facts.action = .ignore

/-- Applies listed events in turn, each in its own transaction and at its own instant, up to the first
that fails. -/
def recoverEvents (now : Int → DateTime) :
    List ProcessedUpdate → Database → Database × Except Error Nat
  | [], db => (db, .ok 0)
  | u :: us, db =>
    if u.isTrigger then recoverEvents now us db
    else
      match Txn.commit (applyRecordedEvent u.updateId (now u.updateId)) db with
      | (db', .error error) => (db', .error error)
      | (db', .ok receipt) =>
        let (db'', recovered) := recoverEvents now us db'
        (db'', recovered.map (· + if receipt = .applied then 1 else 0))

/-- Replays every event left recorded by an interrupted worker in update order. -/
def recoverRecordedEvents (now : Int → DateTime) (db : Database) : Database × Except Error Nat :=
  recoverEvents now (recordedUpdates db) db

end ChatHygiene
