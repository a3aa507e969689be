import ChatHygiene.Processing.Models
/-!
# Recorded events

A `processed_update` row: the event as it was recorded, and whether its
effects have been applied.
-/

namespace ChatHygiene

inductive EventType where
  | businessConnectionChanged
  | lifecycle
  | ownerClaim
  | ownerStart
  | ownerCommand
  deriving DecidableEq, Repr

structure PreparedEvent where
  updateId : Int
  eventType : EventType
  occurredAt : DateTime
  facts : LifecycleFacts
  deriving DecidableEq, Repr

inductive UpdateStatus where
  | recorded
  | applied
  | failed
  deriving DecidableEq, Repr

/-- A row of `processed_update`. The redacted rows of owner updates carry no event. -/
structure ProcessedUpdate where
  updateId : Int
  eventType : EventType
  event : Option PreparedEvent
  status : UpdateStatus
  receivedAt : DateTime
  appliedAt : Option DateTime
  deriving DecidableEq, Repr

inductive RecordReceipt where
  | recorded
  | duplicateRecorded
  | duplicateApplied
  deriving DecidableEq, Repr

inductive ApplyReceipt where
  | applied
  | alreadyApplied
  deriving DecidableEq, Repr

/-- A recorded connection trigger: an ignored event of type `business_connection_changed`, which
reconciliation applies and event recovery skips. -/
def PreparedEvent.isTrigger (event : PreparedEvent) : Bool :=
  event.eventType = .businessConnectionChanged && event.facts.action = .ignore

end ChatHygiene
