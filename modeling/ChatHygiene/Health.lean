import ChatHygiene.Storage.Reconciliation
/-!
# Readiness

Readiness classifies one snapshot of the stored state. Business effects leave
the outbox only while it does not fail.
-/

namespace ChatHygiene

open Txn (read)

inductive OwnerHealth where
  | claimed
  | unclaimed
  deriving DecidableEq, Repr

inductive ConnectionHealth where
  | missing
  | candidate
  | enabled
  | disabled
  | rightsIncomplete
  | ambiguous
  deriving DecidableEq, Repr

def ConnectionHealth.asStr : ConnectionHealth → String
  | .missing => "missing"
  | .candidate => "candidate"
  | .enabled => "enabled"
  | .disabled => "disabled"
  | .rightsIncomplete => "rights_incomplete"
  | .ambiguous => "ambiguous"

structure HealthSnapshot where
  owner : OwnerHealth
  connection : ConnectionHealth
  deriving DecidableEq, Repr

/-- `CANDIDATE_RETENTION`. -/
def candidateRetention : Int := DateTime.days 7

def unavailable : Error := .invalidTelegramReconciliationState "readiness is unavailable"

/-- What the candidates say of a missing connection. -/
def candidateHealth (guard : CandidateGuard) (retained : List BusinessConnectionCandidate) :
    ConnectionHealth :=
  if guard.overflowEstablishedAt.isSome ∨ 1 < retained.length then .ambiguous
  else if retained.length = 1 then .candidate
  else .missing

/-- Classifies readiness in the current transaction. -/
def classifyReadinessIn (now : DateTime) : Uow HealthSnapshot := do
  let global ← loadTelegramReconciliationState
  if global.state ≠ .ready then throw unavailable
  let owner ← loadOwnerIdentity
  let trusted ← loadSingleTrustedConnection
  let candidates ← listConnectionCandidates
  let guard ← loadCandidateGuard
  let cutoff := now - candidateRetention
  let retained := candidates.filter fun c => cutoff ≤ c.observedAt
  match owner, trusted with
  | .unclaimed, some _ => throw unavailable
  | .unclaimed, none => pure ⟨.unclaimed, candidateHealth guard retained⟩
  | .claimed ownerUserId _ _ _ _, some trusted =>
    if trusted.ownerUserId ≠ ownerUserId ∨ trusted.reconciliationState ≠ .confirmed ∨
        retained ≠ [] ∨ guard.overflowEstablishedAt.isSome then
      throw unavailable
    else if !trusted.enabled then pure ⟨.claimed, .disabled⟩
    else if trusted.rights.complete then pure ⟨.claimed, .enabled⟩
    else pure ⟨.claimed, .rightsIncomplete⟩
  | .claimed ownerUserId _ _ _ _, none =>
    if retained.any fun c => c.businessUserId ≠ ownerUserId then throw unavailable
    else pure ⟨.claimed, candidateHealth guard retained⟩

/-- The readiness of the current transaction, if classification does not fail. -/
def readinessIn (now : DateTime) : Uow (Option HealthSnapshot) := fun db =>
  match classifyReadinessIn now db with
  | .ok (snapshot, _) => .ok (some snapshot, db)
  | .error _ => .ok (none, db)

end ChatHygiene
