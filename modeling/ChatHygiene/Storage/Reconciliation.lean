import ChatHygiene.Storage.ConnectionCandidate
/-!
# Trusted-connection reconciliation

The writers of the trusted connection: the authoritative reconciliation with
its four endings (install, refresh, replace, ambiguity), the retirement after
a not-found answer, the gates, and the global state that startup closes and a
drained trigger queue opens again.
-/

namespace ChatHygiene

open Txn (read)

def BusinessConnectionRecord.atRevision (connection : BusinessConnectionRecord)
    (c : BusinessConnectionRecord) : Bool :=
  c.connectionId = connection.connectionId && c.stateRevision = connection.stateRevision

/-- Captures the strict revisions needed around one external authoritative lookup. -/
def connectionReconciliationSnapshot (connectionId : String) :
    Uow ConnectionReconciliationSnapshot := do
  if blank connectionId then
    throw (.invalidConnectionCandidate "connection id must not be empty")
  let candidate ← loadCandidate connectionId
  let trusted ← loadSingleTrustedConnection
  let guard ← loadCandidateGuard
  pure
    { candidateRevision := candidate.map (·.stateRevision)
      trustedConnectionId := trusted.map (·.connectionId)
      trustedRevision := trusted.map (·.stateRevision)
      guardRevision := guard.stateRevision }

/-- The generations other connections have left behind. -/
def generationFloorExcluding (excludedConnectionId : String) : Uow (Option Int) := do
  let ownerFloor := match ← loadOwnerIdentity with
    | .claimed _ _ _ floor _ => floor
    | .unclaimed => none
  let trustedFloor ← read fun db =>
    ((db.businessConnection.rows.filter fun c => c.connectionId ≠ excludedConnectionId).filterMap
      (·.connectionEstablishedAt)).max?
  let candidateFloor ← read fun db =>
    ((db.candidate.rows.filter fun c => c.connectionId ≠ excludedConnectionId).map
      (·.connectionEstablishedAt)).max?
  let overflow := (← loadCandidateGuard).overflowEstablishedAt
  pure ([ownerFloor, trustedFloor, candidateFloor, overflow].filterMap id).max?

def installTrusted (authoritative : BusinessConnectionCandidate) (stateRevision : Nat) :
    Uow Unit :=
  upsertBusinessConnection
    { connectionId := authoritative.connectionId
      ownerUserId := authoritative.businessUserId
      rights := authoritative.rights
      enabled := authoritative.enabled
      connectionEstablishedAt := some authoritative.connectionEstablishedAt
      stateRevision := stateRevision
      reconciliationState := .confirmed
      updatedAt := authoritative.observedAt }

/-- The columns that closing a connection's gate sets. -/
def BusinessConnectionRecord.gated (disable : Bool) (now : DateTime)
    (c : BusinessConnectionRecord) : BusinessConnectionRecord :=
  { c with
    enabled := c.enabled && !disable
    reconciliationState := .pending
    stateRevision := c.stateRevision + 1
    updatedAt := now }

theorem BusinessConnectionRecord.gated_change (disable : Bool) (now : DateTime) :
    Tables.ConnectionChange (BusinessConnectionRecord.gated disable now) :=
  ⟨fun _ => rfl, fun _ => rfl⟩

def gateConflictingTrusted (trusted : BusinessConnectionRecord) (observedAt : DateTime) :
    Uow Unit := do
  let affected ← Uow.updateConnection trusted.atRevision
    (BusinessConnectionRecord.gated true observedAt)
    (BusinessConnectionRecord.gated_change ..)
  updateOne affected

/-- A stale response may still take rights away: what both sides grant is kept. -/
def applySafetyIntersection (trusted : BusinessConnectionRecord)
    (authoritative : BusinessConnectionCandidate) : Uow Unit := do
  let intersection := trusted.rights.inter authoritative.rights
  let enabled := trusted.enabled && authoritative.enabled
  if enabled = trusted.enabled ∧ intersection = trusted.rights then pure ()
  else
    let affected ← Uow.updateConnection trusted.atRevision
      (fun c => { c with
        enabled := enabled
        rights := intersection
        stateRevision := c.stateRevision + 1
        updatedAt := authoritative.observedAt })
      ⟨fun _ => rfl, fun _ => rfl⟩
    updateOne affected

def reconcileSameTrusted (trusted : BusinessConnectionRecord)
    (authoritative : BusinessConnectionCandidate) (expectedTrustedRevision : Option Nat) :
    Uow TrustedConnectionWrite := do
  if expectedTrustedRevision ≠ some trusted.stateRevision then
    applySafetyIntersection trusted authoritative
    pure .revisionConflict
  else if trusted.ownerUserId ≠ authoritative.businessUserId then
    gateConflictingTrusted trusted authoritative.observedAt
    pure .userConflict
  else if trusted.connectionEstablishedAt.any (· ≠ authoritative.connectionEstablishedAt) then
    gateConflictingTrusted trusted authoritative.observedAt
    pure .generationConflict
  else
    -- `owner_user_id` is set to the business user it was just compared with
    let affected ← Uow.updateConnection trusted.atRevision
      (fun c => { c with
        rights := authoritative.rights
        enabled := authoritative.enabled
        connectionEstablishedAt := some authoritative.connectionEstablishedAt
        stateRevision := c.stateRevision + 1
        reconciliationState := .confirmed
        updatedAt := authoritative.observedAt })
      ⟨fun _ => rfl, fun _ => rfl⟩
    if affected ≠ 1 then pure .revisionConflict
    else
      let _ ← deleteConnectionCandidate authoritative.connectionId
      pure .reconciled

/-- Two connections of one generation: neither is trusted, both become candidates, and their
generation becomes the Owner's floor. -/
def retainAmbiguousGenerations (trusted : BusinessConnectionRecord)
    (authoritative : BusinessConnectionCandidate) (ownerChatId : Int) : Uow Unit := do
  let establishedAt := authoritative.connectionEstablishedAt
  let affected ← Uow.deleteConnection trusted.atRevision
  updateOne affected
  Uow.upsertCandidate
    { connectionId := trusted.connectionId
      businessUserId := trusted.ownerUserId
      userChatId := some ownerChatId
      rights := trusted.rights
      enabled := trusted.enabled
      connectionEstablishedAt := establishedAt
      stateRevision := 0
      observedAt := authoritative.observedAt }
  Uow.upsertCandidate { authoritative with stateRevision := 0 }
  let _ ← advanceOwnerConnectionFloor establishedAt
  advanceOverflowGuardIfActive authoritative

/-- The revision of an installed connection: past the candidate it replaces. -/
def installRevision (expectedCandidateRevision : Option Nat) : Nat :=
  match expectedCandidateRevision with
  | none => 0
  | some revision => revision + 1

/-- Applies one authoritative response to the trusted connection through captured revisions. -/
def reconcileAuthoritativeTrustedConnection (authoritative : BusinessConnectionCandidate)
    (expectedTrustedRevision expectedCandidateRevision : Option Nat)
    (expectedGuardRevision : Nat) : Uow TrustedConnectionWrite := do
  validateCandidate authoritative
  let guard ← loadCandidateGuard
  if guard.stateRevision ≠ expectedGuardRevision then pure .revisionConflict else
  let retainedCandidate ← loadCandidate authoritative.connectionId
  if retainedCandidate.map (·.stateRevision) ≠ expectedCandidateRevision then
    pure .revisionConflict else
  match ← loadOwnerIdentity with
  | .unclaimed => pure .userConflict
  | .claimed ownerUserId ownerChatId _ _ _ =>
    if ownerUserId ≠ authoritative.businessUserId then pure .userConflict else
    match ← loadSingleTrustedConnection with
    | none =>
      if expectedTrustedRevision.isSome then pure .revisionConflict else
      let floor ← generationFloorExcluding authoritative.connectionId
      if floor.any (authoritative.connectionEstablishedAt ≤ ·) then pure .generationConflict
      else
        installTrusted authoritative (installRevision expectedCandidateRevision)
        let _ ← deleteConnectionCandidate authoritative.connectionId
        pure .installed
    | some trusted =>
      if trusted.connectionId = authoritative.connectionId then
        reconcileSameTrusted trusted authoritative expectedTrustedRevision
      else if expectedTrustedRevision ≠ some trusted.stateRevision then pure .revisionConflict
      else if trusted.ownerUserId ≠ authoritative.businessUserId then pure .userConflict
      else
        match trusted.connectionEstablishedAt with
        | none => pure .generationConflict
        | some trustedEstablishedAt =>
          if authoritative.connectionEstablishedAt = trustedEstablishedAt then
            retainAmbiguousGenerations trusted authoritative ownerChatId
            pure .ambiguous
          else
            let floor ← generationFloorExcluding authoritative.connectionId
            if authoritative.connectionEstablishedAt < trustedEstablishedAt ∨
                floor.any (authoritative.connectionEstablishedAt ≤ ·) then
              pure .generationConflict
            else
              installTrusted authoritative (installRevision expectedCandidateRevision)
              let _ ← deleteConnectionCandidate authoritative.connectionId
              pure .replaced

/-- Promotes one exact, freshly refreshed pre-claim candidate for the newly bound Owner without
treating the claim-time generation floor as a later reconnect floor. -/
def promoteClaimCandidate (authoritative : BusinessConnectionCandidate)
    (expectedCandidateRevision expectedGuardRevision : Nat) : Uow TrustedConnectionWrite := do
  validateCandidate authoritative
  let guard ← loadCandidateGuard
  if guard.stateRevision ≠ expectedGuardRevision ∨ guard.overflowEstablishedAt.isSome then
    pure .revisionConflict else
  match ← loadOwnerIdentity with
  | .unclaimed => pure .userConflict
  | .claimed ownerUserId _ _ _ _ =>
    if ownerUserId ≠ authoritative.businessUserId then pure .userConflict else
    match ← loadSingleTrustedConnection with
    | some _ => pure .revisionConflict
    | none =>
      match ← loadCandidate authoritative.connectionId with
      | none => pure .revisionConflict
      | some candidate =>
        if candidate.stateRevision ≠ expectedCandidateRevision then pure .revisionConflict
        else if candidate.businessUserId ≠ authoritative.businessUserId then pure .userConflict
        else if candidate.connectionEstablishedAt ≠ authoritative.connectionEstablishedAt then
          pure .generationConflict
        else
          installTrusted authoritative (expectedCandidateRevision + 1)
          let _ ← deleteConnectionCandidate authoritative.connectionId
          pure .installed

/-- Retires an exact trusted connection after an authoritative not-found result. -/
def retireTrustedConnectionNotFound (connectionId : String) (expectedRevision : Nat) :
    Uow TrustedConnectionWrite := do
  match ← loadBusinessConnectionForReconciliation connectionId with
  | none =>
    let _ ← deleteConnectionCandidate connectionId
    pure .reconciled
  | some trusted =>
    if trusted.stateRevision ≠ expectedRevision then pure .revisionConflict else
    match ← loadOwnerIdentity with
    | .unclaimed => pure .userConflict
    | .claimed ownerUserId _ _ connectionFloorEstablishedAt boundAt =>
      if ownerUserId ≠ trusted.ownerUserId then pure .userConflict else
      let retiredFloor :=
        match trusted.connectionEstablishedAt with
        | some establishedAt => establishedAt
        | none => max boundAt.timestamp 1
      let retiredFloor :=
        match connectionFloorEstablishedAt with
        | none => retiredFloor
        | some floor => max floor retiredFloor
      let _ ← advanceOwnerConnectionFloor retiredFloor
      let affected ← Uow.deleteConnection fun c =>
        c.connectionId = connectionId && c.stateRevision = expectedRevision
      if affected ≠ 1 then pure .revisionConflict else pure .reconciled

/-! ## The gates -/

/-- Gates only the trusted row matching a lifecycle trigger ID. -/
def gateMatchingTrustedForReconciliation (connectionId : String) (now : DateTime) :
    Uow (Option Nat) := do
  match ← loadBusinessConnectionForReconciliation connectionId with
  | none => pure none
  | some current =>
    if current.reconciliationState = .pending then pure (some current.stateRevision)
    else
      let affected ← Uow.updateConnection
        (fun c => current.atRevision c && c.reconciliationState = .confirmed)
        (BusinessConnectionRecord.gated false now) (BusinessConnectionRecord.gated_change ..)
      updateOne affected
      pure (some (current.stateRevision + 1))

/-- The invalid-state message a failed trusted load is replaced by. -/
def requireSingleTrusted : Uow (Option BusinessConnectionRecord) :=
  fun db => match loadSingleTrustedConnection db with
    | .ok r => .ok r
    | .error _ =>
      .error (.invalidTelegramReconciliationState "trusted connection state is invalid")

/-- A change of the global state, which moves its revision. -/
def TelegramReconciliationState.move (state : GlobalReconciliationState) (now : DateTime)
    (g : TelegramReconciliationState) : TelegramReconciliationState where
  state := state
  stateRevision := g.stateRevision + 1
  updatedAt := now

/-- Idempotently enters the startup `PENDING` gate and gates trusted state. -/
def normalizeStartupReconciliation (now : DateTime) : Uow TelegramReconciliationState := do
  let global ← loadTelegramReconciliationState
  let _ ← requireSingleTrusted
  if global.state ≠ .pending then
    let affected ← Uow.updateReconciliation
      (fun g => g.stateRevision = global.stateRevision && g.state = global.state)
      (TelegramReconciliationState.move .pending now)
    updateOne affected
  let affected ← Uow.updateConnection (fun c => c.reconciliationState = .confirmed)
    (BusinessConnectionRecord.gated false now) (BusinessConnectionRecord.gated_change ..)
  if 1 < affected then
    throw (.invalidTelegramReconciliationState "multiple trusted connections are not supported")
  loadTelegramReconciliationState

/-- Persists a Business API authentication failure and disables trusted state. -/
def setTelegramAuthFailed (now : DateTime) : Uow TelegramReconciliationState := do
  let global ← loadTelegramReconciliationState
  let _ ← requireSingleTrusted
  if global.state ≠ .authFailed then
    let affected ← Uow.updateReconciliation
      (fun g => g.stateRevision = global.stateRevision)
      (TelegramReconciliationState.move .authFailed now)
    updateOne affected
  let _ ← Uow.updateConnection
    (fun c => c.enabled || c.reconciliationState ≠ .pending)
    (BusinessConnectionRecord.gated true now) (BusinessConnectionRecord.gated_change ..)
  loadTelegramReconciliationState

/-- CAS-transitions a fully reconciled global gate from `PENDING` to `READY`. -/
def transitionTelegramReconciliationReady (expectedRevision : Nat) (now : DateTime) :
    Uow TelegramReconciliationState := do
  let global ← loadTelegramReconciliationState
  if global.state ≠ .pending ∨ global.stateRevision ≠ expectedRevision then
    throw .concurrentModification
  let trusted ← requireSingleTrusted
  if trusted.any fun c => c.reconciliationState ≠ .confirmed then
    throw (.invalidTelegramReconciliationState "trusted connection reconciliation is pending")
  let affected ← Uow.updateReconciliation
    (fun g => g.state = .pending && g.stateRevision = expectedRevision)
    (TelegramReconciliationState.move .ready now)
  updateOne affected
  loadTelegramReconciliationState

end ChatHygiene
