import ChatHygiene.Storage.OwnerIdentity
/-!
# Connection candidates and reconciliation

Authoritative snapshots of a connection, fetched from Telegram, are written
through captured revisions. A candidate is an untrusted snapshot; the trusted
connection is the one row of `business_connection`. A generation is the
instant a connection was established, and a retired, superseded or ambiguous
generation leaves its mark on a floor: the Owner's, the trusted row's, a
candidate's or the overflow guard's.
-/

namespace ChatHygiene

open Txn (read)

structure ConnectionReconciliationSnapshot where
  candidateRevision : Option Nat
  trustedConnectionId : Option String
  trustedRevision : Option Nat
  guardRevision : Nat
  deriving DecidableEq, Repr

inductive CandidateWrite where
  | inserted
  | reconciled
  | revisionConflict
  | userConflict
  | generationConflict
  deriving DecidableEq, Repr

inductive TrustedConnectionWrite where
  | installed
  | reconciled
  | replaced
  | ambiguous
  | revisionConflict
  | userConflict
  | generationConflict
  deriving DecidableEq, Repr

/-! ## Validation -/

/-- A character with the Unicode property `White_Space`, which `trim` removes. -/
def isWhiteSpace (c : Char) : Bool :=
  let n := c.toNat
  (9 ≤ n && n ≤ 13) || n = 32 || n = 0x85 || n = 0xA0 || n = 0x1680 ||
    (0x2000 ≤ n && n ≤ 0x200A) || n = 0x2028 || n = 0x2029 || n = 0x202F || n = 0x205F ||
    n = 0x3000

/-- `s.trim().is_empty()`. -/
def blank (s : String) : Bool := s.toList.all isWhiteSpace

def validateCandidate (candidate : BusinessConnectionCandidate) : Uow Unit := do
  if blank candidate.connectionId then
    throw (.invalidConnectionCandidate "connection id must not be empty")
  if candidate.businessUserId ≤ 0 then
    throw (.invalidConnectionCandidate "business user id must be positive")
  if candidate.userChatId.any (· ≤ 0) then
    throw (.invalidConnectionCandidate "user chat id must be positive")
  if candidate.connectionEstablishedAt ≤ 0 then
    throw (.invalidConnectionCandidate "connection establishment date must be positive")

/-! ## Candidates and the overflow guard -/

def loadCandidate (connectionId : String) : Uow (Option BusinessConnectionCandidate) :=
  read fun db => db.candidate.lookup connectionId

/-- Strictly loads the singleton candidate-overflow guard. -/
def loadCandidateGuard : Uow CandidateGuard := read fun db => db.guard

/-- Candidates in the order of a query on them. -/
def candidatesBy (p : BusinessConnectionCandidate → Bool)
    (le : BusinessConnectionCandidate → BusinessConnectionCandidate → Bool) :
    Uow (List BusinessConnectionCandidate) :=
  read fun db => (db.candidate.rows.filter p).insertionSort fun a b => le a b = true

/-- `ORDER BY connection_established_at, connection_id`. -/
def BusinessConnectionCandidate.olderEq (a b : BusinessConnectionCandidate) : Bool :=
  a.connectionEstablishedAt < b.connectionEstablishedAt ||
    (a.connectionEstablishedAt = b.connectionEstablishedAt &&
      !(decide (b.connectionId < a.connectionId)))

/-- Strictly loads every retained Business connection candidate. -/
def listConnectionCandidates : Uow (List BusinessConnectionCandidate) :=
  candidatesBy (fun _ => true) fun a b => !(decide (b.connectionId < a.connectionId))

/-- Loads every retained candidate for one Business user. -/
def candidatesForUser (businessUserId : Int) : Uow (List BusinessConnectionCandidate) := do
  if businessUserId ≤ 0 then
    throw (.invalidConnectionCandidate "business user id must be positive")
  candidatesBy (fun c => c.businessUserId = businessUserId) BusinessConnectionCandidate.olderEq

/-- Deletes one untrusted candidate by connection ID. -/
def deleteConnectionCandidate (connectionId : String) : Uow Nat :=
  Uow.deleteCandidate fun c => c.connectionId = connectionId

/-- Deletes every untrusted connection candidate. -/
def clearConnectionCandidates : Uow Nat := Uow.deleteCandidate fun _ => true

/-- Deletes candidates whose Business user differs from the supplied user. -/
def deleteConnectionCandidatesForOtherUsers (businessUserId : Int) : Uow Nat := do
  if businessUserId ≤ 0 then
    throw (.invalidConnectionCandidate "business user id must be positive")
  Uow.deleteCandidate fun c => c.businessUserId ≠ businessUserId

def deleteExactCandidate (candidate : BusinessConnectionCandidate) : Uow Unit := do
  let affected ← Uow.deleteCandidate fun c =>
    c.connectionId = candidate.connectionId && c.stateRevision = candidate.stateRevision
  updateOne affected

def updateOverflowGuard (establishment : Int) : Uow Unit := do
  let guard ← loadCandidateGuard
  let affected ← Uow.updateGuard (fun g => g.stateRevision = guard.stateRevision) fun g =>
    { overflowEstablishedAt := raiseFloor g.overflowEstablishedAt establishment
      stateRevision := g.stateRevision + 1 }
  updateOne affected

def advanceOverflowGuardIfActive (candidate : BusinessConnectionCandidate) : Uow Unit := do
  let guard ← loadCandidateGuard
  if guard.overflowEstablishedAt.isSome then
    updateOverflowGuard candidate.connectionEstablishedAt

/-- Applies the caller's retention cutoff and deterministic capacity limit. -/
def pruneConnectionCandidates (cutoff : DateTime) (maximumRows : Nat) : Uow Nat := do
  let expired ← Uow.deleteCandidate fun c => c.observedAt < cutoff
  let retained ← candidatesBy (fun _ => true) fun a b => b.olderEq a
  if retained.length ≤ maximumRows then pure expired
  else
    match (retained.map (·.connectionEstablishedAt)).max? with
    | none => throw (.invalidConnectionCandidate "candidate overflow set is empty")
    | some overflow =>
      updateOverflowGuard overflow
      let evictedIds := (retained.drop maximumRows).map (·.connectionId)
      -- the ids are distinct keys, so one deletion is the loop of single deletions
      let evicted ← Uow.deleteCandidate fun c => evictedIds.contains c.connectionId
      pure (expired + evicted)

/-- Inserts or revision-CAS refreshes one authoritative untrusted snapshot. -/
def applyAuthoritativeCandidate (candidate : BusinessConnectionCandidate)
    (expectedRevision : Option Nat) : Uow CandidateWrite := do
  validateCandidate candidate
  match ← loadCandidate candidate.connectionId with
  | none =>
    if expectedRevision.isSome then
      advanceOverflowGuardIfActive candidate
      pure .revisionConflict
    else
      Uow.insertCandidate { candidate with stateRevision := 0 }
      advanceOverflowGuardIfActive candidate
      pure .inserted
  | some existing =>
    if existing.businessUserId ≠ candidate.businessUserId then
      advanceOverflowGuardIfActive candidate
      deleteExactCandidate existing
      pure .userConflict
    else if existing.connectionEstablishedAt ≠ candidate.connectionEstablishedAt then
      advanceOverflowGuardIfActive candidate
      deleteExactCandidate existing
      pure .generationConflict
    else if expectedRevision ≠ some existing.stateRevision then
      advanceOverflowGuardIfActive candidate
      pure .revisionConflict
    else
      let affected ← Uow.updateCandidate
        (fun c => c.connectionId = candidate.connectionId &&
          c.stateRevision = existing.stateRevision)
        (fun c => { c with
          userChatId := candidate.userChatId
          rights := candidate.rights
          enabled := candidate.enabled
          stateRevision := c.stateRevision + 1
          observedAt := candidate.observedAt })
        fun _ => rfl
      if affected ≠ 1 then pure .revisionConflict
      else
        advanceOverflowGuardIfActive candidate
        pure .reconciled

end ChatHygiene
