import ChatHygiene.Storage.Repositories
/-!
# The Owner singleton

The installation has one Owner row. It starts pending, is initialised once at
startup, is claimed at most once, and from then on only its delivery chat and
its connection floor move.
-/

namespace ChatHygiene

open Txn (read)

def loadOwnerLifecycleState : Uow OwnerLifecycleState := read fun db => db.ownerIdentity

/-- Loads a strictly initialized Owner identity. -/
def loadOwnerIdentity : Uow OwnerIdentity := do
  match ← loadOwnerLifecycleState with
  | .pending => throw (.invalidOwnerIdentity "owner identity is pending initialization")
  | .ready identity => pure identity

/-- Initializes the Owner singleton after legacy event recovery, or strictly loads the already
initialized identity. -/
def initializeOrLoadOwnerIdentity (initializedAt : DateTime) : Uow OwnerIdentity := do
  match ← loadOwnerLifecycleState with
  | .ready identity => pure identity
  | .pending =>
    let connections ← read fun db => db.businessConnection.rows.map (·.ownerUserId)
    match connections with
    | [] =>
      let affected ← Uow.updateOwner (· = .pending) fun _ => .ready .unclaimed
      if affected ≠ 1 then throw .concurrentModification
      loadOwnerIdentity
    | [ownerUserId] =>
      if 0 < ownerUserId then
        let affected ← Uow.updateOwner (· = .pending) fun _ =>
          .ready (.claimed ownerUserId ownerUserId .legacyFallback none initializedAt)
        if affected ≠ 1 then throw .concurrentModification
        loadOwnerIdentity
      else throw (.invalidOwnerIdentity "legacy connection owner id must be positive")
    | _ => throw (.invalidOwnerIdentity "multiple legacy business connections")

/-- Atomically binds an unclaimed installation to one immutable Owner. -/
def claimOwner (ownerUserId ownerChatId connectionFloorEstablishedAt : Int)
    (boundAt : DateTime) : Uow OwnerIdentity := do
  if ownerUserId ≤ 0 ∨ ownerChatId ≤ 0 ∨ connectionFloorEstablishedAt ≤ 0 then
    throw (.invalidOwnerIdentity "claim identifiers and connection floor must be positive")
  match ← loadOwnerLifecycleState with
  | .pending => throw (.invalidOwnerIdentity "owner identity is pending initialization")
  | .ready (.claimed ..) => throw .ownerAlreadyClaimed
  | .ready .unclaimed =>
    let affected ← Uow.updateOwner (· = .ready .unclaimed) fun _ =>
      .ready (.claimed ownerUserId ownerChatId .claim (some connectionFloorEstablishedAt) boundAt)
    if affected ≠ 1 then throw .concurrentModification
    loadOwnerIdentity

/-- Promotes only a legacy fallback delivery chat to authoritative metadata. -/
def promoteOwnerChat (ownerUserId ownerChatId : Int) (source : OwnerChatSource) :
    Uow OwnerIdentity := do
  if ownerUserId ≤ 0 ∨ ownerChatId ≤ 0 then
    throw (.invalidOwnerIdentity "owner user and chat ids must be positive")
  if source ≠ .businessConnection ∧ source ≠ .privateMessage then
    throw (.invalidOwnerIdentity "owner chat promotion source must be authoritative")
  let identity ← loadOwnerIdentity
  match identity with
  | .unclaimed => throw (.invalidOwnerIdentity "owner chat promotion requires a claimed owner")
  | .claimed storedUserId _ ownerChatSource floor boundAt =>
    if storedUserId ≠ ownerUserId then throw .ownerChatMismatch
    if ownerChatSource ≠ .legacyFallback then pure identity
    else
      let affected ← Uow.updateOwner (· = .ready identity) fun _ =>
        .ready (.claimed storedUserId ownerChatId source floor boundAt)
      if affected ≠ 1 then throw .concurrentModification
      loadOwnerIdentity

/-- `CASE WHEN floor IS NULL OR floor < ? THEN ? ELSE floor END`. -/
def raiseFloor (floor : Option Int) (established : Int) : Option Int :=
  match floor with
  | none => some established
  | some current => if current < established then some established else some current

/-- The Owner row with its floor raised. -/
def OwnerLifecycleState.raiseFloor (established : Int) : OwnerLifecycleState → OwnerLifecycleState
  | .ready (.claimed user chat source floor boundAt) =>
    .ready (.claimed user chat source (ChatHygiene.raiseFloor floor established) boundAt)
  | state => state

def OwnerLifecycleState.isClaimed : OwnerLifecycleState → Bool
  | .ready (.claimed ..) => true
  | _ => false

/-- Advances the claimed Owner's monotonic connection-generation floor. -/
def advanceOwnerConnectionFloor (retiredGenerationFloor : Int) : Uow OwnerIdentity := do
  if retiredGenerationFloor ≤ 0 then
    throw (.invalidOwnerIdentity "connection floor must be positive")
  match ← loadOwnerIdentity with
  | .unclaimed => throw (.invalidOwnerIdentity "connection floor requires a claimed owner")
  | .claimed .. =>
    let affected ← Uow.updateOwner OwnerLifecycleState.isClaimed
      (OwnerLifecycleState.raiseFloor retiredGenerationFloor)
    if affected ≠ 1 then throw .concurrentModification
    loadOwnerIdentity

end ChatHygiene
