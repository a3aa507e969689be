import ChatHygiene.Connection.Trust
/-!
# The binding in memory

Beside the Owner row the process holds two values: the identity it publishes to
the webhook, and, until the Owner is bound, the token a claim has to bring.
The published identity is set where a transaction that has seen it commits, the
token is derived when the workers start and dropped by the claim that binds;
neither outlives the process.
-/

namespace ChatHygiene

open Txn (Respects commit)

variable {db db' : Database} {updateId : Int}

/-! ## What a committed transaction publishes -/

/-- The identity an Owner command is authorised for. -/
def commandIdentity (updateId : Int) (snapshot : OwnerCommandSnapshot) (occurredAt : DateTime) :
    Uow (Option OwnerIdentity) := do
  insertRedactedUpdate updateId .ownerCommand occurredAt
  let owner ← authorize snapshot.source occurredAt
  pure (owner.map (·.identity))

/-- The identity `process_owner_command` publishes once it has committed. -/
def publishedByCommand (updateId : Int) (snapshot : OwnerCommandSnapshot) (occurredAt : DateTime)
    (default : Bool) (db : Database) : Option OwnerIdentity :=
  match db.processedUpdate.lookup updateId, commandIdentity updateId snapshot occurredAt db,
    processOwnerCommand updateId snapshot occurredAt default db with
  | none, .ok (identity, _), .ok _ => identity
  | _, _, _ => none

/-- The Owner's start is a command; another start publishes nothing. -/
def publishedByStart (updateId : Int) (snapshot : OwnerCommandSnapshot) (occurredAt : DateTime)
    (default : Bool) (db : Database) : Option OwnerIdentity :=
  match processOwnerStart updateId snapshot occurredAt default db, db.ownerIdentity with
  | .ok _, .ready owner =>
    if isOwnerStart (snapshot.fromUserId.getD 0) (snapshot.chatId.getD 0) owner then
      publishedByCommand updateId { snapshot with command := .ok .help } occurredAt default db
    else none
  | _, _ => none

/-- The identity a claim binds: `commit_owner_claim` up to the bind. -/
def claimedIdentity (claim : ValidOwnerClaim) (snapshot : OwnerClaimSnapshot)
    (serviceNow : DateTime) : Uow OwnerIdentity := do
  let guard ← loadCandidateGuard
  let candidates ← candidatesForUser claim.fromUserId
  let floor := claimGenerationFloor claim.messageDate snapshot guard candidates
  let _ ← pruneConnectionCandidates (serviceNow - candidateRetention) candidateLimit
  claimOwner claim.fromUserId claim.ownerChatId floor serviceNow

/-- The identity `commit_owner_claim` publishes, if the claim succeeds. -/
def boundByClaim (updateId : Int) (claim : ValidOwnerClaim) (snapshot : OwnerClaimSnapshot)
    (answer : Option LookupAnswer) (serviceNow : DateTime) (db : Database) :
    Option OwnerIdentity :=
  match db.processedUpdate.lookup updateId, db.ownerIdentity,
    claimedIdentity claim snapshot serviceNow db,
    commitOwnerClaim updateId claim snapshot answer serviceNow db with
  | none, .ready .unclaimed, .ok (identity, _), .ok _ => some identity
  | _, _, _, _ => none

/-! ## The process -/

/-- `claim_token_matches`. -/
def claimTokenMatches {Token : Type} [DecidableEq Token] (expected : Option Token)
    (provided : Token) : Bool :=
  expected = some provided

/-- The service with what the process holds of its binding. The last three fields are history: the
identities a committed transaction has left in the Owner row, the claims that have succeeded, and
the moves of a bound Owner's chat. -/
structure BoundWorld (Token : Type) where
  world : World
  handle : Option OwnerIdentity
  token : Option Token
  committed : List OwnerIdentity
  claims : Nat
  chatMoves : Nat

/-- A step of the service, or the claim message of a claimant with the token it brings. -/
inductive BoundOp (Token : Type) where
  | service (op : Op)
  | claim (updateId : Int) (claim : ValidOwnerClaim) (provided : Token) (now : DateTime)

/-- The step of the service. Whether a claim brings the token is decided by the one the process
holds. -/
def BoundOp.inner {Token : Type} [DecidableEq Token] (token : Option Token) :
    BoundOp Token → Option Op
  | .service (.worker (.ownerClaim ..)) => none
  | .service op => some op
  | .claim updateId validClaim provided now =>
    some (.worker (.ownerClaim updateId validClaim (claimTokenMatches token provided) now))

def OwnerLifecycleState.identity : OwnerLifecycleState → Option OwnerIdentity
  | .pending => none
  | .ready identity => some identity

/-- The chat a bound Owner is reached at. -/
def OwnerLifecycleState.chat : OwnerLifecycleState → Option Int
  | .ready (.claimed _ ownerChatId _ _ _) => some ownerChatId
  | _ => none

def OwnerLifecycleState.chatSource : OwnerLifecycleState → Option OwnerChatSource
  | .ready (.claimed _ _ source _ _) => some source
  | _ => none

def WorkerPhase.isDown : WorkerPhase → Bool
  | .down => true
  | _ => false

namespace World

/-- The identity the claim in hand binds at this step. -/
def binds (w : World) : Op → Option OwnerIdentity
  | .worker (.claimAnswer answer now) =>
    match w.worker with
    | .claimLookup updateId claim snapshot =>
      boundByClaim updateId claim snapshot answer now w.db
    | _ => none
  | _ => none

/-- The identity the step publishes. -/
def publishes (w : World) : Op → Option OwnerIdentity
  | .worker (.initializeOwner now) =>
    match initializeOrLoadOwnerIdentity now w.db with
    | .ok (identity, _) => some identity
    | .error _ => none
  | .worker (.ownerCommand updateId snapshot occurredAt) =>
    publishedByCommand updateId snapshot occurredAt w.settings w.db
  | .worker (.ownerStart updateId snapshot occurredAt) =>
    publishedByStart updateId snapshot occurredAt w.settings w.db
  | op => w.binds op

end World

namespace BoundWorld

variable {Token : Type} [DecidableEq Token] (derived : Token)

/-- The token the process holds after a step that leaves it running. -/
def tokenAfter (s : BoundWorld Token) (op : Op) : Option Token :=
  match op with
  | .worker (.serve _) => if s.handle = some .unclaimed then some derived else none
  | _ => if (s.world.binds op).isSome then none else s.token

/-- One step of the service, and what it does to the process and to the history. -/
def move (s : BoundWorld Token) (op : Op) : Option (BoundWorld Token) :=
  (s.world.step op).map fun w' =>
    { world := w'
      handle := if w'.worker.isDown then none else (s.world.publishes op).or s.handle
      token := if w'.worker.isDown then none else s.tokenAfter derived op
      committed := s.committed ++ w'.db.ownerIdentity.identity.toList
      claims := s.claims + (s.world.binds op).toList.length
      chatMoves := s.chatMoves +
        if s.world.db.ownerIdentity.chat.isSome ∧
          w'.db.ownerIdentity.chat ≠ s.world.db.ownerIdentity.chat then 1 else 0 }

def step (s : BoundWorld Token) (op : BoundOp Token) : Option (BoundWorld Token) :=
  (op.inner s.token).bind (s.move derived)

end BoundWorld

/-- The service with the binding of its process, before its first start. The token is derived from
the seed of the installation. -/
def boundService {Token : Type} [DecidableEq Token] (derived : Token) :
    Machine (BoundWorld Token) (BoundOp Token) where
  init s := ∃ now, s = ⟨.initial now, none, none, [], 0, 0⟩
  step := BoundWorld.step derived

end ChatHygiene
