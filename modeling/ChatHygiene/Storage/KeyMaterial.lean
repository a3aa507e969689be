import ChatHygiene.Lib.Machine
import ChatHygiene.Lib.Txn
import ChatHygiene.Storage.Models
import Mathlib.Data.List.Forall2
/-!
# The key material of the installation

One row holds the master seed every secret is derived from, and the bot the
installation is pinned to. The row is read with the types its columns happen to
have, and what a call writes it reads again before it commits. Every statement,
the begin and the commit included, may fail.
-/

namespace ChatHygiene

open Txn (read write)

/-! ## Stored values -/

/-- The names `typeof` gives. -/
inductive SqlType where
  | null
  | integer
  | real
  | text
  | blob
  deriving DecidableEq, Repr

/-- A stored value, whatever the column is declared as. A floating point number is known by its
text. -/
inductive SqlValue where
  | null
  | integer (value : Int)
  | real (shown : String)
  | text (value : String)
  | blob (bytes : List UInt8)
  deriving DecidableEq

namespace SqlValue

def typeof : SqlValue → SqlType
  | .null => .null
  | .integer _ => .integer
  | .real _ => .real
  | .text _ => .text
  | .blob _ => .blob

/-- `length`, of a number the one of its text. -/
def length : SqlValue → Option Nat
  | .null => none
  | .integer value => some (toString value).length
  | .real shown => some shown.length
  | .text value => some (value.toList.takeWhile (· ≠ '\x00')).length
  | .blob bytes => some bytes.length

/-- `CASE WHEN typeof(column) = 'integer' THEN column END`. -/
def integer? : SqlValue → Option Int
  | .integer value => some value
  | _ => none

/-- `CASE WHEN typeof(column) = 'text' THEN column END`. -/
def text? : SqlValue → Option String
  | .text value => some value
  | _ => none

/-- What bytes are decoded from. -/
def bytes? : SqlValue → Option (List UInt8)
  | .text value => some value.toUTF8.toList
  | .blob bytes => some bytes
  | _ => none

end SqlValue

structure KeyMaterialRow where
  singleton : SqlValue
  keyVersion : SqlValue
  state : SqlValue
  masterSeed : SqlValue
  seedChecksum : SqlValue
  initializedAt : SqlValue
  telegramBotId : SqlValue
  deriving DecidableEq

/-- The row the migration inserts. -/
def KeyMaterialRow.migrated : KeyMaterialRow :=
  ⟨.integer 1, .integer 1, .text "PENDING", .null, .null, .null, .null⟩

/-- The checks of the table, as far as they are about columns that an update changes. -/
def KeyMaterialRow.check (r : KeyMaterialRow) : Bool :=
  (r.state = .text "PENDING" || r.state = .text "READY") &&
    (r.telegramBotId = .null || r.telegramBotId.integer?.any (0 < ·)) &&
    ((r.state = .text "PENDING" && r.masterSeed = .null && r.seedChecksum = .null &&
        r.initializedAt = .null && r.telegramBotId = .null) ||
      (r.state = .text "READY" && r.masterSeed.typeof = .blob && r.masterSeed.length = some 32 &&
        r.seedChecksum.typeof = .blob && r.seedChecksum.length = some 32 &&
        r.initializedAt ≠ .null))

inductive KeyMaterialError where
  | database
  | entropyUnavailable
  | keyMaterialMissing
  | invalidKeyMaterial (message : String)
  | unsupportedKeyVersion (version : Int)
  | telegramBotIdentityMismatch
  deriving DecidableEq, Repr

/-! ## Transactions -/

/-- The table, and how many more statements succeed, if there is one that will not. -/
structure KeySession where
  rows : List KeyMaterialRow
  answers : Option Nat
  deriving DecidableEq

abbrev KeyUow := Txn KeySession KeyMaterialError

namespace KeyUow

/-- Any statement. -/
def statement : KeyUow Unit := fun s =>
  match s.answers with
  | none => .ok ((), s)
  | some 0 => .error .database
  | some (n + 1) => .ok ((), { s with answers := some n })

/-- `ok_or`. -/
def okOr {α : Type} (value : Option α) (error : KeyMaterialError) : KeyUow α :=
  match value with
  | none => throw error
  | some a => pure a

def select {α : Type} (f : List KeyMaterialRow → α) : KeyUow α := do
  statement
  read fun s => f s.rows

/-- `UPDATE … WHERE`, with the number of rows it changed. -/
def update (p : KeyMaterialRow → Bool) (change : KeyMaterialRow → KeyMaterialRow) : KeyUow Nat := do
  statement
  let changed ← read fun s => s.rows.filter p
  if changed.all fun r => (change r).check then
    write fun s => { s with rows := s.rows.map fun r => if p r then change r else r }
    pure changed.length
  else throw .database

end KeyUow

/-- What other crates compute: SHA-256, and the timestamps of `chrono`. -/
structure KeyPrimitives where
  sha256 : List UInt8 → Vector UInt8 32
  parseTimestamp : String → Option DateTime
  toRfc3339 : DateTime → String

/-! ## Reading the row -/

structure MaterialMetadata where
  singleton : Int
  keyVersion : Int
  state : String
  masterSeedType : SqlType
  masterSeedLen : Option Nat
  checksumType : SqlType
  checksumLen : Option Nat
  initializedAtType : SqlType
  initializedAt : Option String
  botIdType : SqlType
  telegramBotId : Option Int

inductive MaterialState where
  | pending
  | ready (initializedAt : DateTime) (telegramBotId : Option Int)

structure MasterSeed where
  keyVersion : Int
  bytes : List UInt8
  deriving DecidableEq

/-- The one row there has to be. -/
def singleRow : List KeyMaterialRow → KeyUow KeyMaterialRow
  | [] => throw .keyMaterialMissing
  | [row] => pure row
  | _ => throw (.invalidKeyMaterial "expected exactly one singleton row")

def loadMetadata : KeyUow MaterialMetadata := do
  let rows ← KeyUow.select fun rows => rows
  let row ← singleRow rows
  let singleton ← KeyUow.okOr row.singleton.integer?
    (.invalidKeyMaterial "singleton row id must be an integer")
  if singleton ≠ 1 then throw (.invalidKeyMaterial "singleton row must have id 1")
  else
    let keyVersion ← KeyUow.okOr row.keyVersion.integer?
      (.invalidKeyMaterial "key version must be an integer")
    let state ← KeyUow.okOr row.state.text? (.invalidKeyMaterial "state must be text")
    pure {
      singleton, keyVersion, state
      masterSeedType := row.masterSeed.typeof
      masterSeedLen := row.masterSeed.length
      checksumType := row.seedChecksum.typeof
      checksumLen := row.seedChecksum.length
      initializedAtType := row.initializedAt.typeof
      initializedAt := row.initializedAt.text?
      botIdType := row.telegramBotId.typeof
      telegramBotId := row.telegramBotId.integer? }

/-- The pinned bot of ready material. -/
def validateBotId (metadata : MaterialMetadata) : KeyUow (Option Int) :=
  if metadata.botIdType = .null && metadata.telegramBotId.isNone then pure none
  else if metadata.botIdType = .integer then
    KeyUow.okOr (metadata.telegramBotId.filter (0 < ·))
      (.invalidKeyMaterial "Telegram bot id must be positive") >>= fun value => pure (some value)
  else throw (.invalidKeyMaterial "Telegram bot id must be an integer")

def validateMetadata (P : KeyPrimitives) (metadata : MaterialMetadata) : KeyUow MaterialState :=
  if metadata.keyVersion ≠ 1 then throw (.unsupportedKeyVersion metadata.keyVersion)
  else if metadata.state = "PENDING" then
    if metadata.masterSeedType ≠ .null || metadata.masterSeedLen.isSome ||
        metadata.checksumType ≠ .null || metadata.checksumLen.isSome ||
        metadata.initializedAtType ≠ .null || metadata.initializedAt.isSome ||
        metadata.botIdType ≠ .null || metadata.telegramBotId.isSome then
      throw (.invalidKeyMaterial "pending material must not contain initialized values")
    else pure .pending
  else if metadata.state = "READY" then
    if metadata.masterSeedType ≠ .blob || metadata.masterSeedLen ≠ some 32 then
      throw (.invalidKeyMaterial "master seed must be a 32-byte blob")
    else if metadata.checksumType ≠ .blob || metadata.checksumLen ≠ some 32 then
      throw (.invalidKeyMaterial "seed checksum must be a 32-byte blob")
    else if metadata.initializedAtType ≠ .text then
      throw (.invalidKeyMaterial "initialized timestamp must be text")
    else do
      let text ← KeyUow.okOr metadata.initializedAt
        (.invalidKeyMaterial "initialized timestamp is missing")
      let initializedAt ← KeyUow.okOr (P.parseTimestamp text)
        (.invalidKeyMaterial "initialized timestamp must be RFC3339")
      let telegramBotId ← validateBotId metadata
      pure (.ready initializedAt telegramBotId)
  else throw (.invalidKeyMaterial "state must be PENDING or READY")

/-- `master_seed_checksum`, its errors turned into the ones of the store. -/
def seedChecksum (P : KeyPrimitives) (keyVersion : Int) (seed : List UInt8) :
    KeyUow (List UInt8) :=
  if keyVersion ≠ 1 then throw (.unsupportedKeyVersion keyVersion)
  else if seed.length ≠ 32 then throw (.invalidKeyMaterial "master seed is invalid")
  else pure (P.sha256 ("chathygiene.master-seed-checksum.v1".toUTF8.toList ++ seed)).toList

def loadAndValidateReadySeed (P : KeyPrimitives) (keyVersion : Int) : KeyUow (List UInt8) := do
  let found ← KeyUow.select fun rows => rows.find? fun r => r.singleton = .integer 1
  let row ← KeyUow.okOr found .database
  let seed ← KeyUow.okOr row.masterSeed.bytes? .database
  let storedChecksum ← KeyUow.okOr row.seedChecksum.bytes? .database
  let expectedChecksum ← seedChecksum P keyVersion seed
  if expectedChecksum ≠ storedChecksum then
    throw (.invalidKeyMaterial "master seed checksum does not match")
  else pure seed

/-! ## The calls -/

/-- `load_or_initialize_master_seed_with`. The source gives a seed, or it fails. -/
def loadOrInitializeMasterSeedWith (P : KeyPrimitives) (initializedAt : DateTime)
    (source : Option (Vector UInt8 32)) : KeyUow MasterSeed := do
  KeyUow.statement
  let metadata ← loadMetadata
  match ← validateMetadata P metadata with
  | .pending =>
    match source with
    | none => throw .entropyUnavailable
    | some generatedSeed =>
      let checksum ← seedChecksum P metadata.keyVersion generatedSeed.toList
      let updated ← KeyUow.update
        (fun r => r.singleton = .integer 1 && r.keyVersion = .integer 1 &&
          r.state = .text "PENDING" && r.masterSeed = .null && r.seedChecksum = .null &&
          r.initializedAt = .null)
        fun r => { r with
          state := .text "READY"
          masterSeed := .blob generatedSeed.toList
          seedChecksum := .blob checksum
          initializedAt := .text (P.toRfc3339 initializedAt) }
      if updated ≠ 1 then
        throw (.invalidKeyMaterial "pending seed transition did not update one row")
      else
        let readyMetadata ← loadMetadata
        match ← validateMetadata P readyMetadata with
        | .pending =>
          throw (.invalidKeyMaterial "seed transition did not produce ready material")
        | .ready _ _ =>
          let fetchedSeed ← loadAndValidateReadySeed P readyMetadata.keyVersion
          if generatedSeed.toList ≠ fetchedSeed then
            throw (.invalidKeyMaterial "persisted seed differs from generated seed")
          else
            KeyUow.statement
            pure ⟨readyMetadata.keyVersion, fetchedSeed⟩
  | .ready _ _ =>
    let fetchedSeed ← loadAndValidateReadySeed P metadata.keyVersion
    KeyUow.statement
    pure ⟨metadata.keyVersion, fetchedSeed⟩

def pinOrVerifyTelegramBotId (P : KeyPrimitives) (authenticatedBotId : Int) : KeyUow Int :=
  if authenticatedBotId ≤ 0 then
    throw (.invalidKeyMaterial "authenticated Telegram bot id must be positive")
  else do
    let metadata ← loadMetadata
    match ← validateMetadata P metadata with
    | .pending => throw (.invalidKeyMaterial "Telegram bot id requires ready key material")
    | .ready _ telegramBotId =>
      let _ ← loadAndValidateReadySeed P metadata.keyVersion
      match telegramBotId with
      | some pinned =>
        if pinned = authenticatedBotId then pure pinned else throw .telegramBotIdentityMismatch
      | none =>
        let updated ← KeyUow.update
          (fun r => r.singleton = .integer 1 && r.state = .text "READY" && r.telegramBotId = .null)
          fun r => { r with telegramBotId := .integer authenticatedBotId }
        if updated ≠ 1 then throw .telegramBotIdentityMismatch else pure authenticatedBotId

def loadPersistedTelegramBotId (P : KeyPrimitives) : KeyUow Int := do
  KeyUow.statement
  let metadata ← loadMetadata
  match ← validateMetadata P metadata with
  | .ready _ (some telegramBotId) =>
    let _ ← loadAndValidateReadySeed P metadata.keyVersion
    KeyUow.statement
    pure telegramBotId
  | _ => throw (.invalidKeyMaterial "persisted Telegram bot id is missing")

/-! ## Runs -/

inductive KeyCall where
  | load (initializedAt : DateTime) (source : Option (Vector UInt8 32))
  | pin (authenticatedBotId : Int)
  | persisted

inductive KeyReply where
  | seed (seed : MasterSeed)
  | bot (id : Int)
  deriving DecidableEq

/-- A call as the application makes it, which pins the bot in a transaction of its own. -/
def KeyCall.run (P : KeyPrimitives) : KeyCall → KeyUow KeyReply
  | .load initializedAt source => do
    let seed ← loadOrInitializeMasterSeedWith P initializedAt source
    pure (.seed seed)
  | .pin authenticatedBotId => do
    KeyUow.statement
    let id ← pinOrVerifyTelegramBotId P authenticatedBotId
    KeyUow.statement
    pure (.bot id)
  | .persisted => do
    let id ← loadPersistedTelegramBotId P
    pure (.bot id)

/-- The table and the reply after a call, some statement of which may fail. -/
def performKeyCall (P : KeyPrimitives) (call : KeyCall) (answers : Option Nat)
    (rows : List KeyMaterialRow) : List KeyMaterialRow × Except KeyMaterialError KeyReply :=
  let (s, reply) := Txn.commit (call.run P) ⟨rows, answers⟩
  (s.rows, reply)

/-- What happens to the table. -/
inductive KeyInput where
  | call (call : KeyCall) (answers : Option Nat)
  /-- The process stops during a call, before the commit or after it. -/
  | stopped (call : KeyCall) (committed : Bool)
  /-- A stored checksum is damaged. -/
  | damaged (checksum : SqlValue)

/-- The machine begins with any table. A restart has nothing to lose, so it is no step. -/
def keyMachine (P : KeyPrimitives) : Machine (List KeyMaterialRow) KeyInput where
  init _ := True
  step
    | rows, .call call answers => some (performKeyCall P call answers rows).1
    | rows, .stopped call committed =>
      some (if committed then (performKeyCall P call none rows).1 else rows)
    | rows, .damaged checksum => some (rows.map fun r => { r with seedChecksum := checksum })

/-! ## What is kept -/

/-- The row is READY. -/
def KeyMaterialRow.Ready (r : KeyMaterialRow) : Prop := r.state = .text "READY"

/-- The seed of a row that is READY stays, and so does a pinned bot. -/
structure KeyMaterialRow.Kept (r r' : KeyMaterialRow) : Prop where
  seed : r.Ready → r'.Ready ∧ r'.masterSeed = r.masterSeed
  bot : r.telegramBotId ≠ .null → r'.telegramBotId = r.telegramBotId

namespace KeyMaterialRow.Kept

instance : Std.Refl KeyMaterialRow.Kept := ⟨fun _ => ⟨fun h => ⟨h, rfl⟩, fun _ => rfl⟩⟩

instance : IsTrans KeyMaterialRow KeyMaterialRow.Kept := by
  refine ⟨fun a b c hab hbc => ⟨fun h => ?_, fun h => ?_⟩⟩
  · obtain ⟨hready, hseed⟩ := hab.seed h
    obtain ⟨hready', hseed'⟩ := hbc.seed hready
    exact ⟨hready', hseed'.trans hseed⟩
  · have hbot := hab.bot h
    exact (hbc.bot (by rwa [hbot])).trans hbot

end KeyMaterialRow.Kept

/-- What every transaction leaves of the rows. -/
def KeySession.Kept (s s' : KeySession) : Prop :=
  List.Forall₂ KeyMaterialRow.Kept s.rows s'.rows

theorem KeyMaterialRow.kept_trans {rows rows' rows'' : List KeyMaterialRow}
    (h : List.Forall₂ KeyMaterialRow.Kept rows rows')
    (h' : List.Forall₂ KeyMaterialRow.Kept rows' rows'') :
    List.Forall₂ KeyMaterialRow.Kept rows rows'' := by
  induction h generalizing rows'' with
  | nil => exact h'
  | cons hrow _ ih =>
    cases h' with
    | cons hrow' hrest' => exact .cons (trans_of KeyMaterialRow.Kept hrow hrow') (ih hrest')

/-! ## The statements, one by one -/

section Statements

variable {P : KeyPrimitives} {s s' : KeySession}

theorem KeyUow.statement_ok {a : Unit} (h : KeyUow.statement s = .ok (a, s')) :
    s'.rows = s.rows := by
  unfold KeyUow.statement at h
  split at h
  next => cases h; rfl
  next => cases h
  next => cases h; rfl

theorem KeyUow.okOr_ok {α : Type} {value : Option α} {error : KeyMaterialError} {a : α}
    (h : KeyUow.okOr value error s = .ok (a, s')) : value = some a ∧ s = s' := by
  cases value with
  | none => exact (Txn.throw_ok_iff.1 h).elim
  | some b =>
    obtain ⟨rfl, rfl⟩ := Prod.mk.inj (Txn.pure_ok_iff.1 h)
    exact ⟨rfl, rfl⟩

theorem KeyUow.select_ok {α : Type} {f : List KeyMaterialRow → α} {a : α}
    (h : KeyUow.select f s = .ok (a, s')) : s'.rows = s.rows ∧ a = f s.rows := by
  obtain ⟨_, s₁, hstatement, h⟩ := Txn.bind_ok_iff.1 h
  have hrows := KeyUow.statement_ok hstatement
  obtain ⟨rfl, rfl⟩ := Prod.mk.inj (Txn.read_ok_iff.1 h)
  exact ⟨hrows, by rw [hrows]⟩

theorem KeyUow.update_ok {p : KeyMaterialRow → Bool} {change : KeyMaterialRow → KeyMaterialRow}
    {n : Nat} (h : KeyUow.update p change s = .ok (n, s')) : n = (s.rows.filter p).length ∧
      s'.rows = s.rows.map fun r => if p r then change r else r := by
  obtain ⟨_, s₁, hstatement, h⟩ := Txn.bind_ok_iff.1 h
  have hrows := KeyUow.statement_ok hstatement
  obtain ⟨changed, s₂, hread, h⟩ := Txn.bind_ok_iff.1 h
  obtain ⟨rfl, rfl⟩ := Prod.mk.inj (Txn.read_ok_iff.1 hread)
  split at h
  · obtain ⟨_, s₃, hwrite, h⟩ := Txn.bind_ok_iff.1 h
    obtain ⟨-, rfl⟩ := Prod.mk.inj (Txn.write_ok_iff.1 hwrite)
    obtain ⟨rfl, rfl⟩ := Prod.mk.inj (Txn.pure_ok_iff.1 h)
    rw [← hrows]
    exact ⟨rfl, rfl⟩
  · exact (Txn.throw_ok_iff.1 h).elim

/-- The rows are kept by an update that keeps the ones it changes. -/
theorem KeyUow.update_kept {p : KeyMaterialRow → Bool} {change : KeyMaterialRow → KeyMaterialRow}
    {n : Nat} (hchange : ∀ r, p r = true → r.Kept (change r))
    (h : KeyUow.update p change s = .ok (n, s')) : s.Kept s' := by
  unfold KeySession.Kept
  rw [(KeyUow.update_ok h).2, List.forall₂_map_right_iff, List.forall₂_same]
  intro r _
  split
  next hp => exact hchange r hp
  next => exact refl r

/-- An update of the one row that changes one row changes it. -/
theorem KeyUow.update_one {p : KeyMaterialRow → Bool} {change : KeyMaterialRow → KeyMaterialRow}
    {r : KeyMaterialRow} (hone : s.rows = [r]) (h : KeyUow.update p change s = .ok (1, s')) :
    s'.rows = [change r] := by
  obtain ⟨hcount, hrows⟩ := KeyUow.update_ok h
  rw [hone] at hcount hrows
  by_cases hp : p r = true
  · rw [hrows, List.map_singleton, if_pos hp]
  · rw [List.filter_cons_of_neg hp, List.filter_nil] at hcount
    cases hcount

/-- What the metadata tell of the one row. -/
structure MaterialMetadata.Of (metadata : MaterialMetadata) (r : KeyMaterialRow) : Prop where
  singleton : r.singleton = .integer 1
  state : r.state = .text metadata.state
  masterSeedType : metadata.masterSeedType = r.masterSeed.typeof
  botIdType : metadata.botIdType = r.telegramBotId.typeof
  telegramBotId : metadata.telegramBotId = r.telegramBotId.integer?

theorem singleRow_ok {rows : List KeyMaterialRow} {r : KeyMaterialRow}
    (h : singleRow rows s = .ok (r, s')) : rows = [r] ∧ s = s' := by
  match rows, h with
  | [], h => exact (Txn.throw_ok_iff.1 h).elim
  | [_], h =>
    obtain ⟨rfl, rfl⟩ := Prod.mk.inj (Txn.pure_ok_iff.1 h)
    exact ⟨rfl, rfl⟩
  | _ :: _ :: _, h => exact (Txn.throw_ok_iff.1 h).elim

theorem SqlValue.eq_of_integer? {v : SqlValue} {n : Int} (h : v.integer? = some n) :
    v = .integer n := by
  cases v with
  | integer m => rw [Option.some.inj h]
  | null | real | text | blob => cases h

theorem SqlValue.eq_of_text? {v : SqlValue} {t : String} (h : v.text? = some t) : v = .text t := by
  cases v with
  | text t' => rw [Option.some.inj h]
  | null | integer | real | blob => cases h

theorem loadMetadata_ok {metadata : MaterialMetadata} (h : loadMetadata s = .ok (metadata, s')) :
    s'.rows = s.rows ∧ ∃ r, s.rows = [r] ∧ metadata.Of r := by
  obtain ⟨rows, s₁, hselect, h⟩ := Txn.bind_ok_iff.1 h
  obtain ⟨hrows, rfl⟩ := KeyUow.select_ok hselect
  obtain ⟨r, s₂, hsingle, h⟩ := Txn.bind_ok_iff.1 h
  obtain ⟨hone, rfl⟩ := singleRow_ok hsingle
  obtain ⟨singleton, s₃, hrun, h⟩ := Txn.bind_ok_iff.1 h
  obtain ⟨hsingleton, rfl⟩ := KeyUow.okOr_ok hrun
  split at h
  next => exact (Txn.throw_ok_iff.1 h).elim
  next hid =>
  obtain ⟨keyVersion, s₄, hversion, h⟩ := Txn.bind_ok_iff.1 h
  obtain ⟨-, rfl⟩ := KeyUow.okOr_ok hversion
  obtain ⟨state, s₅, hrun, h⟩ := Txn.bind_ok_iff.1 h
  obtain ⟨hstate, rfl⟩ := KeyUow.okOr_ok hrun
  obtain ⟨rfl, rfl⟩ := Prod.mk.inj (Txn.pure_ok_iff.1 h)
  have hid : singleton = 1 := not_not.1 hid
  refine ⟨hrows, r, hone, ?_, SqlValue.eq_of_text? hstate, rfl, rfl, rfl⟩
  rw [SqlValue.eq_of_integer? hsingleton, hid]

theorem validateBotId_ok {metadata : MaterialMetadata} {id : Option Int}
    (h : validateBotId metadata s = .ok (id, s')) :
    s = s' ∧ ∀ value, id = some value → metadata.telegramBotId = some value := by
  unfold validateBotId at h
  split at h
  next =>
    obtain ⟨rfl, rfl⟩ := Prod.mk.inj (Txn.pure_ok_iff.1 h)
    exact ⟨rfl, fun _ hnone => nomatch hnone⟩
  next =>
  split at h
  next =>
    obtain ⟨value, s₁, hrun, h⟩ := Txn.bind_ok_iff.1 h
    obtain ⟨hvalue, rfl⟩ := KeyUow.okOr_ok hrun
    obtain ⟨rfl, rfl⟩ := Prod.mk.inj (Txn.pure_ok_iff.1 h)
    refine ⟨rfl, fun _ hsome => ?_⟩
    rw [← hsome]
    exact (Option.filter_eq_some_iff.1 hvalue).1
  next => exact (Txn.throw_ok_iff.1 h).elim

/-- What the state says of the metadata it was read from. -/
def MaterialState.Of : MaterialState → MaterialMetadata → Prop
  | .pending, metadata => metadata.state = "PENDING"
  | .ready _ id, metadata => metadata.state = "READY" ∧ metadata.masterSeedType = .blob ∧
      ∀ value, id = some value → metadata.telegramBotId = some value

theorem validateMetadata_ok {metadata : MaterialMetadata} {state : MaterialState}
    (h : validateMetadata P metadata s = .ok (state, s')) :
    s = s' ∧ metadata.keyVersion = 1 ∧ state.Of metadata := by
  unfold validateMetadata at h
  split at h
  next => exact (Txn.throw_ok_iff.1 h).elim
  next hversion =>
  have hversion : metadata.keyVersion = 1 := not_not.1 hversion
  split at h
  next hpending =>
    split at h
    next => exact (Txn.throw_ok_iff.1 h).elim
    next =>
    obtain ⟨rfl, rfl⟩ := Prod.mk.inj (Txn.pure_ok_iff.1 h)
    exact ⟨rfl, hversion, hpending⟩
  next =>
  split at h
  next hready =>
    split at h
    next => exact (Txn.throw_ok_iff.1 h).elim
    next hseed =>
    split at h
    next => exact (Txn.throw_ok_iff.1 h).elim
    next =>
    split at h
    next => exact (Txn.throw_ok_iff.1 h).elim
    next =>
    obtain ⟨text, s₂, htext, h⟩ := Txn.bind_ok_iff.1 h
    obtain ⟨-, rfl⟩ := KeyUow.okOr_ok htext
    obtain ⟨initializedAt, s₃, hparse, h⟩ := Txn.bind_ok_iff.1 h
    obtain ⟨-, rfl⟩ := KeyUow.okOr_ok hparse
    obtain ⟨id, s₁, hrun, h⟩ := Txn.bind_ok_iff.1 h
    obtain ⟨rfl, hbot⟩ := validateBotId_ok hrun
    obtain ⟨rfl, rfl⟩ := Prod.mk.inj (Txn.pure_ok_iff.1 h)
    have hblob : metadata.masterSeedType = .blob := by
      simp only [Bool.or_eq_true, decide_eq_true_eq, not_or, not_not] at hseed
      exact hseed.1
    exact ⟨rfl, hversion, hready, hblob, hbot⟩
  next => exact (Txn.throw_ok_iff.1 h).elim

theorem seedChecksum_ok {keyVersion : Int} {seed checksum : List UInt8}
    (h : seedChecksum P keyVersion seed s = .ok (checksum, s')) : s = s' := by
  unfold seedChecksum at h
  split at h
  next => exact (Txn.throw_ok_iff.1 h).elim
  next =>
  split at h
  next => exact (Txn.throw_ok_iff.1 h).elim
  next => exact (Prod.mk.inj (Txn.pure_ok_iff.1 h)).2

theorem loadAndValidateReadySeed_ok {keyVersion : Int} {seed : List UInt8}
    (h : loadAndValidateReadySeed P keyVersion s = .ok (seed, s')) :
    s'.rows = s.rows ∧ ∃ r ∈ s.rows, r.masterSeed.bytes? = some seed := by
  obtain ⟨found, s₁, hselect, h⟩ := Txn.bind_ok_iff.1 h
  obtain ⟨hrows, rfl⟩ := KeyUow.select_ok hselect
  obtain ⟨r, s₂, hrun, h⟩ := Txn.bind_ok_iff.1 h
  obtain ⟨hfind, rfl⟩ := KeyUow.okOr_ok hrun
  obtain ⟨seed', s₃, hrun, h⟩ := Txn.bind_ok_iff.1 h
  obtain ⟨hseed, rfl⟩ := KeyUow.okOr_ok hrun
  obtain ⟨stored, s₄, hstored, h⟩ := Txn.bind_ok_iff.1 h
  obtain ⟨-, rfl⟩ := KeyUow.okOr_ok hstored
  obtain ⟨expected, s₅, hexpected, h⟩ := Txn.bind_ok_iff.1 h
  obtain rfl := seedChecksum_ok hexpected
  split at h
  next => exact (Txn.throw_ok_iff.1 h).elim
  next =>
  obtain ⟨rfl, rfl⟩ := Prod.mk.inj (Txn.pure_ok_iff.1 h)
  exact ⟨hrows, r, List.mem_of_find?_eq_some hfind, hseed⟩

/-- The metadata are read and validated. -/
theorem loadState_ok {metadata : MaterialMetadata} {state : MaterialState} {s₁ : KeySession}
    (hload : loadMetadata s = .ok (metadata, s₁))
    (hvalidate : validateMetadata P metadata s₁ = .ok (state, s')) :
    s'.rows = s.rows ∧ metadata.keyVersion = 1 ∧
      ∃ r, s.rows = [r] ∧ metadata.Of r ∧ state.Of metadata := by
  obtain ⟨hrows, r, hone, hof⟩ := loadMetadata_ok hload
  obtain ⟨rfl, hversion, hstate⟩ := validateMetadata_ok hvalidate
  exact ⟨hrows, hversion, r, hone, hof, hstate⟩

/-- The row that material is ready in. -/
theorem MaterialState.Of.ready {initializedAt : DateTime} {id : Option Int}
    {metadata : MaterialMetadata} {r : KeyMaterialRow} (hof : metadata.Of r)
    (h : (MaterialState.ready initializedAt id).Of metadata) :
    r.Ready ∧ r.masterSeed.typeof = .blob ∧
      ∀ value, id = some value → r.telegramBotId = .integer value := by
  obtain ⟨hstate, hblob, hid⟩ := h
  refine ⟨?_, hof.masterSeedType ▸ hblob, fun value hvalue => ?_⟩
  · rw [KeyMaterialRow.Ready, hof.state, hstate]
  · refine SqlValue.eq_of_integer? ?_
    rw [← hof.telegramBotId]
    exact hid value hvalue

/-- The seed that is read is the one of the row. -/
theorem readySeed_ok {r : KeyMaterialRow} {keyVersion : Int} {seed : List UInt8}
    (hone : s.rows = [r]) (hblob : r.masterSeed.typeof = .blob)
    (h : loadAndValidateReadySeed P keyVersion s = .ok (seed, s')) :
    s'.rows = s.rows ∧ r.masterSeed = .blob seed := by
  obtain ⟨hrows, r', hmem, hbytes⟩ := loadAndValidateReadySeed_ok h
  rw [hone, List.mem_singleton] at hmem
  subst hmem
  refine ⟨hrows, ?_⟩
  cases hseed : r'.masterSeed with
  | blob bytes =>
    rw [hseed] at hbytes
    rw [Option.some.inj hbytes]
  | null | integer | real | text =>
    rw [hseed] at hblob
    cases hblob

end Statements

/-! ## The calls, one by one -/

section Calls

variable {P : KeyPrimitives} {s s' : KeySession}

/-- The row a seed was loaded from. -/
def HoldsSeed (rows : List KeyMaterialRow) (m : MasterSeed) : Prop :=
  m.keyVersion = 1 ∧ ∃ r, rows = [r] ∧ r.Ready ∧ r.masterSeed = .blob m.bytes

/-- The row a bot is pinned in. -/
def HoldsBot (rows : List KeyMaterialRow) (id : Int) : Prop :=
  ∃ r, rows = [r] ∧ r.telegramBotId = .integer id

theorem loadOrInitializeMasterSeedWith_ok {initializedAt : DateTime}
    {source : Option (Vector UInt8 32)} {m : MasterSeed}
    (h : loadOrInitializeMasterSeedWith P initializedAt source s = .ok (m, s')) :
    s.Kept s' ∧ HoldsSeed s'.rows m := by
  obtain ⟨_, s₁, hbegin, h⟩ := Txn.bind_ok_iff.1 h
  have hrows₁ := KeyUow.statement_ok hbegin
  obtain ⟨metadata, s₂, hload, h⟩ := Txn.bind_ok_iff.1 h
  obtain ⟨state, s₃, hvalidate, h⟩ := Txn.bind_ok_iff.1 h
  obtain ⟨hrows₃, hversion, r, hone, hof, hstate⟩ := loadState_ok hload hvalidate
  cases state with
  | pending =>
    cases source with
    | none => exact (Txn.throw_ok_iff.1 h).elim
    | some generated =>
      obtain ⟨checksum, s₄, hrun, h⟩ := Txn.bind_ok_iff.1 h
      obtain rfl := seedChecksum_ok hrun
      obtain ⟨updated, s₅, hupdate, h⟩ := Txn.bind_ok_iff.1 h
      split at h
      next => exact (Txn.throw_ok_iff.1 h).elim
      next =>
      obtain ⟨readyMetadata, s₆, hload', h⟩ := Txn.bind_ok_iff.1 h
      obtain ⟨state', s₇, hvalidate', h⟩ := Txn.bind_ok_iff.1 h
      obtain ⟨hrows₇, hversion', r', hone', hof', hstate'⟩ := loadState_ok hload' hvalidate'
      cases state' with
      | pending => exact (Txn.throw_ok_iff.1 h).elim
      | ready _ id =>
        obtain ⟨fetched, s₈, hfetch, h⟩ := Txn.bind_ok_iff.1 h
        obtain ⟨hready, hblob, -⟩ := hstate'.ready hof'
        obtain ⟨hrows₈, hseed⟩ := readySeed_ok (hrows₇.trans hone') hblob hfetch
        split at h
        next => exact (Txn.throw_ok_iff.1 h).elim
        next =>
        obtain ⟨_, s₉, hcommit, h⟩ := Txn.bind_ok_iff.1 h
        obtain ⟨rfl, rfl⟩ := Prod.mk.inj (Txn.pure_ok_iff.1 h)
        have hfinal : s₉.rows = s₅.rows := by
          rw [KeyUow.statement_ok hcommit, hrows₈, hrows₇]
        refine ⟨?_, hversion', r', by rw [hfinal, hone'], hready, hseed⟩
        -- the row was PENDING, so it had no seed to keep
        have hkept : s₃.Kept s₅ := by
          refine KeyUow.update_kept ?_ hupdate
          intro r hr
          refine ⟨fun hready => ?_, fun _ => rfl⟩
          simp only [Bool.and_eq_true, decide_eq_true_eq] at hr
          have hpending : r.state = .text "PENDING" := hr.1.1.1.2
          rw [KeyMaterialRow.Ready, hpending] at hready
          exact absurd hready (by decide)
        unfold KeySession.Kept at hkept ⊢
        rw [hfinal]
        rwa [hrows₃, hrows₁] at hkept
  | ready _ id =>
    obtain ⟨fetched, s₄, hfetch, h⟩ := Txn.bind_ok_iff.1 h
    obtain ⟨hready, hblob, -⟩ := hstate.ready hof
    obtain ⟨hrows₄, hseed⟩ := readySeed_ok (hrows₃.trans hone) hblob hfetch
    obtain ⟨_, s₅, hcommit, h⟩ := Txn.bind_ok_iff.1 h
    obtain ⟨rfl, rfl⟩ := Prod.mk.inj (Txn.pure_ok_iff.1 h)
    have hfinal : s₅.rows = s₁.rows := by rw [KeyUow.statement_ok hcommit, hrows₄, hrows₃]
    refine ⟨?_, hversion, r, hfinal.trans hone, hready, hseed⟩
    unfold KeySession.Kept
    rw [hfinal, hrows₁]
    exact List.forall₂_refl _

theorem pinOrVerifyTelegramBotId_ok {authenticatedBotId id : Int}
    (h : pinOrVerifyTelegramBotId P authenticatedBotId s = .ok (id, s')) :
    s.Kept s' ∧ HoldsBot s'.rows id := by
  unfold pinOrVerifyTelegramBotId at h
  split at h
  next => exact (Txn.throw_ok_iff.1 h).elim
  next =>
  obtain ⟨metadata, s₁, hload, h⟩ := Txn.bind_ok_iff.1 h
  obtain ⟨state, s₂, hvalidate, h⟩ := Txn.bind_ok_iff.1 h
  obtain ⟨hrows₂, -, r, hone, hof, hstate⟩ := loadState_ok hload hvalidate
  cases state with
  | pending => exact (Txn.throw_ok_iff.1 h).elim
  | ready _ pinned =>
    obtain ⟨seed, s₃, hfetch, h⟩ := Txn.bind_ok_iff.1 h
    obtain ⟨hready, hblob, hbot⟩ := hstate.ready hof
    obtain ⟨hrows₃, -⟩ := readySeed_ok (hrows₂.trans hone) hblob hfetch
    have hrows : s₃.rows = s.rows := hrows₃.trans hrows₂
    cases pinned with
    | some value =>
      dsimp only at h
      split at h
      next =>
        obtain ⟨rfl, rfl⟩ := Prod.mk.inj (Txn.pure_ok_iff.1 h)
        refine ⟨?_, r, hrows.trans hone, hbot _ rfl⟩
        unfold KeySession.Kept
        rw [hrows]
        exact List.forall₂_refl _
      next => exact (Txn.throw_ok_iff.1 h).elim
    | none =>
      obtain ⟨updated, s₄, hupdate, h⟩ := Txn.bind_ok_iff.1 h
      split at h
      next => exact (Txn.throw_ok_iff.1 h).elim
      next hupdated =>
      obtain ⟨rfl, rfl⟩ := Prod.mk.inj (Txn.pure_ok_iff.1 h)
      -- only a row without a bot is changed, and nothing but its bot
      have hkept : s₃.Kept s₄ := by
        refine KeyUow.update_kept ?_ hupdate
        intro r hr
        refine ⟨fun hready => ⟨hready, rfl⟩, fun hbot => ?_⟩
        simp only [Bool.and_eq_true, decide_eq_true_eq] at hr
        exact absurd hr.2 hbot
      have hchanged := KeyUow.update_one (hrows.trans hone) (not_not.1 hupdated ▸ hupdate)
      unfold KeySession.Kept at hkept ⊢
      rw [hrows] at hkept
      exact ⟨hkept, _, hchanged, rfl⟩

theorem loadPersistedTelegramBotId_ok {id : Int}
    (h : loadPersistedTelegramBotId P s = .ok (id, s')) :
    s.Kept s' ∧ HoldsBot s'.rows id := by
  obtain ⟨_, s₁, hbegin, h⟩ := Txn.bind_ok_iff.1 h
  obtain ⟨metadata, s₂, hload, h⟩ := Txn.bind_ok_iff.1 h
  obtain ⟨state, s₃, hvalidate, h⟩ := Txn.bind_ok_iff.1 h
  obtain ⟨hrows₃, -, r, hone, hof, hstate⟩ := loadState_ok hload hvalidate
  rcases state with _ | ⟨_, _ | pinned⟩
  · exact (Txn.throw_ok_iff.1 h).elim
  · exact (Txn.throw_ok_iff.1 h).elim
  · obtain ⟨seed, s₄, hfetch, h⟩ := Txn.bind_ok_iff.1 h
    obtain ⟨-, hblob, hbot⟩ := hstate.ready hof
    obtain ⟨hrows₄, -⟩ := readySeed_ok (hrows₃.trans hone) hblob hfetch
    obtain ⟨_, s₅, hcommit, h⟩ := Txn.bind_ok_iff.1 h
    obtain ⟨rfl, rfl⟩ := Prod.mk.inj (Txn.pure_ok_iff.1 h)
    have hfinal : s₅.rows = s₁.rows := by rw [KeyUow.statement_ok hcommit, hrows₄, hrows₃]
    refine ⟨?_, r, hfinal.trans hone, hbot _ rfl⟩
    unfold KeySession.Kept
    rw [hfinal, KeyUow.statement_ok hbegin]
    exact List.forall₂_refl _

/-- The row a reply came from. -/
def KeyReply.HeldBy (rows : List KeyMaterialRow) : KeyReply → Prop
  | .seed m => HoldsSeed rows m
  | .bot id => HoldsBot rows id

/-- The kind of reply a call has. -/
def KeyCall.Gives : KeyCall → KeyReply → Prop
  | .load _ _, .seed _ => True
  | .load _ _, .bot _ => False
  | _, .seed _ => False
  | _, .bot _ => True

/-- What a successful call comes to. -/
theorem keyCall_ok {call : KeyCall} {reply : KeyReply} (h : call.run P s = .ok (reply, s')) :
    call.Gives reply ∧ s.Kept s' ∧ reply.HeldBy s'.rows := by
  cases call with
  | load initializedAt source =>
    obtain ⟨m, s₁, hload, h⟩ := Txn.bind_ok_iff.1 h
    obtain ⟨rfl, rfl⟩ := Prod.mk.inj (Txn.pure_ok_iff.1 h)
    exact ⟨trivial, loadOrInitializeMasterSeedWith_ok hload⟩
  | pin authenticatedBotId =>
    obtain ⟨_, s₁, hbegin, h⟩ := Txn.bind_ok_iff.1 h
    obtain ⟨id, s₂, hpin, h⟩ := Txn.bind_ok_iff.1 h
    obtain ⟨_, s₃, hcommit, h⟩ := Txn.bind_ok_iff.1 h
    obtain ⟨rfl, rfl⟩ := Prod.mk.inj (Txn.pure_ok_iff.1 h)
    obtain ⟨hkept, hbot⟩ := pinOrVerifyTelegramBotId_ok hpin
    unfold KeySession.Kept at hkept ⊢
    rw [KeyUow.statement_ok hbegin] at hkept
    rw [KeyUow.statement_ok hcommit]
    exact ⟨trivial, hkept, hbot⟩
  | persisted =>
    obtain ⟨id, s₁, hload, h⟩ := Txn.bind_ok_iff.1 h
    obtain ⟨rfl, rfl⟩ := Prod.mk.inj (Txn.pure_ok_iff.1 h)
    exact ⟨trivial, loadPersistedTelegramBotId_ok hload⟩

end Calls

/-! ## Whole runs -/

section Runs

variable {P : KeyPrimitives} {rows rows' : List KeyMaterialRow}

theorem performKeyCall_error {call : KeyCall} {answers : Option Nat} {e : KeyMaterialError}
    (h : (performKeyCall P call answers rows).2 = .error e) :
    (performKeyCall P call answers rows).1 = rows := by
  cases hrun : call.run P ⟨rows, answers⟩ with
  | error e' => simp only [performKeyCall, Txn.commit_of_error hrun]
  | ok r => simp [performKeyCall, Txn.commit_of_ok hrun] at h

theorem performKeyCall_ok {call : KeyCall} {answers : Option Nat} {reply : KeyReply}
    (h : (performKeyCall P call answers rows).2 = .ok reply) : call.Gives reply ∧
    List.Forall₂ KeyMaterialRow.Kept rows (performKeyCall P call answers rows).1 ∧
      reply.HeldBy (performKeyCall P call answers rows).1 := by
  cases hrun : call.run P ⟨rows, answers⟩ with
  | error e => simp [performKeyCall, Txn.commit_of_error hrun] at h
  | ok r =>
    simp only [performKeyCall, Txn.commit_of_ok hrun, Except.ok.injEq] at h ⊢
    subst h
    exact keyCall_ok hrun

theorem performKeyCall_kept (P : KeyPrimitives) (call : KeyCall) (answers : Option Nat)
    (rows : List KeyMaterialRow) :
    List.Forall₂ KeyMaterialRow.Kept rows (performKeyCall P call answers rows).1 := by
  cases hreply : (performKeyCall P call answers rows).2 with
  | error e =>
    rw [performKeyCall_error hreply]
    exact List.forall₂_refl _
  | ok reply => exact (performKeyCall_ok hreply).2.1

/-- **Every run keeps the rows.** -/
theorem keyMachine_kept (h : (keyMachine P).Runs (fun _ _ => True) rows rows') :
    List.Forall₂ KeyMaterialRow.Kept rows rows' := by
  refine h.relation (fun _ => List.forall₂_refl _) (fun _ _ _ => KeyMaterialRow.kept_trans) ?_
  intro rows i rows' _ hstep
  cases i with
  | call call answers =>
    obtain rfl := Option.some.inj hstep
    exact performKeyCall_kept P call answers rows
  | stopped call committed =>
    obtain rfl := Option.some.inj hstep
    split
    next => exact performKeyCall_kept P call none rows
    next => exact List.forall₂_refl _
  | damaged checksum =>
    obtain rfl := Option.some.inj hstep
    rw [List.forall₂_map_right_iff, List.forall₂_same]
    exact fun r _ => ⟨fun hready => ⟨hready, rfl⟩, fun _ => rfl⟩

/-- What a later call finds in the rows a run has kept. -/
theorem HoldsSeed.unique {r : KeyMaterialRow} {m : MasterSeed} (hr : r ∈ rows) (hready : r.Ready)
    (hkept : List.Forall₂ KeyMaterialRow.Kept rows rows') (h : HoldsSeed rows' m) :
    m.keyVersion = 1 ∧ r.masterSeed = .blob m.bytes := by
  obtain ⟨hversion, r', rfl, -, hseed⟩ := h
  obtain ⟨r₀, _, hrow, hnil, rfl⟩ := List.forall₂_cons_right_iff.1 hkept
  obtain rfl := List.forall₂_nil_right_iff.1 hnil
  rw [List.mem_singleton] at hr
  subst hr
  exact ⟨hversion, (hrow.seed hready).2.symm.trans hseed⟩

theorem HoldsBot.unique {r : KeyMaterialRow} {id : Int} (hr : r ∈ rows)
    (hpinned : r.telegramBotId ≠ .null) (hkept : List.Forall₂ KeyMaterialRow.Kept rows rows')
    (h : HoldsBot rows' id) : r.telegramBotId = .integer id := by
  obtain ⟨r', rfl, hbot⟩ := h
  obtain ⟨r₀, _, hrow, hnil, rfl⟩ := List.forall₂_cons_right_iff.1 hkept
  obtain rfl := List.forall₂_nil_right_iff.1 hnil
  rw [List.mem_singleton] at hr
  subst hr
  exact (hrow.bot hpinned).symm.trans hbot

/-- The table has a row that is READY. -/
def KeyMaterialReady (rows : List KeyMaterialRow) : Prop := ∃ r ∈ rows, r.Ready

/-- The table has a row with a bot. -/
def BotPinned (rows : List KeyMaterialRow) : Prop := ∃ r ∈ rows, r.telegramBotId ≠ .null

/-- From these rows on, every load that succeeds gives the seed. -/
def AlwaysLoads (P : KeyPrimitives) (rows : List KeyMaterialRow) (m : MasterSeed) : Prop :=
  ∀ rows', (keyMachine P).Runs (fun _ _ => True) rows rows' → ∀ initializedAt source answers reply,
    (performKeyCall P (.load initializedAt source) answers rows').2 = .ok reply → reply = .seed m

/-- From these rows on, every call that succeeds in pinning a bot, or in loading it, gives the
bot. -/
def AlwaysPins (P : KeyPrimitives) (rows : List KeyMaterialRow) (id : Int) : Prop :=
  ∀ rows', (keyMachine P).Runs (fun _ _ => True) rows rows' → ∀ call answers reply,
    (call = .persisted ∨ ∃ authenticatedBotId, call = .pin authenticatedBotId) →
      (performKeyCall P call answers rows').2 = .ok reply → reply = .bot id

theorem alwaysLoads_of_ready {r : KeyMaterialRow} {bytes : List UInt8} (hr : r ∈ rows)
    (hready : r.Ready) (hseed : ∀ seed, r.masterSeed = .blob seed → seed = bytes) :
    AlwaysLoads P rows ⟨1, bytes⟩ := by
  intro rows' hrun initializedAt source answers reply hreply
  obtain ⟨hgives, hkept, hheld⟩ := performKeyCall_ok hreply
  cases reply with
  | bot id => exact hgives.elim
  | seed m =>
    have hall := KeyMaterialRow.kept_trans (keyMachine_kept hrun) hkept
    obtain ⟨hversion, hblob⟩ := HoldsSeed.unique hr hready hall hheld
    rw [← hversion, ← hseed _ hblob]

theorem alwaysPins_of_pinned {r : KeyMaterialRow} {id : Int} (hr : r ∈ rows)
    (hpinned : r.telegramBotId ≠ .null) (hid : ∀ value, r.telegramBotId = .integer value → value = id) :
    AlwaysPins P rows id := by
  intro rows' hrun call answers reply hcall hreply
  obtain ⟨hgives, hkept, hheld⟩ := performKeyCall_ok hreply
  cases reply with
  | seed m =>
    obtain rfl | ⟨authenticatedBotId, rfl⟩ := hcall
    · exact hgives.elim
    · exact hgives.elim
  | bot value =>
    have hall := KeyMaterialRow.kept_trans (keyMachine_kept hrun) hkept
    rw [hid _ (HoldsBot.unique hr hpinned hall hheld)]

/-- **The seed and the bot of an installation are for good.** Whatever the table begins with, whichever
statements fail and wherever the process stops, a call that fails leaves the rows as they were; from
a row that is READY on, and from the first load that succeeds, all loads that succeed give one seed;
and from a pinned bot on, all calls that succeed in pinning one give that bot. -/
theorem key_material_for_good (P : KeyPrimitives) (rows : List KeyMaterialRow) :
    (∀ call answers e, (performKeyCall P call answers rows).2 = .error e →
      (performKeyCall P call answers rows).1 = rows) ∧
    (KeyMaterialReady rows → ∃ m, AlwaysLoads P rows m) ∧
    (BotPinned rows → ∃ id, AlwaysPins P rows id) ∧
    (∀ initializedAt source answers reply,
      (performKeyCall P (.load initializedAt source) answers rows).2 = .ok reply →
        KeyMaterialReady (performKeyCall P (.load initializedAt source) answers rows).1 ∧
          ∃ m, reply = .seed m ∧
            AlwaysLoads P (performKeyCall P (.load initializedAt source) answers rows).1 m) ∧
    ∀ authenticatedBotId answers reply,
      (performKeyCall P (.pin authenticatedBotId) answers rows).2 = .ok reply →
        BotPinned (performKeyCall P (.pin authenticatedBotId) answers rows).1 ∧
          ∃ id, reply = .bot id ∧
            AlwaysPins P (performKeyCall P (.pin authenticatedBotId) answers rows).1 id := by
  refine ⟨fun call answers e => performKeyCall_error, ?_, ?_, ?_, ?_⟩
  · rintro ⟨r, hr, hready⟩
    cases hseed : r.masterSeed with
    | blob bytes =>
      refine ⟨⟨1, bytes⟩, alwaysLoads_of_ready hr hready fun seed h => ?_⟩
      rw [hseed] at h
      exact (SqlValue.blob.inj h).symm
    | null | integer | real | text =>
      -- no load succeeds
      refine ⟨⟨1, []⟩, alwaysLoads_of_ready hr hready fun seed h => ?_⟩
      rw [hseed] at h
      cases h
  · rintro ⟨r, hr, hpinned⟩
    cases hbot : r.telegramBotId with
    | integer id =>
      refine ⟨id, alwaysPins_of_pinned hr hpinned fun value h => ?_⟩
      rw [hbot] at h
      exact (SqlValue.integer.inj h).symm
    | null => exact absurd hbot hpinned
    | real | text | blob =>
      refine ⟨0, alwaysPins_of_pinned hr hpinned fun value h => ?_⟩
      rw [hbot] at h
      cases h
  · intro initializedAt source answers reply hreply
    obtain ⟨hgives, -, hheld⟩ := performKeyCall_ok hreply
    cases reply with
    | bot id => exact hgives.elim
    | seed m =>
      obtain ⟨hversion, r, hone, hready, hseed⟩ := hheld
      have hr : r ∈ (performKeyCall P (.load initializedAt source) answers rows).1 := by
        rw [hone]
        exact List.mem_singleton_self _
      refine ⟨⟨r, hr, hready⟩, m, rfl, ?_⟩
      have hloads := alwaysLoads_of_ready (P := P) hr hready fun seed h =>
        (SqlValue.blob.inj (hseed.symm.trans h)).symm
      rwa [← hversion] at hloads
  · intro authenticatedBotId answers reply hreply
    obtain ⟨hgives, -, hheld⟩ := performKeyCall_ok hreply
    cases reply with
    | seed m => exact hgives.elim
    | bot id =>
      obtain ⟨r, hone, hbot⟩ := hheld
      have hr : r ∈ (performKeyCall P (.pin authenticatedBotId) answers rows).1 := by
        rw [hone]
        exact List.mem_singleton_self _
      have hpinned : r.telegramBotId ≠ .null := by simp [hbot]
      exact ⟨⟨r, hr, hpinned⟩, id, rfl, alwaysPins_of_pinned hr hpinned fun value h =>
        (SqlValue.integer.inj (hbot.symm.trans h)).symm⟩

/-- The row a seed is written to. -/
def KeyMaterialRow.initialized (P : KeyPrimitives) (initializedAt : DateTime)
    (seed : Vector UInt8 32) : KeyMaterialRow where
  singleton := .integer 1
  keyVersion := .integer 1
  state := .text "READY"
  masterSeed := .blob seed.toList
  seedChecksum :=
    .blob (P.sha256 ("chathygiene.master-seed-checksum.v1".toUTF8.toList ++ seed.toList)).toList
  initializedAt := .text (P.toRfc3339 initializedAt)
  telegramBotId := .null

/-- The first load succeeds if nothing fails and the timestamp is read back. -/
theorem load_initializes {initializedAt parsed : DateTime} (seed : Vector UInt8 32)
    (hparse : P.parseTimestamp (P.toRfc3339 initializedAt) = some parsed) :
    performKeyCall P (.load initializedAt (some seed)) none [.migrated] =
      ([.initialized P initializedAt seed], .ok (.seed ⟨1, seed.toList⟩)) := by
  have hchecksum (s : KeySession) : seedChecksum P 1 seed.toList s = .ok
      ((P.sha256 ("chathygiene.master-seed-checksum.v1".toUTF8.toList ++ seed.toList)).toList, s) := by
    simp [seedChecksum]
  have hpending (s : KeySession) : validateMetadata P ⟨1, 1, "PENDING", .null, none, .null, none,
      .null, none, .null, none⟩ s = .ok (.pending, s) := by
    simp [validateMetadata]
  have hready (s : KeySession) : validateMetadata P ⟨1, 1, "READY", .blob, some 32, .blob, some 32,
      .text, some (P.toRfc3339 initializedAt), .null, none⟩ s = .ok (.ready parsed none, s) := by
    simp [validateMetadata, validateBotId, KeyUow.okOr, hparse]
  -- with these, the call is run statement by statement
  simp [performKeyCall, Txn.commit, KeyCall.run, loadOrInitializeMasterSeedWith, loadMetadata,
    KeyUow.select, KeyUow.statement, KeyUow.update, KeyUow.okOr, Txn.read, Txn.write, singleRow,
    loadAndValidateReadySeed, KeyMaterialRow.migrated, KeyMaterialRow.initialized,
    KeyMaterialRow.check, SqlValue.integer?, SqlValue.text?, SqlValue.bytes?, SqlValue.typeof,
    SqlValue.length, hpending, hchecksum, hready, bind, StateT.bind, Except.bind]

end Runs

end ChatHygiene
