import ChatHygiene.Lib.Crash
import ChatHygiene.Storage.OwnerIdentity
/-!
# The claim file

The claim command is published as a file of the data directory: written to a
temporary file, linked to its name, and the temporary name removed. The module
is the file manager over a model of the directory; a call to the file system is
atomic, and no other process touches the directory.
-/

namespace ChatHygiene

namespace ClaimFile

open Crash (Prog)

/-! ## The directory -/

/-- `TARGET_NAME` and `TEMP_NAME`. -/
inductive Name where
  | target
  | temp
  deriving DecidableEq, Repr

inductive FileType where
  | file
  | directory
  | symlink
  | other
  deriving DecidableEq, Repr

/-- What `fstat` and `read` tell of a file. -/
structure Inode where
  fileType : FileType
  /-- The permission bits. -/
  mode : Nat
  uid : Nat
  gid : Nat
  nlink : Nat
  content : List UInt8
  deriving DecidableEq, Repr

/-- The directory, its owner, and the files it names. A number stands for a device and an inode
number; the next file gets a number that no entry has. -/
structure Directory where
  uid : Nat
  gid : Nat
  entry : Name → Option Nat
  inode : Nat → Inode
  next : Nat
  bound : ∀ name ino, entry name = some ino → ino < next

inductive ClaimFileError where
  | invalidToken
  | unsafeEntry
  | filesystem (call : String)
  deriving DecidableEq, Repr

/-! ## Calls -/

namespace Directory

/-- A change of a file that the directory names already or has just opened. -/
def updateInode (d : Directory) (ino : Nat) (f : Inode → Inode) : Directory :=
  { d with inode := Function.update d.inode ino (f (d.inode ino)) }

theorem bound_create (d : Directory) (name name' : Name) (ino : Nat)
    (h : Function.update d.entry name (some d.next) name' = some ino) : ino < d.next + 1 := by
  by_cases hname : name' = name
  · rw [hname, Function.update_self] at h
    obtain rfl := Option.some.inj h
    omega
  · rw [Function.update_of_ne hname] at h
    have hlt := d.bound name' ino h
    omega

/-- `openat` with `O_CREAT | O_EXCL`: the new file belongs to the effective user and group. -/
def create (uid gid mode : Nat) (name : Name) (d : Directory) : Except ClaimFileError Directory :=
  match d.entry name with
  | some _ => .error (.filesystem "cannot create claim-code temporary file")
  | none => .ok
    { d with
      entry := Function.update d.entry name (some d.next)
      inode := Function.update d.inode d.next ⟨.file, mode, uid, gid, 1, []⟩
      next := d.next + 1
      bound := d.bound_create name }

/-- `linkat`: a second name for the file. -/
def link (source destination : Name) (d : Directory) : Except ClaimFileError Directory :=
  match hfrom : d.entry source, d.entry destination with
  | some ino, none => .ok
    { d with
      entry := Function.update d.entry destination (some ino)
      inode := Function.update d.inode ino
        { d.inode ino with nlink := (d.inode ino).nlink + 1 }
      bound := by
        intro name' ino' h
        by_cases hname : name' = destination
        · rw [hname, Function.update_self] at h
          obtain rfl := Option.some.inj h
          exact d.bound source ino hfrom
        · rw [Function.update_of_ne hname] at h
          exact d.bound name' ino' h }
  | _, _ => .error (.filesystem "cannot publish claim-code file")

/-- `unlinkat`: the name goes, and the file has one less. -/
def unlink (name : Name) (d : Directory) : Except ClaimFileError Directory :=
  match d.entry name with
  | none => .error (.filesystem "cannot remove claim-code entry")
  | some ino => .ok
    { d with
      entry := Function.update d.entry name none
      inode := Function.update d.inode ino
        { d.inode ino with nlink := (d.inode ino).nlink - 1 }
      bound := by
        intro name' ino' h
        by_cases hname : name' = name
        · rw [hname, Function.update_self] at h
          cases h
        · rw [Function.update_of_ne hname] at h
          exact d.bound name' ino' h }

end Directory

abbrev Fs (α : Type) := Prog Directory ClaimFileError α

/-- `fchown`. -/
def fchown (fd uid gid : Nat) : Fs Unit :=
  .call fun d => .ok (d.updateInode fd fun inode => { inode with uid := uid, gid := gid })

/-- `write` of one byte at the end of the file. -/
def writeByte (fd : Nat) (byte : UInt8) : Fs Unit :=
  .call fun d => .ok (d.updateInode fd fun inode => { inode with content := inode.content ++ [byte] })

/-- Writes one byte after the other, so that a run can be stopped after any of them. -/
def writeAll (fd : Nat) (bytes : List UInt8) : Fs Unit :=
  .each (writeByte fd) bytes

/-- `fsync`: what a call has done is durable already. -/
def fsync : Fs Unit := pure ()

def unlinkat (name : Name) : Fs Unit := .call (Directory.unlink name)

/-! ## Inspection -/

def commandLen : Nat := 72

def maxReadLen : Nat := commandLen + 1

/-- `Mode::RUSR | Mode::WUSR`. -/
def ownerReadWrite : Nat := 0o600

structure ClaimFileManager where
  expectedUid : Nat
  expectedGid : Nat
  serviceUid : Nat
  serviceGid : Nat
  deriving DecidableEq, Repr

inductive EntryContent where
  | exactContent
  | partialContent
  deriving DecidableEq, Repr

structure Entry where
  fd : Nat
  stat : Inode
  content : EntryContent
  deriving DecidableEq, Repr

/-- `from_database_descriptor`, as the process with an effective user and group. -/
def fromDatabaseDescriptor (d : Directory) (euid egid : Nat) :
    Except ClaimFileError ClaimFileManager :=
  if euid ≠ 0 ∧ d.uid ≠ euid then .error (.filesystem "claim-code directory is not service-owned")
  else .ok ⟨d.uid, d.gid, euid, egid⟩

/-- The command that claims the service, as the file holds it. Hexadecimal belongs to another
crate; its output has to fill the space that is left for it. -/
def expectedCommand (hexEncode : List UInt8 → List UInt8) (token : List UInt8) :
    Except ClaimFileError (List UInt8) :=
  if token.length ≠ 32 then .error .invalidToken
  else if (hexEncode token).length ≠ 64 then .error .invalidToken
  else .ok ("/claim ".toList.map (fun c => c.toNat.toUInt8) ++ hexEncode token ++ [10])

/-- `path_matches_entry`, over `statat` with `SYMLINK_NOFOLLOW`. -/
def pathMatchesEntry (name : Name) (entry : Entry) (d : Directory) : Except ClaimFileError Bool :=
  match d.entry name with
  | none => .error .unsafeEntry
  | some ino => .ok (ino = entry.fd)

def sameInode (left right : Entry) : Bool := left.fd = right.fd

def validatePair (target temp : Option Entry) : Except ClaimFileError Unit :=
  match target, temp with
  | some target, temp =>
    if target.content ≠ .exactContent then .error .unsafeEntry
    else
      match temp with
      | none => if target.stat.nlink ≠ 1 then .error .unsafeEntry else .ok ()
      | some temp =>
        if sameInode target temp then
          if target.stat.nlink ≠ 2 ∨ temp.stat.nlink ≠ 2 ∨ temp.content ≠ .exactContent then
            .error .unsafeEntry
          else .ok ()
        else if target.stat.nlink ≠ 1 ∨ temp.stat.nlink ≠ 1 then .error .unsafeEntry
        else .ok ()
  | none, some temp => if temp.stat.nlink ≠ 1 then .error .unsafeEntry else .ok ()
  | none, none => .ok ()

namespace ClaimFileManager

variable (m : ClaimFileManager)

/-- The checks of the metadata of an entry. -/
def statSafe (temporary : Bool) (stat : Inode) : Bool :=
  let expectedOwner := stat.uid = m.expectedUid && stat.gid = m.expectedGid
  let serviceOwner := stat.uid = m.serviceUid && stat.gid = m.serviceGid
  !(stat.fileType ≠ .file || stat.mode ≠ ownerReadWrite || stat.nlink = 0 || stat.nlink > 2 ||
      stat.content.length > maxReadLen) &&
    (expectedOwner || temporary && serviceOwner && stat.nlink = 1)

/-- The check of its content. -/
def contentOf (temporary : Bool) (expected : List UInt8) (stat : Inode) :
    Except ClaimFileError EntryContent :=
  let expectedOwner := stat.uid = m.expectedUid && stat.gid = m.expectedGid
  let bytes := stat.content.take maxReadLen
  if bytes = expected then
    if expectedOwner then .ok .exactContent else .error .unsafeEntry
  else if temporary && bytes.length < expected.length && bytes.isPrefixOf expected then
    .ok .partialContent
  else .error .unsafeEntry

/-- `inspect_entry`. A link or a file that cannot be opened is as unsafe as one whose metadata are
wrong. -/
def inspectEntry (name : Name) (temporary : Bool) (expected : List UInt8) (d : Directory) :
    Except ClaimFileError (Option Entry) :=
  match d.entry name with
  | none => .ok none
  | some fd =>
    let stat := d.inode fd
    if stat.fileType = .symlink then .error .unsafeEntry
    else if !m.statSafe temporary stat then .error .unsafeEntry
    else
      match m.contentOf temporary expected stat with
      | .ok content => .ok (some ⟨fd, stat, content⟩)
      | .error error => .error error

/-- `open_directory`: the directory is the one the manager was made for. -/
def openDirectory (d : Directory) : Except ClaimFileError Unit :=
  if d.uid = m.expectedUid ∧ d.gid = m.expectedGid then .ok () else .error .unsafeEntry

/-- Both entries, if they are safe, each and together. -/
def inspectPair (expected : List UInt8) (d : Directory) :
    Except ClaimFileError (Option Entry × Option Entry) := do
  m.openDirectory d
  let target ← m.inspectEntry .target false expected d
  let temp ← m.inspectEntry .temp true expected d
  validatePair target temp
  pure (target, temp)

/-! ## The operations -/

def unlinkVerified (name : Name) (entry : Entry) : Fs Unit := do
  let same ← .look (pathMatchesEntry name entry)
  if same then unlinkat name else .throw .unsafeEntry

/-- The temporary file goes, if there is one and its name is still its own. -/
def unlinkTemp : Option Entry → Fs Unit
  | none => pure ()
  | some temp => do
    let same ← .look (pathMatchesEntry .temp temp)
    if same then
      unlinkVerified .temp temp
      fsync
    else pure ()

def verifyNewTemp (fd : Nat) (d : Directory) : Except ClaimFileError Unit :=
  let stat := d.inode fd
  if stat.fileType ≠ .file ∨ stat.mode ≠ ownerReadWrite ∨ stat.uid ≠ m.expectedUid ∨
      stat.gid ≠ m.expectedGid ∨ stat.nlink ≠ 1 then .error .unsafeEntry
  else .ok ()

def createTemp : Fs Nat := do
  .call (Directory.create m.serviceUid m.serviceGid ownerReadWrite .temp)
  .look fun d =>
    match d.entry .temp with
    | some fd => .ok fd
    | none => .error .unsafeEntry

/-- A service that runs as root gives the file to the owner of the directory. -/
def setOwnership (temp : Nat) : Fs Unit :=
  if m.serviceUid = 0 then fchown temp m.expectedUid m.expectedGid else pure ()

def createAndPublish (expected : List UInt8) : Fs Unit := do
  let temp ← m.createTemp
  m.setOwnership temp
  .look (m.verifyNewTemp temp)
  writeAll temp expected
  fsync
  .call (Directory.link .temp .target)
  fsync
  let stat ← .look fun d => .ok (d.inode temp)
  unlinkVerified .temp ⟨temp, stat, .exactContent⟩
  fsync

def validateExistingBeforeReconciliation (hexEncode : List UInt8 → List UInt8)
    (token : List UInt8) : Fs Unit := do
  let expected ← .look fun _ => expectedCommand hexEncode token
  let _ ← .look (m.inspectPair expected)
  pure ()

/-- Removes only exact safe claim-code artifacts after Owner commit. -/
def retireAfterClaim (hexEncode : List UInt8 → List UInt8) (token : List UInt8) : Fs Unit := do
  let expected ← .look fun _ => expectedCommand hexEncode token
  let (target, temp) ← .look (m.inspectPair expected)
  match target with
  | some target => do
    unlinkVerified .target target
    fsync
    unlinkTemp temp
  | none => unlinkTemp temp

def reconcileUnclaimed (hexEncode : List UInt8 → List UInt8) (token : List UInt8) : Fs Unit := do
  let expected ← .look fun _ => expectedCommand hexEncode token
  let (target, temp) ← .look (m.inspectPair expected)
  match target, temp with
  | some _, temp => unlinkTemp temp
  | none, some temp => do
    unlinkVerified .temp temp
    fsync
    m.createAndPublish expected
  | none, none => m.createAndPublish expected

/-- Reconciles the protected claim-code artifacts with persisted Owner state. -/
def reconcile (owner : OwnerIdentity) (hexEncode : List UInt8 → List UInt8) (token : List UInt8) :
    Fs Unit :=
  match owner with
  | .unclaimed => m.reconcileUnclaimed hexEncode token
  | .claimed .. => m.retireAfterClaim hexEncode token

end ClaimFileManager

/-- What the service does with the claim file. -/
inductive ClaimFileOp where
  | validateExistingBeforeReconciliation
  | reconcile (owner : OwnerIdentity)
  | retireAfterClaim
  deriving DecidableEq, Repr

def ClaimFileOp.run (m : ClaimFileManager) (hexEncode : List UInt8 → List UInt8)
    (token : List UInt8) : ClaimFileOp → Fs Unit
  | .validateExistingBeforeReconciliation => m.validateExistingBeforeReconciliation hexEncode token
  | .reconcile owner => m.reconcile owner hexEncode token
  | .retireAfterClaim => m.retireAfterClaim hexEncode token

end ClaimFile

end ChatHygiene
