import ChatHygiene.Lib.Machine
import ChatHygiene.Owner.Publication
/-!
# Crashes converge

Wherever the file manager is stopped, it leaves one of five shapes of the
directory, and it goes on from each of them: to the published command without an
Owner, and to nothing with one.
-/

namespace ChatHygiene

namespace ClaimFile

open Crash (Prog)
open Crash.Prog (Runs)

/-! ## Where the manager is stopped -/

/-- A file of the manager. -/
def commandFile (uid gid nlink : Nat) (content : List UInt8) : Inode :=
  ⟨.file, ownerReadWrite, uid, gid, nlink, content⟩

/-- What the directory holds of the claim file. -/
inductive Shape (m : ClaimFileManager) (expected : List UInt8) (d : Directory) : Prop where
  | absent (htarget : d.entry .target = none) (htemp : d.entry .temp = none)
  | created (ino : Nat) (htarget : d.entry .target = none) (htemp : d.entry .temp = some ino)
      (hinode : d.inode ino = commandFile m.serviceUid m.serviceGid 1 [])
  | written (ino : Nat) (content : List UInt8) (htarget : d.entry .target = none)
      (htemp : d.entry .temp = some ino)
      (hinode : d.inode ino = commandFile m.expectedUid m.expectedGid 1 content)
      (hcontent : content <+: expected)
  | linked (ino : Nat) (htarget : d.entry .target = some ino) (htemp : d.entry .temp = some ino)
      (hinode : d.inode ino = commandFile m.expectedUid m.expectedGid 2 expected)
  | published (ino : Nat) (htarget : d.entry .target = some ino) (htemp : d.entry .temp = none)
      (hinode : d.inode ino = commandFile m.expectedUid m.expectedGid 1 expected)

/-- The directory of the manager, in one of the shapes. -/
structure Recoverable (m : ClaimFileManager) (expected : List UInt8) (d : Directory) : Prop where
  uid : d.uid = m.expectedUid
  gid : d.gid = m.expectedGid
  shape : Shape m expected d

section

variable {m : ClaimFileManager} {d d' : Directory} {expected : List UInt8} {ino : Nat}

theorem contentOf_exact {temporary : Bool} {nlink : Nat} (hlength : expected.length = commandLen) :
    m.contentOf temporary expected (commandFile m.expectedUid m.expectedGid nlink expected) =
      .ok .exactContent := by
  have hread : expected.take maxReadLen = expected :=
    List.take_of_length_le (by rw [maxReadLen]; omega)
  simp [ClaimFileManager.contentOf, commandFile, hread]

theorem contentOf_unfinished {uid gid nlink : Nat} {content : List UInt8}
    (hlength : expected.length = commandLen) (hstart : content <+: expected)
    (hne : content ≠ expected) :
    m.contentOf true expected (commandFile uid gid nlink content) = .ok .partialContent := by
  have hle := hstart.length_le
  have hlt : content.length < expected.length := by
    refine Nat.lt_of_le_of_ne hle fun heq => hne ?_
    exact hstart.eq_of_length heq
  have hread : (commandFile uid gid nlink content).content.take maxReadLen = content :=
    List.take_of_length_le (show content.length ≤ maxReadLen by rw [maxReadLen]; omega)
  unfold ClaimFileManager.contentOf
  rw [hread]
  simp [hne, hlt, hstart]

/-- The manager takes its own target for what it is. -/
theorem inspectEntry_target {nlink : Nat} (hentry : d.entry .target = some ino)
    (hinode : d.inode ino = commandFile m.expectedUid m.expectedGid nlink expected)
    (hnlink : nlink = 1 ∨ nlink = 2) (hlength : expected.length = commandLen) :
    m.inspectEntry .target false expected d = .ok (some ⟨ino, d.inode ino, .exactContent⟩) := by
  have hsafe : m.statSafe false (commandFile m.expectedUid m.expectedGid nlink expected) = true := by
    rcases hnlink with rfl | rfl <;> simp [ClaimFileManager.statSafe, commandFile, maxReadLen, hlength]
  unfold ClaimFileManager.inspectEntry
  rw [hentry]
  dsimp only
  rw [hinode, hsafe, contentOf_exact hlength]
  rfl

/-- The manager takes its own temporary file for what it is. -/
theorem inspectEntry_temp {uid gid nlink : Nat} {content : List UInt8}
    (hentry : d.entry .temp = some ino) (hinode : d.inode ino = commandFile uid gid nlink content)
    (hnlink : nlink = 1 ∨ nlink = 2) (hlength : expected.length = commandLen)
    (howner : uid = m.expectedUid ∧ gid = m.expectedGid ∧ content <+: expected ∨
      uid = m.serviceUid ∧ gid = m.serviceGid ∧ nlink = 1 ∧ content = []) :
    ∃ entryContent, m.inspectEntry .temp true expected d =
        .ok (some ⟨ino, d.inode ino, entryContent⟩) ∧
      (content = expected → entryContent = .exactContent) := by
  have hstart : content <+: expected := by
    rcases howner with ⟨-, -, hstart⟩ | ⟨-, -, -, rfl⟩
    · exact hstart
    · exact List.nil_prefix
  have hle := hstart.length_le
  have hsafe : m.statSafe true (commandFile uid gid nlink content) = true := by
    have hread : content.length ≤ maxReadLen := by rw [maxReadLen]; omega
    rcases howner with ⟨rfl, rfl, -⟩ | ⟨rfl, rfl, rfl, -⟩
    · rcases hnlink with rfl | rfl <;> simp [ClaimFileManager.statSafe, commandFile, hread]
    · simp [ClaimFileManager.statSafe, commandFile, hread]
  unfold ClaimFileManager.inspectEntry
  rw [hentry]
  dsimp only
  rw [hinode, hsafe]
  by_cases hexact : content = expected
  · -- a complete file has its owner, since an empty one is not complete
    rcases howner with ⟨rfl, rfl, -⟩ | ⟨-, -, -, rfl⟩
    · rw [hexact, contentOf_exact hlength]
      exact ⟨_, rfl, fun _ => rfl⟩
    · rw [← hexact] at hlength
      cases hlength
  · rw [contentOf_unfinished hlength hstart hexact]
    exact ⟨_, rfl, fun h => absurd h hexact⟩

/-- **A recoverable directory is found safe**, and its entries are what they are. -/
theorem Recoverable.inspectPair (h : Recoverable m expected d)
    (hlength : expected.length = commandLen) : ∃ target temp,
      m.inspectPair expected d = .ok (target, temp) ∧
      d.entry .target = target.map (·.fd) ∧ d.entry .temp = temp.map (·.fd) := by
  have hopen : m.openDirectory d = .ok () := if_pos ⟨h.uid, h.gid⟩
  have hnone {name : Name} {temporary : Bool} (hentry : d.entry name = none) :
      m.inspectEntry name temporary expected d = .ok none := by
    unfold ClaimFileManager.inspectEntry
    rw [hentry]
  unfold ClaimFileManager.inspectPair
  rw [hopen]
  cases h.shape with
  | absent htarget htemp =>
    rw [hnone htarget, hnone htemp]
    exact ⟨none, none, rfl, htarget, htemp⟩
  | created ino htarget htemp hinode =>
    obtain ⟨content, htemp', -⟩ := inspectEntry_temp htemp hinode (.inl rfl) hlength
      (.inr ⟨rfl, rfl, rfl, rfl⟩)
    rw [hnone htarget, htemp', hinode]
    exact ⟨none, some _, rfl, htarget, htemp⟩
  | written ino content htarget htemp hinode hcontent =>
    obtain ⟨content, htemp', -⟩ := inspectEntry_temp htemp hinode (.inl rfl) hlength
      (.inl ⟨rfl, rfl, hcontent⟩)
    rw [hnone htarget, htemp', hinode]
    exact ⟨none, some _, rfl, htarget, htemp⟩
  | linked ino htarget htemp hinode =>
    obtain ⟨content, htemp', hexact⟩ := inspectEntry_temp htemp hinode (.inr rfl) hlength
      (.inl ⟨rfl, rfl, List.prefix_rfl⟩)
    rw [inspectEntry_target htarget hinode (.inr rfl) hlength, htemp', hinode, hexact rfl]
    let entry : Entry :=
      ⟨ino, commandFile m.expectedUid m.expectedGid 2 expected, .exactContent⟩
    have hpair : validatePair (some entry) (some entry) = .ok () := by
      simp [entry, validatePair, sameInode, commandFile]
    refine ⟨some entry, some entry, ?_, htarget, htemp⟩
    change validatePair (some entry) (some entry) >>= _ = _
    rw [hpair]
    rfl
  | published ino htarget htemp hinode =>
    rw [inspectEntry_target htarget hinode (.inl rfl) hlength, hnone htemp, hinode]
    exact ⟨some _, none, rfl, htarget, htemp⟩

/-! ## Going on -/

/-- Removing an entry that is there. -/
theorem unlinkVerified_runs {R : Directory → Directory → Prop} {name : Name} {entry : Entry}
    (hentry : d.entry name = some entry.fd)
    {Q : Except ClaimFileError Unit → Directory → Prop}
    (h : ∀ d', Directory.Unlinked name d d' entry.fd → R d d' ∧ Q (.ok ()) d') :
    Runs (ClaimFileManager.unlinkVerified name entry) d R Q := by
  have hmatch : pathMatchesEntry name entry d = .ok true := by
    unfold pathMatchesEntry
    rw [hentry]
    simp
  refine Runs.bind_look ?_
  rw [hmatch]
  obtain ⟨d', hd'⟩ := Directory.unlink_ok hentry
  refine Runs.call (fun d'' hd'' => ?_) fun e he => ?_
  · obtain ⟨ino, hunlinked⟩ := Directory.unlink_unlinked hd''
    obtain rfl : entry.fd = ino := Option.some.inj (hentry.symm.trans hunlinked.present)
    exact h d'' hunlinked
  · rw [hd'] at he
    cases he

/-- Neither file is left. -/
structure Gone (d : Directory) : Prop where
  target : d.entry .target = none
  temp : d.entry .temp = none

/-- The command is published, under its name alone. -/
structure Published (expected : List UInt8) (d : Directory) : Prop where
  target : ∃ ino, d.entry .target = some ino ∧ (d.inode ino).content = expected ∧
    (d.inode ino).nlink = 1
  temp : d.entry .temp = none

theorem Published.of_inode {uid gid : Nat} (htarget : d.entry .target = some ino)
    (htemp : d.entry .temp = none) (hinode : d.inode ino = commandFile uid gid 1 expected) :
    Published expected d := by
  refine ⟨⟨ino, htarget, ?_, ?_⟩, htemp⟩
  · rw [hinode]
    rfl
  · rw [hinode]
    rfl

theorem Recoverable.of_gone (h : Recoverable m expected d) (howner : d'.uid = d.uid ∧ d'.gid = d.gid)
    (hgone : Gone d') : Recoverable m expected d' :=
  ⟨howner.1.trans h.uid, howner.2.trans h.gid, .absent hgone.target hgone.temp⟩

/-- Without a target, the temporary file goes and leaves nothing. -/
theorem Recoverable.unlink_temp (h : Recoverable m expected d) (htarget : d.entry .target = none)
    {ino : Nat} (hunlinked : Directory.Unlinked .temp d d' ino) :
    Recoverable m expected d' ∧ Gone d' := by
  have hgone : Gone d' := by
    refine ⟨?_, ?_⟩
    · rw [hunlinked.entry, Function.update_of_ne (by decide)]
      exact htarget
    · rw [hunlinked.entry, Function.update_self]
  exact ⟨h.of_gone hunlinked.owner hgone, hgone⟩

/-- Of two names of the published file, either can go. -/
theorem Recoverable.unlink_linked (h : Recoverable m expected d) {ino : Nat}
    (htarget : d.entry .target = some ino) (htemp : d.entry .temp = some ino)
    (hinode : d.inode ino = commandFile m.expectedUid m.expectedGid 2 expected) {name : Name}
    (hunlinked : Directory.Unlinked name d d' ino) :
    Recoverable m expected d' ∧ d'.inode ino = commandFile m.expectedUid m.expectedGid 1 expected := by
  have hinode' : d'.inode ino = commandFile m.expectedUid m.expectedGid 1 expected := by
    rw [hunlinked.inode, Function.update_self, hinode]
    rfl
  refine ⟨⟨hunlinked.owner.1.trans h.uid, hunlinked.owner.2.trans h.gid, ?_⟩, hinode'⟩
  cases name with
  | target =>
    refine .written ino expected ?_ ?_ hinode' List.prefix_rfl
    · rw [hunlinked.entry, Function.update_self]
    · rw [hunlinked.entry, Function.update_of_ne (by decide)]
      exact htemp
  | temp =>
    refine .published ino ?_ ?_ hinode'
    · rw [hunlinked.entry, Function.update_of_ne (by decide)]
      exact htarget
    · rw [hunlinked.entry, Function.update_self]

theorem unlinkTemp_runs {R : Directory → Directory → Prop} {temp : Entry}
    (hentry : d.entry .temp = some temp.fd) {Q : Except ClaimFileError Unit → Directory → Prop}
    (h : ∀ d', Directory.Unlinked .temp d d' temp.fd → R d d' ∧ Q (.ok ()) d') :
    Runs (ClaimFileManager.unlinkTemp (some temp)) d R Q := by
  have hmatch : pathMatchesEntry .temp temp d = .ok true := by
    unfold pathMatchesEntry
    rw [hentry]
    simp
  refine Runs.bind_look ?_
  rw [hmatch]
  refine Runs.bind (unlinkVerified_runs hentry fun d' hunlinked => ?_)
  obtain ⟨hR, hQ⟩ := h d' hunlinked
  exact ⟨hR, .pure hQ⟩

/-! ### Publication -/

/-- There is a temporary file, and nothing else. -/
structure TempFile (m : ClaimFileManager) (fd uid gid : Nat) (content : List UInt8) (d : Directory) :
    Prop where
  owner : d.uid = m.expectedUid ∧ d.gid = m.expectedGid
  target : d.entry .target = none
  temp : d.entry .temp = some fd
  inode : d.inode fd = commandFile uid gid 1 content

theorem TempFile.recoverable {fd : Nat} {content : List UInt8}
    (h : TempFile m fd m.expectedUid m.expectedGid content d) (hcontent : content <+: expected) :
    Recoverable m expected d :=
  ⟨h.owner.1, h.owner.2, .written fd content h.target h.temp h.inode hcontent⟩

theorem TempFile.recoverable_created {fd : Nat} (h : TempFile m fd m.serviceUid m.serviceGid [] d) :
    Recoverable m expected d :=
  ⟨h.owner.1, h.owner.2, .created fd h.target h.temp h.inode⟩

theorem TempFile.updateInode {fd uid gid uid' gid' : Nat} {content content' : List UInt8}
    (h : TempFile m fd uid gid content d) {f : Inode → Inode}
    (hf : f (commandFile uid gid 1 content) = commandFile uid' gid' 1 content') :
    TempFile m fd uid' gid' content' (d.updateInode fd f) := by
  refine ⟨h.owner, h.target, h.temp, ?_⟩
  rw [Directory.updateInode_inode, Function.update_self, h.inode, hf]

theorem createTemp_runs (h : Recoverable m expected d) (hgone : Gone d) :
    Runs m.createTemp d (fun _ d' => Recoverable m expected d') fun r d' =>
      ∃ fd, r = .ok fd ∧ TempFile m fd m.serviceUid m.serviceGid [] d' := by
  refine Runs.bind (Runs.call (fun d' hd' => ?_) fun e he => ?_)
  · have hcreated := Directory.create_created hd'
    have htemp : d'.entry .temp = some d.next := by rw [hcreated.entry, Function.update_self]
    have hfile : TempFile m d.next m.serviceUid m.serviceGid [] d' := by
      refine ⟨⟨hcreated.owner.1.trans h.uid, hcreated.owner.2.trans h.gid⟩, ?_, htemp, ?_⟩
      · rw [hcreated.entry, Function.update_of_ne (by decide)]
        exact hgone.target
      · rw [hcreated.inode, Function.update_self]
        rfl
    refine ⟨hfile.recoverable_created, Runs.look ?_⟩
    rw [htemp]
    exact ⟨_, rfl, hfile⟩
  · obtain ⟨d', hd'⟩ := Directory.create_ok m.serviceUid m.serviceGid ownerReadWrite hgone.temp
    rw [hd'] at he
    cases he

/-- A process that is not root owns its directory, and the manager says so. -/
def OwnsDirectory (m : ClaimFileManager) : Prop := m.serviceUid = 0 ∨ m.serviceUid = m.expectedUid

/-- The process can give a file the owner of the directory. -/
def CanOwn (m : ClaimFileManager) : Prop := m.serviceUid = 0 ∨ m.serviceGid = m.expectedGid

theorem setOwnership_runs (hm : OwnsDirectory m) {fd : Nat}
    (h : TempFile m fd m.serviceUid m.serviceGid [] d) :
    Runs (m.setOwnership fd) d (fun _ d' => Recoverable m expected d') fun r d' => r = .ok () ∧
      ∃ uid gid, TempFile m fd uid gid [] d' ∧ Recoverable m expected d' ∧
        (CanOwn m → uid = m.expectedUid ∧ gid = m.expectedGid) := by
  unfold ClaimFileManager.setOwnership
  split
  · refine Runs.call (fun d' hd' => ?_) fun e he => by cases he
    obtain rfl := Except.ok.inj hd'
    have hfile : TempFile m fd m.expectedUid m.expectedGid [] _ := h.updateInode
      (f := fun inode => { inode with uid := m.expectedUid, gid := m.expectedGid }) rfl
    have hrecoverable : Recoverable m expected _ := hfile.recoverable List.nil_prefix
    exact ⟨hrecoverable, rfl, _, _, hfile, hrecoverable, fun _ => ⟨rfl, rfl⟩⟩
  · next hroot =>
    refine .pure ⟨rfl, _, _, h, h.recoverable_created, fun hown => ?_⟩
    exact ⟨hm.resolve_left hroot, hown.resolve_left hroot⟩

theorem verifyNewTemp_eq {fd uid gid : Nat} {content : List UInt8}
    (h : TempFile m fd uid gid content d) : m.verifyNewTemp fd d =
      if uid = m.expectedUid ∧ gid = m.expectedGid then .ok () else .error .unsafeEntry := by
  unfold ClaimFileManager.verifyNewTemp
  rw [h.inode]
  by_cases howner : uid = m.expectedUid ∧ gid = m.expectedGid
  · rw [if_pos howner]
    simp [commandFile, howner]
  · rw [if_neg howner]
    refine if_pos ?_
    rcases not_and_or.1 howner with huid | hgid
    · exact .inr (.inr (.inl huid))
    · exact .inr (.inr (.inr (.inl hgid)))

theorem writeAll_runs {fd : Nat} (h : TempFile m fd m.expectedUid m.expectedGid [] d) :
    Runs (writeAll fd expected) d (fun _ d' => Recoverable m expected d') fun r d' => r = .ok () ∧
      TempFile m fd m.expectedUid m.expectedGid expected d' := by
  refine Runs.each (I := fun rest d' => ∃ written, written ++ rest = expected ∧
    TempFile m fd m.expectedUid m.expectedGid written d') expected ?_ ?_ ⟨[], rfl, h⟩
  · rintro byte rest d' ⟨written, hwritten, hfile⟩
    refine Runs.call (fun d'' hd'' => ?_) fun e he => by cases he
    obtain rfl := Except.ok.inj hd''
    have hnext : TempFile m fd m.expectedUid m.expectedGid (written ++ [byte]) _ :=
      hfile.updateInode (f := fun inode => { inode with content := inode.content ++ [byte] }) rfl
    have hrest : written ++ [byte] ++ rest = expected := by simpa using hwritten
    exact ⟨hnext.recoverable ⟨rest, hrest⟩, _, hrest, hnext⟩
  · rintro d' ⟨written, hwritten, hfile⟩
    rw [List.append_nil] at hwritten
    exact ⟨rfl, hwritten ▸ hfile⟩

/-- **Publication goes through where nothing is left**, if the file can be given its owner. -/
theorem createAndPublish_runs (hm : OwnsDirectory m) (h : Recoverable m expected d)
    (hgone : Gone d) : Runs (m.createAndPublish expected) d (fun _ d' => Recoverable m expected d')
      fun r d' => Recoverable m expected d' ∧
        (CanOwn m → r = .ok () ∧ Published expected d') := by
  refine Runs.bind ((createTemp_runs h hgone).mono ?_)
  rintro _ d₁ ⟨fd, rfl, hcreated⟩
  refine Runs.bind ((setOwnership_runs hm hcreated).mono ?_)
  rintro _ d₂ ⟨rfl, uid, gid, hfile, hrecoverable, howned⟩
  refine Runs.bind_look ?_
  rw [verifyNewTemp_eq hfile]
  split
  · next howner =>
    obtain ⟨rfl, rfl⟩ := howner
    refine Runs.bind ((writeAll_runs hfile).mono ?_)
    rintro _ d₃ ⟨rfl, hwritten⟩
    refine Runs.bind (.pure (Runs.bind (Runs.call (fun d₄ hd₄ => ?_) fun e he => ?_)))
    · obtain ⟨ino, hlinked⟩ := Directory.link_linked hd₄
      obtain rfl : fd = ino := Option.some.inj (hwritten.temp.symm.trans hlinked.source)
      have hinode : d₄.inode fd = commandFile m.expectedUid m.expectedGid 2 expected := by
        rw [hlinked.inode, Function.update_self, hwritten.inode]
        rfl
      have htarget : d₄.entry .target = some fd := by rw [hlinked.entry, Function.update_self]
      have htemp : d₄.entry .temp = some fd := by
        rw [hlinked.entry, Function.update_of_ne (by decide)]
        exact hwritten.temp
      have hrecoverable₄ : Recoverable m expected d₄ :=
        ⟨hlinked.owner.1.trans hwritten.owner.1, hlinked.owner.2.trans hwritten.owner.2,
          .linked fd htarget htemp hinode⟩
      refine ⟨hrecoverable₄, Runs.bind (.pure (Runs.bind_look (Runs.bind ?_)))⟩
      refine unlinkVerified_runs htemp fun d₅ hunlinked => ?_
      obtain ⟨hrecoverable₅, hinode₅⟩ :=
        hrecoverable₄.unlink_linked htarget htemp hinode hunlinked
      refine ⟨hrecoverable₅, .pure ⟨hrecoverable₅, fun _ => ⟨rfl, .of_inode ?_ ?_ hinode₅⟩⟩⟩
      · rw [hunlinked.entry, Function.update_of_ne (by decide)]
        exact htarget
      · rw [hunlinked.entry, Function.update_self]
    · obtain ⟨d₄, hd₄⟩ := Directory.link_ok hwritten.temp hwritten.target
      rw [hd₄] at he
      cases he
  · next howner => exact ⟨hrecoverable, fun hown => absurd (howned hown) howner⟩

/-! ### The operations -/

theorem validate_runs (h : Recoverable m expected d) {hexEncode : List UInt8 → List UInt8}
    {token : List UInt8} (hexpected : expectedCommand hexEncode token = .ok expected)
    (hlength : expected.length = commandLen) {R : Directory → Directory → Prop} :
    Runs (m.validateExistingBeforeReconciliation hexEncode token) d R fun r d' =>
      r = .ok () ∧ d' = d := by
  obtain ⟨target, temp, hpair, -⟩ := h.inspectPair hlength
  refine Runs.bind_look ?_
  rw [hexpected]
  refine Runs.bind_look ?_
  rw [hpair]
  exact .pure ⟨rfl, rfl⟩

/-- **After the claim, nothing is left.** -/
theorem retireAfterClaim_runs (h : Recoverable m expected d) {hexEncode : List UInt8 → List UInt8}
    {token : List UInt8} (hexpected : expectedCommand hexEncode token = .ok expected)
    (hlength : expected.length = commandLen) :
    Runs (m.retireAfterClaim hexEncode token) d (fun _ d' => Recoverable m expected d') fun r d' =>
      Recoverable m expected d' ∧ r = .ok () ∧ Gone d' := by
  obtain ⟨target, temp, hpair, htarget, htemp⟩ := h.inspectPair hlength
  refine Runs.bind_look ?_
  rw [hexpected]
  refine Runs.bind_look ?_
  rw [hpair]
  cases target with
  | none =>
    cases temp with
    | none => exact .pure ⟨h, rfl, htarget, htemp⟩
    | some temp =>
      refine unlinkTemp_runs htemp fun d' hunlinked => ?_
      obtain ⟨hrecoverable, hgone⟩ := h.unlink_temp htarget hunlinked
      exact ⟨hrecoverable, hrecoverable, rfl, hgone⟩
  | some target =>
    refine Runs.bind (unlinkVerified_runs htarget fun d₁ hunlinked => ?_)
    have htarget₁ : d₁.entry .target = none := by rw [hunlinked.entry, Function.update_self]
    have htemp₁ : d₁.entry .temp = temp.map (·.fd) := by
      rw [hunlinked.entry, Function.update_of_ne (by decide)]
      exact htemp
    cases temp with
    | none =>
      have hgone : Gone d₁ := ⟨htarget₁, htemp₁⟩
      have hrecoverable := h.of_gone hunlinked.owner hgone
      exact ⟨hrecoverable, .bind (.pure (.pure ⟨hrecoverable, rfl, hgone⟩))⟩
    | some temp =>
      -- both names are of the published file
      have hrecoverable : Recoverable m expected d₁ := by
        cases h.shape with
        | linked ino htarget' htemp' hinode =>
          obtain rfl : ino = target.fd := Option.some.inj (htarget'.symm.trans htarget)
          exact (h.unlink_linked htarget' htemp' hinode hunlinked).1
        | published ino htarget' htemp' =>
          rw [htemp] at htemp'
          cases htemp'
        | absent htarget' | created ino htarget' | written ino content htarget' =>
          rw [htarget] at htarget'
          cases htarget'
      refine ⟨hrecoverable, .bind (.pure (unlinkTemp_runs htemp₁ fun d' hunlinked' => ?_))⟩
      obtain ⟨hrecoverable', hgone⟩ := hrecoverable.unlink_temp htarget₁ hunlinked'
      exact ⟨hrecoverable', hrecoverable', rfl, hgone⟩

/-- **Before the claim, the command ends up published**, if a file can be given its owner. -/
theorem reconcileUnclaimed_runs (hm : OwnsDirectory m) (h : Recoverable m expected d)
    {hexEncode : List UInt8 → List UInt8} {token : List UInt8}
    (hexpected : expectedCommand hexEncode token = .ok expected)
    (hlength : expected.length = commandLen) :
    Runs (m.reconcileUnclaimed hexEncode token) d (fun _ d' => Recoverable m expected d')
      fun r d' => Recoverable m expected d' ∧ (CanOwn m → r = .ok () ∧ Published expected d') := by
  obtain ⟨target, temp, hpair, htarget, htemp⟩ := h.inspectPair hlength
  refine Runs.bind_look ?_
  rw [hexpected]
  refine Runs.bind_look ?_
  rw [hpair]
  cases target with
  | none =>
    cases temp with
    | none => exact createAndPublish_runs hm h ⟨htarget, htemp⟩
    | some temp =>
      refine Runs.bind (unlinkVerified_runs htemp fun d₁ hunlinked => ?_)
      obtain ⟨hrecoverable, hgone⟩ := h.unlink_temp htarget hunlinked
      exact ⟨hrecoverable, .bind (.pure (createAndPublish_runs hm hrecoverable hgone))⟩
  | some target =>
    cases h.shape with
    | linked ino htarget' htemp' hinode =>
      obtain rfl : ino = target.fd := Option.some.inj (htarget'.symm.trans htarget)
      cases temp with
      | none =>
        rw [htemp] at htemp'
        cases htemp'
      | some temp =>
        refine unlinkTemp_runs htemp fun d₁ hunlinked => ?_
        have hsame : target.fd = temp.fd := Option.some.inj (htemp'.symm.trans htemp)
        rw [← hsame] at hunlinked
        obtain ⟨hrecoverable, hinode₁⟩ := h.unlink_linked htarget' htemp' hinode hunlinked
        refine ⟨hrecoverable, hrecoverable, fun _ => ⟨rfl, .of_inode ?_ ?_ hinode₁⟩⟩
        · rw [hunlinked.entry, Function.update_of_ne (by decide)]
          exact htarget'
        · rw [hunlinked.entry, Function.update_self]
    | published ino htarget' htemp' hinode =>
      cases temp with
      | none =>
        exact .pure ⟨h, fun _ => ⟨rfl, .of_inode htarget' htemp' hinode⟩⟩
      | some temp =>
        rw [htemp] at htemp'
        cases htemp'
    | absent htarget' | created ino htarget' | written ino content htarget' =>
      rw [htarget] at htarget'
      cases htarget'

/-- **Every operation leaves the directory recoverable**, wherever it is stopped. -/
theorem ClaimFileOp.run_recovers (hm : OwnsDirectory m) (h : Recoverable m expected d)
    {hexEncode : List UInt8 → List UInt8} {token : List UInt8}
    (hexpected : expectedCommand hexEncode token = .ok expected)
    (hlength : expected.length = commandLen) (op : ClaimFileOp) :
    Runs (op.run m hexEncode token) d (fun _ d' => Recoverable m expected d')
      fun _ d' => Recoverable m expected d' := by
  have hretire := (retireAfterClaim_runs h hexpected hlength).mono fun _ _ hQ => hQ.1
  cases op with
  | validateExistingBeforeReconciliation =>
    refine (validate_runs h hexpected hlength).mono ?_
    rintro _ d' ⟨-, rfl⟩
    exact h
  | reconcile owner =>
    cases owner with
    | unclaimed => exact (reconcileUnclaimed_runs hm h hexpected hlength).mono fun _ _ hQ => hQ.1
    | claimed u c s f b => exact hretire
  | retireAfterClaim => exact hretire

end

/-! ## Crashes -/

/-- The service with its claim file: it starts on an empty directory, and every operation on the
file is stopped after some steps, or at its end. -/
def crashes (euid egid : Nat) (m : ClaimFileManager) (hexEncode : List UInt8 → List UInt8)
    (token : List UInt8) : Machine Directory (ClaimFileOp × Nat) where
  init d := d.entry .target = none ∧ d.entry .temp = none ∧
    fromDatabaseDescriptor d euid egid = .ok m
  step d input := some ((input.1.run m hexEncode token).stoppedAfter d input.2)

/-- From the directory, the service converges: the entries are valid, without an Owner the command
is published, and with one nothing is left. -/
structure Converges (m : ClaimFileManager) (hexEncode : List UInt8 → List UInt8)
    (token expected : List UInt8) (d : Directory) : Prop where
  validates : (m.validateExistingBeforeReconciliation hexEncode token d).result = .ok ()
  unclaimed : (m.reconcile .unclaimed hexEncode token d).result = .ok () ∧
    Published expected (m.reconcile .unclaimed hexEncode token d).final
  claimed : ∀ u c s f b, (m.reconcile (.claimed u c s f b) hexEncode token d).result = .ok () ∧
    Gone (m.reconcile (.claimed u c s f b) hexEncode token d).final

section

variable {euid egid : Nat} {m : ClaimFileManager} {hexEncode : List UInt8 → List UInt8}
  {token expected : List UInt8} {d : Directory}

theorem expectedCommand_length (h : expectedCommand hexEncode token = .ok expected) :
    expected.length = commandLen := by
  unfold expectedCommand at h
  split at h
  · cases h
  · split at h
    · cases h
    · next hhex =>
      obtain rfl := Except.ok.inj h
      simp only [List.length_append, not_not.1 hhex]
      rfl

/-- The manager is made for its directory by the process. -/
theorem fromDatabaseDescriptor_ok (h : fromDatabaseDescriptor d euid egid = .ok m) :
    OwnsDirectory m ∧ d.uid = m.expectedUid ∧ d.gid = m.expectedGid := by
  unfold fromDatabaseDescriptor at h
  split at h
  · cases h
  · next hother =>
    obtain rfl := Except.ok.inj h
    refine ⟨?_, rfl, rfl⟩
    by_cases hroot : euid = 0
    · exact .inl hroot
    · exact .inr (by_contra fun hne => hother ⟨hroot, Ne.symm hne⟩)

/-- **Whatever the crashes, the directory is recoverable.** -/
theorem recoverable (hexpected : expectedCommand hexEncode token = .ok expected)
    (h : (crashes euid egid m hexEncode token).Reachable d) :
    OwnsDirectory m ∧ Recoverable m expected d := by
  refine h.invariant (P := fun d => OwnsDirectory m ∧ Recoverable m expected d) ?_ ?_
  · rintro d ⟨htarget, htemp, hmanager⟩
    obtain ⟨hm, huid, hgid⟩ := fromDatabaseDescriptor_ok hmanager
    exact ⟨hm, huid, hgid, .absent htarget htemp⟩
  · rintro d ⟨op, n⟩ d' _ ⟨hm, hrecoverable⟩ _ hstep
    obtain rfl := Option.some.inj hstep
    have hruns := ClaimFileOp.run_recovers hm hrecoverable hexpected
      (expectedCommand_length hexpected) op
    exact ⟨hm, hruns.stoppedAfter hrecoverable n⟩

/-- **Crash convergence of the claim file.** Whatever the crashes, the entries are valid and a
claimed service leaves neither; where the process can give a file the owner of its directory, an
unclaimed one publishes the command and leaves nothing else. And whatever the directory, no step
publishes anything else, or removes an entry it may not. -/
theorem claim_file_converges (hexpected : expectedCommand hexEncode token = .ok expected) :
    (∀ d, (crashes euid egid m hexEncode token).Reachable d →
      (m.validateExistingBeforeReconciliation hexEncode token d).result = .ok () ∧
      (∀ u c s f b, (m.reconcile (.claimed u c s f b) hexEncode token d).result = .ok () ∧
        Gone (m.reconcile (.claimed u c s f b) hexEncode token d).final) ∧
      (m.serviceUid = 0 ∨ m.serviceGid = m.expectedGid →
        (m.reconcile .unclaimed hexEncode token d).result = .ok () ∧
          Published expected (m.reconcile .unclaimed hexEncode token d).final)) ∧
    ∀ (m : ClaimFileManager) (op : ClaimFileOp) (d : Directory),
      ∀ step ∈ (op.run m hexEncode token d).steps, SafeStep expected step.1 step.2 := by
  have hlength := expectedCommand_length hexpected
  refine ⟨fun d hd => ?_, fun m op d => (ClaimFileOp.run_safe hexpected op d).steps⟩
  obtain ⟨hm, hrecoverable⟩ := recoverable hexpected hd
  refine ⟨?_, fun u c s f b => ?_, fun hown => ?_⟩
  · have hvalid := validate_runs (R := fun _ _ => True) hrecoverable hexpected hlength
    exact hvalid.final.1
  · exact (retireAfterClaim_runs hrecoverable hexpected hlength).final.2
  · exact (reconcileUnclaimed_runs hm hrecoverable hexpected hlength).final.2 hown

end

/-! ## Runs -/

namespace Sample

/-- An empty directory. -/
def emptyDirectory (uid gid : Nat) : Directory where
  uid := uid
  gid := gid
  entry _ := none
  inode _ := ⟨.other, 0, 0, 0, 0, []⟩
  next := 0
  bound _ _ h := by cases h

def hex (bytes : List UInt8) : List UInt8 :=
  bytes.flatMap fun byte =>
    [byte.toNat / 16, byte.toNat % 16].map fun n => n.digitChar.toNat.toUInt8

def token : List UInt8 := List.replicate 32 17

def command : List UInt8 :=
  "/claim ".toList.map (fun c => c.toNat.toUInt8) ++ hex token ++ [10]

end Sample

/-- A user whose group is not that of the directory makes a temporary file that it then refuses:
from the empty directory, nothing is published. -/
theorem claim_file_group_mismatch : ¬∀ (euid egid : Nat) (m : ClaimFileManager)
    (hexEncode : List UInt8 → List UInt8) (token expected : List UInt8) (d : Directory),
    expectedCommand hexEncode token = .ok expected →
    (crashes euid egid m hexEncode token).Reachable d →
    Converges m hexEncode token expected d := by
  intro h
  have hconverges := h 1000 1000 ⟨1000, 2000, 1000, 1000⟩ Sample.hex Sample.token Sample.command
    (Sample.emptyDirectory 1000 2000) rfl ⟨_, ⟨rfl, rfl, rfl⟩, .refl _⟩
  cases hconverges.unclaimed.1

/-- A service that runs as root is stopped while it writes. -/
theorem claim_file_converges_stopped : ∃ d,
    (crashes 0 0 ⟨1000, 1000, 0, 0⟩ Sample.hex Sample.token).Reachable d ∧
    d.entry .target = none ∧ d.entry .temp ≠ none ∧
    (ClaimFileManager.reconcile ⟨1000, 1000, 0, 0⟩ .unclaimed Sample.hex Sample.token d).result =
      .ok () := by
  have hexpected : expectedCommand Sample.hex Sample.token = .ok Sample.command := rfl
  have hinit : (crashes 0 0 ⟨1000, 1000, 0, 0⟩ Sample.hex Sample.token).init
      (Sample.emptyDirectory 1000 1000) := ⟨rfl, rfl, rfl⟩
  have hreached : ∃ d, (crashes 0 0 ⟨1000, 1000, 0, 0⟩ Sample.hex Sample.token).Reachable d ∧
      (d.entry .target = none && d.entry .temp ≠ none) = true :=
    Machine.reachable_of_run [(.reconcile .unclaimed, 20)] _ hinit (by decide +kernel)
  obtain ⟨d, hd, hstopped⟩ := hreached
  simp only [Bool.and_eq_true, decide_eq_true_eq] at hstopped
  have hconverges := (claim_file_converges hexpected).1 d hd
  exact ⟨d, hd, hstopped.1, hstopped.2, (hconverges.2.2 (.inl rfl)).1⟩

end ClaimFile

end ChatHygiene
