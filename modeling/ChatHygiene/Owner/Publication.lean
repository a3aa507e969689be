import ChatHygiene.Owner.ClaimFile
/-!
# Publication is safe

Whatever the directory holds, the file manager publishes nothing but the
complete command, and removes nothing but its own files: what it has not
inspected it leaves alone.
-/

namespace ChatHygiene

namespace ClaimFile

open Crash (Prog)
open Crash.Prog (Runs)

theorem except_bind_ok {α β : Type} {x : Except ClaimFileError α} {f : α → Except ClaimFileError β}
    {b : β} (h : x >>= f = .ok b) : ∃ a, x = .ok a ∧ f a = .ok b := by
  cases x with
  | ok a => exact ⟨a, rfl, h⟩
  | error e => cases h

/-! ## Calls -/

namespace Directory

variable {d d' : Directory} {name : Name}

/-- A new file stands under the name. -/
structure Created (uid gid mode : Nat) (name : Name) (d d' : Directory) : Prop where
  absent : d.entry name = none
  entry : d'.entry = Function.update d.entry name (some d.next)
  inode : d'.inode = Function.update d.inode d.next ⟨.file, mode, uid, gid, 1, []⟩
  owner : d'.uid = d.uid ∧ d'.gid = d.gid

theorem create_created {uid gid mode : Nat} (h : create uid gid mode name d = .ok d') :
    Created uid gid mode name d d' := by
  unfold create at h
  split at h
  · cases h
  · next hnone =>
    cases h
    exact ⟨hnone, rfl, rfl, rfl, rfl⟩

theorem create_ok (uid gid mode : Nat) (h : d.entry name = none) :
    ∃ d', create uid gid mode name d = .ok d' := by
  unfold create
  split
  · next ino hino =>
    rw [h] at hino
    cases hino
  · exact ⟨_, rfl⟩

/-- The file has a second name. -/
structure Linked (source destination : Name) (d d' : Directory) (ino : Nat) : Prop where
  source : d.entry source = some ino
  absent : d.entry destination = none
  entry : d'.entry = Function.update d.entry destination (some ino)
  inode : d'.inode = Function.update d.inode ino
    { d.inode ino with nlink := (d.inode ino).nlink + 1 }
  owner : d'.uid = d.uid ∧ d'.gid = d.gid

theorem link_linked {source destination : Name} (h : link source destination d = .ok d') :
    ∃ ino, Linked source destination d d' ino := by
  unfold link at h
  split at h
  · next ino hsource hnone =>
    cases h
    exact ⟨ino, hsource, hnone, rfl, rfl, rfl, rfl⟩
  · cases h

theorem link_ok {source destination : Name} {ino : Nat} (hsource : d.entry source = some ino)
    (hnone : d.entry destination = none) : ∃ d', link source destination d = .ok d' := by
  unfold link
  split
  · exact ⟨_, rfl⟩
  · next hother => exact (hother ino hsource hnone).elim

/-- The name is gone, and the file has one less. -/
structure Unlinked (name : Name) (d d' : Directory) (ino : Nat) : Prop where
  present : d.entry name = some ino
  entry : d'.entry = Function.update d.entry name none
  inode : d'.inode = Function.update d.inode ino
    { d.inode ino with nlink := (d.inode ino).nlink - 1 }
  owner : d'.uid = d.uid ∧ d'.gid = d.gid

theorem unlink_unlinked (h : unlink name d = .ok d') : ∃ ino, Unlinked name d d' ino := by
  unfold unlink at h
  split at h
  · cases h
  · next ino hino =>
    cases h
    exact ⟨ino, hino, rfl, rfl, rfl, rfl⟩

theorem unlink_ok {ino : Nat} (h : d.entry name = some ino) : ∃ d', unlink name d = .ok d' := by
  unfold unlink
  split
  · next hnone =>
    rw [h] at hnone
    cases hnone
  · exact ⟨_, rfl⟩

@[simp] theorem updateInode_inode (ino : Nat) (f : Inode → Inode) :
    (d.updateInode ino f).inode = Function.update d.inode ino (f (d.inode ino)) := rfl

end Directory

/-! ## What an inspected entry is -/

section

variable {m : ClaimFileManager} {d : Directory} {name : Name} {temporary : Bool}
  {expected : List UInt8} {entry : Entry}

/-- What the manager may remove under a name: the command, or under the temporary name a beginning
of it. -/
def Removable (expected : List UInt8) (name : Name) (content : List UInt8) : Prop :=
  content = expected ∨ name = .temp ∧ content <+: expected

/-- The entry is the one the directory has, and what it holds is known. -/
structure Inspected (expected : List UInt8) (name : Name) (d : Directory) (entry : Entry) : Prop where
  fd : d.entry name = some entry.fd
  removable : Removable expected name (d.inode entry.fd).content

/-- The file is short enough to be read to its end. -/
theorem length_of_statSafe {stat : Inode} (h : m.statSafe temporary stat = true) :
    stat.content.length ≤ maxReadLen := by
  simp only [ClaimFileManager.statSafe, Bool.and_eq_true, Bool.not_eq_true', Bool.or_eq_false_iff,
    decide_eq_false_iff_not, not_lt] at h
  exact h.1.2

theorem inspectEntry_some (hname : temporary = true → name = .temp)
    (h : m.inspectEntry name temporary expected d = .ok (some entry)) :
    Inspected expected name d entry := by
  unfold ClaimFileManager.inspectEntry at h
  cases hfd : d.entry name with
  | none =>
    rw [hfd] at h
    cases h
  | some fd =>
    rw [hfd] at h
    dsimp only at h
    split at h
    · cases h
    · split at h
      · cases h
      · next hsafe =>
        split at h
        · next content hcontent =>
          cases h
          refine ⟨hfd, ?_⟩
          have hlength := length_of_statSafe (by simpa using hsafe)
          unfold ClaimFileManager.contentOf at hcontent
          rw [List.take_of_length_le hlength] at hcontent
          dsimp only at hcontent
          split at hcontent
          · next hexact => exact .inl hexact
          · split at hcontent
            · next hstart =>
              simp only [Bool.and_eq_true, decide_eq_true_eq, List.isPrefixOf_iff_prefix] at hstart
              exact .inr ⟨hname hstart.1.1, hstart.2⟩
            · cases hcontent
        · cases h

/-- What a safe pair of entries is. -/
theorem inspectPair_ok {target temp : Option Entry}
    (h : m.inspectPair expected d = .ok (target, temp)) :
    (∀ entry ∈ target, Inspected expected .target d entry) ∧
      ∀ entry ∈ temp, Inspected expected .temp d entry := by
  unfold ClaimFileManager.inspectPair at h
  obtain ⟨-, -, h⟩ := except_bind_ok h
  obtain ⟨target', htarget, h⟩ := except_bind_ok h
  obtain ⟨temp', htemp, h⟩ := except_bind_ok h
  obtain ⟨-, -, h⟩ := except_bind_ok h
  obtain ⟨rfl, rfl⟩ := Prod.mk.inj (Except.ok.inj h)
  refine ⟨fun entry hentry => ?_, fun entry hentry => ?_⟩
  · obtain rfl := Option.mem_def.1 hentry
    exact inspectEntry_some (by simp) htarget
  · obtain rfl := Option.mem_def.1 hentry
    exact inspectEntry_some (by simp) htemp

end

/-! ## Whatever the directory -/

/-- A step that publishes nothing but the command and removes nothing it may not. -/
structure SafeStep (expected : List UInt8) (d d' : Directory) : Prop where
  publishes : ∀ ino, d'.entry .target = some ino →
    (d.entry .target = some ino ∧ (d'.inode ino).content = (d.inode ino).content) ∨
      (d'.inode ino).content = expected
  removes : ∀ name ino, d.entry name = some ino → d'.entry name = some ino ∨
    Removable expected name (d.inode ino).content

section

variable {m : ClaimFileManager} {d d' : Directory} {name : Name} {expected : List UInt8}
  {entry : Entry} {ino : Nat}

theorem Directory.Unlinked.content (h : Unlinked name d d' ino) (k : Nat) :
    (d'.inode k).content = (d.inode k).content := by
  rw [h.inode]
  by_cases hk : k = ino
  · rw [hk, Function.update_self]
  · rw [Function.update_of_ne hk]

theorem Directory.Unlinked.entry_of_some (h : Unlinked name d d' ino) {name' : Name} {k : Nat}
    (hk : d'.entry name' = some k) : d.entry name' = some k := by
  rw [h.entry] at hk
  by_cases hname : name' = name
  · rw [hname, Function.update_self] at hk
    cases hk
  · rwa [Function.update_of_ne hname] at hk

/-- Entries go, and files stay as they are. -/
structure Fewer (d d' : Directory) : Prop where
  entry : ∀ name ino, d'.entry name = some ino → d.entry name = some ino
  content : ∀ ino, (d'.inode ino).content = (d.inode ino).content

protected theorem Fewer.refl (d : Directory) : Fewer d d := ⟨fun _ _ h => h, fun _ => rfl⟩

/-- A removable entry is removed safely. -/
theorem unlinkVerified_safe (h : ∀ ino, d.entry name = some ino → ino = entry.fd →
    Removable expected name (d.inode ino).content) :
    Runs (ClaimFileManager.unlinkVerified name entry) d (SafeStep expected)
      fun _ d' => Fewer d d' := by
  refine Runs.bind_look ?_
  cases hmatch : pathMatchesEntry name entry d with
  | error e => exact .refl d
  | ok same =>
    cases same with
    | false => exact .throw (.refl d)
    | true =>
      refine Runs.call (fun d' hd' => ?_) fun e _ => .refl d
      obtain ⟨ino, hunlinked⟩ := Directory.unlink_unlinked hd'
      have hfd : ino = entry.fd := by
        unfold pathMatchesEntry at hmatch
        rw [hunlinked.present] at hmatch
        simpa using hmatch
      refine ⟨⟨fun k hk => .inl ⟨hunlinked.entry_of_some hk, hunlinked.content k⟩, ?_⟩,
        fun _ _ => hunlinked.entry_of_some, hunlinked.content⟩
      intro name' k hk
      by_cases hname : name' = name
      · subst hname
        exact .inr (h k hk (Option.some.inj (hk.symm.trans hunlinked.present) ▸ hfd))
      · rw [hunlinked.entry, Function.update_of_ne hname]
        exact .inl hk

theorem unlinkTemp_safe {temp : Option Entry} (h : ∀ entry ∈ temp, ∀ ino,
    d.entry .temp = some ino → ino = entry.fd → Removable expected .temp (d.inode ino).content) :
    Runs (ClaimFileManager.unlinkTemp temp) d (SafeStep expected) fun _ d' => Fewer d d' := by
  cases temp with
  | none => exact .pure (.refl d)
  | some temp =>
    refine Runs.bind_look ?_
    cases pathMatchesEntry .temp temp d with
    | error e => exact .refl d
    | ok same =>
      cases same with
      | false => exact .pure (.refl d)
      | true =>
        refine Runs.bind ((unlinkVerified_safe (h temp rfl)).mono fun r d' hfewer => ?_)
        cases r with
        | ok u => exact .pure hfewer
        | error e => exact hfewer

/-- The temporary file is open and holds `content`; it has not been published. -/
structure Unpublished (fd : Nat) (content : List UInt8) (d : Directory) : Prop where
  temp : d.entry .temp = some fd
  target : d.entry .target ≠ some fd
  content : (d.inode fd).content = content

/-- A change of the temporary file publishes nothing. -/
theorem Unpublished.updateInode {fd : Nat} {content : List UInt8} (h : Unpublished fd content d)
    (f : Inode → Inode) : SafeStep expected d (d.updateInode fd f) ∧
      Unpublished fd (f (d.inode fd)).content (d.updateInode fd f) := by
  refine ⟨⟨fun ino hino => .inl ⟨hino, ?_⟩, fun name ino hino => .inl hino⟩, h.temp, h.target, ?_⟩
  · have hne : ino ≠ fd := by
      rintro rfl
      exact h.target hino
    rw [Directory.updateInode_inode, Function.update_of_ne hne]
  · rw [Directory.updateInode_inode, Function.update_self]

theorem createTemp_safe (d : Directory) : Runs m.createTemp d (SafeStep expected) fun r d' =>
    match r with
    | .ok fd => Unpublished fd [] d'
    | .error _ => True := by
  refine Runs.bind (Runs.call (fun d' hd' => ?_) fun e _ => trivial)
  have hcreated := Directory.create_created hd'
  have htemp : d'.entry .temp = some d.next := by rw [hcreated.entry, Function.update_self]
  have htarget : d'.entry .target = d.entry .target := by
    rw [hcreated.entry, Function.update_of_ne (by decide)]
  have hfresh (name : Name) : d.entry name ≠ some d.next := fun h => by
    have hlt := d.bound name d.next h
    omega
  refine ⟨⟨fun ino hino => .inl ⟨htarget ▸ hino, ?_⟩, fun name ino hino => .inl ?_⟩, ?_⟩
  · have hne : ino ≠ d.next := by
      rintro rfl
      exact hfresh .target (htarget ▸ hino)
    rw [hcreated.inode, Function.update_of_ne hne]
  · have hne : name ≠ .temp := by
      rintro rfl
      rw [hcreated.absent] at hino
      cases hino
    rw [hcreated.entry, Function.update_of_ne hne]
    exact hino
  · refine Runs.look ?_
    rw [htemp]
    refine ⟨htemp, ?_, ?_⟩
    · rw [htarget]
      exact hfresh .target
    · rw [hcreated.inode, Function.update_self]

theorem writeAll_safe {fd : Nat} {content : List UInt8} (bytes : List UInt8)
    (h : Unpublished fd content d) : Runs (writeAll fd bytes) d (SafeStep expected) fun r d' =>
      r = .ok () ∧ Unpublished fd (content ++ bytes) d' := by
  refine Runs.each (I := fun rest d' => ∃ written, written ++ rest = content ++ bytes ∧
    Unpublished fd written d') bytes ?_ ?_ ⟨content, rfl, h⟩
  · rintro byte rest d' ⟨written, hwritten, hunpublished⟩
    refine Runs.call (fun d'' hd'' => ?_) fun e he => by cases he
    obtain rfl := Except.ok.inj hd''
    have hupdate : SafeStep expected d' _ ∧ Unpublished fd _ _ := hunpublished.updateInode
      fun inode => { inode with content := inode.content ++ [byte] }
    obtain ⟨hsafe, hnext⟩ := hupdate
    refine ⟨hsafe, written ++ [byte], by simpa using hwritten, ?_⟩
    rw [hunpublished.content] at hnext
    exact hnext
  · rintro d' ⟨written, hwritten, hunpublished⟩
    rw [List.append_nil] at hwritten
    exact ⟨rfl, hwritten ▸ hunpublished⟩

theorem setOwnership_safe {fd : Nat} {content : List UInt8} (h : Unpublished fd content d) :
    Runs (m.setOwnership fd) d (SafeStep expected) fun r d' =>
      r = .ok () ∧ Unpublished fd content d' := by
  unfold ClaimFileManager.setOwnership
  split
  · refine Runs.call (fun d' hd' => ?_) fun e he => by cases he
    obtain rfl := Except.ok.inj hd'
    have hupdate : SafeStep expected d _ ∧ Unpublished fd _ _ := h.updateInode
      fun inode => { inode with uid := m.expectedUid, gid := m.expectedGid }
    rw [h.content] at hupdate
    exact ⟨hupdate.1, rfl, hupdate.2⟩
  · exact .pure ⟨rfl, h⟩

/-- **Publication is safe**, whatever is there already. -/
theorem createAndPublish_safe (d : Directory) :
    Runs (m.createAndPublish expected) d (SafeStep expected) fun _ _ => True := by
  refine Runs.bind ((createTemp_safe d).mono fun r d₁ hr => ?_)
  cases r with
  | error e => trivial
  | ok fd =>
    refine Runs.bind ((setOwnership_safe hr).mono ?_)
    rintro _ d₂ ⟨rfl, hempty⟩
    refine Runs.bind_look ?_
    cases m.verifyNewTemp fd d₂ with
    | error e => trivial
    | ok u =>
      refine Runs.bind ((writeAll_safe expected hempty).mono ?_)
      rintro _ d₃ ⟨rfl, hwritten⟩
      refine Runs.bind (.pure (Runs.bind (Runs.call (fun d₄ hd₄ => ?_) fun e _ => trivial)))
      obtain ⟨ino, hlinked⟩ := Directory.link_linked hd₄
      obtain rfl : fd = ino := Option.some.inj (hwritten.temp.symm.trans hlinked.source)
      have hcontent (k : Nat) : (d₄.inode k).content = (d₃.inode k).content := by
        rw [hlinked.inode]
        by_cases hk : k = fd
        · rw [hk, Function.update_self]
        · rw [Function.update_of_ne hk]
      refine ⟨⟨fun k hk => .inr ?_, fun name k hk => .inl ?_⟩, ?_⟩
      · -- what is published is what has been written
        rw [hlinked.entry, Function.update_self] at hk
        rw [← Option.some.inj hk, hcontent, hwritten.content, List.nil_append]
      · have hne : name ≠ .target := by
          rintro rfl
          rw [hlinked.absent] at hk
          cases hk
        rw [hlinked.entry, Function.update_of_ne hne]
        exact hk
      · refine Runs.bind (.pure (Runs.bind_look (Runs.bind ?_)))
        refine (unlinkVerified_safe fun k _ hk => .inl ?_).mono fun r d' _ => ?_
        · rw [show k = fd from hk, hcontent, hwritten.content, List.nil_append]
        · cases r with
          | ok u => exact .pure trivial
          | error e => trivial

/-- What has been inspected is removable still when entries have gone. -/
theorem Fewer.removable (hfewer : Fewer d d') {entry : Entry} (h : Inspected expected name d entry)
    (ino : Nat) (_ : d'.entry name = some ino) (hfd : ino = entry.fd) :
    Removable expected name (d'.inode ino).content := by
  rw [hfewer.content, hfd]
  exact h.removable

theorem Inspected.safe {temp : Option Entry} (h : ∀ entry ∈ temp, Inspected expected .temp d entry) :
    Runs (ClaimFileManager.unlinkTemp temp) d (SafeStep expected) fun _ _ => True :=
  (unlinkTemp_safe fun entry hentry => (Fewer.refl d).removable (h entry hentry)).mono
    fun _ _ _ => trivial

theorem retireAfterClaim_safe {hexEncode : List UInt8 → List UInt8} {token : List UInt8}
    (hexpected : expectedCommand hexEncode token = .ok expected) (d : Directory) :
    Runs (m.retireAfterClaim hexEncode token) d (SafeStep expected) fun _ _ => True := by
  refine Runs.bind_look ?_
  rw [hexpected]
  refine Runs.bind_look ?_
  cases hpair : m.inspectPair expected d with
  | error e => trivial
  | ok pair =>
    obtain ⟨target, temp⟩ := pair
    obtain ⟨htarget, htemp⟩ := inspectPair_ok hpair
    cases target with
    | none => exact Inspected.safe htemp
    | some target =>
      have hremovable := (Fewer.refl d).removable (htarget target rfl)
      refine Runs.bind ((unlinkVerified_safe hremovable).mono fun r d₁ hfewer => ?_)
      cases r with
      | error e => trivial
      | ok u =>
        refine Runs.bind (.pure ?_)
        exact (unlinkTemp_safe fun entry hentry => hfewer.removable (htemp entry hentry)).mono
          fun _ _ _ => trivial

theorem reconcileUnclaimed_safe {hexEncode : List UInt8 → List UInt8} {token : List UInt8}
    (hexpected : expectedCommand hexEncode token = .ok expected) (d : Directory) :
    Runs (m.reconcileUnclaimed hexEncode token) d (SafeStep expected) fun _ _ => True := by
  refine Runs.bind_look ?_
  rw [hexpected]
  refine Runs.bind_look ?_
  cases hpair : m.inspectPair expected d with
  | error e => trivial
  | ok pair =>
    obtain ⟨target, temp⟩ := pair
    obtain ⟨-, htemp⟩ := inspectPair_ok hpair
    cases target with
    | some target => exact Inspected.safe htemp
    | none =>
      cases temp with
      | none => exact createAndPublish_safe d
      | some temp =>
        have hremovable := (Fewer.refl d).removable (htemp temp rfl)
        refine Runs.bind ((unlinkVerified_safe hremovable).mono fun r d₁ _ => ?_)
        cases r with
        | error e => trivial
        | ok u => exact Runs.bind (.pure (createAndPublish_safe d₁))

/-- **Whatever the directory holds, no operation takes an unsafe step.** -/
theorem ClaimFileOp.run_safe {hexEncode : List UInt8 → List UInt8} {token : List UInt8}
    (hexpected : expectedCommand hexEncode token = .ok expected) (op : ClaimFileOp)
    (d : Directory) : Runs (op.run m hexEncode token) d (SafeStep expected) fun _ _ => True := by
  cases op with
  | validateExistingBeforeReconciliation =>
    refine Runs.bind_look ?_
    rw [hexpected]
    refine Runs.bind_look ?_
    cases m.inspectPair expected d with
    | error e => trivial
    | ok pair => exact .pure trivial
  | reconcile owner =>
    cases owner with
    | unclaimed => exact reconcileUnclaimed_safe hexpected d
    | claimed u c s f b => exact retireAfterClaim_safe hexpected d
  | retireAfterClaim => exact retireAfterClaim_safe hexpected d

end

end ClaimFile

end ChatHygiene
