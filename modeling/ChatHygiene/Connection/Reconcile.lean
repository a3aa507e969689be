import ChatHygiene.Binding.Row
/-!
# What reconciling the trusted connection comes to

The authoritative reconciliation has one entrance and many endings. `Reconciled`
lists them with what each leaves of the trusted connection, the floor, the
outbox and the mode, so that a later argument goes through its cases and not
through the code.
-/

namespace ChatHygiene

open Txn (Respects)

variable {db db' : Database}

/-! ## Statements on connections -/

theorem updateConnection_ok {p : BusinessConnectionRecord → Bool}
    {f : BusinessConnectionRecord → BusinessConnectionRecord} {hf : Tables.ConnectionChange f}
    {n : Nat} (h : Uow.updateConnection p f hf db = .ok (n, db')) :
    n = db.businessConnection.affected p ∧
      db'.businessConnection.rows =
        db.businessConnection.rows.map (fun c => if p c then f c else c) ∧
      Frame [.connection] db.toTables db'.toTables := by
  have hframe : WritesTo [.connection] (fun _ => True) db db' :=
    (Uow.updateConnection_writes (by exact List.mem_singleton.2 rfl)).of_ok h
  obtain ⟨rfl, hdb⟩ := Prod.mk.inj (Except.ok.inj (Uow.statement_ok_iff.1 h))
  exact ⟨rfl, by rw [← hdb]; rfl, hframe.frame⟩

theorem deleteConnection_ok {p : BusinessConnectionRecord → Bool} {n : Nat}
    (h : Uow.deleteConnection p db = .ok (n, db')) :
    n = db.businessConnection.affected p ∧
      db'.businessConnection.rows = db.businessConnection.rows.filter (!p ·) ∧
      Frame [.dropConnection] db.toTables db'.toTables := by
  have hframe : WritesTo [.dropConnection] (fun _ => True) db db' :=
    (Uow.deleteConnection_writes (by exact List.mem_singleton.2 rfl)).of_ok h
  obtain ⟨rfl, hdb⟩ := Prod.mk.inj (Except.ok.inj (Uow.statement_ok_iff.1 h))
  exact ⟨rfl, by rw [← hdb]; rfl, hframe.frame⟩

/-- The row of a new connection is added. -/
theorem upsertConnection_ok {r : BusinessConnectionRecord} {u : Unit}
    (h : Uow.upsertConnection r db = .ok (u, db')) (hnone : db.businessConnection.rows = []) :
    db'.businessConnection.rows = [r] ∧ Frame [.connection] db.toTables db'.toTables := by
  have hframe : WritesTo [.connection] (fun _ => True) db db' :=
    (Uow.upsertConnection_writes (by exact List.mem_singleton.2 rfl)).of_ok h
  refine ⟨?_, hframe.frame⟩
  have h := Uow.statement_ok_iff.1 h
  unfold Tables.upsertConnection at h
  split_ifs at h with hcheck hunique hnew
  · obtain ⟨-, hdb⟩ := Prod.mk.inj (Except.ok.inj h)
    rw [← hdb]
    simp [hnone]
  · exact absurd (Table.lookup_eq_none_iff.2 (by simp [hnone])) hnew

/-- No unfinished action names the connection. -/
def Database.Retired (db : Database) (connectionId : String) : Prop :=
  ∀ a ∈ db.outboxAction.rows, a.status.unfinished = true →
    a.key.any (·.connectionId = connectionId) = false

/-- A first connection is installed. -/
theorem upsertBusinessConnection_ok_of_none {r : BusinessConnectionRecord} {u : Unit}
    (h : upsertBusinessConnection r db = .ok (u, db')) (hnone : db.businessConnection.rows = []) :
    db'.businessConnection.rows = [r] ∧ Frame [.connection] db.toTables db'.toTables := by
  unfold upsertBusinessConnection at h
  simp only [Txn.read_bind_apply, hnone, List.find?_nil] at h
  exact upsertConnection_ok h hnone

/-- **Another connection is installed over the trusted one**, which takes its unfinished actions
and the destructive mode with it. -/
theorem upsertBusinessConnection_ok_of_other {r t : BusinessConnectionRecord} {u : Unit}
    (h : upsertBusinessConnection r db = .ok (u, db')) (ht : db.businessConnection.rows = [t])
    (howner : t.ownerUserId = r.ownerUserId) (hne : t.connectionId ≠ r.connectionId) :
    db'.businessConnection.rows = [r] ∧ db'.Retired t.connectionId ∧
      db'.destructiveMode = some false ∧
      Frame [.connection, .dropConnection, .outbox, .mode] db.toTables db'.toTables := by
  have hwrites : WritesTo [.connection, .dropConnection, .outbox, .mode] (fun _ => True) db db' :=
    (upsertBusinessConnection_writes (fun _ ht => ht) r).of_ok h
  unfold upsertBusinessConnection at h
  simp only [Txn.read_bind_apply, ht, howner, hne, decide_true, ne_eq, not_false_eq_true,
    Bool.and_self, List.find?_cons_of_pos] at h
  obtain ⟨retired, db₁, hretire, h⟩ := Txn.bind_ok_iff.1 h
  obtain ⟨deleted, db₂, hdelete, h⟩ := Txn.bind_ok_iff.1 h
  obtain ⟨⟨⟩, db₃, hmode, hinsert⟩ := Txn.bind_ok_iff.1 h
  have hframe₁ : Frame [.outbox] db.toTables db₁.toTables :=
    (show WritesTo [.outbox] (fun _ => True) db db₁ from
      (Uow.updateOutbox_writes (by exact List.mem_singleton.2 rfl)).of_ok hretire).frame
  obtain ⟨-, hdb₁⟩ := Prod.mk.inj (Except.ok.inj (Uow.statement_ok_iff.1 hretire))
  obtain ⟨-, hrows₂, hframe₂⟩ := deleteConnection_ok hdelete
  have hframe₃ : Frame [.mode] db₂.toTables db₃.toTables :=
    (show WritesTo [.mode] (fun _ => True) db₂ db₃ from
      (Uow.setDestructiveMode_writes (by exact List.mem_singleton.2 rfl)).of_ok hmode).frame
  obtain ⟨-, hdb₃⟩ := Prod.mk.inj (Except.ok.inj (Uow.statement_ok_iff.1 hmode))
  have hrows₁ := hframe₁.businessConnection (by simp) (by simp)
  have hrows₃ := hframe₃.businessConnection (by simp) (by simp)
  have hnone : db₃.businessConnection.rows = [] := by
    rw [hrows₃, hrows₂, hrows₁, ht]
    simp
  obtain ⟨hrows₄, hframe₄⟩ := upsertConnection_ok hinsert hnone
  refine ⟨hrows₄, fun a ha hunfinished => ?_, ?_, hwrites.frame⟩
  · rw [hframe₄.outboxAction (by simp) (by simp) (by simp),
      hframe₃.outboxAction (by simp) (by simp) (by simp),
      hframe₂.outboxAction (by simp) (by simp) (by simp), ← hdb₁] at ha
    simp only [Table.mem_update] at ha
    obtain ⟨b, hb, rfl⟩ := ha
    by_cases hp : (b.key.any (·.connectionId = t.connectionId) && b.status.unfinished) = true
    · rw [if_pos hp] at hunfinished
      cases hunfinished
    · rw [if_neg hp] at hunfinished ⊢
      simpa [hunfinished] using hp
  · rw [hframe₄.destructiveMode (by simp), ← hdb₃]

/-! ## The endings of a reconciliation -/

/-- What both sides grant is kept. -/
def BusinessConnectionRecord.lessened (t : BusinessConnectionRecord)
    (a : BusinessConnectionCandidate) : BusinessConnectionRecord :=
  { t with
    enabled := t.enabled && a.enabled
    rights := t.rights.inter a.rights
    stateRevision := t.stateRevision + 1
    updatedAt := a.observedAt }

/-- The connection as the response has it. -/
def BusinessConnectionRecord.refreshed (t : BusinessConnectionRecord)
    (a : BusinessConnectionCandidate) : BusinessConnectionRecord :=
  { t with
    rights := a.rights
    enabled := a.enabled
    connectionEstablishedAt := some a.connectionEstablishedAt
    stateRevision := t.stateRevision + 1
    reconciliationState := .confirmed
    updatedAt := a.observedAt }

/-- The connection a response installs. -/
def BusinessConnectionCandidate.installed (a : BusinessConnectionCandidate) (revision : Nat) :
    BusinessConnectionRecord where
  connectionId := a.connectionId
  ownerUserId := a.businessUserId
  rights := a.rights
  enabled := a.enabled
  connectionEstablishedAt := some a.connectionEstablishedAt
  stateRevision := revision
  reconciliationState := .confirmed
  updatedAt := a.observedAt

/-- The write says that the response was refused. -/
def TrustedConnectionWrite.isConflict : TrustedConnectionWrite → Bool
  | .revisionConflict | .userConflict | .generationConflict => true
  | _ => false

/-- What a response about the trusted connection leaves of it. -/
inductive SameReconciled (t : BusinessConnectionRecord) (a : BusinessConnectionCandidate)
    (expected : Option Nat) : TrustedConnectionWrite → BusinessConnectionRecord → Prop
  | kept (hstale : expected ≠ some t.stateRevision) :
    SameReconciled t a expected .revisionConflict t
  | lessened (hstale : expected ≠ some t.stateRevision) :
    SameReconciled t a expected .revisionConflict (t.lessened a)
  | gated {write : TrustedConnectionWrite} (hcurrent : expected = some t.stateRevision)
    (hwrite : write.isConflict = true) (hrefused : t.ownerUserId ≠ a.businessUserId ∨
      ∃ g, t.connectionEstablishedAt = some g ∧ g ≠ a.connectionEstablishedAt) :
    SameReconciled t a expected write (t.gated true a.observedAt)
  | refreshed (hcurrent : expected = some t.stateRevision)
    (howner : t.ownerUserId = a.businessUserId) (hgeneration : ∀ g, t.connectionEstablishedAt = some g → g = a.connectionEstablishedAt) :
    SameReconciled t a expected .reconciled (t.refreshed a)

theorem SameReconciled.connectionId {t row : BusinessConnectionRecord}
    {a : BusinessConnectionCandidate} {expected : Option Nat} {write : TrustedConnectionWrite}
    (h : SameReconciled t a expected write row) : row.connectionId = t.connectionId := by
  cases h <;> rfl

/-- **What an authoritative response leaves behind**, ending by ending. -/
inductive Reconciled (a : BusinessConnectionCandidate) (expected : Option Nat)
    (db db' : Database) : TrustedConnectionWrite → Prop
  | conflict {write : TrustedConnectionWrite} (hwrite : write.isConflict = true) (h : db' = db) :
    Reconciled a expected db db' write
  | installed (revision : Nat) (hnone : db.businessConnection.rows = [])
    (hexpected : expected = none) (howner : db.ownerIdentity.ownerUserId = some a.businessUserId)
    (hfloor : db.floor < some a.connectionEstablishedAt)
    (hrows : db'.businessConnection.rows = [a.installed revision])
    (hframe : Frame [.connection, .candidate] db.toTables db'.toTables) :
    Reconciled a expected db db' .installed
  | same {write : TrustedConnectionWrite} (t row : BusinessConnectionRecord)
    (ht : db.businessConnection.rows = [t]) (hid : t.connectionId = a.connectionId)
    (hsame : SameReconciled t a expected write row) (hrows : db'.businessConnection.rows = [row])
    (hframe : Frame [.connection, .candidate] db.toTables db'.toTables) :
    Reconciled a expected db db' write
  | replaced (t : BusinessConnectionRecord) (g : Int) (revision : Nat)
    (ht : db.businessConnection.rows = [t]) (hne : t.connectionId ≠ a.connectionId)
    (hcurrent : expected = some t.stateRevision) (hgeneration : t.connectionEstablishedAt = some g)
    (howner : db.ownerIdentity.ownerUserId = some a.businessUserId) (hlater : g < a.connectionEstablishedAt) (hfloor : db.floor < some a.connectionEstablishedAt)
    (hrows : db'.businessConnection.rows = [a.installed revision])
    (hretired : db'.Retired t.connectionId) (hmode : db'.destructiveMode = some false)
    (hframe : Frame [.connection, .dropConnection, .outbox, .mode, .candidate] db.toTables
      db'.toTables) :
    Reconciled a expected db db' .replaced
  | ambiguous (t : BusinessConnectionRecord) (ht : db.businessConnection.rows = [t])
    (hne : t.connectionId ≠ a.connectionId) (hcurrent : expected = some t.stateRevision)
    (hgeneration : t.connectionEstablishedAt = some a.connectionEstablishedAt)
    (hrows : db'.businessConnection.rows = []) (hfloor : db.floor ≤ db'.floor)
    (hages : OwnerAges db db') (hrises : GuardRises db db')
    (hframe : Frame [.dropConnection, .candidate, .owner, .guard] db.toTables db'.toTables) :
    Reconciled a expected db db' .ambiguous

/-- A change of the one trusted row at its revision. -/
theorem updateTrusted_ok {t : BusinessConnectionRecord}
    {f : BusinessConnectionRecord → BusinessConnectionRecord} {hf : Tables.ConnectionChange f}
    {n : Nat} (ht : db.businessConnection.rows = [t])
    (h : Uow.updateConnection t.atRevision f hf db = .ok (n, db')) :
    n = 1 ∧ db'.businessConnection.rows = [f t] ∧
      Frame [.connection] db.toTables db'.toTables := by
  obtain ⟨hn, hrows, hframe⟩ := updateConnection_ok h
  have hp : t.atRevision t = true := by simp [BusinessConnectionRecord.atRevision]
  refine ⟨?_, ?_, hframe⟩
  · rw [hn, Table.affected, ht]
    simp [hp]
  · rw [hrows, ht]
    simp [hp]

theorem updateOne_ok {n : Nat} {u : Unit} (h : updateOne n db = .ok (u, db')) :
    n = 1 ∧ db' = db := by
  unfold updateOne at h
  split at h
  · next hone => exact ⟨hone, (Prod.mk.inj (Txn.pure_ok_iff.1 h)).2.symm⟩
  · cases h

theorem deleteConnectionCandidate_ok {connectionId : String} {n : Nat}
    (h : deleteConnectionCandidate connectionId db = .ok (n, db')) :
    Frame [.candidate] db.toTables db'.toTables :=
  (show WritesTo [.candidate] (fun _ => True) db db' from
    (deleteConnectionCandidate_writes (by simp) _).of_ok h).frame

theorem deleteConnectionCandidate_succeeds (connectionId : String) :
    Txn.Succeeds (deleteConnectionCandidate connectionId) db := by
  unfold deleteConnectionCandidate
  exact Uow.statement_succeeds_iff.2 ⟨_, rfl⟩

theorem reconcileSameTrusted_ok {t : BusinessConnectionRecord} {a : BusinessConnectionCandidate}
    {expected : Option Nat} {write : TrustedConnectionWrite}
    (ht : db.businessConnection.rows = [t])
    (h : reconcileSameTrusted t a expected db = .ok (write, db')) :
    ∃ row, SameReconciled t a expected write row ∧ db'.businessConnection.rows = [row] ∧
      Frame [.connection, .candidate] db.toTables db'.toTables := by
  have hwrites : WritesTo [.connection, .candidate] (fun _ => True) db db' :=
    (reconcileSameTrusted_writes (fun _ ht => ht) t a expected).of_ok h
  have hframe := hwrites.frame
  -- a conflict gates the row and leaves it in place
  have hgate (conflict : TrustedConnectionWrite) (hconflict : conflict.isConflict = true)
      (hcurrent : expected = some t.stateRevision) (hrefused : t.ownerUserId ≠ a.businessUserId ∨
        ∃ g, t.connectionEstablishedAt = some g ∧ g ≠ a.connectionEstablishedAt)
      (h : (do
        gateConflictingTrusted t a.observedAt
        pure conflict : Uow TrustedConnectionWrite) db = .ok (write, db')) :
      ∃ row, SameReconciled t a expected write row ∧ db'.businessConnection.rows = [row] ∧
        Frame [.connection, .candidate] db.toTables db'.toTables := by
    obtain ⟨⟨⟩, db₁, hgate, h⟩ := Txn.bind_ok_iff.1 h
    obtain ⟨rfl, rfl⟩ := Prod.mk.inj (Txn.pure_ok_iff.1 h)
    obtain ⟨n, db₂, hupdate, hone⟩ := Txn.bind_ok_iff.1 hgate
    obtain ⟨-, rfl⟩ := updateOne_ok hone
    exact ⟨_, .gated hcurrent hconflict hrefused, (updateTrusted_ok ht hupdate).2.1, hframe⟩
  unfold reconcileSameTrusted at h
  -- a response that comes too late may only take rights away
  by_cases hstale : expected ≠ some t.stateRevision
  · rw [if_pos hstale] at h
    obtain ⟨⟨⟩, db₁, hsafety, h⟩ := Txn.bind_ok_iff.1 h
    obtain ⟨rfl, rfl⟩ := Prod.mk.inj (Txn.pure_ok_iff.1 h)
    unfold applySafetyIntersection at hsafety
    split at hsafety
    · obtain ⟨-, rfl⟩ := Prod.mk.inj (Txn.pure_ok_iff.1 hsafety)
      exact ⟨t, .kept hstale, ht, hframe⟩
    · obtain ⟨n, db₂, hupdate, hone⟩ := Txn.bind_ok_iff.1 hsafety
      obtain ⟨-, rfl⟩ := updateOne_ok hone
      exact ⟨_, .lessened hstale, (updateTrusted_ok ht hupdate).2.1, hframe⟩
  · rw [if_neg hstale] at h
    have hcurrent : expected = some t.stateRevision := not_not.1 hstale
    by_cases huser : t.ownerUserId ≠ a.businessUserId
    · rw [if_pos huser] at h
      exact hgate .userConflict rfl hcurrent (.inl huser) h
    · rw [if_neg huser] at h
      by_cases hgeneration : t.connectionEstablishedAt.any (· ≠ a.connectionEstablishedAt) = true
      · rw [if_pos hgeneration] at h
        obtain ⟨g, hg, hne⟩ := (Option.any_eq_true _ _).1 hgeneration
        exact hgate .generationConflict rfl hcurrent (.inr ⟨g, hg, by simpa using hne⟩) h
      · rw [if_neg hgeneration] at h
        obtain ⟨n, db₁, hupdate, h⟩ := Txn.bind_ok_iff.1 h
        obtain ⟨rfl, hrows₁, -⟩ := updateTrusted_ok ht hupdate
        rw [if_neg (by simp)] at h
        obtain ⟨m, db₂, hdelete, h⟩ := Txn.bind_ok_iff.1 h
        obtain ⟨rfl, rfl⟩ := Prod.mk.inj (Txn.pure_ok_iff.1 h)
        have hrows₂ := (deleteConnectionCandidate_ok hdelete).businessConnection (by simp) (by simp)
        refine ⟨_, .refreshed hcurrent (not_not.1 huser) fun g hg => ?_, by rw [hrows₂]; exact hrows₁, hframe⟩
        rw [hg] at hgeneration
        simpa using hgeneration

/-- Two connections of one generation leave it to the Owner's floor. -/
theorem retainAmbiguousGenerations_ok {t : BusinessConnectionRecord}
    {a : BusinessConnectionCandidate} {ownerChatId : Int} {u : Unit}
    (ht : db.businessConnection.rows = [t])
    (hgeneration : t.connectionEstablishedAt = some a.connectionEstablishedAt)
    (h : retainAmbiguousGenerations t a ownerChatId db = .ok (u, db')) :
    db'.businessConnection.rows = [] ∧ db.floor ≤ db'.floor ∧ OwnerAges db db' ∧
      GuardRises db db' ∧
      Frame [.dropConnection, .candidate, .owner, .guard] db.toTables db'.toTables := by
  unfold retainAmbiguousGenerations at h
  obtain ⟨n, db₁, hdelete, h⟩ := Txn.bind_ok_iff.1 h
  obtain ⟨⟨⟩, s, hone, h⟩ := Txn.bind_ok_iff.1 h
  obtain ⟨-, hs⟩ := updateOne_ok hone
  rw [hs] at h
  obtain ⟨⟨⟩, db₂, hupsert₁, h⟩ := Txn.bind_ok_iff.1 h
  obtain ⟨⟨⟩, db₃, hupsert₂, h⟩ := Txn.bind_ok_iff.1 h
  obtain ⟨owner, db₄, hadvance, hguard⟩ := Txn.bind_ok_iff.1 h
  obtain ⟨-, hrows₁, hframe₁⟩ := deleteConnection_ok hdelete
  have hcandidate {c : BusinessConnectionCandidate} {s s' : Database} {u : Unit}
      (h : Uow.upsertCandidate c s = .ok (u, s')) : Frame [.candidate] s.toTables s'.toTables :=
    (show WritesTo [.candidate] (fun _ => True) s s' from
      (Uow.upsertCandidate_writes (by exact List.mem_singleton.2 rfl)).of_ok h).frame
  have hframe₁₃ : Frame [.dropConnection, .candidate] db.toTables db₃.toTables :=
    (hframe₁.mono (by simp)).trans
      (((hcandidate hupsert₁).trans (hcandidate hupsert₂)).mono (by simp))
  obtain ⟨hframe₄, howner₄, hclaimed⟩ := advanceOwnerConnectionFloor_ok hadvance
  obtain ⟨hframe₅, hguard₅⟩ := advanceOverflowGuardIfActive_ok hguard
  have howner₃ := hframe₁₃.ownerIdentity (by simp)
  have howner₅ := hframe₅.ownerIdentity (by simp)
  have hguard₄ : db₄.guard = db.guard := by
    rw [hframe₄.guard (by simp), hframe₁₃.guard (by simp)]
  rw [howner₃] at hclaimed
  -- the floor takes the generation over that the deleted row no longer holds
  obtain ⟨raised, hraised, hpast, hold⟩ := floor_raiseFloor a.connectionEstablishedAt hclaimed
  have howner' : db'.ownerIdentity.floor = some raised := by
    rw [howner₅, howner₄, howner₃, hraised]
  have hages : OwnerAges db db' := by
    unfold OwnerAges
    rw [howner₅, howner₄, howner₃]
    exact .raiseFloor _ _
  have hrises : GuardRises db db' := fun g hg => hguard₅ g (hguard₄ ▸ hg)
  refine ⟨?_, Tables.floor_mono (fun g hg => ?_) (fun c hc g hg => ?_) (fun g hg => ?_), hages,
    hrises, ?_⟩
  · rw [hframe₅.businessConnection (by simp) (by simp),
      hframe₄.businessConnection (by simp) (by simp),
      ((hcandidate hupsert₁).trans (hcandidate hupsert₂)).businessConnection (by simp) (by simp),
      hrows₁, ht]
    simp [BusinessConnectionRecord.atRevision]
  · exact generation_le_trans (Option.some_le_some.2 (hold g hg)) (Tables.owner_le_floor howner')
  · rw [ht, List.mem_singleton] at hc
    rw [hc, hgeneration] at hg
    cases hg
    exact generation_le_trans (Option.some_le_some.2 hpast) (Tables.owner_le_floor howner')
  · obtain ⟨g', hg', hle⟩ := hguard₅ g (hguard₄ ▸ hg)
    exact generation_le_trans (Option.some_le_some.2 hle) (Tables.guard_le_floor hg')
  · exact ((hframe₁₃.mono (by simp)).trans (hframe₄.mono (by simp))).trans (hframe₅.mono (by simp))

theorem installTrusted_eq (a : BusinessConnectionCandidate) (revision : Nat) :
    installTrusted a revision = upsertBusinessConnection (a.installed revision) := rfl

/-- **A reconciliation ends in one of its endings.** -/
theorem reconcileAuthoritativeTrustedConnection_ok {a : BusinessConnectionCandidate}
    {expected candidateRevision : Option Nat} {guardRevision : Nat} {write : TrustedConnectionWrite}
    (h : reconcileAuthoritativeTrustedConnection a expected candidateRevision guardRevision db =
      .ok (write, db')) : Reconciled a expected db db' write := by
  have hconflict {conflict : TrustedConnectionWrite} (hwrite : conflict.isConflict = true)
      (h : (pure conflict : Uow TrustedConnectionWrite) db = .ok (write, db')) :
      Reconciled a expected db db' write := by
    obtain ⟨rfl, rfl⟩ := Prod.mk.inj (Txn.pure_ok_iff.1 h)
    exact .conflict hwrite rfl
  unfold reconcileAuthoritativeTrustedConnection at h
  obtain ⟨⟨⟩, -, h⟩ := Txn.bind_ok_of_readOnly (validateCandidate_readOnly a) h
  -- the revisions of the snapshot come first: the guard's, then the candidate's
  change (if db.guard.stateRevision ≠ guardRevision then _ else _ : Uow _) db = _ at h
  split at h
  · exact hconflict rfl h
  change (if (db.candidate.lookup a.connectionId).map (·.stateRevision) ≠ candidateRevision then _
    else _ : Uow _) db = _ at h
  split at h
  · exact hconflict rfl h
  obtain ⟨owner, hload, h⟩ := Txn.bind_ok_of_readOnly loadOwnerIdentity_readOnly h
  cases owner with
  | unclaimed => exact hconflict rfl h
  | claimed ownerUserId ownerChatId source floor boundAt =>
    dsimp only at h
    split at h
    · exact hconflict rfl h
    next huser =>
    have hclaimed : db.ownerIdentity.ownerUserId = some a.businessUserId := by
      rw [loadOwnerIdentity_ok hload, ← not_not.1 huser]
      rfl
    obtain ⟨trusted, htrusted, h⟩ := Txn.bind_ok_of_readOnly loadSingleTrustedConnection_readOnly h
    obtain ⟨-, htrusted⟩ := loadSingleTrustedConnection_ok htrusted
    cases trusted with
    | none =>
      -- nothing is trusted: what the snapshot saw is gone, or the response is the first one
      by_cases hexpected : expected.isSome = true
      · rw [if_pos hexpected] at h
        exact hconflict rfl h
      rw [if_neg hexpected] at h
      obtain ⟨past, hpast, h⟩ :=
        Txn.bind_ok_of_readOnly (generationFloorExcluding_readOnly a.connectionId) h
      split at h
      · exact hconflict rfl h
      next hlater =>
      have hnone : db.businessConnection.rows = [] := htrusted
      obtain ⟨-, hfloor⟩ := generationFloorExcluding_ok hpast (by simpa using hlater)
        (by simp [hnone])
      obtain ⟨⟨⟩, db₁, hinstall, h⟩ := Txn.bind_ok_iff.1 h
      obtain ⟨n, db₂, hdelete, h⟩ := Txn.bind_ok_iff.1 h
      obtain ⟨rfl, rfl⟩ := Prod.mk.inj (Txn.pure_ok_iff.1 h)
      rw [installTrusted_eq] at hinstall
      obtain ⟨hrows, hframe₁⟩ := upsertBusinessConnection_ok_of_none hinstall hnone
      have hframe₂ := deleteConnectionCandidate_ok hdelete
      exact .installed _ hnone (by simpa using hexpected) hclaimed hfloor
        (by rw [hframe₂.businessConnection (by simp) (by simp), hrows])
        ((hframe₁.mono (by simp)).trans (hframe₂.mono (by simp)))
    | some t =>
      -- one connection is trusted: the response is about it, or would replace it
      have ht : db.businessConnection.rows = [t] := htrusted
      dsimp only at h
      split at h
      · next hid =>
        obtain ⟨row, hsame, hrows, hframe⟩ := reconcileSameTrusted_ok ht h
        exact .same t row ht hid hsame hrows hframe
      next hne =>
      split at h
      · exact hconflict rfl h
      next hcurrent =>
      replace hcurrent : expected = some t.stateRevision := not_not.1 hcurrent
      split at h
      · exact hconflict rfl h
      next howner =>
      replace howner : t.ownerUserId = a.businessUserId := not_not.1 howner
      cases hgeneration : t.connectionEstablishedAt with
      | none =>
        rw [hgeneration] at h
        exact hconflict rfl h
      | some g =>
      rw [hgeneration] at h
      dsimp only at h
      -- two connections of one generation: neither can be trusted
      by_cases hequal : a.connectionEstablishedAt = g
      · rw [if_pos hequal] at h
        obtain ⟨⟨⟩, db₁, hretain, h⟩ := Txn.bind_ok_iff.1 h
        obtain ⟨rfl, rfl⟩ := Prod.mk.inj (Txn.pure_ok_iff.1 h)
        rw [← hequal] at hgeneration
        obtain ⟨hrows, hfloor, hages, hrises, hframe⟩ :=
          retainAmbiguousGenerations_ok ht hgeneration hretain
        exact .ambiguous t ht hne hcurrent hgeneration hrows hfloor hages hrises hframe
      rw [if_neg hequal] at h
      obtain ⟨past, hpast, h⟩ :=
        Txn.bind_ok_of_readOnly (generationFloorExcluding_readOnly a.connectionId) h
      split at h
      · exact hconflict rfl h
      next hlater =>
      -- a later generation replaces the trusted one and retires its actions
      rw [not_or, not_lt] at hlater
      obtain ⟨-, hfloor⟩ := generationFloorExcluding_ok hpast (by simpa using hlater.2)
        (by simpa [ht] using hne)
      obtain ⟨⟨⟩, db₁, hinstall, h⟩ := Txn.bind_ok_iff.1 h
      obtain ⟨n, db₂, hdelete, h⟩ := Txn.bind_ok_iff.1 h
      obtain ⟨rfl, rfl⟩ := Prod.mk.inj (Txn.pure_ok_iff.1 h)
      rw [installTrusted_eq] at hinstall
      obtain ⟨hrows, hretired, hmode, hframe₁⟩ :=
        upsertBusinessConnection_ok_of_other hinstall ht howner hne
      have hframe₂ := deleteConnectionCandidate_ok hdelete
      refine .replaced t g _ ht hne hcurrent hgeneration hclaimed
        (lt_of_le_of_ne hlater.1 (Ne.symm hequal)) hfloor
        (by rw [hframe₂.businessConnection (by simp) (by simp), hrows]) ?_ ?_
        ((hframe₁.mono (by simp)).trans (hframe₂.mono (by simp)))
      · unfold Database.Retired
        rw [hframe₂.outboxAction (by simp) (by simp) (by simp)]
        exact hretired
      · rw [hframe₂.destructiveMode (by simp), hmode]

/-! ## The retirement -/

/-- What a not-found answer leaves behind. -/
inductive NotFound (connectionId : String) (expectedRevision : Nat) (db db' : Database) : Prop
  | absent (hnone : db.businessConnection.lookup connectionId = none)
    (hframe : Frame [.candidate] db.toTables db'.toTables)
  | conflict (h : db' = db)
  | retired (t : BusinessConnectionRecord) (ht : t ∈ db.businessConnection.rows)
    (hid : t.connectionId = connectionId) (hcurrent : t.stateRevision = expectedRevision)
    (hrows : db'.businessConnection.rows =
      db.businessConnection.rows.filter (·.connectionId ≠ connectionId))
    (hfloor : db.floor ≤ db'.floor) (hages : OwnerAges db db')
    (hframe : Frame [.owner, .dropConnection] db.toTables db'.toTables)

theorem retireTrustedConnectionNotFound_ok {connectionId : String} {expectedRevision : Nat}
    {write : TrustedConnectionWrite}
    (h : retireTrustedConnectionNotFound connectionId expectedRevision db = .ok (write, db')) :
    NotFound connectionId expectedRevision db db' := by
  unfold retireTrustedConnectionNotFound at h
  obtain ⟨trusted, htrusted, h⟩ := Txn.bind_ok_of_readOnly
    (x := loadBusinessConnectionForReconciliation connectionId) (Respects.read _) h
  obtain ⟨rfl, -⟩ := Prod.mk.inj (Txn.read_ok_iff.1 htrusted)
  cases hlookup : db.businessConnection.lookup connectionId with
  | none =>
    rw [hlookup] at h
    obtain ⟨n, db₁, hdelete, h⟩ := Txn.bind_ok_iff.1 h
    obtain ⟨-, rfl⟩ := Prod.mk.inj (Txn.pure_ok_iff.1 h)
    exact .absent hlookup (deleteConnectionCandidate_ok hdelete)
  | some t =>
    rw [hlookup] at h
    dsimp only at h
    split at h
    · exact .conflict (Prod.mk.inj (Txn.pure_ok_iff.1 h)).2.symm
    next hrevision =>
    replace hrevision : t.stateRevision = expectedRevision := not_not.1 hrevision
    obtain ⟨owner, -, h⟩ := Txn.bind_ok_of_readOnly loadOwnerIdentity_readOnly h
    cases owner with
    | unclaimed => exact .conflict (Prod.mk.inj (Txn.pure_ok_iff.1 h)).2.symm
    | claimed ownerUserId ownerChatId source floor boundAt =>
      dsimp only at h
      split at h
      · exact .conflict (Prod.mk.inj (Txn.pure_ok_iff.1 h)).2.symm
      obtain ⟨owner, db₁, hadvance, h⟩ := Txn.bind_ok_iff.1 h
      obtain ⟨n, db₂, hdelete, h⟩ := Txn.bind_ok_iff.1 h
      have ht : t ∈ db.businessConnection.rows := Table.mem_of_lookup hlookup
      have hid : t.connectionId = connectionId := Table.key_of_lookup hlookup
      obtain ⟨hframe₁, howner, hclaimed⟩ := advanceOwnerConnectionFloor_ok hadvance
      obtain ⟨hn, hrows, hframe₂⟩ := deleteConnection_ok hdelete
      have hrows₁ := hframe₁.businessConnection (by simp) (by simp)
      -- the row is still at the revision it was loaded at
      have hone : n = 1 := by
        have hp (c : BusinessConnectionRecord) (hc : (c.connectionId = connectionId &&
            c.stateRevision = expectedRevision) = true) : c.connectionId = connectionId := by
          simp only [Bool.and_eq_true, decide_eq_true_eq] at hc
          exact hc.1
        rw [hn, Table.affected_key _ hp, hframe₁.businessConnection (by simp) (by simp), hlookup]
        simp [hid, hrevision]
      rw [if_neg (not_not.2 hone)] at h
      obtain ⟨-, rfl⟩ := Prod.mk.inj (Txn.pure_ok_iff.1 h)
      obtain ⟨raised, hraised, hpast, hold⟩ := floor_raiseFloor _ hclaimed
      have howner' : db₂.ownerIdentity.floor = some raised := by
        rw [hframe₂.ownerIdentity (by simp), howner, hraised]
      have hfilter : db₂.businessConnection.rows =
          db.businessConnection.rows.filter (·.connectionId ≠ connectionId) := by
        rw [hrows, hrows₁]
        refine List.filter_congr fun c hc => ?_
        by_cases hsame : c.connectionId = connectionId
        · obtain rfl : c = t := Table.eq_of_key_eq hc ht (hsame.trans hid.symm)
          simp [hid, hrevision]
        · simp [hsame]
      have hages : OwnerAges db db₂ := by
        unfold OwnerAges
        rw [hframe₂.ownerIdentity (by simp), howner]
        exact .raiseFloor _ _
      refine .retired t ht hid hrevision hfilter (Tables.floor_mono (fun g hg => ?_)
        (fun c hc g hg => ?_) (fun g hg => ?_)) hages ((hframe₁.mono (by simp)).trans
          (hframe₂.mono (by simp)))
      · exact generation_le_trans (Option.some_le_some.2 (hold g hg)) (Tables.owner_le_floor howner')
      · by_cases hsame : c.connectionId = connectionId
        · obtain rfl : c = t := Table.eq_of_key_eq hc ht (hsame.trans hid.symm)
          rw [hg] at hpast
          refine generation_le_trans (Option.some_le_some.2 (le_trans ?_ hpast)) (Tables.owner_le_floor howner')
          dsimp only
          split
          · exact le_refl _
          · exact le_max_right _ _
        · refine Tables.trusted_le_floor (c := c) ?_ hg
          rw [hfilter]
          exact List.mem_filter.2 ⟨hc, by simpa using hsame⟩
      · refine Tables.guard_le_floor ?_
        rw [hframe₂.guard (by simp), hframe₁.guard (by simp)]
        exact hg

end ChatHygiene
