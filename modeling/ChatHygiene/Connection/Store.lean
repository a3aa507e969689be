import ChatHygiene.Binding.Row
import ChatHygiene.Connection.Withheld
import ChatHygiene.System
/-!
# The connection store

The operations on the trusted connection as a machine of their own: any of them
may follow any other, with any arguments. What an operation does to the floor
and to the trusted row is one of three things, and in each the floor rises and a
generation that is lost stays behind it.
-/

namespace ChatHygiene

open Txn (Respects commit)

variable {db db' : Database}

/-- An operation on the trusted connection, its floor or its candidates. -/
inductive ConnectionOp where
  | reconcile (authoritative : BusinessConnectionCandidate)
      (expectedTrusted expectedCandidate : Option Nat) (expectedGuard : Nat)
  | retire (connectionId : String) (expectedRevision : Nat)
  | gate (connectionId : String) (now : DateTime)
  | disable (connectionId : String) (now : DateTime)
  | authFailed (now : DateTime)
  | normalize (now : DateTime)
  | publishReady (expectedRevision : Nat) (now : DateTime)
  | applyCandidate (candidate : BusinessConnectionCandidate) (expectedRevision : Option Nat)
  | prune (cutoff : DateTime) (maximumRows : Nat)
  | deleteCandidate (connectionId : String)
  | clearCandidates
  | promoteChat (ownerUserId ownerChatId : Int) (source : OwnerChatSource)

namespace ConnectionOp

/-- The transaction of the operation. -/
def transact : ConnectionOp → Uow Unit
  | .reconcile authoritative expectedTrusted expectedCandidate expectedGuard => do
    let _ ← reconcileAuthoritativeTrustedConnection authoritative expectedTrusted expectedCandidate
      expectedGuard
  | .retire connectionId expectedRevision => do
    let _ ← retireTrustedConnectionNotFound connectionId expectedRevision
  | .gate connectionId now => do
    let _ ← gateMatchingTrustedForReconciliation connectionId now
  | .disable connectionId now => disableBusinessConnection connectionId now
  | .authFailed now => do
    let _ ← setTelegramAuthFailed now
  | .normalize now => do
    let _ ← normalizeStartupReconciliation now
  | .publishReady expectedRevision now => do
    let _ ← transitionTelegramReconciliationReady expectedRevision now
  | .applyCandidate candidate expectedRevision => do
    let _ ← applyAuthoritativeCandidate candidate expectedRevision
  | .prune cutoff maximumRows => do
    let _ ← pruneConnectionCandidates cutoff maximumRows
  | .deleteCandidate connectionId => do
    let _ ← deleteConnectionCandidate connectionId
  | .clearCandidates => do
    let _ ← clearConnectionCandidates
  | .promoteChat ownerUserId ownerChatId source => do
    let _ ← promoteOwnerChat ownerUserId ownerChatId source

/-- The database after the operation is committed or rolled back. -/
def after (op : ConnectionOp) (db : Database) : Database := (commit op.transact db).1

end ConnectionOp

/-- The connection store. It starts with at most one trusted connection. -/
def connectionStore : Machine Database ConnectionOp where
  init db := db.businessConnection.rows.length ≤ 1
  step db op := some (op.after db)

/-! ## What an operation does -/

/-- **What an operation does to the trusted connection and the floor.** -/
inductive ConnectionStep (db db' : Database) : Prop
  | quiet (hrows : Withheld db db') (howner : OwnerAges db db') (hguard : GuardRises db db')
  | reconciled {a : BusinessConnectionCandidate} {expected : Option Nat}
    {write : TrustedConnectionWrite} (h : Reconciled a expected db db' write)
  | notFound {connectionId : String} {expectedRevision : Nat}
    (h : NotFound connectionId expectedRevision db db')

theorem ConnectionStep.refl (db : Database) : ConnectionStep db db :=
  .quiet (.refl _) (.of_eq rfl) (.of_eq rfl)

instance : Std.Refl ConnectionStep := ⟨ConnectionStep.refl⟩

/-- A transaction that is quiet in each of the three. -/
theorem quiet_steps {α : Type} {x : Uow α} (hrows : Respects Withheld x)
    (howner : Respects OwnerAges x) (hguard : Respects GuardRises x) :
    Respects ConnectionStep x :=
  fun _ _ _ h => .quiet (hrows _ _ _ h) (howner _ _ _ h) (hguard _ _ _ h)

/-- A transaction with targets that are no connection and no floor. -/
theorem quiet_of_writes {α : Type} {x : Uow α} (targets : List Target)
    (hrows : Target.connection ∉ targets ∧ Target.dropConnection ∉ targets)
    (hbinding : Target.owner ∉ targets ∧ Target.guard ∉ targets)
    (h : Respects (WritesTo targets fun _ => True) x) : Respects ConnectionStep x :=
  quiet_steps (withheld_of_writes targets hrows h)
    (ownerAges_of_writes targets hbinding.1 h) (guardRises_of_writes targets hbinding.2 h)

/-- A gate, which writes to connections and perhaps to the global state. -/
theorem gate_steps {α : Type} {x : Uow α} (hrows : Respects Withheld x)
    (h : Respects (WritesTo [.reconciliation, .connection] fun _ => True) x) :
    Respects ConnectionStep x :=
  quiet_steps hrows (ownerAges_of_writes _ (by simp) h) (guardRises_of_writes _ (by simp) h)

theorem transact_steps {α : Type} {x : Uow α} (h : Respects ConnectionStep x) :
    Respects ConnectionStep (do let _ ← x : Uow Unit) := by
  intro db u db' hx
  obtain ⟨a, db₁, hfirst, hpure⟩ := Txn.bind_ok_iff.1 hx
  obtain ⟨-, rfl⟩ := Prod.mk.inj (Txn.pure_ok_iff.1 hpure)
  exact h _ _ _ hfirst

/-- **Every operation is a step of the store.** -/
theorem ConnectionOp.transact_steps (op : ConnectionOp) : Respects ConnectionStep op.transact := by
  cases op with
  | reconcile a expectedTrusted expectedCandidate expectedGuard =>
    exact ChatHygiene.transact_steps fun _ _ _ h =>
      .reconciled (reconcileAuthoritativeTrustedConnection_ok h)
  | retire connectionId expectedRevision =>
    exact ChatHygiene.transact_steps fun _ _ _ h =>
      .notFound (retireTrustedConnectionNotFound_ok h)
  | gate connectionId now =>
    exact ChatHygiene.transact_steps (gate_steps
      (gateMatchingTrustedForReconciliation_withheld _ _)
      (gateMatchingTrustedForReconciliation_writes (by simp) _ _))
  | disable connectionId now =>
    exact gate_steps (disableBusinessConnection_withheld _ _)
      (disableBusinessConnection_writes (by simp) _ _)
  | authFailed now =>
    exact ChatHygiene.transact_steps (gate_steps (setTelegramAuthFailed_withheld _)
      (setTelegramAuthFailed_writes (by simp) _))
  | normalize now =>
    exact ChatHygiene.transact_steps (gate_steps (normalizeStartupReconciliation_withheld _)
      (normalizeStartupReconciliation_writes (by simp) _))
  | publishReady expectedRevision now =>
    exact ChatHygiene.transact_steps (quiet_of_writes [.reconciliation] (by simp) (by simp)
      (transitionTelegramReconciliationReady_writes (by simp) _ _))
  | applyCandidate candidate expectedRevision =>
    have hwrites : Respects (WritesTo [.candidate, .guard] fun _ => True)
        (applyAuthoritativeCandidate candidate expectedRevision) :=
      applyAuthoritativeCandidate_writes (fun _ ht => ht) candidate expectedRevision
    exact ChatHygiene.transact_steps (quiet_steps (withheld_of_writes _ (by simp) hwrites)
      (ownerAges_of_writes _ (by simp) hwrites) (applyAuthoritativeCandidate_rises _ _))
  | prune cutoff maximumRows =>
    have hwrites : Respects (WritesTo [.candidate, .guard] fun _ => True)
        (pruneConnectionCandidates cutoff maximumRows) :=
      pruneConnectionCandidates_writes (fun _ ht => ht) cutoff maximumRows
    exact ChatHygiene.transact_steps (quiet_steps (withheld_of_writes _ (by simp) hwrites)
      (ownerAges_of_writes _ (by simp) hwrites) (pruneConnectionCandidates_rises _ _))
  | deleteCandidate connectionId =>
    exact ChatHygiene.transact_steps (quiet_of_writes [.candidate] (by simp) (by simp)
      (deleteConnectionCandidate_writes (by simp) _))
  | clearCandidates =>
    exact ChatHygiene.transact_steps (quiet_of_writes [.candidate] (by simp) (by simp)
      (Uow.deleteCandidate_writes (by exact List.mem_singleton.2 rfl)))
  | promoteChat ownerUserId ownerChatId source =>
    have hwrites : Respects (WritesTo [.owner] fun _ => True)
        (promoteOwnerChat ownerUserId ownerChatId source) :=
      promoteOwnerChat_writes (by simp) ownerUserId ownerChatId source
    exact ChatHygiene.transact_steps (quiet_steps (withheld_of_writes _ (by simp) hwrites)
      (promoteOwnerChat_ages _ _ _) (guardRises_of_writes _ (by simp) hwrites))

theorem ConnectionOp.after_step (op : ConnectionOp) (db : Database) :
    ConnectionStep db (op.after db) :=
  op.transact_steps.commit db

/-! ## The floor -/

theorem Withheld.floor_le (hrows : Withheld db db') (howner : OwnerAges db db')
    (hguard : GuardRises db db') : db.floor ≤ db'.floor := by
  refine Tables.floor_mono (fun g hg => ?_) (fun c hc g hg => ?_) (fun g hg => ?_)
  · obtain ⟨g', hg', hle⟩ := howner.floor g hg
    exact generation_le_trans (Option.some_le_some.2 hle) (Tables.owner_le_floor hg')
  · obtain ⟨c', hc', hwithholds⟩ := hrows.kept hc
    exact Tables.trusted_le_floor hc' (hwithholds.established.trans hg)
  · obtain ⟨g', hg', hle⟩ := hguard g hg
    exact generation_le_trans (Option.some_le_some.2 hle) (Tables.guard_le_floor hg')

theorem SameReconciled.established {t row : BusinessConnectionRecord}
    {a : BusinessConnectionCandidate} {expected : Option Nat} {write : TrustedConnectionWrite}
    (h : SameReconciled t a expected write row) {g : Int}
    (hg : t.connectionEstablishedAt = some g) : row.connectionEstablishedAt = some g := by
  cases h with
  | kept => exact hg
  | lessened => exact hg
  | gated => exact hg
  | refreshed hcurrent howner hgeneration =>
    rw [hgeneration g hg]
    rfl

/-- The floor rises where the connections left behind are behind the one there is. -/
theorem floor_le_of_frame {targets : List Target} (hframe : Frame targets db.toTables db'.toTables)
    (howner : .owner ∉ targets) (hguard : .guard ∉ targets)
    (hrows : ∀ c ∈ db.businessConnection.rows, ∀ g, c.connectionEstablishedAt = some g →
      ∃ c' ∈ db'.businessConnection.rows, ∃ g', c'.connectionEstablishedAt = some g' ∧ g ≤ g') :
    db.floor ≤ db'.floor := by
  refine Tables.floor_mono (fun g hg => ?_) (fun c hc g hg => ?_) (fun g hg => ?_)
  · exact Tables.owner_le_floor (by rw [hframe.ownerIdentity howner]; exact hg)
  · obtain ⟨c', hc', g', hg', hle⟩ := hrows c hc g hg
    exact generation_le_trans (Option.some_le_some.2 hle) (Tables.trusted_le_floor hc' hg')
  · exact Tables.guard_le_floor (by rw [hframe.guard hguard]; exact hg)

theorem Reconciled.floor_le {a : BusinessConnectionCandidate} {expected : Option Nat}
    {write : TrustedConnectionWrite} (h : Reconciled a expected db db' write) :
    db.floor ≤ db'.floor := by
  cases h with
  | conflict hwrite hsame => exact hsame ▸ generation_le_refl _
  | installed revision hnone hexpected howner hfloor hrows hframe =>
    exact floor_le_of_frame hframe (by simp) (by simp) (by simp [hnone])
  | same t row ht hid hsame hrows hframe =>
    refine floor_le_of_frame hframe (by simp) (by simp) fun c hc g hg => ?_
    rw [ht, List.mem_singleton] at hc
    subst hc
    exact ⟨row, by simp [hrows], g, hsame.established hg, le_refl _⟩
  | replaced t g revision ht hne hcurrent hgeneration howner hlater hfloor hrows hretired hmode
      hframe =>
    refine floor_le_of_frame hframe (by simp) (by simp) fun c hc g' hg' => ?_
    rw [ht, List.mem_singleton] at hc
    subst hc
    obtain rfl : g = g' := Option.some.inj (hgeneration.symm.trans hg')
    exact ⟨_, by rw [hrows]; exact List.mem_singleton.2 rfl, _, rfl, le_of_lt hlater⟩
  | ambiguous t ht hne hcurrent hgeneration hrows hfloor hages hrises hframe => exact hfloor

theorem NotFound.floor_le {connectionId : String} {expectedRevision : Nat}
    (h : NotFound connectionId expectedRevision db db') : db.floor ≤ db'.floor := by
  cases h with
  | absent hnone hframe =>
    refine floor_le_of_frame hframe (by simp) (by simp) fun c hc g hg => ?_
    exact ⟨c, by rw [hframe.businessConnection (by simp) (by simp)]; exact hc, g, hg, le_refl _⟩
  | conflict hsame => exact hsame ▸ generation_le_refl _
  | retired t ht hid hcurrent hrows hfloor hages hframe => exact hfloor

/-- **No operation lowers the floor.** -/
theorem ConnectionStep.floor_le (h : ConnectionStep db db') : db.floor ≤ db'.floor := by
  cases h with
  | quiet hrows howner hguard => exact hrows.floor_le howner hguard
  | reconciled h => exact h.floor_le
  | notFound h => exact h.floor_le

/-! ## Lost generations -/

/-- The generation is behind the floor, and behind every connection there is. -/
structure Beyond (g : Int) (db : Database) : Prop where
  floor : some g ≤ db.floor
  rows : ∀ c ∈ db.businessConnection.rows, ∃ e, c.connectionEstablishedAt = some e ∧ g < e

/-- **A generation that is behind stays behind.** -/
theorem Beyond.step {g : Int} (hb : Beyond g db) (h : ConnectionStep db db') : Beyond g db' := by
  refine ⟨generation_le_trans hb.floor h.floor_le, fun c' hc' => ?_⟩
  cases h with
  | quiet hrows howner hguard =>
    obtain ⟨c, hc, hwithholds⟩ := hrows.row hc'
    rw [hwithholds.established]
    exact hb.rows c hc
  | @reconciled a expected write h =>
    have hpast (hfloor : db.floor < some a.connectionEstablishedAt) : g < a.connectionEstablishedAt :=
      generation_lt_of_le hb.floor hfloor
    cases h with
    | conflict hwrite hsame => exact hb.rows c' (hsame ▸ hc')
    | installed revision hnone hexpected howner hfloor hrows hframe =>
      rw [hrows, List.mem_singleton] at hc'
      subst hc'
      exact ⟨_, rfl, hpast hfloor⟩
    | same t row ht hid hsame hrows hframe =>
      rw [hrows, List.mem_singleton] at hc'
      subst hc'
      obtain ⟨e, he, hlt⟩ := hb.rows t (by simp [ht])
      exact ⟨e, hsame.established he, hlt⟩
    | replaced t e revision ht hne hcurrent hgeneration howner hlater hfloor hrows hretired hmode
        hframe =>
      rw [hrows, List.mem_singleton] at hc'
      subst hc'
      exact ⟨_, rfl, hpast hfloor⟩
    | ambiguous t ht hne hcurrent hgeneration hrows hfloor hages hrises hframe =>
      rw [hrows] at hc'
      cases hc'
  | notFound h =>
    cases h with
    | absent hnone hframe =>
      rw [hframe.businessConnection (by simp) (by simp)] at hc'
      exact hb.rows c' hc'
    | conflict hsame => exact hb.rows c' (hsame ▸ hc')
    | retired t ht hid hcurrent hrows hfloor hages hframe =>
      rw [hrows] at hc'
      exact hb.rows c' (List.mem_filter.1 hc').1

/-- At most one connection is stored. -/
theorem ConnectionStep.single (h : ConnectionStep db db')
    (hsingle : db.businessConnection.rows.length ≤ 1) :
    db'.businessConnection.rows.length ≤ 1 := by
  cases h with
  | quiet hrows howner hguard =>
    obtain ⟨f, hf, -⟩ := hrows
    simpa [hf] using hsingle
  | reconciled h =>
    cases h with
    | conflict hwrite hsame => exact hsame ▸ hsingle
    | installed revision hnone hexpected howner hfloor hrows hframe => simp [hrows]
    | same t row ht hid hsame hrows hframe => simp [hrows]
    | replaced t e revision ht hne hcurrent hgeneration howner hlater hfloor hrows => simp [hrows]
    | ambiguous t ht hne hcurrent hgeneration hrows hfloor hages hrises hframe => simp [hrows]
  | notFound h =>
    cases h with
    | absent hnone hframe =>
      rw [hframe.businessConnection (by simp) (by simp)]
      exact hsingle
    | conflict hsame => exact hsame ▸ hsingle
    | retired t ht hid hcurrent hrows hfloor hages hframe =>
      rw [hrows]
      exact (List.length_filter_le _ _).trans hsingle

/-- **A generation that is lost is behind from then on.** -/
theorem ConnectionStep.beyond (h : ConnectionStep db db')
    (hsingle : db.businessConnection.rows.length ≤ 1) {r : BusinessConnectionRecord}
    (hr : r ∈ db.businessConnection.rows) {g : Int} (hg : r.connectionEstablishedAt = some g)
    (hlost : ∀ c ∈ db'.businessConnection.rows, c.connectionId ≠ r.connectionId) :
    Beyond g db' := by
  refine ⟨generation_le_trans (Tables.trusted_le_floor hr hg) h.floor_le, fun c' hc' => ?_⟩
  have honly : ∀ c ∈ db.businessConnection.rows, c = r := by
    intro c hc
    match hrows : db.businessConnection.rows with
    | [] => rw [hrows] at hr; cases hr
    | [t] =>
      rw [hrows, List.mem_singleton] at hr hc
      rw [hc, hr]
    | _ :: _ :: _ => simp [hrows] at hsingle
  have hkept {c : BusinessConnectionRecord} (hc : c ∈ db.businessConnection.rows)
      (hid : c'.connectionId = c.connectionId) : False :=
    hlost c' hc' (hid.trans (congrArg _ (honly c hc)))
  cases h with
  | quiet hrows howner hguard =>
    obtain ⟨c, hc, hwithholds⟩ := hrows.row hc'
    exact (hkept hc hwithholds.connectionId).elim
  | reconciled h =>
    cases h with
    | conflict hwrite hsame => exact (hkept (hsame ▸ hc') rfl).elim
    | installed revision hnone =>
      rw [hnone] at hr
      cases hr
    | same t row ht hid hsame hrows hframe =>
      rw [hrows, List.mem_singleton] at hc'
      subst hc'
      exact (hkept (by simp [ht]) hsame.connectionId).elim
    | replaced t e revision ht hne hcurrent hgeneration howner hlater hfloor hrows hretired hmode
        hframe =>
      rw [hrows, List.mem_singleton] at hc'
      rw [ht, List.mem_singleton] at hr
      subst hc' hr
      obtain rfl : e = g := Option.some.inj (hgeneration.symm.trans hg)
      exact ⟨_, rfl, hlater⟩
    | ambiguous t ht hne hcurrent hgeneration hrows hfloor hages hrises hframe =>
      rw [hrows] at hc'
      cases hc'
  | notFound h =>
    cases h with
    | absent hnone hframe =>
      rw [hframe.businessConnection (by simp) (by simp)] at hc'
      exact (hkept hc' rfl).elim
    | conflict hsame => exact (hkept (hsame ▸ hc') rfl).elim
    | retired t ht hid hcurrent hrows hfloor hages hframe =>
      rw [hrows] at hc'
      exact (hkept (List.mem_filter.1 hc').1 rfl).elim

/-! ## Runs of the store -/

theorem connectionStore_step {op : ConnectionOp} (h : connectionStore.step db op = some db') :
    ConnectionStep db db' := by
  obtain rfl := Option.some.inj h
  exact op.after_step db

/-- **The generation floor.** It never falls; what is installed is past it, and is the one row that
is left; and a generation that is lost is behind every connection there will be. -/
theorem generation_floor (h : connectionStore.Reachable db) :
    (∀ db', connectionStore.Runs (fun _ _ => True) db db' → db.floor ≤ db'.floor) ∧
    (∀ a expectedTrusted expectedCandidate expectedGuard write db',
      reconcileAuthoritativeTrustedConnection a expectedTrusted expectedCandidate expectedGuard db =
        .ok (write, db') → write = .installed ∨ write = .replaced →
      db.floor < some a.connectionEstablishedAt ∧
      ∃ revision, db'.businessConnection.rows = [a.installed revision]) ∧
    ∀ r ∈ db.businessConnection.rows, ∀ g, r.connectionEstablishedAt = some g →
      ∀ (op : ConnectionOp), (∀ c ∈ (op.after db).businessConnection.rows,
        c.connectionId ≠ r.connectionId) →
      ∀ db', connectionStore.Runs (fun _ _ => True) (op.after db) db' →
      ∀ c ∈ db'.businessConnection.rows, ∃ e, c.connectionEstablishedAt = some e ∧ g < e := by
  refine ⟨fun db' hruns => ?_, fun a _ _ _ write db' hok hwrite => ?_,
    fun r hr g hg op hlost db' hruns => ?_⟩
  · exact hruns.relation (R := fun s s' => s.floor ≤ s'.floor) (fun _ => generation_le_refl _)
      (fun _ _ _ => generation_le_trans) fun _ _ _ _ hstep => (connectionStore_step hstep).floor_le
  · cases reconcileAuthoritativeTrustedConnection_ok hok with
    | conflict hconflict => rcases hwrite with rfl | rfl <;> cases hconflict
    | installed revision hnone hexpected howner hfloor hrows => exact ⟨hfloor, revision, hrows⟩
    | same t row ht hid hsame =>
      rcases hwrite with rfl | rfl
      · cases hsame with
        | gated hcurrent hconflict => cases hconflict
      · cases hsame with
        | gated hcurrent hconflict => cases hconflict
    | replaced t e revision ht hne hcurrent hgeneration howner hlater hfloor hrows =>
      exact ⟨hfloor, revision, hrows⟩
    | ambiguous => rcases hwrite with h | h <;> cases h
  · have hsingle : db.businessConnection.rows.length ≤ 1 :=
      h.invariant (fun _ => id) fun _ _ _ _ hs _ hstep => (connectionStore_step hstep).single hs
    have hbeyond : Beyond g (op.after db) := (op.after_step db).beyond hsingle hr hg hlost
    have hkept : Beyond g db' := by
      refine hruns.relation (R := fun s s' => Beyond g s → Beyond g s') (fun _ => id)
        (fun _ _ _ h h' => h' ∘ h) (fun _ _ _ _ hstep hb => ?_) hbeyond
      exact hb.step (connectionStore_step hstep)
    exact hkept.rows

section

open Sample

/-- The store of a service that has just been claimed. -/
def claimedStore : Database :=
  (commit (claimOwner 7 7 100 1) (commit (initializeOrLoadOwnerIdentity 0) (.migrated 0)).1).1

/-- What a lookup finds of a connection of the Owner. -/
def candidateOf (connectionId : String) (establishedAt : Int) (rights : BusinessRights) :
    BusinessConnectionCandidate :=
  authoritativeCandidate ⟨connectionId, 7, some 7, establishedAt, rights, true⟩ 2

/-- The connection `c` of generation 200 is installed. -/
def installed : List ConnectionOp := [.reconcile (candidateOf "c" 200 rights) none none 0]

/-- The connection `c` of generation 200 is stored, and its retirement drops it. -/
def Database.retires (db : Database) : Bool :=
  db.businessConnection.rows.any (fun r =>
    r.connectionId = "c" && r.connectionEstablishedAt = some 200) &&
  ((ConnectionOp.retire "c" 0).after db).businessConnection.rows.isEmpty

/-- What an answer about a connection `d` of generation 300 comes to. -/
def Database.answersLater (db : Database) : Except Error (TrustedConnectionWrite × Database) :=
  reconcileAuthoritativeTrustedConnection (candidateOf "d" 300 rights) (some 0) none 0 db

/-- The connection `d` replaces the one that is stored. -/
def Database.replaces (db : Database) : Bool :=
  db.answersLater.toOption.any (·.1 = .replaced)

theorem claimedStore_init : connectionStore.init claimedStore := by
  change claimedStore.businessConnection.rows.length ≤ 1
  decide +kernel

theorem installed_retires : ∃ db, connectionStore.Reachable db ∧
    (db.replaces && db.retires) = true :=
  Machine.reachable_of_run installed (fun db => db.replaces && db.retires) claimedStore_init
    (by decide +kernel)

/-- The connection `d` is installed past `c`, and nothing up to generation 200 is trusted once `c`
is retired. -/
theorem generation_floor_retired : ∃ db, connectionStore.Reachable db ∧
    (∃ db' revision, db.answersLater = .ok (.replaced, db') ∧ db.floor < some 300 ∧
      db'.businessConnection.rows = [(candidateOf "d" 300 rights).installed revision]) ∧
    ∀ db', connectionStore.Runs (fun _ _ => True) ((ConnectionOp.retire "c" 0).after db) db' →
      ∀ c ∈ db'.businessConnection.rows, ∃ e, c.connectionEstablishedAt = some e ∧ 200 < e := by
  obtain ⟨db, hdb, hboth⟩ := installed_retires
  obtain ⟨hreplaces, hretires⟩ := Bool.and_eq_true_iff.1 hboth
  simp only [Database.retires, Bool.and_eq_true, List.any_eq_true, decide_eq_true_eq,
    List.isEmpty_iff] at hretires
  obtain ⟨⟨r, hr, -, hg⟩, hlost⟩ := hretires
  obtain ⟨⟨write, db'⟩, hanswer, hwrite⟩ := (Option.any_eq_true _ _).1 hreplaces
  obtain rfl : write = .replaced := of_decide_eq_true hwrite
  have hok : db.answersLater = .ok (.replaced, db') := by
    cases hx : db.answersLater with
    | error error =>
      rw [hx] at hanswer
      cases hanswer
    | ok result =>
      rw [hx] at hanswer
      rw [Option.some.inj hanswer]
  obtain ⟨hfloor, revision, hrows⟩ := (generation_floor hdb).2.1 _ _ _ _ _ db' hok (.inr rfl)
  exact ⟨db, hdb, ⟨db', revision, hok, hfloor, hrows⟩,
    (generation_floor hdb).2.2 r hr 200 hg _ (by simp [hlost])⟩

end

end ChatHygiene
