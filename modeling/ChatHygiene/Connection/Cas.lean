import ChatHygiene.Connection.Store
/-!
# Lookups at the store

Any number of lookups are in flight at once: each has captured revisions, waits
for its answer, and then reconciles it through them, while every other operation
goes on. A lookup is stale once the row of its connection has changed. Every
change of a row moves its revision, so a stale lookup is refused as long as no
row has come or gone; a row that has gone and come back, or another one in its
place, can be at the revision the lookup captured.
-/

namespace ChatHygiene

open Txn (Respects commit)

variable {db db' : Database}

/-- A lookup in flight. Its last two fields are history: whether the row of its connection has
changed since the snapshot, and whether any row has come or gone. -/
structure InFlight where
  connectionId : String
  snapshot : ConnectionReconciliationSnapshot
  stale : Bool
  reset : Bool

/-- The ids of the stored connections. -/
def Database.connectionIds (db : Database) : List String :=
  db.businessConnection.rows.map (·.connectionId)

/-- The lookup once `db` has become `db'`. -/
def InFlight.observe (db db' : Database) (l : InFlight) : InFlight :=
  { l with
    stale := l.stale || decide (db.businessConnection.lookup l.connectionId ≠
      db'.businessConnection.lookup l.connectionId)
    reset := l.reset || decide (db.connectionIds ≠ db'.connectionIds) }

structure LookupStore where
  db : Database
  inFlight : List InFlight

inductive LookupOp where
  | snapshot (connectionId : String)
  /-- The answer to a lookup in flight, which ends it. -/
  | answer (index : Nat) (authoritative : BusinessConnectionCandidate)
  | write (op : ConnectionOp)
  | promote (authoritative : BusinessConnectionCandidate) (candidateRevision guardRevision : Nat)

namespace LookupStore

/-- The database moves on under the lookups in flight. -/
def move (s : LookupStore) (db : Database) : LookupStore :=
  ⟨db, s.inFlight.map (InFlight.observe s.db db)⟩

def step (s : LookupStore) : LookupOp → Option LookupStore
  | .snapshot connectionId =>
    match connectionReconciliationSnapshot connectionId s.db with
    | .ok (snapshot, _) =>
      some { s with inFlight := s.inFlight ++ [⟨connectionId, snapshot, false, false⟩] }
    | .error _ => some s
  | .answer index authoritative => do
    let lookup ← s.inFlight[index]?
    if authoritative.connectionId = lookup.connectionId then
      some (({ s with inFlight := s.inFlight.eraseIdx index } : LookupStore).move
        (commit (reconcileThrough lookup.snapshot authoritative) s.db).1)
    else none
  | .write op => some (s.move (op.after s.db))
  | .promote authoritative candidateRevision guardRevision =>
    some (s.move (commit (promoteClaimCandidate authoritative candidateRevision guardRevision)
      s.db).1)

end LookupStore

/-- The store with lookups in flight. It starts with at most one trusted connection and none. -/
def lookupStore : Machine LookupStore LookupOp where
  init s := s.db.businessConnection.rows.length ≤ 1 ∧ s.inFlight = []
  step := LookupStore.step

/-! ## Revisions -/

/-- The revision of the trusted connection. -/
def Database.trustedRevision (db : Database) : Option Nat :=
  db.businessConnection.rows.head?.map (·.stateRevision)

/-- Every revision the lookup has captured is the current one. -/
def InFlight.Current (l : InFlight) (db : Database) : Prop :=
  db.guard.stateRevision = l.snapshot.guardRevision ∧
  (db.candidate.lookup l.connectionId).map (·.stateRevision) = l.snapshot.candidateRevision ∧
  db.trustedRevision = l.snapshot.trustedRevision

/-- **A change of a row moves its revision**: unless a row comes or goes, the rows are the same or
the one there is has a later revision. -/
theorem ConnectionStep.moves (h : ConnectionStep db db')
    (hsingle : db.businessConnection.rows.length ≤ 1) (hids : db.connectionIds = db'.connectionIds) :
    db'.businessConnection.rows = db.businessConnection.rows ∨
      ∃ t t', db.businessConnection.rows = [t] ∧ db'.businessConnection.rows = [t'] ∧
        t.stateRevision < t'.stateRevision := by
  unfold Database.connectionIds at hids
  cases h with
  | quiet hrows howner hguard =>
    obtain ⟨f, hf, hwithholds⟩ := hrows
    match hdb : db.businessConnection.rows with
    | [] => exact .inl (by rw [hf, hdb]; rfl)
    | [t] =>
      rw [hdb] at hf
      rcases (hwithholds t).revision with hsame | hlt
      · exact .inl (by rw [hf, List.map_singleton, hsame])
      · exact .inr ⟨t, f t, rfl, hf, hlt⟩
    | _ :: _ :: _ => simp [hdb] at hsingle
  | reconciled h =>
    cases h with
    | conflict hwrite hsame => exact .inl (by rw [hsame])
    | installed revision hnone hexpected howner hfloor hrows hframe => simp [hnone, hrows] at hids
    | same t row ht hid hsame hrows hframe =>
      cases hsame with
      | kept => exact .inl (by rw [ht, hrows])
      | lessened => exact .inr ⟨t, _, ht, hrows, Nat.lt_succ_self _⟩
      | gated => exact .inr ⟨t, _, ht, hrows, Nat.lt_succ_self _⟩
      | refreshed => exact .inr ⟨t, _, ht, hrows, Nat.lt_succ_self _⟩
    | replaced t g revision ht hne hcurrent hgeneration howner hlater hfloor hrows =>
      rw [ht, hrows] at hids
      exact absurd (List.cons.inj hids).1 hne
    | ambiguous t ht hne hcurrent hgeneration hrows hfloor hages hrises hframe => simp [ht, hrows] at hids
  | notFound h =>
    cases h with
    | absent hnone hframe => exact .inl (by rw [hframe.businessConnection (by simp) (by simp)])
    | conflict hsame => exact .inl (by rw [hsame])
    | retired t ht hid hcurrent hrows hfloor hages hframe =>
      -- the retired id is not among those that are left
      have hmem : t.connectionId ∈ db'.businessConnection.rows.map (·.connectionId) :=
        hids ▸ List.mem_map_of_mem ht
      rw [hrows] at hmem
      obtain ⟨c, hc, hsame⟩ := List.mem_map.1 hmem
      simpa [hsame, hid] using (List.mem_filter.1 hc).2

/-- The lookup knows what has happened: as long as no row has come or gone, the row it saw is as it
was, or at a later revision. -/
def InFlight.Tracks (db : Database) (l : InFlight) : Prop :=
  l.reset = false →
    db.trustedRevision = l.snapshot.trustedRevision ∧ l.stale = false ∨
    ∃ k t, l.snapshot.trustedRevision = some k ∧ db.businessConnection.rows = [t] ∧
      k < t.stateRevision

theorem InFlight.Tracks.observe {l : InFlight} (h : l.Tracks db)
    (hmoves : db.connectionIds = db'.connectionIds →
      db'.businessConnection.rows = db.businessConnection.rows ∨
        ∃ t t', db.businessConnection.rows = [t] ∧ db'.businessConnection.rows = [t'] ∧
          t.stateRevision < t'.stateRevision) :
    (l.observe db db').Tracks db' := by
  intro hreset
  simp only [InFlight.observe, Bool.or_eq_false_iff, decide_eq_false_iff_not, not_not] at hreset
  rcases hmoves hreset.2 with hsame | ⟨t, t', ht, ht', hlt⟩
  · have hlookup : db'.businessConnection.lookup l.connectionId =
        db.businessConnection.lookup l.connectionId := by
      unfold Table.lookup
      rw [hsame]
    rcases h hreset.1 with ⟨hrevision, hstale⟩ | ⟨k, t, hk, ht, hlt⟩
    · refine .inl ⟨?_, by simp [InFlight.observe, hstale, hlookup]⟩
      unfold Database.trustedRevision at hrevision ⊢
      rw [hsame]
      exact hrevision
    · exact .inr ⟨k, t, hk, by rw [hsame, ht], hlt⟩
  · right
    rcases h hreset.1 with ⟨hrevision, -⟩ | ⟨k, s, hk, hs, hks⟩
    · unfold Database.trustedRevision at hrevision
      rw [ht] at hrevision
      exact ⟨t.stateRevision, t', hrevision.symm, ht', hlt⟩
    · rw [ht] at hs
      obtain rfl := (List.cons.inj hs).1
      exact ⟨k, t', hk, ht', hks.trans hlt⟩

/-! ## Every reachable store -/

/-- The store is sound: one trusted connection at most, and every lookup knows what has
happened. -/
structure LookupStore.Sound (s : LookupStore) : Prop where
  single : s.db.businessConnection.rows.length ≤ 1
  tracks : ∀ l ∈ s.inFlight, l.Tracks s.db

/-- A write of the store. -/
inductive StoreWrite (db db' : Database) : Prop
  | step (h : ConnectionStep db db')
  | installed (row : BusinessConnectionRecord) (hnone : db.businessConnection.rows = [])
    (hrows : db'.businessConnection.rows = [row])

theorem StoreWrite.single (h : StoreWrite db db')
    (hsingle : db.businessConnection.rows.length ≤ 1) :
    db'.businessConnection.rows.length ≤ 1 := by
  cases h with
  | step h => exact h.single hsingle
  | installed row hnone hrows => simp [hrows]

theorem StoreWrite.moves (h : StoreWrite db db')
    (hsingle : db.businessConnection.rows.length ≤ 1) (hids : db.connectionIds = db'.connectionIds) :
    db'.businessConnection.rows = db.businessConnection.rows ∨
      ∃ t t', db.businessConnection.rows = [t] ∧ db'.businessConnection.rows = [t'] ∧
        t.stateRevision < t'.stateRevision := by
  cases h with
  | step h => exact h.moves hsingle hids
  | installed row hnone hrows => simp [Database.connectionIds, hnone, hrows] at hids

theorem LookupStore.Sound.move {s : LookupStore} (h : s.Sound) (hwrite : StoreWrite s.db db') :
    (s.move db').Sound := by
  refine ⟨hwrite.single h.single, fun l' hl' => ?_⟩
  obtain ⟨l, hl, rfl⟩ := List.mem_map.1 hl'
  exact (h.tracks l hl).observe (hwrite.moves h.single)

theorem promoteClaimCandidate_store (a : BusinessConnectionCandidate)
    (revision guardRevision : Nat) (db : Database) :
    StoreWrite db (commit (promoteClaimCandidate a revision guardRevision) db).1 := by
  cases hx : promoteClaimCandidate a revision guardRevision db with
  | error error =>
    rw [Txn.commit_of_error hx]
    exact .step (.refl _)
  | ok r =>
    obtain ⟨write, db'⟩ := r
    rw [Txn.commit_of_ok hx]
    rcases promoteClaimCandidate_ok hx with hsame | ⟨hnone, -, hrows, -⟩
    · exact .step (hsame ▸ .refl _)
    · exact .installed _ hnone hrows

/-- **One step keeps the store sound.** -/
theorem LookupStore.Sound.step {s s' : LookupStore} {op : LookupOp} (h : s.Sound)
    (hstep : s.step op = some s') : s'.Sound := by
  cases op with
  | snapshot connectionId =>
    simp only [LookupStore.step] at hstep
    cases hsnapshot : connectionReconciliationSnapshot connectionId s.db with
    | error error =>
      rw [hsnapshot] at hstep
      obtain rfl := Option.some.inj hstep
      exact h
    | ok r =>
      obtain ⟨snapshot, db'⟩ := r
      rw [hsnapshot] at hstep
      obtain rfl := Option.some.inj hstep
      refine ⟨h.single, fun l hl => ?_⟩
      rw [List.mem_append, List.mem_singleton] at hl
      rcases hl with hl | rfl
      · exact h.tracks l hl
      -- a new lookup has seen the row there is
      refine fun _ => .inl ⟨?_, rfl⟩
      unfold connectionReconciliationSnapshot at hsnapshot
      obtain ⟨-, hsnapshot⟩ := Txn.guard_ok_iff.1 hsnapshot
      obtain ⟨candidate, -, hsnapshot⟩ :=
        Txn.bind_ok_of_readOnly (x := loadCandidate connectionId) (Respects.read _) hsnapshot
      obtain ⟨trusted, htrusted, hsnapshot⟩ :=
        Txn.bind_ok_of_readOnly loadSingleTrustedConnection_readOnly hsnapshot
      obtain ⟨guard, -, hsnapshot⟩ :=
        Txn.bind_ok_of_readOnly (x := loadCandidateGuard) (Respects.read _) hsnapshot
      obtain ⟨rfl, -⟩ := Prod.mk.inj (Txn.pure_ok_iff.1 hsnapshot)
      unfold Database.trustedRevision
      rw [(loadSingleTrustedConnection_ok htrusted).2]
      cases trusted <;> rfl
  | answer index a =>
    obtain ⟨l, hl, hstep⟩ := Option.bind_eq_some_iff.1 hstep
    obtain ⟨-, hstep⟩ := Option.ite_none_right_eq_some.1 hstep
    obtain rfl := Option.some.inj hstep
    have herased : ({ s with inFlight := s.inFlight.eraseIdx index } : LookupStore).Sound :=
      ⟨h.single, fun l hl => h.tracks l (List.mem_of_mem_eraseIdx hl)⟩
    refine herased.move (.step ?_)
    exact Respects.commit (R := ConnectionStep)
      (fun _ _ _ hx => .reconciled (reconcileAuthoritativeTrustedConnection_ok hx)) s.db
  | write op =>
    obtain rfl := Option.some.inj hstep
    exact h.move (.step (op.after_step s.db))
  | promote a candidateRevision guardRevision =>
    obtain rfl := Option.some.inj hstep
    exact h.move (promoteClaimCandidate_store _ _ _ _)

theorem LookupStore.sound {s : LookupStore} (h : lookupStore.Reachable s) : s.Sound := by
  refine h.invariant (fun s h => ⟨h.1, fun l hl => ?_⟩) fun _ _ _ _ hs _ hstep => hs.step hstep
  rw [h.2] at hl
  cases hl

/-! ## What a lookup is refused for -/

/-- The response is past every other generation. -/
def Database.PastFloor (db : Database) (a : BusinessConnectionCandidate) : Prop :=
  ∃ floor, generationFloorExcluding a.connectionId db = .ok (floor, db) ∧
    floor.any (a.connectionEstablishedAt ≤ ·) = false

/-- **A lookup with nothing but current revisions may take the response on**: it is of the Owner,
and it is of the trusted connection and its generation, or of a generation that is not behind. -/
def Database.Accepts (db : Database) (a : BusinessConnectionCandidate) : Prop :=
  db.ownerIdentity.ownerUserId = some a.businessUserId ∧
  match db.businessConnection.rows with
  | [] => db.PastFloor a
  | t :: _ => t.ownerUserId = a.businessUserId ∧
    if t.connectionId = a.connectionId then
      ∀ g, t.connectionEstablishedAt = some g → g = a.connectionEstablishedAt
    else ∃ g, t.connectionEstablishedAt = some g ∧ (a.connectionEstablishedAt = g ∨
      g < a.connectionEstablishedAt ∧ db.PastFloor a)

section

variable {a : BusinessConnectionCandidate} {expected : Option Nat}
  {write conflict : TrustedConnectionWrite} {t : BusinessConnectionRecord} {past : Option Int}
  {revision : Nat}

theorem isConflict_of_pure (hwrite : conflict.isConflict = true)
    (h : (pure conflict : Uow TrustedConnectionWrite) db = .ok (write, db')) :
    write.isConflict = true := by
  obtain ⟨rfl, -⟩ := Prod.mk.inj (Txn.pure_ok_iff.1 h)
  exact hwrite

theorem pastFloor_iff (h : generationFloorExcluding a.connectionId db = .ok (past, db)) :
    db.PastFloor a ↔ past.any (a.connectionEstablishedAt ≤ ·) = false := by
  refine ⟨?_, fun hnot => ⟨past, h, hnot⟩⟩
  rintro ⟨past', hpast', hnot⟩
  rw [h] at hpast'
  obtain ⟨rfl, -⟩ := Prod.mk.inj (Except.ok.inj hpast')
  exact hnot

/-- With no trusted connection, a response is taken on if the snapshot has seen none either and it is
past every generation. -/
theorem install_isConflict_iff (hrows : db.businessConnection.rows = [])
    (hclaimed : db.ownerIdentity.ownerUserId = some a.businessUserId)
    (h : (if expected.isSome then pure .revisionConflict else do
      let floor ← generationFloorExcluding a.connectionId
      if floor.any (a.connectionEstablishedAt ≤ ·) then pure .generationConflict
      else
        installTrusted a revision
        let _ ← deleteConnectionCandidate a.connectionId
        pure .installed : Uow TrustedConnectionWrite) db = .ok (write, db')) :
    write.isConflict = true ↔ ¬(db.trustedRevision = expected ∧ db.Accepts a) := by
  have hrevision : db.trustedRevision = none := by
    unfold Database.trustedRevision
    rw [hrows]
    rfl
  have haccepts : db.Accepts a ↔ db.PastFloor a := by
    unfold Database.Accepts
    rw [hrows, and_iff_right hclaimed]
  rw [hrevision, haccepts]
  cases expected with
  | some revision =>
    have hconflict := isConflict_of_pure rfl h
    exact iff_of_true hconflict fun hall => nomatch hall.1
  | none =>
    obtain ⟨past, hpast, h⟩ :=
      Txn.bind_ok_of_readOnly (generationFloorExcluding_readOnly a.connectionId) h
    rw [pastFloor_iff hpast]
    split at h
    · next hbehind =>
      have hconflict := isConflict_of_pure rfl h
      exact iff_of_true hconflict fun hall => by simp [hbehind] at hall
    · next hbehind =>
      obtain ⟨⟨⟩, db₁, -, h⟩ := Txn.bind_ok_iff.1 h
      obtain ⟨n, db₂, -, h⟩ := Txn.bind_ok_iff.1 h
      obtain ⟨rfl, -⟩ := Prod.mk.inj (Txn.pure_ok_iff.1 h)
      exact iff_of_false (by simp [TrustedConnectionWrite.isConflict])
        (not_not.2 ⟨rfl, by simpa using hbehind⟩)

/-- A response of the trusted connection is taken on if it is current, of the Owner and of the
connection's generation. -/
theorem reconcileSameTrusted_isConflict_iff (hrows : db.businessConnection.rows = [t])
    (hclaimed : db.ownerIdentity.ownerUserId = some a.businessUserId)
    (hid : t.connectionId = a.connectionId)
    (h : reconcileSameTrusted t a expected db = .ok (write, db')) :
    write.isConflict = true ↔ ¬(db.trustedRevision = expected ∧ db.Accepts a) := by
  have hrevision : db.trustedRevision = some t.stateRevision := by
    unfold Database.trustedRevision
    rw [hrows]
    rfl
  have haccepts : db.Accepts a ↔ t.ownerUserId = a.businessUserId ∧
      ∀ g, t.connectionEstablishedAt = some g → g = a.connectionEstablishedAt := by
    unfold Database.Accepts
    rw [hrows, and_iff_right hclaimed]
    dsimp only
    rw [if_pos hid]
  rw [hrevision, haccepts]
  obtain ⟨row, hsame, -, -⟩ := reconcileSameTrusted_ok hrows h
  cases hsame with
  | kept hstale => exact iff_of_true rfl fun hall => hstale hall.1.symm
  | lessened hstale => exact iff_of_true rfl fun hall => hstale hall.1.symm
  | gated hcurrent hwrite hrefused =>
    refine iff_of_true hwrite fun ⟨_, howner, hgeneration⟩ => ?_
    rcases hrefused with hother | ⟨g, hg, hne⟩
    · exact hother howner
    · exact hne (hgeneration g hg)
  | refreshed hcurrent howner hgeneration =>
    exact iff_of_false (by simp [TrustedConnectionWrite.isConflict])
      (not_not.2 ⟨hcurrent.symm, howner, hgeneration⟩)

/-- A response of another connection is taken on if the snapshot is current, and it is of the Owner
and of the generation of the trusted one, or past every generation. -/
theorem replace_isConflict_iff {ownerChatId : Int} (hrows : db.businessConnection.rows = [t])
    (hclaimed : db.ownerIdentity.ownerUserId = some a.businessUserId)
    (hne : t.connectionId ≠ a.connectionId)
    (h : (if expected ≠ some t.stateRevision then pure .revisionConflict
      else if t.ownerUserId ≠ a.businessUserId then pure .userConflict
      else
        match t.connectionEstablishedAt with
        | none => pure .generationConflict
        | some trustedEstablishedAt =>
          if a.connectionEstablishedAt = trustedEstablishedAt then do
            retainAmbiguousGenerations t a ownerChatId
            pure .ambiguous
          else do
            let floor ← generationFloorExcluding a.connectionId
            if a.connectionEstablishedAt < trustedEstablishedAt ∨
                floor.any (a.connectionEstablishedAt ≤ ·) then
              pure .generationConflict
            else
              installTrusted a revision
              let _ ← deleteConnectionCandidate a.connectionId
              pure .replaced : Uow TrustedConnectionWrite) db = .ok (write, db')) :
    write.isConflict = true ↔ ¬(db.trustedRevision = expected ∧ db.Accepts a) := by
  have hrevision : db.trustedRevision = some t.stateRevision := by
    unfold Database.trustedRevision
    rw [hrows]
    rfl
  have haccepts : db.Accepts a ↔ t.ownerUserId = a.businessUserId ∧
      ∃ g, t.connectionEstablishedAt = some g ∧ (a.connectionEstablishedAt = g ∨
        g < a.connectionEstablishedAt ∧ db.PastFloor a) := by
    unfold Database.Accepts
    rw [hrows, and_iff_right hclaimed]
    dsimp only
    rw [if_neg hne]
  rw [hrevision, haccepts]
  -- in the order of the source: the revision, the Owner, the generation, the floor
  split at h
  · next hstale =>
    have hconflict := isConflict_of_pure rfl h
    exact iff_of_true hconflict fun hall => hstale hall.1.symm
  next hcurrent =>
  split at h
  · next howner =>
    have hconflict := isConflict_of_pure rfl h
    exact iff_of_true hconflict fun hall => howner hall.2.1
  next howner =>
  rw [not_not] at hcurrent howner
  rw [and_iff_right hcurrent.symm, and_iff_right howner]
  cases hgeneration : t.connectionEstablishedAt with
  | none =>
    rw [hgeneration] at h
    exact iff_of_true (isConflict_of_pure rfl h) (by simp)
  | some g =>
    rw [hgeneration] at h
    dsimp only at h
    simp only [Option.some.injEq, exists_eq_left']
    split at h
    · next hequal =>
      obtain ⟨⟨⟩, db₁, -, h⟩ := Txn.bind_ok_iff.1 h
      obtain ⟨rfl, -⟩ := Prod.mk.inj (Txn.pure_ok_iff.1 h)
      exact iff_of_false (by simp [TrustedConnectionWrite.isConflict])
        (not_not.2 (.inl hequal))
    next hequal =>
    obtain ⟨past, hpast, h⟩ :=
      Txn.bind_ok_of_readOnly (generationFloorExcluding_readOnly a.connectionId) h
    rw [pastFloor_iff hpast]
    split at h
    · next hbehind =>
      refine iff_of_true (isConflict_of_pure rfl h) ?_
      rintro (hsame | ⟨hlater, hnot⟩)
      · exact hequal hsame
      · rcases hbehind with hearlier | hbehind
        · omega
        · rw [hbehind] at hnot
          cases hnot
    · next hbehind =>
      rw [not_or, not_lt] at hbehind
      obtain ⟨⟨⟩, db₁, -, h⟩ := Txn.bind_ok_iff.1 h
      obtain ⟨n, db₂, -, h⟩ := Txn.bind_ok_iff.1 h
      obtain ⟨rfl, -⟩ := Prod.mk.inj (Txn.pure_ok_iff.1 h)
      refine iff_of_false (by simp [TrustedConnectionWrite.isConflict]) (not_not.2 (.inr ?_))
      exact ⟨lt_of_le_of_ne hbehind.1 (Ne.symm hequal), by simpa using hbehind.2⟩

/-- **A response is refused exactly when a revision has moved or it is not acceptable.** -/
theorem reconcile_isConflict_iff {candidateRevision : Option Nat} {guardRevision : Nat}
    (h : reconcileAuthoritativeTrustedConnection a expected candidateRevision guardRevision db =
      .ok (write, db')) :
    write.isConflict = true ↔ ¬((db.guard.stateRevision = guardRevision ∧
      (db.candidate.lookup a.connectionId).map (·.stateRevision) = candidateRevision ∧
      db.trustedRevision = expected) ∧ db.Accepts a) := by
  unfold reconcileAuthoritativeTrustedConnection at h
  obtain ⟨⟨⟩, -, h⟩ := Txn.bind_ok_of_readOnly (validateCandidate_readOnly a) h
  change (if db.guard.stateRevision ≠ guardRevision then _ else _ : Uow _) db = _ at h
  split at h
  · next hguard => exact iff_of_true (isConflict_of_pure rfl h) fun hall => hguard hall.1.1
  next hguard =>
  change (if (db.candidate.lookup a.connectionId).map (·.stateRevision) ≠ candidateRevision then _
    else _ : Uow _) db = _ at h
  split at h
  · next hcandidate => exact iff_of_true (isConflict_of_pure rfl h) fun hall => hcandidate hall.1.2.1
  next hcandidate =>
  rw [not_not] at hguard hcandidate
  obtain ⟨owner, hload, h⟩ := Txn.bind_ok_of_readOnly loadOwnerIdentity_readOnly h
  replace hload := loadOwnerIdentity_ok hload
  cases owner with
  | unclaimed =>
    refine iff_of_true (isConflict_of_pure rfl h) fun hall => ?_
    have howner := hall.2.1
    rw [hload] at howner
    cases howner
  | claimed ownerUserId ownerChatId source floor boundAt =>
    dsimp only at h
    split at h
    · next huser =>
      refine iff_of_true (isConflict_of_pure rfl h) fun hall => huser ?_
      have howner := hall.2.1
      rw [hload] at howner
      exact Option.some.inj howner
    next huser =>
    have hclaimed : db.ownerIdentity.ownerUserId = some a.businessUserId := by
      rw [hload, ← not_not.1 huser]
      rfl
    obtain ⟨trusted, htrusted, h⟩ := Txn.bind_ok_of_readOnly loadSingleTrustedConnection_readOnly h
    obtain ⟨-, htrusted⟩ := loadSingleTrustedConnection_ok htrusted
    -- the guard and the candidate are as the snapshot saw them; the rest is the branch taken
    rw [and_iff_right hguard, and_iff_right hcandidate]
    cases trusted with
    | none => exact install_isConflict_iff htrusted hclaimed h
    | some t =>
      dsimp only at h
      split at h
      · next hid => exact reconcileSameTrusted_isConflict_iff htrusted hclaimed hid h
      · next hne => exact replace_isConflict_iff htrusted hclaimed hne h

end

/-- A refused response grants nothing. -/
theorem Reconciled.withheld {a : BusinessConnectionCandidate} {expected : Option Nat}
    {write : TrustedConnectionWrite} (h : Reconciled a expected db db' write)
    (hconflict : write.isConflict = true) : Withheld db db' := by
  cases h with
  | conflict hwrite hsame => exact hsame ▸ .refl _
  | installed => cases hconflict
  | same t row ht hid hsame hrows hframe =>
    refine ⟨fun c => if c = t then row else c, by simp [ht, hrows], fun c => ?_⟩
    dsimp only
    split
    · next h =>
      subst h
      cases hsame with
      | kept => exact .refl _
      | lessened => exact c.lessened_withholds a
      | gated => exact c.gated_withholds true _
      | refreshed => cases hconflict
    · exact .refl _
  | replaced => cases hconflict
  | ambiguous => cases hconflict

/-! ## Stale lookups -/

/-- **A stale lookup is refused, and grants nothing, exactly when a revision it captured has moved
or the response is not acceptable.** One of the revisions has moved if no row has come or gone. -/
theorem stale_lookup_refused_iff {s : LookupStore} (h : lookupStore.Reachable s) {l : InFlight}
    (hl : l ∈ s.inFlight) (hstale : l.stale = true) {a : BusinessConnectionCandidate}
    (hid : a.connectionId = l.connectionId) {write : TrustedConnectionWrite}
    (hx : reconcileThrough l.snapshot a s.db = .ok (write, db')) :
    (l.reset = false → ¬l.Current s.db) ∧
    (write.isConflict = true ∧ Withheld s.db db' ↔ ¬(l.Current s.db ∧ s.db.Accepts a)) := by
  refine ⟨fun hreset hcurrent => ?_, ?_⟩
  · rcases (LookupStore.sound h).tracks l hl hreset with ⟨-, hfresh⟩ | ⟨k, t, hk, ht, hlt⟩
    · rw [hfresh] at hstale
      cases hstale
    · have hsame := hcurrent.2.2
      unfold Database.trustedRevision at hsame
      rw [ht, hk] at hsame
      obtain rfl : t.stateRevision = k := Option.some.inj hsame
      exact Nat.lt_irrefl _ hlt
  · have hiff := reconcile_isConflict_iff hx
    rw [hid] at hiff
    unfold InFlight.Current
    rw [← hiff]
    exact and_iff_left_of_imp (reconcileAuthoritativeTrustedConnection_ok hx).withheld

section

open Sample

/-- No rights at all. -/
def noRights : BusinessRights := ⟨false, false, false, false⟩

/-- Two lookups of `c` begin while `d` is trusted at revision 0. The first puts `c` in its place, at
revision 0 and without a right. -/
def replacedUnderLookup : List LookupOp :=
  [.write (.reconcile (candidateOf "d" 150 rights) none none 0), .snapshot "c", .snapshot "c",
    .answer 0 (candidateOf "c" 200 noRights)]

/-- What the answer to a stale lookup comes to, if one is in flight. -/
def LookupStore.staleAnswer (s : LookupStore) (a : BusinessConnectionCandidate) :
    Option (InFlight × TrustedConnectionWrite × Database) := do
  let l ← s.inFlight.find? fun l => l.stale && l.connectionId = a.connectionId
  match reconcileThrough l.snapshot a s.db with
  | .ok (write, db) => some (l, write, db)
  | .error _ => none

theorem LookupStore.staleAnswer_eq_some {s : LookupStore} {a : BusinessConnectionCandidate}
    {l : InFlight} {write : TrustedConnectionWrite} (h : s.staleAnswer a = some (l, write, db')) :
    l ∈ s.inFlight ∧ l.stale = true ∧ a.connectionId = l.connectionId ∧
      reconcileThrough l.snapshot a s.db = .ok (write, db') := by
  obtain ⟨l', hfind, h⟩ := Option.bind_eq_some_iff.1 h
  have hl := List.find?_some hfind
  simp only [Bool.and_eq_true, decide_eq_true_eq] at hl
  cases hx : reconcileThrough l'.snapshot a s.db with
  | error error =>
    rw [hx] at h
    cases h
  | ok r =>
    rw [hx] at h
    cases h
    exact ⟨List.mem_of_find?_eq_some hfind, hl.1, hl.2.symm, hx⟩

/-- The second lookup has found every right, and its answer grants one that no connection had. -/
def LookupStore.grantsStale (s : LookupStore) : Bool :=
  (s.staleAnswer (candidateOf "c" 200 rights)).any fun (_, _, db) =>
    db.businessConnection.rows.any fun c' =>
      s.db.businessConnection.rows.all fun c => !decide (c'.rights ≤ c.rights)

theorem replacedUnderLookup_grants :
    ∃ s, lookupStore.Reachable s ∧ s.grantsStale = true :=
  Machine.reachable_of_run replacedUnderLookup LookupStore.grantsStale
    (⟨claimedStore_init, rfl⟩ : lookupStore.init ⟨claimedStore, []⟩) (by decide +kernel)

/-- The stale lookup of `replacedUnderLookup`. -/
theorem stale_lookup_refused_iff_replaced : ∃ (s : LookupStore) (l : InFlight)
    (write : TrustedConnectionWrite) (db' : Database), lookupStore.Reachable s ∧
      reconcileThrough l.snapshot (candidateOf "c" 200 rights) s.db = .ok (write, db') ∧
      (l.reset = false → ¬l.Current s.db) ∧
      (write.isConflict = true ∧ Withheld s.db db' ↔
        ¬(l.Current s.db ∧ s.db.Accepts (candidateOf "c" 200 rights))) := by
  obtain ⟨s, hs, hgrants⟩ := replacedUnderLookup_grants
  obtain ⟨⟨l, write, db'⟩, hanswer, -⟩ := (Option.any_eq_true _ _).1 hgrants
  obtain ⟨hl, hstale, hid, hx⟩ := LookupStore.staleAnswer_eq_some hanswer
  exact ⟨s, l, write, db', hs, hx, stale_lookup_refused_iff hs hl hstale hid hx⟩

/-- **A stale lookup can grant a right.** -/
theorem stale_lookup_grants : ¬∀ (s : LookupStore) (l : InFlight)
    (a : BusinessConnectionCandidate) (write : TrustedConnectionWrite) (db' : Database),
    lookupStore.Reachable s → l ∈ s.inFlight → l.stale = true → a.connectionId = l.connectionId →
    reconcileThrough l.snapshot a s.db = .ok (write, db') → Withheld s.db db' := by
  intro h
  obtain ⟨s, hs, hgrants⟩ := replacedUnderLookup_grants
  obtain ⟨⟨l, write, db'⟩, hanswer, hgranted⟩ := (Option.any_eq_true _ _).1 hgrants
  obtain ⟨hl, hstale, hid, hx⟩ := LookupStore.staleAnswer_eq_some hanswer
  obtain ⟨c', hc', hnone⟩ := List.any_eq_true.1 hgranted
  obtain ⟨c, hc, hwithholds⟩ := (h s l _ write db' hs hl hstale hid hx).row hc'
  simpa [hwithholds.rights] using List.all_eq_true.1 hnone c hc

end

end ChatHygiene
