import ChatHygiene.Connection.Store
import ChatHygiene.Footprint.Contracts
import ChatHygiene.Lib.Newest
/-!
# The bounded store of candidates

Before the claim a connection is kept as a candidate, and each trigger prunes
the candidates to those that are not expired and, of these, to the newest. The
overflow guard stands for what was evicted: once set it only rises, and it is
never below a candidate that is stored or was.
-/

namespace ChatHygiene

open Txn (Respects Yields Succeeds)

variable {db db' db'' : Database}

/-! ## The overflow guard -/

/-- The guard is set, to at least this generation. -/
def Database.Covers (db : Database) (established : Int) : Prop :=
  ∃ g, db.guard.overflowEstablishedAt = some g ∧ established ≤ g

theorem Database.Covers.rises {established : Int} (h : db.Covers established)
    (hrises : GuardRises db db') : db'.Covers established := by
  obtain ⟨g, hg, hle⟩ := h
  obtain ⟨g', hg', hle'⟩ := hrises g hg
  exact ⟨g', hg', hle.trans hle'⟩

theorem Database.Covers.of_le {established later : Int} (h : db.Covers later)
    (hle : established ≤ later) : db.Covers established := by
  obtain ⟨g, hg, hlater⟩ := h
  exact ⟨g, hg, hle.trans hlater⟩

theorem Database.Covers.isSet {established : Int} (h : db.Covers established) :
    db.guard.overflowEstablishedAt ≠ none := by
  obtain ⟨g, hg, -⟩ := h
  simp [hg]

theorem Database.Covers.of_guard_eq {established : Int} (h : db.Covers established)
    (hguard : db'.guard = db.guard) : db'.Covers established :=
  h.rises (.of_eq hguard)

theorem updateOverflowGuard_yields (establishment : Int) :
    Yields (updateOverflowGuard establishment) db fun _ db' =>
      db'.Covers establishment ∧ Frame [.guard] db.toTables db'.toTables := by
  refine yields_frame ?_ (updateOverflowGuard_writes (by simp) _)
  have hupdate : db.toTables.updateGuard (fun g => g.stateRevision = db.guard.stateRevision)
      (fun g => { overflowEstablishedAt := raiseFloor g.overflowEstablishedAt establishment
                  stateRevision := g.stateRevision + 1 }) = .ok (1, _) := if_pos (by simp)
  unfold updateOverflowGuard
  refine Yields.bind_read ?_
  refine Yields.bind (Uow.statement_yields hupdate) ?_
  rintro _ db' ⟨rfl, hdb⟩
  rw [updateOne_of_eq rfl]
  refine .pure ?_
  obtain ⟨raised, hraised, hpast, -⟩ :=
    raiseFloor_spec db.guard.overflowEstablishedAt establishment
  refine ⟨raised, ?_, hpast⟩
  rw [hdb]
  exact hraised

/-- What advancing the guard for a candidate comes to. -/
structure Advanced (established : Int) (db db' : Database) : Prop where
  unset : db.guard.overflowEstablishedAt = none → db'.guard = db.guard
  isSet : db.guard.overflowEstablishedAt ≠ none → db'.Covers established

theorem advanceOverflowGuardIfActive_advances (candidate : BusinessConnectionCandidate) :
    Respects (Advanced candidate.connectionEstablishedAt)
      (advanceOverflowGuardIfActive candidate) := by
  intro db u db' h
  unfold advanceOverflowGuardIfActive loadCandidateGuard at h
  rw [Txn.read_bind_apply] at h
  split at h
  · next hset =>
    refine ⟨fun hnone => ?_, fun _ => ((updateOverflowGuard_yields _).of_ok h).1⟩
    rw [hnone] at hset
    cases hset
  · next hset =>
    obtain ⟨-, rfl⟩ := Prod.mk.inj (Txn.pure_ok_iff.1 h)
    exact ⟨fun _ => rfl, fun hne => absurd (Option.isSome_iff_ne_none.2 hne) hset⟩

theorem Advanced.after {established : Int} (h : Advanced established db' db'')
    (hguard : db'.guard = db.guard) : Advanced established db db'' := by
  refine ⟨fun hnone => ?_, fun hne => h.isSet (by rwa [hguard])⟩
  rw [← hguard]
  exact h.unset (by rwa [hguard])

theorem Advanced.before {established : Int} (h : Advanced established db db')
    (hguard : db''.guard = db'.guard) : Advanced established db db'' :=
  ⟨fun hnone => hguard.trans (h.unset hnone), fun hne => (h.isSet hne).of_guard_eq hguard⟩

/-! ## Applying a candidate -/

/-- What is stored was stored, or is the candidate. -/
def CandidatesFrom (candidate : BusinessConnectionCandidate) (db db' : Database) : Prop :=
  ∀ c ∈ db'.candidate.rows,
    c.connectionId = candidate.connectionId ∧
      c.connectionEstablishedAt = candidate.connectionEstablishedAt ∨
    ∃ d ∈ db.candidate.rows, d.connectionId = c.connectionId ∧
      d.connectionEstablishedAt = c.connectionEstablishedAt

theorem CandidatesFrom.of_subset {candidate : BusinessConnectionCandidate}
    (h : ∀ c ∈ db'.candidate.rows, c ∈ db.candidate.rows) : CandidatesFrom candidate db db' :=
  fun c hc => .inr ⟨c, h c hc, rfl, rfl⟩

/-- What a candidate has to be to be stored. -/
structure BusinessConnectionCandidate.Valid (c : BusinessConnectionCandidate) : Prop where
  connectionId : blank c.connectionId = false
  businessUserId : 0 < c.businessUserId
  userChatId : c.userChatId.all (0 < ·) = true
  established : 0 < c.connectionEstablishedAt

theorem validateCandidate_ok_iff {candidate : BusinessConnectionCandidate} :
    validateCandidate candidate db = .ok ((), db') ↔ candidate.Valid ∧ db' = db := by
  have hchat : ¬(candidate.userChatId.any (· ≤ 0)) = true ↔
      candidate.userChatId.all (0 < ·) = true := by
    cases candidate.userChatId <;> simp
  unfold validateCandidate
  simp only [Txn.guard_ok_iff, hchat]
  constructor
  · rintro ⟨hid, huser, hchat, h⟩
    split at h
    · cases h
    · next hdate =>
      obtain ⟨-, rfl⟩ := Prod.mk.inj (Txn.pure_ok_iff.1 h)
      exact ⟨⟨by simpa using hid, by omega, hchat, by omega⟩, rfl⟩
  · rintro ⟨h, rfl⟩
    have hdate := h.established
    refine ⟨by simp [h.connectionId], not_le.2 h.businessUserId, h.userChatId, ?_⟩
    rw [if_neg (by omega)]
    rfl

/-- What applying an authoritative candidate comes to. -/
structure CandidateApplied (candidate : BusinessConnectionCandidate) (db db' : Database) : Prop where
  valid : candidate.Valid
  candidates : CandidatesFrom candidate db db'
  advanced : Advanced candidate.connectionEstablishedAt db db'

theorem applyAuthoritativeCandidate_ok {candidate : BusinessConnectionCandidate}
    {expectedRevision : Option Nat} {write : CandidateWrite}
    (h : applyAuthoritativeCandidate candidate expectedRevision db = .ok (write, db')) :
    CandidateApplied candidate db db' := by
  unfold applyAuthoritativeCandidate at h
  obtain ⟨⟨⟩, hvalidate, h⟩ := Txn.bind_ok_of_readOnly (validateCandidate_readOnly candidate) h
  have hvalid := (validateCandidate_ok_iff.1 hvalidate).1
  have hadvance {s s' : Database} {u : Unit} (h : advanceOverflowGuardIfActive candidate s = .ok (u, s')) :
      Advanced candidate.connectionEstablishedAt s s' ∧ s'.candidate = s.candidate :=
    ⟨(advanceOverflowGuardIfActive_advances candidate).of_ok h,
      (advanceOverflowGuardIfActive_ok h).1.candidate (by simp)⟩
  -- a conflict that keeps the stored candidate
  have hkeep (h : (do
      advanceOverflowGuardIfActive candidate
      pure CandidateWrite.revisionConflict : Uow CandidateWrite) db = .ok (write, db')) :
      CandidateApplied candidate db db' := by
    obtain ⟨⟨⟩, db₁, hguard, h⟩ := Txn.bind_ok_iff.1 h
    obtain ⟨-, rfl⟩ := Prod.mk.inj (Txn.pure_ok_iff.1 h)
    obtain ⟨hadvanced, hrows⟩ := hadvance hguard
    exact ⟨hvalid, .of_subset fun c hc => hrows ▸ hc, hadvanced⟩
  -- a conflict that deletes it
  have hdrop {existing : BusinessConnectionCandidate} {conflict : CandidateWrite} (h : (do
      advanceOverflowGuardIfActive candidate
      deleteExactCandidate existing
      pure conflict : Uow CandidateWrite) db = .ok (write, db')) :
      CandidateApplied candidate db db' := by
    obtain ⟨⟨⟩, db₁, hguard, h⟩ := Txn.bind_ok_iff.1 h
    obtain ⟨⟨⟩, db₂, hdelete, h⟩ := Txn.bind_ok_iff.1 h
    obtain ⟨-, rfl⟩ := Prod.mk.inj (Txn.pure_ok_iff.1 h)
    obtain ⟨n, db₃, hrows, hone⟩ := Txn.bind_ok_iff.1 hdelete
    obtain ⟨-, rfl⟩ := updateOne_ok hone
    obtain ⟨hadvanced, hsame⟩ := hadvance hguard
    obtain ⟨-, hdb⟩ := Prod.mk.inj (Except.ok.inj (Uow.statement_ok_iff.1 hrows))
    refine ⟨hvalid, .of_subset fun c hc => ?_, hadvanced.before (by rw [← hdb])⟩
    rw [← hdb] at hc
    rw [← hsame]
    exact (Table.mem_delete.1 hc).1
  obtain ⟨stored, hstored, h⟩ :=
    Txn.bind_ok_of_readOnly (x := loadCandidate candidate.connectionId) (Respects.read _) h
  obtain ⟨rfl, -⟩ := Prod.mk.inj (Txn.read_ok_iff.1 hstored)
  cases hlookup : db.candidate.lookup candidate.connectionId with
  | none =>
    rw [hlookup] at h
    dsimp only at h
    split at h
    · exact hkeep h
    · obtain ⟨⟨⟩, db₁, hinsert, h⟩ := Txn.bind_ok_iff.1 h
      obtain ⟨⟨⟩, db₂, hguard, h⟩ := Txn.bind_ok_iff.1 h
      obtain ⟨-, rfl⟩ := Prod.mk.inj (Txn.pure_ok_iff.1 h)
      obtain ⟨hadvanced, hsame⟩ := hadvance hguard
      replace hinsert := Uow.statement_ok_iff.1 hinsert
      unfold Tables.insertCandidate at hinsert
      split_ifs at hinsert
      obtain ⟨-, hdb⟩ := Prod.mk.inj (Except.ok.inj hinsert)
      refine ⟨hvalid, fun c hc => ?_, hadvanced.after (by rw [← hdb])⟩
      rw [hsame, ← hdb] at hc
      simp only [Table.mem_insert] at hc
      rcases hc with hc | rfl
      · exact .inr ⟨c, hc, rfl, rfl⟩
      · exact .inl ⟨rfl, rfl⟩
  | some existing =>
    rw [hlookup] at h
    dsimp only at h
    split at h
    · exact hdrop h
    split at h
    · exact hdrop h
    split at h
    · exact hkeep h
    obtain ⟨n, db₁, hupdate, h⟩ := Txn.bind_ok_iff.1 h
    obtain ⟨hn, hdb⟩ := Prod.mk.inj (Except.ok.inj (Uow.statement_ok_iff.1 hupdate))
    -- the stored candidate is at the revision it was loaded at
    have hone : n = 1 := by
      have hp (c : BusinessConnectionCandidate) (hc : (c.connectionId = candidate.connectionId &&
          c.stateRevision = existing.stateRevision) = true) :
          c.connectionId = candidate.connectionId := by
        simp only [Bool.and_eq_true, decide_eq_true_eq] at hc
        exact hc.1
      have hid : existing.connectionId = candidate.connectionId := Table.key_of_lookup hlookup
      rw [← hn, Table.affected_key _ hp, hlookup]
      simp [hid]
    rw [if_neg (not_not.2 hone)] at h
    obtain ⟨⟨⟩, db₂, hguard, h⟩ := Txn.bind_ok_iff.1 h
    obtain ⟨-, rfl⟩ := Prod.mk.inj (Txn.pure_ok_iff.1 h)
    obtain ⟨hadvanced, hsame⟩ := hadvance hguard
    refine ⟨hvalid, fun c hc => ?_, hadvanced.after (by rw [← hdb])⟩
    rw [hsame, ← hdb] at hc
    simp only [Table.mem_update] at hc
    obtain ⟨d, hd, rfl⟩ := hc
    refine .inr ⟨d, hd, ?_⟩
    split <;> exact ⟨rfl, rfl⟩

/-! ## Pruning -/

/-- The candidates within their retention. -/
def Database.retained (db : Database) (cutoff : DateTime) : List BusinessConnectionCandidate :=
  db.candidate.rows.filter fun c => cutoff ≤ c.observedAt

/-- `a` is newer than `b`, by `(connection_established_at, connection_id)`. -/
def BusinessConnectionCandidate.Newer (a b : BusinessConnectionCandidate) : Prop :=
  b.connectionEstablishedAt < a.connectionEstablishedAt ∨
    b.connectionEstablishedAt = a.connectionEstablishedAt ∧ b.connectionId < a.connectionId

theorem BusinessConnectionCandidate.olderEq_iff {a b : BusinessConnectionCandidate} :
    b.olderEq a = true ↔ b.connectionEstablishedAt < a.connectionEstablishedAt ∨
      b.connectionEstablishedAt = a.connectionEstablishedAt ∧ b.connectionId ≤ a.connectionId := by
  unfold olderEq
  simp only [Bool.or_eq_true, Bool.and_eq_true, decide_eq_true_eq, Bool.not_eq_true',
    decide_eq_false_iff_not, String.not_lt]

instance : Std.Total fun a b : BusinessConnectionCandidate => b.olderEq a = true where
  total a b := by
    simp only [BusinessConnectionCandidate.olderEq_iff]
    have hids := String.le_total a.connectionId b.connectionId
    rcases Int.lt_trichotomy a.connectionEstablishedAt b.connectionEstablishedAt with h | h | h
    · exact .inr (.inl h)
    · rcases hids with hid | hid
      · exact .inr (.inr ⟨h, hid⟩)
      · exact .inl (.inr ⟨h.symm, hid⟩)
    · exact .inl (.inl h)

instance : IsTrans BusinessConnectionCandidate fun a b => b.olderEq a = true where
  trans a b c h h' := by
    simp only [BusinessConnectionCandidate.olderEq_iff] at h h' ⊢
    rcases h with h | ⟨h, hid⟩
    · rcases h' with h' | ⟨h', hid'⟩ <;> exact .inl (by omega)
    · rcases h' with h' | ⟨h', hid'⟩
      · exact .inl (by omega)
      · exact .inr ⟨h'.trans h, String.le_trans hid' hid⟩

/-- What is not older, and another, is newer. -/
theorem BusinessConnectionCandidate.newer_of_olderEq {a b : BusinessConnectionCandidate}
    (h : b.olderEq a = true) (hne : b.connectionId ≠ a.connectionId) : a.Newer b := by
  rcases olderEq_iff.1 h with h | ⟨h, hid⟩
  · exact .inl h
  · refine .inr ⟨h, String.not_le.1 fun hle => hne (String.le_antisymm hid hle)⟩

/-- What eviction leaves of the retained candidates are the newest. -/
theorem keepsFirst_retained (cutoff : DateTime) (maximumRows : Nat) :
    KeepsFirst BusinessConnectionCandidate.Newer maximumRows (db.retained cutoff)
      ((db.retained cutoff).filter fun c =>
        !((((db.retained cutoff).insertionSort fun a b => b.olderEq a = true).drop
          maximumRows).map (·.connectionId)).contains c.connectionId) := by
  have hsame {a b : BusinessConnectionCandidate} (ha : a ∈ db.retained cutoff)
      (hb : b ∈ db.retained cutoff) (hid : a.connectionId = b.connectionId) : a = b :=
    Table.eq_of_key_eq (List.mem_filter.1 ha).1 (List.mem_filter.1 hb).1 hid
  have hnodup : (db.retained cutoff).Nodup := (List.Nodup.of_map _ db.candidate.nodup).filter _
  refine (KeepsFirst.of_insertionSort (r := fun a b => b.olderEq a = true) hnodup
    fun a ha => ?_).mono fun a ha b hb hnot h => ?_
  · -- an id is evicted only with its own row
    rw [Bool.not_eq_true', ← Bool.not_eq_true, not_iff_not, List.contains_iff_mem, List.mem_map]
    constructor
    · rintro ⟨d, hd, hid⟩
      have hd' := (List.mem_insertionSort _).1 (List.mem_of_mem_drop hd)
      rwa [← hsame hd' ha hid]
    · intro hdrop
      exact ⟨a, hdrop, rfl⟩
  · refine BusinessConnectionCandidate.newer_of_olderEq h fun hid => hnot ?_
    rwa [hsame hb (List.mem_filter.1 ha).1 hid]

theorem deleteExpired_yields (cutoff : DateTime) :
    Yields (Uow.deleteCandidate fun c => c.observedAt < cutoff) db fun _ db' =>
      db'.candidate.rows = db.retained cutoff ∧ Frame [.candidate] db.toTables db'.toTables := by
  refine yields_frame ?_ (Uow.deleteCandidate_writes (by exact List.mem_singleton.2 rfl))
  refine (Uow.statement_yields rfl).mono ?_
  rintro _ db' ⟨-, hdb⟩
  rw [hdb]
  refine List.filter_congr fun c _ => ?_
  rw [← decide_not]
  exact decide_eq_decide.2 Int.not_lt

/-- What pruning leaves. -/
structure Pruned (cutoff : DateTime) (maximumRows : Nat) (db db' : Database) : Prop where
  newest : KeepsFirst BusinessConnectionCandidate.Newer maximumRows (db.retained cutoff)
    db'.candidate.rows
  fits : (db.retained cutoff).length ≤ maximumRows → db'.guard = db.guard
  overflows : maximumRows < (db.retained cutoff).length →
    ∀ c ∈ db.retained cutoff, db'.Covers c.connectionEstablishedAt

/-- **Pruning keeps the newest of what is retained, and the overflow guard stands for the rest.** -/
theorem pruneConnectionCandidates_yields (cutoff : DateTime) (maximumRows : Nat) :
    Yields (pruneConnectionCandidates cutoff maximumRows) db fun _ db' =>
      Pruned cutoff maximumRows db db' ∧
      Frame [.candidate, .guard] db.toTables db'.toTables := by
  refine yields_frame ?_ (pruneConnectionCandidates_writes (by simp) _ _)
  unfold pruneConnectionCandidates candidatesBy
  refine Yields.bind (deleteExpired_yields cutoff) ?_
  rintro expired db₁ ⟨hrows, hframe⟩
  refine Yields.bind_read ?_
  rw [List.filter_true, hrows, List.length_insertionSort]
  by_cases hfits : (db.retained cutoff).length ≤ maximumRows
  · rw [if_pos hfits]
    refine .pure ⟨?_, fun _ => hframe.guard (by simp), fun hmore => ?_⟩
    · rw [hrows]
      exact .all hfits
    · omega
  · rw [if_neg hfits]
    have hperm := List.perm_insertionSort
      (fun a b : BusinessConnectionCandidate => b.olderEq a = true) (db.retained cutoff)
    split
    · next hnone =>
      -- the maximum of more than `maximumRows` generations exists
      rw [List.max?_eq_none_iff, List.map_eq_nil_iff] at hnone
      have hlength := hperm.length_eq
      rw [hnone, List.length_nil] at hlength
      omega
    · next overflow hmax =>
      refine Yields.bind (updateOverflowGuard_yields _) ?_
      rintro _ db₂ ⟨hcovers, hframe₂⟩
      refine Yields.bind (Uow.statement_yields rfl) ?_
      rintro _ db₃ ⟨-, hdb⟩
      refine .pure ⟨?_, fun hfew => absurd hfew hfits, fun _ c hc => ?_⟩
      · rw [hdb]
        change KeepsFirst _ _ _ (db₂.candidate.rows.filter _)
        rw [hframe₂.candidate (by simp), hrows]
        exact keepsFirst_retained cutoff maximumRows
      · have hmem : c.connectionEstablishedAt ∈ ((db.retained cutoff).insertionSort fun a b =>
            b.olderEq a = true).map (·.connectionEstablishedAt) :=
          List.mem_map_of_mem (hperm.mem_iff.2 hc)
        have hle := (List.max?_le_iff hmax).1 (le_refl overflow) _ hmem
        exact (hcovers.of_le hle).of_guard_eq (by rw [hdb])

/-! ## Triggers before the claim -/

/-- A connection trigger before the claim: a looked-up candidate, and the instant it prunes to. -/
structure CandidateTrigger where
  candidate : BusinessConnectionCandidate
  expectedRevision : Option Nat
  cutoff : DateTime

def CandidateTrigger.transact (trigger : CandidateTrigger) : Uow CandidateWrite := do
  let write ← applyAuthoritativeCandidate trigger.candidate trigger.expectedRevision
  let _ ← pruneConnectionCandidates trigger.cutoff 256
  pure write

/-- A store whose guard is not set yet, under any sequence of committed triggers. -/
def candidateStore : Machine Database CandidateTrigger where
  init db := db.guard.overflowEstablishedAt = none
  step db trigger := (trigger.transact db).toOption.map Prod.snd

/-- A committed trigger applies its candidate, and then prunes. -/
theorem candidateStore_step {trigger : CandidateTrigger}
    (h : candidateStore.step db trigger = some db') : ∃ write n db₁,
      applyAuthoritativeCandidate trigger.candidate trigger.expectedRevision db = .ok (write, db₁) ∧
      pruneConnectionCandidates trigger.cutoff 256 db₁ = .ok (n, db') := by
  obtain ⟨⟨write, s⟩, htransact, rfl⟩ := Option.map_eq_some_iff.1 h
  cases hx : trigger.transact db with
  | error error =>
    rw [hx] at htransact
    cases htransact
  | ok r =>
    rw [hx] at htransact
    obtain rfl : r = (write, s) := Option.some.inj htransact
    obtain ⟨write, db₁, happly, h⟩ := Txn.bind_ok_iff.1 hx
    obtain ⟨n, db₂, hprune, h⟩ := Txn.bind_ok_iff.1 h
    obtain ⟨-, rfl⟩ := Prod.mk.inj (Txn.pure_ok_iff.1 h)
    exact ⟨write, n, db₁, happly, hprune⟩

theorem candidateStore_rises {trigger : CandidateTrigger}
    (h : candidateStore.step db trigger = some db') : GuardRises db db' := by
  obtain ⟨write, n, db₁, happly, hprune⟩ := candidateStore_step h
  exact trans_of GuardRises ((applyAuthoritativeCandidate_rises _ _).of_ok happly)
    ((pruneConnectionCandidates_rises _ _).of_ok hprune)

/-- Over a run the guard only rises. -/
theorem candidateStore_runs_rises {ok : Database → CandidateTrigger → Prop}
    (h : candidateStore.Runs ok db db') : GuardRises db db' :=
  h.relation (refl_of GuardRises) (fun _ _ _ => trans_of GuardRises) fun _ _ _ _ =>
    candidateStore_rises

/-- No stored candidate is past the guard, once it is set. -/
def Database.Guarded (db : Database) : Prop :=
  db.guard.overflowEstablishedAt ≠ none →
    ∀ c ∈ db.candidate.rows, db.Covers c.connectionEstablishedAt

theorem Database.Guarded.apply {candidate : BusinessConnectionCandidate} (h : db.Guarded)
    (happlied : CandidateApplied candidate db db') (hrises : GuardRises db db') :
    db'.Guarded := by
  intro hset c hc
  -- applying a candidate does not set the guard
  have hwas : db.guard.overflowEstablishedAt ≠ none := by
    intro hnone
    rw [happlied.advanced.unset hnone] at hset
    exact hset hnone
  rcases happlied.candidates c hc with ⟨-, heq⟩ | ⟨d, hd, -, heq⟩
  · rw [heq]
    exact happlied.advanced.isSet hwas
  · rw [← heq]
    exact (h hwas d hd).rises hrises

theorem Database.Guarded.prune {cutoff : DateTime} {maximumRows : Nat} (h : db.Guarded)
    (hpruned : Pruned cutoff maximumRows db db') : db'.Guarded := by
  intro hset c hc
  have hretained : c ∈ db.retained cutoff := hpruned.newest.mem hc
  by_cases hfits : (db.retained cutoff).length ≤ maximumRows
  · have hguard := hpruned.fits hfits
    rw [hguard] at hset
    exact (h hset c (List.mem_filter.1 hretained).1).of_guard_eq hguard
  · exact hpruned.overflows (by omega) c hretained

theorem candidateStore_guarded (h : candidateStore.Reachable db) : db.Guarded := by
  refine h.invariant (fun db hinit hset => absurd hinit hset) fun db trigger db' _ ih _ hstep => ?_
  obtain ⟨write, n, db₁, happly, hprune⟩ := candidateStore_step hstep
  exact (ih.apply (applyAuthoritativeCandidate_ok happly)
    ((applyAuthoritativeCandidate_rises _ _).of_ok happly)).prune
      ((pruneConnectionCandidates_yields _ _).of_ok hprune).1

/-- **The store of candidates is bounded, and the guard stands for what it lost.** After any
sequence of committed triggers one more leaves at most 256 candidates, the newest of those that are
not expired; and from then on the guard never falls, never is below a candidate that was there or
was evicted at an overflow, and never is below a candidate that is stored, rejected or evicted after
it. -/
theorem candidate_store_bounded (h : candidateStore.Reachable db) {trigger : CandidateTrigger}
    {write : CandidateWrite} {n : Nat} {db₁ : Database}
    (happly : applyAuthoritativeCandidate trigger.candidate trigger.expectedRevision db =
      .ok (write, db₁))
    (hprune : pruneConnectionCandidates trigger.cutoff 256 db₁ = .ok (n, db')) :
    db'.candidate.rows.length ≤ 256 ∧
    KeepsFirst BusinessConnectionCandidate.Newer 256 (db₁.retained trigger.cutoff)
      db'.candidate.rows ∧
    ∀ db'', candidateStore.Runs (fun _ _ => True) db' db'' →
      (∀ g, db.guard.overflowEstablishedAt = some g →
        ∃ g', db''.guard.overflowEstablishedAt = some g' ∧ g ≤ g') ∧
      (256 < (db₁.retained trigger.cutoff).length →
        ∀ c ∈ db₁.retained trigger.cutoff, db''.Covers c.connectionEstablishedAt) ∧
      (db.guard.overflowEstablishedAt ≠ none →
        db''.Covers trigger.candidate.connectionEstablishedAt ∧
        (∀ c ∈ db.candidate.rows, db''.Covers c.connectionEstablishedAt) ∧
        ∀ c ∈ db₁.candidate.rows, db''.Covers c.connectionEstablishedAt) := by
  have hguarded := candidateStore_guarded h
  have happlied := applyAuthoritativeCandidate_ok happly
  have hrises₁ : GuardRises db db₁ := (applyAuthoritativeCandidate_rises _ _).of_ok happly
  have hrises₂ : GuardRises db₁ db' := (pruneConnectionCandidates_rises _ _).of_ok hprune
  have hpruned := ((pruneConnectionCandidates_yields _ _).of_ok hprune).1
  refine ⟨hpruned.newest.length_le, hpruned.newest, fun db'' hruns => ?_⟩
  have hrises₃ := candidateStore_runs_rises hruns
  have hrises : GuardRises db₁ db'' := trans_of GuardRises hrises₂ hrises₃
  have hrises' : GuardRises db db'' := trans_of GuardRises hrises₁ hrises
  refine ⟨hrises', fun hoverflow c hc => (hpruned.overflows hoverflow c hc).rises hrises₃,
    fun hset => ⟨(happlied.advanced.isSet hset).rises hrises,
      fun c hc => (hguarded hset c hc).rises hrises', fun c hc => ?_⟩⟩
  have hset₁ := (happlied.advanced.isSet hset).isSet
  exact (hguarded.apply happlied hrises₁ hset₁ c hc).rises hrises

/-! ## Filling the store -/

section

open Sample

/-- The connection of the `i`-th candidate. -/
def candidateId (i : Nat) : String := String.ofList (List.replicate (i + 1) 'c')

theorem candidateId_length (i : Nat) : (candidateId i).length = i + 1 := by
  simp [candidateId]

theorem candidateId_injective {i j : Nat} (h : candidateId i = candidateId j) : i = j := by
  have hlength := congrArg String.length h
  rw [candidateId_length, candidateId_length] at hlength
  omega

theorem candidateId_not_blank (i : Nat) : blank (candidateId i) = false := by
  have hc : isWhiteSpace 'c' = false := by decide
  simp [candidateId, blank, List.replicate_succ, hc]

/-- The `i`-th candidate, as it is looked up. -/
def candidateNo (i : Nat) : BusinessConnectionCandidate :=
  authoritativeCandidate ⟨candidateId i, 7, some 7, i + 1, rights, true⟩ 1

/-- The first `n` candidates are stored, and none has been evicted. -/
structure Database.Listed (db : Database) (n : Nat) : Prop where
  candidates : db.candidate.rows.map (·.connectionId) = (List.range n).map candidateId
  observed : ∀ c ∈ db.candidate.rows, c.observedAt = 1
  guard : db.guard.overflowEstablishedAt = none

namespace Database.Listed

variable {n : Nat}

theorem empty (hcandidates : db.candidate.rows = [])
    (hguard : db.guard.overflowEstablishedAt = none) : db.Listed 0 := by
  constructor
  · rw [hcandidates]
    rfl
  · rw [hcandidates]
    exact List.forall_mem_nil _
  · exact hguard

theorem of_eq (h : db.Listed n) (hcandidates : db'.candidate = db.candidate)
    (hguard : db'.guard = db.guard) : db'.Listed n := by
  constructor
  · rw [hcandidates]
    exact h.candidates
  · rw [hcandidates]
    exact h.observed
  · rw [hguard]
    exact h.guard

theorem candidates_length (h : db.Listed n) : db.candidate.rows.length = n := by
  have hlength := congrArg List.length h.candidates
  simpa using hlength

theorem candidate_absent (h : db.Listed n) : db.candidate.lookup (candidateId n) = none := by
  refine Table.lookup_eq_none_iff.2 fun c hc hid => ?_
  have hmem : candidateId n ∈ db.candidate.rows.map (·.connectionId) :=
    hid ▸ List.mem_map_of_mem hc
  rw [h.candidates] at hmem
  obtain ⟨i, hi, hname⟩ := List.mem_map.1 hmem
  have hlt := List.mem_range.1 hi
  have heq := candidateId_injective hname
  omega

/-- The next candidate is added. -/
theorem apply (h : db.Listed n) : Yields (applyAuthoritativeCandidate (candidateNo n) none) db
    fun write db' => (write = .inserted ∧ db'.candidate.rows = db.candidate.rows ++ [candidateNo n]) ∧
      Frame [.candidate] db.toTables db'.toTables := by
  have hvalid : validateCandidate (candidateNo n) db = .ok ((), db) := by
    unfold validateCandidate candidateNo authoritativeCandidate
    rw [candidateId_not_blank]
    have hpositive : ¬(n + 1 : Int) ≤ 0 := by omega
    simp [hpositive]
  have hcheck : Tables.candidateCheck (candidateNo n) = true := by
    have hne : candidateId n ≠ "" := by
      intro hempty
      have hlength := candidateId_length n
      rw [hempty] at hlength
      simp at hlength
    have hpositive : (0 : Int) < n + 1 := by omega
    simp [Tables.candidateCheck, candidateNo, authoritativeCandidate, hne, hpositive]
  have hinsert : db.toTables.insertCandidate (candidateNo n) = .ok ((), _) :=
    (if_pos hcheck).trans (dif_pos h.candidate_absent)
  have hadd : Yields (Uow.insertCandidate (candidateNo n)) db fun _ db' =>
      db'.candidate.rows = db.candidate.rows ++ [candidateNo n] ∧
        Frame [.candidate] db.toTables db'.toTables := by
    refine yields_frame ?_ (Uow.insertCandidate_writes (by exact List.mem_singleton.2 rfl))
    refine (Uow.statement_yields hinsert).mono ?_
    rintro _ db' ⟨-, hdb⟩
    rw [hdb]
    rfl
  unfold applyAuthoritativeCandidate loadCandidate
  refine Yields.bind_of_ok hvalid (Yields.bind_read ?_)
  rw [show db.candidate.lookup (candidateNo n).connectionId = none from h.candidate_absent]
  refine Yields.bind hadd ?_
  rintro _ db₁ ⟨hrows, hframe⟩
  have hadvance : advanceOverflowGuardIfActive (candidateNo n) db₁ = .ok ((), db₁) := by
    unfold advanceOverflowGuardIfActive loadCandidateGuard
    rw [Txn.read_bind_apply, hframe.guard (by simp), h.guard]
    rfl
  exact Yields.bind_of_ok hadvance (Yields.pure ⟨⟨rfl, hrows⟩, hframe⟩)

theorem retained (h : db.Listed n) {cutoff : DateTime} (hcutoff : cutoff ≤ 1)
    (hadded : db'.candidate.rows = db.candidate.rows ++ [candidateNo n]) :
    db'.retained cutoff = db'.candidate.rows ∧ db'.candidate.rows.length = n + 1 := by
  constructor
  · refine List.filter_eq_self.2 fun c hc => decide_eq_true ?_
    rw [hadded] at hc
    rcases List.mem_append.1 hc with hc | hc
    · rw [h.observed c hc]
      exact hcutoff
    · rw [List.mem_singleton.1 hc]
      exact hcutoff
  · rw [hadded, List.length_append, h.candidates_length, List.length_singleton]

/-- Then they are pruned, which evicts one if there are more than are kept. -/
theorem prune (h : db.Listed n) {cutoff : DateTime} (hcutoff : cutoff ≤ 1)
    (hadded : db'.candidate.rows = db.candidate.rows ++ [candidateNo n])
    (hguard : db'.guard = db.guard) :
    Yields (pruneConnectionCandidates cutoff candidateLimit) db' fun _ db'' =>
      (if n < candidateLimit then db''.Listed (n + 1)
        else db''.guard.overflowEstablishedAt ≠ none) ∧
      Frame [.candidate, .guard] db'.toTables db''.toTables := by
  obtain ⟨hretained, hlength⟩ := h.retained hcutoff hadded
  refine (pruneConnectionCandidates_yields _ _).mono ?_
  rintro _ db'' ⟨hpruned, hframe⟩
  refine ⟨?_, hframe⟩
  by_cases hn : n < candidateLimit
  · have hfits : (db'.retained cutoff).length ≤ candidateLimit := by
      rw [hretained]
      omega
    have hcandidates := hpruned.newest.eq_of_length_le hfits
    rw [hretained, hadded] at hcandidates
    rw [if_pos hn]
    constructor
    · rw [hcandidates, List.map_append, h.candidates, List.range_succ, List.map_append]
      rfl
    · intro c hc
      rw [hcandidates] at hc
      rcases List.mem_append.1 hc with hc | hc
      · exact h.observed c hc
      · rw [List.mem_singleton.1 hc]
        rfl
    · rw [hpruned.fits hfits, hguard, h.guard]
  · have hmem : candidateNo n ∈ db'.retained cutoff := by
      rw [hretained, hadded]
      exact List.mem_append_right _ (List.mem_singleton.2 rfl)
    have hmore : candidateLimit < (db'.retained cutoff).length := by
      rw [hretained]
      omega
    rw [if_neg hn]
    exact (hpruned.overflows hmore _ hmem).isSet

end Database.Listed

/-- The trigger of the `i`-th candidate. -/
def triggerNo (i : Nat) : CandidateTrigger := ⟨candidateNo i, none, 0⟩

/-- The next trigger commits. -/
theorem candidateStore_listed {n : Nat} (h : db.Listed n) : ∃ db',
    candidateStore.step db (triggerNo n) = some db' ∧
      if n < candidateLimit then db'.Listed (n + 1) else db'.guard.overflowEstablishedAt ≠ none := by
  have htransact : Yields (triggerNo n).transact db fun _ db' =>
      if n < candidateLimit then db'.Listed (n + 1)
        else db'.guard.overflowEstablishedAt ≠ none := by
    refine Yields.bind h.apply ?_
    rintro write db₁ ⟨⟨-, hadded⟩, hframe⟩
    have hcutoff : (triggerNo n).cutoff ≤ 1 := Int.one_nonneg
    refine Yields.bind (h.prune hcutoff hadded (hframe.guard (by simp))) ?_
    rintro _ db₂ ⟨hlisted, -⟩
    exact .pure hlisted
  obtain ⟨write, db', hx, hlisted⟩ := htransact
  refine ⟨db', ?_, hlisted⟩
  simp only [candidateStore, hx]
  rfl

theorem exists_listed {n : Nat} (hn : n ≤ candidateLimit) :
    ∃ db, candidateStore.Reachable db ∧ db.Listed n := by
  induction n with
  | zero =>
    have hinit : candidateStore.init (.migrated 0) := rfl
    exact ⟨.migrated 0, ⟨_, hinit, .refl _⟩, .empty rfl rfl⟩
  | succ n ih =>
    obtain ⟨db, hdb, hlisted⟩ := ih (by omega)
    obtain ⟨db', hstep, hlisted'⟩ := candidateStore_listed hlisted
    rw [if_pos (by omega)] at hlisted'
    exact ⟨db', hdb.step trivial hstep, hlisted'⟩

/-- A candidate more than are kept is stored: one is evicted, and the guard covers them all. -/
theorem candidate_store_bounded_overflow : ∃ db db', candidateStore.Reachable db ∧
    db.candidate.rows.length = 256 ∧ candidateStore.step db (triggerNo 256) = some db' ∧
    db'.candidate.rows.length ≤ 256 ∧
    ∀ db'', candidateStore.Runs (fun _ _ => True) db' db'' →
      db''.Covers 257 ∧ ∀ c ∈ db.candidate.rows, db''.Covers c.connectionEstablishedAt := by
  obtain ⟨db, hdb, hlisted⟩ := exists_listed (le_refl candidateLimit)
  obtain ⟨db', hstep, -⟩ := candidateStore_listed hlisted
  obtain ⟨write, n, db₁, happly, hprune⟩ := candidateStore_step hstep
  obtain ⟨⟨-, hadded⟩, -⟩ := hlisted.apply.of_ok happly
  have hcutoff : (triggerNo candidateLimit).cutoff ≤ 1 := Int.one_nonneg
  obtain ⟨hretained, hlength⟩ := hlisted.retained hcutoff hadded
  obtain ⟨hbound, -, hlater⟩ := candidate_store_bounded hdb happly hprune
  refine ⟨db, db', hdb, hlisted.candidates_length, hstep, hbound, fun db'' hruns => ?_⟩
  have hmore : 256 < (db₁.retained (triggerNo candidateLimit).cutoff).length := by
    rw [hretained, hlength]
    decide
  have hcovers := (hlater db'' hruns).2.1 hmore
  rw [hretained, hadded] at hcovers
  exact ⟨hcovers (candidateNo 256) (List.mem_append_right _ (List.mem_singleton.2 rfl)),
    fun c hc => hcovers c (List.mem_append_left _ hc)⟩

end

end ChatHygiene
