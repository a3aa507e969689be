import ChatHygiene.Footprint.Frame
import ChatHygiene.Footprint.Storage
import ChatHygiene.Storage.Reconciliation
import Mathlib.Order.Basic
/-!
# The generation floor

Three rows carry the generations that are behind: the floor of the Owner, the
trusted connection and the overflow guard. Their maximum is the floor below
which nothing new is trusted.
-/

namespace ChatHygiene

open Txn (Respects)

variable {db db' : Database} {t t' : Tables}

/-- The user a claim has bound. -/
def OwnerLifecycleState.ownerUserId : OwnerLifecycleState → Option Int
  | .ready (.claimed ownerUserId _ _ _ _) => some ownerUserId
  | _ => none

theorem exists_claimed_of_ownerUserId {user : Int} (h : db.ownerIdentity.ownerUserId = some user) :
    ∃ chat source floor boundAt,
      db.ownerIdentity = .ready (.claimed user chat source floor boundAt) := by
  match howner : db.ownerIdentity with
  | .ready (.claimed user' chat source floor boundAt) =>
    rw [howner] at h
    obtain rfl := Option.some.inj h
    exact ⟨chat, source, floor, boundAt, rfl⟩
  | .ready .unclaimed | .pending =>
    rw [howner] at h
    cases h

/-- The connection floor of the Owner. -/
def OwnerLifecycleState.floor : OwnerLifecycleState → Option Int
  | .ready (.claimed _ _ _ floor _) => floor
  | _ => none

/-- The generations the three rows carry. -/
def Tables.carriers (t : Tables) : List Int :=
  t.ownerIdentity.floor.toList ++ t.businessConnection.rows.filterMap (·.connectionEstablishedAt) ++
    t.guard.overflowEstablishedAt.toList

/-- **The generation floor**: the latest generation that a row carries. -/
def Tables.floor (t : Tables) : Option Int := t.carriers.max?

theorem Tables.mem_carriers {g : Int} : g ∈ t.carriers ↔
    t.ownerIdentity.floor = some g ∨
    (∃ c ∈ t.businessConnection.rows, c.connectionEstablishedAt = some g) ∨
    t.guard.overflowEstablishedAt = some g := by
  simp [carriers]

theorem generation_le_refl (f : Option Int) : f ≤ f := by
  cases f <;> simp

theorem generation_le_trans {f f' f'' : Option Int} (h : f ≤ f') (h' : f' ≤ f'') : f ≤ f'' := by
  cases f with
  | none => simp
  | some g =>
    cases f' with
    | none => simp at h
    | some g' =>
      cases f'' with
      | none => simp at h'
      | some g'' =>
        simp only [Option.some_le_some] at h h' ⊢
        omega

theorem generation_lt_of_le {f : Option Int} {g e : Int} (h : some g ≤ f) (h' : f < some e) :
    g < e := by
  cases f with
  | none => simp at h
  | some m =>
    simp only [Option.some_le_some, Option.some_lt_some] at h h'
    omega

theorem le_max?_of_mem {l : List Int} {g : Int} (h : g ∈ l) : ∃ m, l.max? = some m ∧ g ≤ m := by
  cases hm : l.max? with
  | none => simp [List.max?_eq_none_iff.1 hm] at h
  | some m => exact ⟨m, rfl, (List.max?_le_iff hm).1 (le_refl m) g h⟩

theorem Tables.floor_le {b : Option Int} (h : ∀ g ∈ t.carriers, some g ≤ b) : t.floor ≤ b := by
  unfold floor
  cases hm : t.carriers.max? with
  | none => simp
  | some m => exact h m (List.max?_mem hm)

theorem Tables.le_floor {g : Int} (h : g ∈ t.carriers) : some g ≤ t.floor := by
  obtain ⟨m, hm, hle⟩ := le_max?_of_mem h
  unfold floor
  rw [hm]
  exact Option.some_le_some.2 hle

theorem Tables.floor_lt {e : Int} (h : ∀ g ∈ t.carriers, g < e) : t.floor < some e := by
  unfold floor
  cases hm : t.carriers.max? with
  | none => simp
  | some m => exact Option.some_lt_some.2 (h m (List.max?_mem hm))

/-- The floor rises when each carrier is left alone or taken over by a later one. -/
theorem Tables.floor_mono (howner : ∀ g, t.ownerIdentity.floor = some g → some g ≤ t'.floor)
    (htrusted : ∀ c ∈ t.businessConnection.rows, ∀ g, c.connectionEstablishedAt = some g →
      some g ≤ t'.floor)
    (hguard : ∀ g, t.guard.overflowEstablishedAt = some g → some g ≤ t'.floor) :
    t.floor ≤ t'.floor := by
  refine floor_le fun g hg => ?_
  rcases mem_carriers.1 hg with h | ⟨c, hc, h⟩ | h
  · exact howner g h
  · exact htrusted c hc g h
  · exact hguard g h

theorem Tables.owner_le_floor {g : Int} (h : t.ownerIdentity.floor = some g) : some g ≤ t.floor :=
  le_floor (mem_carriers.2 (.inl h))

theorem Tables.trusted_le_floor {c : BusinessConnectionRecord} {g : Int}
    (hc : c ∈ t.businessConnection.rows) (h : c.connectionEstablishedAt = some g) :
    some g ≤ t.floor :=
  le_floor (mem_carriers.2 (.inr (.inl ⟨c, hc, h⟩)))

theorem Tables.guard_le_floor {g : Int} (h : t.guard.overflowEstablishedAt = some g) :
    some g ≤ t.floor :=
  le_floor (mem_carriers.2 (.inr (.inr h)))

/-! ## Raising it -/

/-- A raised floor is past what it was, and past what it is raised to. -/
theorem raiseFloor_spec (floor : Option Int) (established : Int) :
    ∃ raised, raiseFloor floor established = some raised ∧ established ≤ raised ∧
      ∀ g, floor = some g → g ≤ raised := by
  cases floor with
  | none => exact ⟨established, rfl, le_refl _, nofun⟩
  | some current =>
    by_cases h : current < established
    · exact ⟨established, if_pos h, le_refl _, fun g hg => by cases hg; omega⟩
    · exact ⟨current, if_neg h, by omega, fun g hg => by cases hg; omega⟩

theorem loadOwnerIdentity_ok {identity : OwnerIdentity}
    (h : loadOwnerIdentity db = .ok (identity, db')) : db.ownerIdentity = .ready identity := by
  unfold loadOwnerIdentity loadOwnerLifecycleState at h
  simp only [Txn.read_bind_apply] at h
  cases howner : db.ownerIdentity with
  | pending =>
    rw [howner] at h
    cases h
  | ready current =>
    rw [howner] at h
    obtain ⟨rfl, -⟩ := Prod.mk.inj (Txn.pure_ok_iff.1 h)
    rfl

/-- What raising the Owner's floor comes to. -/
theorem advanceOwnerConnectionFloor_ok {floor : Int} {identity : OwnerIdentity}
    (h : advanceOwnerConnectionFloor floor db = .ok (identity, db')) :
    Frame [.owner] db.toTables db'.toTables ∧
      db'.ownerIdentity = db.ownerIdentity.raiseFloor floor ∧ db.ownerIdentity.isClaimed = true := by
  refine ⟨(show WritesTo [.owner] (fun _ => True) db db' from
    advanceOwnerConnectionFloor_writes (by simp) _ _ _ _ h).frame, ?_⟩
  unfold advanceOwnerConnectionFloor at h
  replace h := (Txn.guard_ok_iff.1 h).2
  obtain ⟨owner, -, h⟩ := Txn.bind_ok_of_readOnly loadOwnerIdentity_readOnly h
  cases owner with
  | unclaimed => cases h
  | claimed user chat source current boundAt =>
    obtain ⟨affected, db₁, hupdate, h⟩ := Txn.bind_ok_iff.1 h
    obtain ⟨hone, h⟩ := Txn.guard_ok_iff.1 h
    obtain rfl : db₁ = db' := loadOwnerIdentity_readOnly.of_ok h
    have hupdate := Uow.statement_ok_iff.1 hupdate
    unfold Tables.updateOwner at hupdate
    split at hupdate
    · next hclaimed =>
      obtain ⟨-, hdb⟩ := Prod.mk.inj (Except.ok.inj hupdate)
      exact ⟨by rw [← hdb], hclaimed⟩
    · obtain ⟨hzero, -⟩ := Prod.mk.inj (Except.ok.inj hupdate)
      omega

/-- The Owner's floor is raised past what it was, and past what it is raised to. -/
theorem floor_raiseFloor {owner : OwnerLifecycleState} (floor : Int)
    (h : owner.isClaimed = true) :
    ∃ raised, (owner.raiseFloor floor).floor = some raised ∧ floor ≤ raised ∧
      ∀ g, owner.floor = some g → g ≤ raised := by
  match owner with
  | .ready (.claimed user chat source current boundAt) => exact raiseFloor_spec current floor
  | .ready .unclaimed => cases h
  | .pending => cases h

/-- Raising the overflow guard leaves everything else alone. -/
theorem updateOverflowGuard_ok {establishment : Int} {u : Unit}
    (h : updateOverflowGuard establishment db = .ok (u, db')) :
    Frame [.guard] db.toTables db'.toTables ∧
      ∀ g, db.guard.overflowEstablishedAt = some g →
        ∃ g', db'.guard.overflowEstablishedAt = some g' ∧ g ≤ g' := by
  refine ⟨(show WritesTo [.guard] (fun _ => True) db db' from
    updateOverflowGuard_writes (by simp) _ _ _ _ h).frame, fun g hg => ?_⟩
  unfold updateOverflowGuard at h
  obtain ⟨guard, s, hload, h⟩ := Txn.bind_ok_iff.1 h
  obtain ⟨rfl, rfl⟩ := Prod.mk.inj (Txn.read_ok_iff.1 hload)
  obtain ⟨affected, db₁, hupdate, h⟩ := Txn.bind_ok_iff.1 h
  obtain rfl : db₁ = db' := (show Respects Eq (updateOne affected) from
    .ite (fun _ => .pure _) fun _ => .throw _).of_ok h
  have hupdate := Uow.statement_ok_iff.1 hupdate
  unfold Tables.updateGuard at hupdate
  rw [if_pos (by simp)] at hupdate
  obtain ⟨-, hdb⟩ := Prod.mk.inj (Except.ok.inj hupdate)
  obtain ⟨raised, hraised, -, hpast⟩ :=
    raiseFloor_spec db.guard.overflowEstablishedAt establishment
  exact ⟨raised, by rw [← hdb]; exact hraised, hpast g hg⟩

theorem advanceOverflowGuardIfActive_ok {candidate : BusinessConnectionCandidate} {u : Unit}
    (h : advanceOverflowGuardIfActive candidate db = .ok (u, db')) :
    Frame [.guard] db.toTables db'.toTables ∧
      ∀ g, db.guard.overflowEstablishedAt = some g →
        ∃ g', db'.guard.overflowEstablishedAt = some g' ∧ g ≤ g' := by
  unfold advanceOverflowGuardIfActive at h
  obtain ⟨guard, s, hload, h⟩ := Txn.bind_ok_iff.1 h
  obtain ⟨rfl, rfl⟩ := Prod.mk.inj (Txn.read_ok_iff.1 hload)
  split at h
  · exact updateOverflowGuard_ok h
  · obtain ⟨-, rfl⟩ := Prod.mk.inj (Txn.pure_ok_iff.1 h)
    exact ⟨.refl _, fun g hg => ⟨g, hg, le_refl _⟩⟩

/-! ## The check of an installation -/

/-- What is past the maximum of the parts is past each of them. -/
theorem lt_of_parts {parts : List (Option Int)} {e m : Int}
    (hpast : ((parts.filterMap id).max?).any (e ≤ ·) = false) (h : some m ∈ parts) : m < e := by
  have hmem : m ∈ parts.filterMap id := List.mem_filterMap.2 ⟨some m, h, rfl⟩
  obtain ⟨f, hf, hm⟩ := le_max?_of_mem hmem
  rw [hf] at hpast
  simp only [Option.any_some, decide_eq_false_iff_not, not_le] at hpast
  omega

/-- **What passes the floor check is past every carrier but the connection itself.** -/
theorem generationFloorExcluding_ok {connectionId : String} {floor : Option Int} {e : Int}
    (h : generationFloorExcluding connectionId db = .ok (floor, db'))
    (hpast : floor.any (e ≤ ·) = false)
    (hother : ∀ c ∈ db.businessConnection.rows, c.connectionId ≠ connectionId) :
    db' = db ∧ db.floor < some e := by
  obtain rfl : db = db' := (generationFloorExcluding_readOnly _).of_ok h
  refine ⟨rfl, Tables.floor_lt fun g hg => ?_⟩
  unfold generationFloorExcluding at h
  obtain ⟨owner, howner, h⟩ := Txn.bind_ok_of_readOnly loadOwnerIdentity_readOnly h
  replace howner := loadOwnerIdentity_ok howner
  obtain ⟨hfloor, -⟩ := Prod.mk.inj (Txn.pure_ok_iff.1 h)
  rw [← hfloor] at hpast
  rcases Tables.mem_carriers.1 hg with h | ⟨c, hc, h⟩ | h
  · refine lt_of_parts hpast ?_
    simp only [List.mem_cons, List.not_mem_nil, or_false]
    left
    rw [← h, howner]
    cases owner <;> rfl
  · -- the trusted part is a maximum itself
    have hmem : g ∈ (db.businessConnection.rows.filter fun c =>
        c.connectionId ≠ connectionId).filterMap (·.connectionEstablishedAt) :=
      List.mem_filterMap.2 ⟨c, List.mem_filter.2 ⟨hc, by simpa using hother c hc⟩, h⟩
    obtain ⟨m, hm, hle⟩ := le_max?_of_mem hmem
    refine lt_of_le_of_lt hle (lt_of_parts hpast ?_)
    simp only [List.mem_cons, List.not_mem_nil, or_false]
    exact .inr (.inl hm.symm)
  · refine lt_of_parts hpast ?_
    simp only [List.mem_cons, List.not_mem_nil, or_false]
    exact .inr (.inr (.inr h.symm))

end ChatHygiene
