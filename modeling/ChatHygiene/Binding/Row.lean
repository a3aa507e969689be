import ChatHygiene.Connection.Floor
/-!
# What becomes of the Owner row and the overflow guard

A claimed Owner row keeps its user and the instant it was bound. Its chat moves
off the legacy fallback and nowhere else, and its floor and the overflow guard
only rise.
-/

namespace ChatHygiene

open Txn (Respects)

variable {db db' : Database}

/-- A mark is kept or raised. -/
def Behind (f f' : Option Int) : Prop := ∀ g, f = some g → ∃ g', f' = some g' ∧ g ≤ g'

theorem Behind.refl (f : Option Int) : Behind f f := fun g hg => ⟨g, hg, le_refl _⟩

theorem Behind.trans {f f' f'' : Option Int} (h : Behind f f') (h' : Behind f' f'') :
    Behind f f'' := by
  intro g hg
  obtain ⟨g', hg', hle⟩ := h g hg
  obtain ⟨g'', hg'', hle'⟩ := h' g' hg'
  exact ⟨g'', hg'', le_trans hle hle'⟩

theorem behind_raiseFloor (floor : Option Int) (established : Int) :
    Behind floor (raiseFloor floor established) := by
  obtain ⟨raised, hraised, -, hpast⟩ := raiseFloor_spec floor established
  exact fun g hg => ⟨raised, hraised, hpast g hg⟩

/-! ## The Owner row -/

/-- What an Owner row never loses. -/
structure OwnerLifecycleState.Ages (o o' : OwnerLifecycleState) : Prop where
  ready : o ≠ .pending → o' ≠ .pending
  claimed : ∀ user chat source floor boundAt, o = .ready (.claimed user chat source floor boundAt) →
    ∃ chat' source' floor', o' = .ready (.claimed user chat' source' floor' boundAt) ∧
      (chat' = chat ∧ source' = source ∨ source = .legacyFallback ∧ source' ≠ .legacyFallback) ∧
      Behind floor floor'

namespace OwnerLifecycleState.Ages

variable {o o' o'' : OwnerLifecycleState}

protected theorem refl (o : OwnerLifecycleState) : o.Ages o :=
  ⟨id, fun _ chat source floor _ h => ⟨chat, source, floor, h, .inl ⟨rfl, rfl⟩, .refl _⟩⟩

protected theorem trans (h : o.Ages o') (h' : o'.Ages o'') : o.Ages o'' := by
  refine ⟨h'.ready ∘ h.ready, fun user chat source floor boundAt ho => ?_⟩
  obtain ⟨chat', source', floor', ho', hchat, hfloor⟩ := h.claimed _ _ _ _ _ ho
  obtain ⟨chat'', source'', floor'', ho'', hchat', hfloor'⟩ := h'.claimed _ _ _ _ _ ho'
  refine ⟨chat'', source'', floor'', ho'', ?_, hfloor.trans hfloor'⟩
  rcases hchat with ⟨rfl, rfl⟩ | ⟨hlegacy, hmoved⟩
  · exact hchat'
  · rcases hchat' with ⟨-, rfl⟩ | ⟨hlegacy', -⟩
    · exact .inr ⟨hlegacy, hmoved⟩
    · exact absurd hlegacy' hmoved

/-- The first claim. -/
theorem claim (h : o = .pending ∨ o = .ready .unclaimed) (ho' : o' ≠ .pending) : o.Ages o' := by
  refine ⟨fun _ => ho', fun _ _ _ _ _ ho => ?_⟩
  rcases h with rfl | rfl <;> cases ho

theorem raiseFloor (o : OwnerLifecycleState) (established : Int) :
    o.Ages (o.raiseFloor established) := by
  match o with
  | .pending => exact .refl _
  | .ready .unclaimed => exact .refl _
  | .ready (.claimed user chat source floor boundAt) =>
    refine ⟨fun _ => nofun, fun _ _ _ _ _ ho => ?_⟩
    cases ho
    exact ⟨chat, source, _, rfl, .inl ⟨rfl, rfl⟩, behind_raiseFloor _ _⟩

theorem ownerUserId (h : o.Ages o') {user : Int} (hu : o.ownerUserId = some user) :
    o'.ownerUserId = some user := by
  match o with
  | .pending => cases hu
  | .ready .unclaimed => cases hu
  | .ready (.claimed user' chat source floor boundAt) =>
    obtain ⟨chat', source', floor', rfl, -⟩ := h.claimed _ _ _ _ _ rfl
    exact hu

theorem floor (h : o.Ages o') : Behind o.floor o'.floor := by
  match o with
  | .pending => exact nofun
  | .ready .unclaimed => exact nofun
  | .ready (.claimed user chat source floor boundAt) =>
    obtain ⟨chat', source', floor', rfl, -, hfloor⟩ := h.claimed _ _ _ _ _ rfl
    exact hfloor

theorem isClaimed (h : o.Ages o') (hclaimed : o.isClaimed = true) :
    o'.isClaimed = true := by
  match o with
  | .ready (.claimed user chat source floor boundAt) =>
    obtain ⟨chat', source', floor', rfl, -⟩ := h.claimed _ _ _ _ _ rfl
    rfl

end OwnerLifecycleState.Ages

/-- The Owner row ages. -/
def OwnerAges (db db' : Database) : Prop := db.ownerIdentity.Ages db'.ownerIdentity

instance : Std.Refl OwnerAges := ⟨fun _ => .refl _⟩

instance : IsTrans Database OwnerAges := ⟨fun _ _ _ => OwnerLifecycleState.Ages.trans⟩

theorem OwnerAges.of_eq (h : db'.ownerIdentity = db.ownerIdentity) : OwnerAges db db' := by
  unfold OwnerAges
  rw [h]
  exact .refl _

/-- A transaction that does not write to the Owner row. -/
theorem ownerAges_of_writes {α : Type} {x : Uow α} (targets : List Target)
    (howner : Target.owner ∉ targets) (h : Respects (WritesTo targets fun _ => True) x) :
    Respects OwnerAges x :=
  h.mono fun _ _ hw => .of_eq (hw.frame.ownerIdentity howner)

/-- A change of the Owner row, where the row is one it is made for. -/
theorem updateOwner_ages {p : OwnerLifecycleState → Bool}
    {f : OwnerLifecycleState → OwnerLifecycleState} (h : ∀ o, p o = true → o.Ages (f o)) :
    Respects OwnerAges (Uow.updateOwner p f) := by
  intro db n db' hx
  have hx := Uow.statement_ok_iff.1 hx
  unfold Tables.updateOwner at hx
  unfold OwnerAges
  split at hx
  · next hp =>
    obtain ⟨-, hdb⟩ := Prod.mk.inj (Except.ok.inj hx)
    rw [← hdb]
    exact h _ hp
  · obtain ⟨-, hdb⟩ := Prod.mk.inj (Except.ok.inj hx)
    rw [← hdb]
    exact .refl _

theorem initializeOrLoadOwnerIdentity_ages (now : DateTime) :
    Respects OwnerAges (initializeOrLoadOwnerIdentity now) := by
  have hload : Respects OwnerAges loadOwnerIdentity := .of_readOnly loadOwnerIdentity_readOnly
  have hready (identity : OwnerIdentity) (o : OwnerLifecycleState)
      (ho : decide (o = .pending) = true) : o.Ages (.ready identity) :=
    .claim (.inl (by simpa using ho)) nofun
  refine (Respects.read _).bind fun state => ?_
  cases state with
  | ready identity => exact .pure _
  | pending =>
    refine (Respects.read _).bind fun connections => ?_
    match connections with
    | [] =>
      exact (updateOwner_ages (hready _)).bind fun _ => .ite (fun _ => .throw _) fun _ => hload
    | [ownerUserId] =>
      exact .ite (fun _ => (updateOwner_ages (hready _)).bind fun _ =>
        .ite (fun _ => .throw _) fun _ => hload) fun _ => .throw _
    | _ :: _ :: _ => exact .throw _

theorem claimOwner_ages (ownerUserId ownerChatId floor : Int) (boundAt : DateTime) :
    Respects OwnerAges (claimOwner ownerUserId ownerChatId floor boundAt) := by
  refine .ite (fun _ => .throw _) fun _ => (Respects.read _).bind fun state => ?_
  match state with
  | .pending => exact .throw _
  | .ready (.claimed ..) => exact .throw _
  | .ready .unclaimed =>
    refine (updateOwner_ages fun o ho => ?_).bind fun _ => .ite (fun _ => .throw _) fun _ =>
      .of_readOnly loadOwnerIdentity_readOnly
    exact .claim (.inr (by simpa using ho)) nofun

theorem promoteOwnerChat_ages (ownerUserId ownerChatId : Int) (source : OwnerChatSource) :
    Respects OwnerAges (promoteOwnerChat ownerUserId ownerChatId source) := by
  have hload : Respects OwnerAges loadOwnerIdentity := .of_readOnly loadOwnerIdentity_readOnly
  refine .ite (fun _ => .throw _) fun _ => .ite (fun _ => .throw _) fun hsource =>
    hload.bind fun identity => ?_
  cases identity with
  | unclaimed => exact .throw _
  | claimed user chat chatSource floor boundAt =>
    refine .ite (fun _ => .throw _) fun _ => .ite (fun _ => .pure _) fun hlegacy =>
      (updateOwner_ages fun o ho => ?_).bind fun _ => .ite (fun _ => .throw _) fun _ => hload
    obtain rfl : o = .ready (.claimed user chat chatSource floor boundAt) := by simpa using ho
    refine ⟨fun _ => nofun, fun _ _ _ _ _ heq => ?_⟩
    cases heq
    refine ⟨_, _, _, rfl, .inr ⟨not_not.1 hlegacy, ?_⟩, .refl _⟩
    rintro rfl
    exact hsource ⟨nofun, nofun⟩

/-! ## The overflow guard -/

/-- The overflow guard is left alone or raised. -/
def GuardRises (db db' : Database) : Prop :=
  Behind db.guard.overflowEstablishedAt db'.guard.overflowEstablishedAt

instance : Std.Refl GuardRises := ⟨fun _ => .refl _⟩

instance : IsTrans Database GuardRises := ⟨fun _ _ _ => Behind.trans⟩

theorem GuardRises.of_eq (h : db'.guard = db.guard) : GuardRises db db' := by
  unfold GuardRises
  rw [h]
  exact .refl _

/-- A transaction that does not write to the guard. -/
theorem guardRises_of_writes {α : Type} {x : Uow α} (targets : List Target)
    (hguard : Target.guard ∉ targets) (h : Respects (WritesTo targets fun _ => True) x) :
    Respects GuardRises x :=
  h.mono fun _ _ hw => .of_eq (hw.frame.guard hguard)

theorem updateOverflowGuard_rises (establishment : Int) :
    Respects GuardRises (updateOverflowGuard establishment) :=
  fun _ _ _ h => (updateOverflowGuard_ok h).2

theorem advanceOverflowGuardIfActive_rises (candidate : BusinessConnectionCandidate) :
    Respects GuardRises (advanceOverflowGuardIfActive candidate) :=
  fun _ _ _ h => (advanceOverflowGuardIfActive_ok h).2

theorem candidate_rises {α : Type} {x : Uow α}
    (h : Respects (WritesTo [.candidate] fun _ => True) x) : Respects GuardRises x :=
  guardRises_of_writes [.candidate] (by simp) h

theorem pruneConnectionCandidates_rises (cutoff : DateTime) (maximumRows : Nat) :
    Respects GuardRises (pruneConnectionCandidates cutoff maximumRows) := by
  have hdelete (p) : Respects GuardRises (Uow.deleteCandidate p) :=
    candidate_rises (Uow.deleteCandidate_writes (by exact List.mem_singleton.2 rfl))
  refine (hdelete _).bind fun _ => (Respects.read _).bind fun retained =>
    .ite (fun _ => .pure _) fun _ => ?_
  split
  · exact .throw _
  · exact (updateOverflowGuard_rises _).bind fun _ => (hdelete _).bind fun _ => .pure _

theorem applyAuthoritativeCandidate_rises (candidate : BusinessConnectionCandidate)
    (expectedRevision : Option Nat) :
    Respects GuardRises (applyAuthoritativeCandidate candidate expectedRevision) := by
  have hguard : Respects GuardRises (advanceOverflowGuardIfActive candidate) :=
    advanceOverflowGuardIfActive_rises candidate
  have hdelete (c) : Respects GuardRises (deleteExactCandidate c) :=
    candidate_rises ((Uow.deleteCandidate_writes (by exact List.mem_singleton.2 rfl)).bind
      fun _ => updateOne_writes _)
  refine (Respects.of_readOnly (validateCandidate_readOnly candidate)).bind fun _ =>
    (Respects.read _).bind fun existing => ?_
  cases existing with
  | none =>
    exact .ite (fun _ => hguard.bind fun _ => .pure _) fun _ =>
      (candidate_rises (Uow.insertCandidate_writes (by exact List.mem_singleton.2 rfl))).bind
        fun _ => hguard.bind fun _ => .pure _
  | some existing =>
    exact .ite (fun _ => hguard.bind fun _ => (hdelete _).bind fun _ => .pure _) fun _ =>
      .ite (fun _ => hguard.bind fun _ => (hdelete _).bind fun _ => .pure _) fun _ =>
      .ite (fun _ => hguard.bind fun _ => .pure _) fun _ =>
      (candidate_rises (Uow.updateCandidate_writes (by exact List.mem_singleton.2 rfl))).bind
        fun _ => .ite (fun _ => .pure _) fun _ => hguard.bind fun _ => .pure _

end ChatHygiene
