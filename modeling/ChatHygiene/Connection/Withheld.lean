import ChatHygiene.Connection.Reconcile
/-!
# What the gates do to connections

A gate, a disabled connection, an authentication failure and the startup
normalisation grant nothing: every connection stays, at its generation, with no
more than it had, and each one that changes has a later revision.
-/

namespace ChatHygiene

open Txn (Respects)

variable {db db' : Database}

theorem BusinessRights.le_trans {r s t : BusinessRights} (h : r ≤ s) (h' : s ≤ t) : r ≤ t :=
  ⟨h'.1 ∘ h.1, h'.2.1 ∘ h.2.1, h'.2.2.1 ∘ h.2.2.1, h'.2.2.2 ∘ h.2.2.2⟩

/-- `c'` is `c` with no more than it had, at a later revision if at all changed. -/
structure BusinessConnectionRecord.Withholds (c c' : BusinessConnectionRecord) : Prop where
  connectionId : c'.connectionId = c.connectionId
  ownerUserId : c'.ownerUserId = c.ownerUserId
  established : c'.connectionEstablishedAt = c.connectionEstablishedAt
  enabled : c'.enabled = true → c.enabled = true
  rights : c'.rights ≤ c.rights
  confirmed : c'.reconciliationState = .confirmed → c.reconciliationState = .confirmed
  revision : c' = c ∨ c.stateRevision < c'.stateRevision

namespace BusinessConnectionRecord.Withholds

variable {c c' c'' : BusinessConnectionRecord}

protected theorem refl (c : BusinessConnectionRecord) : c.Withholds c :=
  ⟨rfl, rfl, rfl, id, BusinessRights.le_refl _, id, .inl rfl⟩

protected theorem trans (h : c.Withholds c') (h' : c'.Withholds c'') : c.Withholds c'' where
  connectionId := h'.connectionId.trans h.connectionId
  ownerUserId := h'.ownerUserId.trans h.ownerUserId
  established := h'.established.trans h.established
  enabled := h.enabled ∘ h'.enabled
  rights := BusinessRights.le_trans h'.rights h.rights
  confirmed := h.confirmed ∘ h'.confirmed
  revision := by
    rcases h.revision with rfl | hlt
    · exact h'.revision
    · rcases h'.revision with rfl | hlt'
      · exact .inr hlt
      · exact .inr (hlt.trans hlt')

end BusinessConnectionRecord.Withholds

theorem BusinessConnectionRecord.gated_withholds (disable : Bool) (now : DateTime)
    (c : BusinessConnectionRecord) : c.Withholds (c.gated disable now) where
  connectionId := rfl
  ownerUserId := rfl
  established := rfl
  enabled h := (Bool.and_eq_true_iff.1 h).1
  rights := BusinessRights.le_refl _
  confirmed := nofun
  revision := .inr (Nat.lt_succ_self _)

theorem BusinessConnectionRecord.lessened_withholds (c : BusinessConnectionRecord)
    (a : BusinessConnectionCandidate) : c.Withholds (c.lessened a) where
  connectionId := rfl
  ownerUserId := rfl
  established := rfl
  enabled h := (Bool.and_eq_true_iff.1 h).1
  rights := BusinessRights.inter_le_left _ _
  confirmed := id
  revision := .inr (Nat.lt_succ_self _)

/-- **No connection comes or goes, and none gains anything.** -/
def Withheld (db db' : Database) : Prop :=
  ∃ f : BusinessConnectionRecord → BusinessConnectionRecord,
    db'.businessConnection.rows = db.businessConnection.rows.map f ∧
      ∀ c : BusinessConnectionRecord, c.Withholds (f c)

namespace Withheld

protected theorem refl (db : Database) : Withheld db db := ⟨id, by simp, .refl⟩

protected theorem trans {db'' : Database} (h : Withheld db db') (h' : Withheld db' db'') :
    Withheld db db'' := by
  obtain ⟨f, hf, hwithholds⟩ := h
  obtain ⟨g, hg, hwithholds'⟩ := h'
  exact ⟨g ∘ f, by rw [hg, hf, List.map_map], fun c => (hwithholds c).trans (hwithholds' (f c))⟩

instance : Std.Refl Withheld := ⟨Withheld.refl⟩

instance : IsTrans Database Withheld := ⟨fun _ _ _ => Withheld.trans⟩

theorem of_eq (h : db'.businessConnection = db.businessConnection) : Withheld db db' :=
  ⟨id, by simp [h], .refl⟩

/-- Every connection there is was there, with as much. -/
theorem row (h : Withheld db db') {c' : BusinessConnectionRecord}
    (hc' : c' ∈ db'.businessConnection.rows) :
    ∃ c ∈ db.businessConnection.rows, c.Withholds c' := by
  obtain ⟨f, hf, hwithholds⟩ := h
  rw [hf] at hc'
  obtain ⟨c, hc, rfl⟩ := List.mem_map.1 hc'
  exact ⟨c, hc, hwithholds c⟩

/-- Every connection there was is still there, with no more. -/
theorem kept (h : Withheld db db') {c : BusinessConnectionRecord}
    (hc : c ∈ db.businessConnection.rows) :
    ∃ c' ∈ db'.businessConnection.rows, c.Withholds c' := by
  obtain ⟨f, hf, hwithholds⟩ := h
  exact ⟨f c, by rw [hf]; exact List.mem_map_of_mem hc, hwithholds c⟩

end Withheld

/-- A transaction that does not write to connections. -/
theorem withheld_of_writes {α : Type} {x : Uow α} (targets : List Target)
    (hrows : Target.connection ∉ targets ∧ Target.dropConnection ∉ targets)
    (h : Respects (WritesTo targets fun _ => True) x) : Respects Withheld x :=
  h.mono fun _ _ hw => .of_eq (hw.frame.businessConnection hrows.1 hrows.2)

/-! ## The gates -/

theorem updateConnection_withheld {p : BusinessConnectionRecord → Bool}
    {f : BusinessConnectionRecord → BusinessConnectionRecord} {hf : Tables.ConnectionChange f}
    (h : ∀ c : BusinessConnectionRecord, c.Withholds (f c)) :
    Respects Withheld (Uow.updateConnection p f hf) := by
  intro db n db' hx
  refine ⟨fun c => if p c then f c else c, (updateConnection_ok hx).2.1, fun c => ?_⟩
  dsimp only
  split
  · exact h c
  · exact .refl c

theorem updateOne_withheld (n : Nat) : Respects Withheld (updateOne n) :=
  .of_readOnly (.ite (fun _ => .pure _) fun _ => .throw _)

theorem gateMatchingTrustedForReconciliation_withheld (connectionId : String) (now : DateTime) :
    Respects Withheld (gateMatchingTrustedForReconciliation connectionId now) := by
  refine (Respects.read _).bind fun current => ?_
  cases current with
  | none => exact .pure _
  | some current =>
    exact .ite (fun _ => .pure _) fun _ =>
      (updateConnection_withheld (BusinessConnectionRecord.gated_withholds false now)).bind fun _ =>
      (updateOne_withheld _).bind fun _ => .pure _

theorem disableBusinessConnection_withheld (connectionId : String) (now : DateTime) :
    Respects Withheld (disableBusinessConnection connectionId now) := by
  refine (updateConnection_withheld fun c => ?_).bind fun _ => updateOne_withheld _
  exact ⟨rfl, rfl, rfl, nofun, BusinessRights.le_refl _, id, .inr (Nat.lt_succ_self _)⟩

theorem normalizeStartupReconciliation_withheld (now : DateTime) :
    Respects Withheld (normalizeStartupReconciliation now) := by
  have hgate : Respects Withheld (do
      let affected ← Uow.updateConnection (fun c => c.reconciliationState = .confirmed)
        (BusinessConnectionRecord.gated false now) (BusinessConnectionRecord.gated_change ..)
      if 1 < affected then
        throw (.invalidTelegramReconciliationState "multiple trusted connections are not supported")
      loadTelegramReconciliationState : Uow TelegramReconciliationState) :=
    (updateConnection_withheld (BusinessConnectionRecord.gated_withholds false now)).bind fun _ =>
      .ite (fun _ => .throw _) fun _ => .read _
  refine (Respects.read _).bind fun global =>
    (Respects.of_readOnly requireSingleTrusted_readOnly).bind fun _ =>
    .ite (fun _ => ?_) fun _ => hgate
  exact (withheld_of_writes [.reconciliation] (by simp)
    (Uow.updateReconciliation_writes (by exact List.mem_singleton.2 rfl))).bind
      fun _ => (updateOne_withheld _).bind fun _ => hgate

theorem setTelegramAuthFailed_withheld (now : DateTime) :
    Respects Withheld (setTelegramAuthFailed now) := by
  have hgate : Respects Withheld (do
      let _ ← Uow.updateConnection (fun c => c.enabled || c.reconciliationState ≠ .pending)
        (BusinessConnectionRecord.gated true now) (BusinessConnectionRecord.gated_change ..)
      loadTelegramReconciliationState : Uow TelegramReconciliationState) :=
    (updateConnection_withheld (BusinessConnectionRecord.gated_withholds true now)).bind fun _ =>
      .read _
  refine (Respects.read _).bind fun global =>
    (Respects.of_readOnly requireSingleTrusted_readOnly).bind fun _ =>
    .ite (fun _ => ?_) fun _ => hgate
  exact (withheld_of_writes [.reconciliation] (by simp)
    (Uow.updateReconciliation_writes (by exact List.mem_singleton.2 rfl))).bind
      fun _ => (updateOne_withheld _).bind fun _ => hgate

/-! ## The promotion of a claim -/

/-- A promotion installs the first connection, or changes none. -/
theorem promoteClaimCandidate_ok {a : BusinessConnectionCandidate} {revision guardRevision : Nat}
    {write : TrustedConnectionWrite}
    (h : promoteClaimCandidate a revision guardRevision db = .ok (write, db')) :
    db' = db ∨ db.businessConnection.rows = [] ∧
      db.ownerIdentity.ownerUserId = some a.businessUserId ∧
      db'.businessConnection.rows = [a.installed (revision + 1)] ∧
      Frame [.connection, .candidate] db.toTables db'.toTables := by
  have hwrites : WritesTo [.connection, .candidate] (fun _ => True) db db' :=
    (promoteClaimCandidate_writes (fun _ ht => ht) a revision guardRevision).of_ok h
  unfold promoteClaimCandidate at h
  obtain ⟨⟨⟩, -, h⟩ := Txn.bind_ok_of_readOnly (validateCandidate_readOnly a) h
  obtain ⟨guard, -, h⟩ := Txn.bind_ok_of_readOnly (x := loadCandidateGuard) (Respects.read _) h
  split at h
  · exact .inl (Prod.mk.inj (Txn.pure_ok_iff.1 h)).2.symm
  obtain ⟨owner, howner, h⟩ := Txn.bind_ok_of_readOnly loadOwnerIdentity_readOnly h
  replace howner := loadOwnerIdentity_ok howner
  cases owner with
  | unclaimed => exact .inl (Prod.mk.inj (Txn.pure_ok_iff.1 h)).2.symm
  | claimed ownerUserId ownerChatId source floor boundAt =>
    dsimp only at h
    split at h
    · exact .inl (Prod.mk.inj (Txn.pure_ok_iff.1 h)).2.symm
    next huser =>
    obtain ⟨trusted, htrusted, h⟩ := Txn.bind_ok_of_readOnly loadSingleTrustedConnection_readOnly h
    obtain ⟨-, hrows⟩ := loadSingleTrustedConnection_ok htrusted
    cases trusted with
    | some trusted => exact .inl (Prod.mk.inj (Txn.pure_ok_iff.1 h)).2.symm
    | none =>
      obtain ⟨stored, -, h⟩ := Txn.bind_ok_of_readOnly (x := loadCandidate _) (Respects.read _) h
      cases stored with
      | none => exact .inl (Prod.mk.inj (Txn.pure_ok_iff.1 h)).2.symm
      | some stored =>
        dsimp only at h
        split at h
        · exact .inl (Prod.mk.inj (Txn.pure_ok_iff.1 h)).2.symm
        split at h
        · exact .inl (Prod.mk.inj (Txn.pure_ok_iff.1 h)).2.symm
        split at h
        · exact .inl (Prod.mk.inj (Txn.pure_ok_iff.1 h)).2.symm
        obtain ⟨⟨⟩, db₁, hinstall, h⟩ := Txn.bind_ok_iff.1 h
        obtain ⟨n, db₂, hdelete, h⟩ := Txn.bind_ok_iff.1 h
        obtain ⟨-, rfl⟩ := Prod.mk.inj (Txn.pure_ok_iff.1 h)
        rw [installTrusted_eq] at hinstall
        obtain ⟨hinstalled, -⟩ := upsertBusinessConnection_ok_of_none hinstall hrows
        refine .inr ⟨hrows, by rw [howner, ← not_not.1 huser]; rfl, ?_, hwrites.frame⟩
        rw [(deleteConnectionCandidate_ok hdelete).businessConnection (by simp) (by simp)]
        exact hinstalled

end ChatHygiene
