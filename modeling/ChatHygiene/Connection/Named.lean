import ChatHygiene.Connection.Candidates
import ChatHygiene.Connection.Trust
/-!
# The ids of candidates and connections

What is stored under an id was looked up under it, and no lookup is for a blank
id. The relation below says which ids a transaction can add.
-/

namespace ChatHygiene

open Txn (Respects commit)

variable {db db' : Database}

/-- A candidate or a connection is stored under the id. -/
def Database.Names (db : Database) (connectionId : String) : Prop :=
  (∃ c ∈ db.candidate.rows, c.connectionId = connectionId) ∨
    ∃ c ∈ db.businessConnection.rows, c.connectionId = connectionId

/-- No id is added but these. -/
def NamesWithin (added : List String) (db db' : Database) : Prop :=
  ∀ id, db'.Names id → db.Names id ∨ id ∈ added

namespace NamesWithin

variable {added : List String}

instance : Std.Refl (NamesWithin added) := ⟨fun _ _ => .inl⟩

instance : IsTrans Database (NamesWithin added) := ⟨fun _ _ _ h h' id hid =>
  (h' id hid).elim (h id) .inr⟩

theorem of_rows (hcandidates : ∀ c ∈ db'.candidate.rows,
      (∃ d ∈ db.candidate.rows, d.connectionId = c.connectionId) ∨ c.connectionId ∈ added)
    (hconnections : ∀ c ∈ db'.businessConnection.rows,
      (∃ d ∈ db.businessConnection.rows, d.connectionId = c.connectionId) ∨
        c.connectionId ∈ added) : NamesWithin added db db' := by
  rintro id (⟨c, hc, rfl⟩ | ⟨c, hc, rfl⟩)
  · exact (hcandidates c hc).imp_left .inl
  · exact (hconnections c hc).imp_left .inr

theorem of_candidates (hrows : db'.businessConnection = db.businessConnection)
    (hcandidates : ∀ c ∈ db'.candidate.rows,
      (∃ d ∈ db.candidate.rows, d.connectionId = c.connectionId) ∨ c.connectionId ∈ added) :
    NamesWithin added db db' :=
  of_rows hcandidates fun c hc => .inl ⟨c, hrows ▸ hc, rfl⟩

theorem of_connections (hrows : db'.candidate = db.candidate)
    (hconnections : ∀ c ∈ db'.businessConnection.rows,
      (∃ d ∈ db.businessConnection.rows, d.connectionId = c.connectionId) ∨
        c.connectionId ∈ added) : NamesWithin added db db' :=
  of_rows (fun c hc => .inl ⟨c, hrows ▸ hc, rfl⟩) hconnections

/-- What is written is neither. -/
theorem of_frame {targets : List Target} (h : Frame targets db.toTables db'.toTables)
    (hrows : Target.candidate ∉ targets ∧ Target.connection ∉ targets ∧
      Target.dropConnection ∉ targets) : NamesWithin added db db' :=
  of_candidates (h.businessConnection hrows.2.1 hrows.2.2) fun c hc =>
    .inl ⟨c, h.candidate hrows.1 ▸ hc, rfl⟩

/-- Gates add no id. -/
theorem of_withheld (h : Withheld db db') (hrows : db'.candidate = db.candidate) :
    NamesWithin added db db' :=
  of_connections hrows fun c hc => by
    obtain ⟨d, hd, hwithholds⟩ := h.row hc
    exact .inl ⟨d, hd, hwithholds.connectionId.symm⟩

end NamesWithin

section

variable {added : List String} {α : Type} {x : Uow α}

theorem names_of_writes (targets : List Target) (hrows : Target.candidate ∉ targets ∧
    Target.connection ∉ targets ∧ Target.dropConnection ∉ targets)
    (h : Respects (WritesTo targets fun _ => True) x) : Respects (NamesWithin added) x :=
  h.mono fun _ _ hw => .of_frame hw.frame hrows

theorem names_of_withheld (targets : List Target) (hcandidate : Target.candidate ∉ targets)
    (h : Respects (WritesTo targets fun _ => True) x) (hwithheld : Respects Withheld x) :
    Respects (NamesWithin added) x :=
  fun _ _ _ hx => .of_withheld (hwithheld.of_ok hx) ((h.of_ok hx).frame.candidate hcandidate)

/-! ## Statements -/

theorem deleteCandidate_names (p : BusinessConnectionCandidate → Bool) :
    Respects (NamesWithin added) (Uow.deleteCandidate p) := by
  intro db n db' h
  obtain ⟨-, hdb⟩ := Prod.mk.inj (Except.ok.inj (Uow.statement_ok_iff.1 h))
  refine .of_candidates (by rw [← hdb]) fun c hc => .inl ⟨c, ?_, rfl⟩
  rw [← hdb] at hc
  exact (Table.mem_delete.1 hc).1

theorem upsertCandidate_names {c : BusinessConnectionCandidate} (hc : c.connectionId ∈ added) :
    Respects (NamesWithin added) (Uow.upsertCandidate c) := by
  intro db u db' h
  have h := Uow.statement_ok_iff.1 h
  unfold Tables.upsertCandidate at h
  split_ifs at h with hcheck hnew
  · obtain ⟨-, hdb⟩ := Prod.mk.inj (Except.ok.inj h)
    refine .of_candidates (by rw [← hdb]) fun d hd => ?_
    rw [← hdb] at hd
    simp only [Table.mem_insert] at hd
    rcases hd with hd | rfl
    · exact .inl ⟨d, hd, rfl⟩
    · exact .inr hc
  · obtain ⟨-, hdb⟩ := Prod.mk.inj (Except.ok.inj h)
    refine .of_candidates (by rw [← hdb]) fun d hd => ?_
    rw [← hdb] at hd
    simp only [Table.mem_update] at hd
    obtain ⟨d, hd, rfl⟩ := hd
    refine .inl ⟨d, hd, ?_⟩
    split <;> rfl

theorem updateConnection_names {p : BusinessConnectionRecord → Bool}
    {f : BusinessConnectionRecord → BusinessConnectionRecord} {hf : Tables.ConnectionChange f} :
    Respects (NamesWithin added) (Uow.updateConnection p f hf) := by
  intro db n db' h
  obtain ⟨-, hrows, hframe⟩ := updateConnection_ok h
  refine .of_connections (hframe.candidate (by simp)) fun c hc => ?_
  rw [hrows] at hc
  obtain ⟨d, hd, rfl⟩ := List.mem_map.1 hc
  refine .inl ⟨d, hd, ?_⟩
  split
  · exact (hf.connectionId d).symm
  · rfl

theorem deleteConnection_names (p : BusinessConnectionRecord → Bool) :
    Respects (NamesWithin added) (Uow.deleteConnection p) := by
  intro db n db' h
  obtain ⟨-, hrows, hframe⟩ := deleteConnection_ok h
  refine .of_connections (hframe.candidate (by simp)) fun c hc => ?_
  rw [hrows] at hc
  exact .inl ⟨c, (List.mem_filter.1 hc).1, rfl⟩

theorem upsertConnection_names {r : BusinessConnectionRecord} (hr : r.connectionId ∈ added) :
    Respects (NamesWithin added) (Uow.upsertConnection r) := by
  intro db u db' h
  have h := Uow.statement_ok_iff.1 h
  unfold Tables.upsertConnection at h
  split_ifs at h with hcheck hunique hnew
  · obtain ⟨-, hdb⟩ := Prod.mk.inj (Except.ok.inj h)
    refine .of_connections (by rw [← hdb]) fun c hc => ?_
    rw [← hdb] at hc
    simp only [Table.mem_insert] at hc
    rcases hc with hc | rfl
    · exact .inl ⟨c, hc, rfl⟩
    · exact .inr hr
  · obtain ⟨-, hdb⟩ := Prod.mk.inj (Except.ok.inj h)
    refine .of_connections (by rw [← hdb]) fun c hc => ?_
    rw [← hdb] at hc
    simp only [Table.mem_update] at hc
    obtain ⟨d, hd, rfl⟩ := hc
    refine .inl ⟨d, hd, ?_⟩
    split <;> rfl

/-! ## Operations -/

theorem installTrusted_names {a : BusinessConnectionCandidate} (ha : a.connectionId ∈ added)
    (revision : Nat) : Respects (NamesWithin added) (installTrusted a revision) := by
  have hupsert : Respects (NamesWithin added) (Uow.upsertConnection (a.installed revision)) :=
    upsertConnection_names ha
  rw [installTrusted_eq]
  refine (Respects.read _).bind fun stale => ?_
  cases stale with
  | none => exact hupsert
  | some stale =>
    exact (names_of_writes [.outbox] (by simp)
      (Uow.updateOutbox_writes (by exact List.mem_singleton.2 rfl))).bind fun _ =>
      (deleteConnection_names _).bind fun _ =>
      (names_of_writes [.mode] (by simp)
        (Uow.setDestructiveMode_writes (by exact List.mem_singleton.2 rfl))).bind fun _ => hupsert

theorem updateOne_names (n : Nat) : Respects (NamesWithin added) (updateOne n) :=
  .of_readOnly (.ite (fun _ => .pure _) fun _ => .throw _)

theorem reconcileSameTrusted_names (t : BusinessConnectionRecord) (a : BusinessConnectionCandidate)
    (expected : Option Nat) : Respects (NamesWithin added) (reconcileSameTrusted t a expected) := by
  have hgate : Respects (NamesWithin added) (gateConflictingTrusted t a.observedAt) :=
    updateConnection_names.bind updateOne_names
  have hsafety : Respects (NamesWithin added) (applySafetyIntersection t a) :=
    .ite (fun _ => .pure _) fun _ => updateConnection_names.bind updateOne_names
  exact .ite (fun _ => hsafety.bind fun _ => .pure _) fun _ =>
    .ite (fun _ => hgate.bind fun _ => .pure _) fun _ =>
    .ite (fun _ => hgate.bind fun _ => .pure _) fun _ =>
    updateConnection_names.bind fun _ => .ite (fun _ => .pure _) fun _ =>
    (deleteCandidate_names _).bind fun _ => .pure _

theorem retainAmbiguousGenerations_names {t : BusinessConnectionRecord}
    {a : BusinessConnectionCandidate} (ht : t.connectionId ∈ added) (ha : a.connectionId ∈ added)
    (ownerChatId : Int) :
    Respects (NamesWithin added) (retainAmbiguousGenerations t a ownerChatId) :=
  (deleteConnection_names _).bind fun _ => (updateOne_names _).bind fun _ =>
    (upsertCandidate_names ht).bind fun _ =>
    (upsertCandidate_names (c := { a with stateRevision := 0 }) ha).bind fun _ =>
    (names_of_writes [.owner] (by simp) (advanceOwnerConnectionFloor_writes (by simp) _)).bind
      fun _ => names_of_writes [.guard] (by simp) (advanceOverflowGuardIfActive_writes (by simp) _)

/-- An authoritative response adds the id it was asked for, if it is valid. -/
theorem reconcileAuthoritativeTrustedConnection_names {a : BusinessConnectionCandidate}
    {expected candidateRevision : Option Nat} {guardRevision : Nat} {write : TrustedConnectionWrite}
    (h : reconcileAuthoritativeTrustedConnection a expected candidateRevision guardRevision db =
      .ok (write, db')) : a.Valid ∧ NamesWithin [a.connectionId] db db' := by
  have ha : a.connectionId ∈ [a.connectionId] := List.mem_singleton.2 rfl
  have hconflict {conflict : TrustedConnectionWrite}
      (h : (pure conflict : Uow TrustedConnectionWrite) db = .ok (write, db')) :
      NamesWithin [a.connectionId] db db' := (Respects.pure conflict).of_ok h
  -- the two ends that write install the response, the others leave the names alone
  have hinstall {revision : Nat} {result : TrustedConnectionWrite} (h : (do
      installTrusted a revision
      let _ ← deleteConnectionCandidate a.connectionId
      pure result : Uow TrustedConnectionWrite) db = .ok (write, db')) :
      NamesWithin [a.connectionId] db db' :=
    ((installTrusted_names ha revision).bind fun _ => (deleteCandidate_names _).bind fun _ =>
      .pure result : Respects (NamesWithin [a.connectionId]) _).of_ok h
  unfold reconcileAuthoritativeTrustedConnection at h
  obtain ⟨⟨⟩, hvalidate, h⟩ := Txn.bind_ok_of_readOnly (validateCandidate_readOnly a) h
  refine ⟨(validateCandidate_ok_iff.1 hvalidate).1, ?_⟩
  obtain ⟨guard, -, h⟩ := Txn.bind_ok_of_readOnly (x := loadCandidateGuard) (Respects.read _) h
  split at h
  · exact hconflict h
  obtain ⟨retained, -, h⟩ :=
    Txn.bind_ok_of_readOnly (x := loadCandidate a.connectionId) (Respects.read _) h
  split at h
  · exact hconflict h
  obtain ⟨owner, -, h⟩ := Txn.bind_ok_of_readOnly loadOwnerIdentity_readOnly h
  cases owner with
  | unclaimed => exact hconflict h
  | claimed ownerUserId ownerChatId source floor boundAt =>
    dsimp only at h
    split at h
    · exact hconflict h
    obtain ⟨trusted, htrusted, h⟩ := Txn.bind_ok_of_readOnly loadSingleTrustedConnection_readOnly h
    obtain ⟨-, hrows⟩ := loadSingleTrustedConnection_ok htrusted
    cases trusted with
    | none =>
      dsimp only at h
      split at h
      · exact hconflict h
      obtain ⟨past, -, h⟩ :=
        Txn.bind_ok_of_readOnly (generationFloorExcluding_readOnly a.connectionId) h
      split at h
      · exact hconflict h
      · exact hinstall h
    | some t =>
      -- the id of the trusted connection is among the names already
      have ht : t ∈ db.businessConnection.rows := by
        rw [show db.businessConnection.rows = [t] from hrows]
        exact List.mem_singleton.2 rfl
      dsimp only at h
      split at h
      · exact (reconcileSameTrusted_names t a _).of_ok h
      split at h
      · exact hconflict h
      split at h
      · exact hconflict h
      cases hgeneration : t.connectionEstablishedAt with
      | none =>
        rw [hgeneration] at h
        exact hconflict h
      | some established =>
      rw [hgeneration] at h
      dsimp only at h
      split at h
      · -- the trusted id is not new
        obtain ⟨⟨⟩, db₁, hretain, h⟩ := Txn.bind_ok_iff.1 h
        obtain ⟨-, rfl⟩ := Prod.mk.inj (Txn.pure_ok_iff.1 h)
        have hnames : Respects (NamesWithin [t.connectionId, a.connectionId])
            (retainAmbiguousGenerations t a ownerChatId) :=
          retainAmbiguousGenerations_names (by simp) (by simp) ownerChatId
        replace hnames := hnames.of_ok hretain
        intro id hid
        rcases hnames id hid with hold | hnew
        · exact .inl hold
        · simp only [List.mem_cons, List.not_mem_nil, or_false] at hnew
          rcases hnew with rfl | rfl
          · exact .inl (.inr ⟨t, ht, rfl⟩)
          · exact .inr ha
      obtain ⟨past, -, h⟩ :=
        Txn.bind_ok_of_readOnly (generationFloorExcluding_readOnly a.connectionId) h
      split at h
      · exact hconflict h
      · exact hinstall h

theorem promoteClaimCandidate_names {a : BusinessConnectionCandidate}
    {revision guardRevision : Nat} {write : TrustedConnectionWrite}
    (h : promoteClaimCandidate a revision guardRevision db = .ok (write, db')) :
    a.Valid ∧ NamesWithin [a.connectionId] db db' := by
  unfold promoteClaimCandidate at h
  obtain ⟨⟨⟩, hvalidate, h⟩ := Txn.bind_ok_of_readOnly (validateCandidate_readOnly a) h
  refine ⟨(validateCandidate_ok_iff.1 hvalidate).1, Respects.of_ok ?_ h⟩
  refine (Respects.read _).bind fun guard => .ite (fun _ => .pure _) fun _ =>
    (Respects.of_readOnly loadOwnerIdentity_readOnly).bind fun owner => ?_
  cases owner with
  | unclaimed => exact .pure _
  | claimed =>
    refine .ite (fun _ => .pure _) fun _ =>
      (Respects.of_readOnly loadSingleTrustedConnection_readOnly).bind fun trusted => ?_
    cases trusted with
    | some trusted => exact .pure _
    | none =>
      refine (Respects.read _).bind fun candidate => ?_
      cases candidate with
      | none => exact .pure _
      | some candidate =>
        exact .ite (fun _ => .pure _) fun _ => .ite (fun _ => .pure _) fun _ =>
          .ite (fun _ => .pure _) fun _ =>
          (installTrusted_names (List.mem_singleton.2 rfl) _).bind fun _ =>
          (deleteCandidate_names _).bind fun _ => .pure _

theorem retireTrustedConnectionNotFound_names (connectionId : String) (expectedRevision : Nat) :
    Respects (NamesWithin added) (retireTrustedConnectionNotFound connectionId expectedRevision) := by
  refine (Respects.read _).bind fun trusted => ?_
  cases trusted with
  | none => exact (deleteCandidate_names _).bind fun _ => .pure _
  | some trusted =>
    refine .ite (fun _ => .pure _) fun _ =>
      (Respects.of_readOnly loadOwnerIdentity_readOnly).bind fun owner => ?_
    cases owner with
    | unclaimed => exact .pure _
    | claimed =>
      exact .ite (fun _ => .pure _) fun _ =>
        (names_of_writes [.owner] (by simp) (advanceOwnerConnectionFloor_writes (by simp) _)).bind
          fun _ => (deleteConnection_names _).bind fun _ => .ite (fun _ => .pure _) fun _ => .pure _

theorem pruneConnectionCandidates_names (cutoff : DateTime) (maximumRows : Nat) :
    Respects (NamesWithin added) (pruneConnectionCandidates cutoff maximumRows) := by
  refine (deleteCandidate_names _).bind fun _ => (Respects.read _).bind fun retained =>
    .ite (fun _ => .pure _) fun _ => ?_
  split
  · exact .throw _
  · exact (names_of_writes [.guard] (by simp) (updateOverflowGuard_writes (by simp) _)).bind
      fun _ => (deleteCandidate_names _).bind fun _ => .pure _

end

/-! ## No blank ids -/

/-- No id is added that is blank. -/
def NamesKept (db db' : Database) : Prop := ∀ id, db'.Names id → db.Names id ∨ blank id = false

instance : Std.Refl NamesKept := ⟨fun _ _ => .inl⟩

instance : IsTrans Database NamesKept := ⟨fun _ _ _ h h' id hid => (h' id hid).elim (h id) .inr⟩

theorem NamesWithin.kept {added : List String} (h : NamesWithin added db db')
    (hadded : ∀ id ∈ added, blank id = false) : NamesKept db db' :=
  fun id hid => (h id hid).imp_right (hadded id)

theorem namesKept_of_names {α : Type} {x : Uow α} (h : Respects (NamesWithin []) x) :
    Respects NamesKept x :=
  h.mono fun _ _ hnames => hnames.kept (by simp)

theorem reconcileThrough_namesKept (snapshot : ConnectionReconciliationSnapshot)
    (candidate : BusinessConnectionCandidate) :
    Respects NamesKept (reconcileThrough snapshot candidate) := by
  intro db write db' h
  obtain ⟨hvalid, hnames⟩ := reconcileAuthoritativeTrustedConnection_names h
  exact hnames.kept fun id hid => List.mem_singleton.1 hid ▸ hvalid.connectionId

theorem applyAuthoritativeCandidate_namesKept (candidate : BusinessConnectionCandidate)
    (expectedRevision : Option Nat) :
    Respects NamesKept (applyAuthoritativeCandidate candidate expectedRevision) := by
  intro db write db' h
  have happlied := applyAuthoritativeCandidate_ok h
  have hframe : Frame [.candidate, .guard] db.toTables db'.toTables :=
    (show WritesTo [.candidate, .guard] (fun _ => True) db db' from
      (applyAuthoritativeCandidate_writes (fun _ ht => ht) _ _).of_ok h).frame
  have hnames : NamesWithin [candidate.connectionId] db db' :=
    .of_candidates (hframe.businessConnection (by simp) (by simp)) fun c hc =>
      (happlied.candidates c hc).elim (fun h => .inr (List.mem_singleton.2 h.1))
        fun ⟨d, hd, hid, _⟩ => .inl ⟨d, hd, hid⟩
  exact hnames.kept fun id hid => List.mem_singleton.1 hid ▸ happlied.valid.connectionId

theorem setTelegramAuthFailed_namesKept (now : DateTime) :
    Respects NamesKept (setTelegramAuthFailed now) :=
  namesKept_of_names (names_of_withheld [.reconciliation, .connection] (by simp)
    (setTelegramAuthFailed_writes (by simp) _) (setTelegramAuthFailed_withheld _))

theorem namesKept_of_writes {α : Type} {x : Uow α} (targets : List Target)
    (hrows : Target.candidate ∉ targets ∧ Target.connection ∉ targets ∧
      Target.dropConnection ∉ targets)
    (h : Respects (WritesTo targets fun _ => True) x) : Respects NamesKept x :=
  namesKept_of_names (names_of_writes targets hrows h)

theorem namesKept_of_enqueues {α : Type} {updateId : Int} {x : Uow α}
    (h : Respects (WritesTo [.enqueue] (NewOutboxAction.Of updateId True)) x) :
    Respects NamesKept x :=
  namesKept_of_writes [.enqueue] (by simp)
    (h.through_mono fun _ hst => hst.mono (fun _ => id) fun _ _ => trivial)

theorem promoteClaimCandidate_namesKept (a : BusinessConnectionCandidate)
    (revision guardRevision : Nat) :
    Respects NamesKept (promoteClaimCandidate a revision guardRevision) := by
  intro db write db' h
  obtain ⟨hvalid, hnames⟩ := promoteClaimCandidate_names h
  exact hnames.kept fun id hid => List.mem_singleton.1 hid ▸ hvalid.connectionId

theorem tryPromoteClaimCandidate_namesKept (snapshot : OwnerClaimSnapshot)
    (global : TelegramReconciliationState) (guard : CandidateGuard)
    (candidates : List BusinessConnectionCandidate)
    (authoritative : Option AuthoritativeBusinessConnection) (serviceNow : DateTime) :
    Respects NamesKept
      (tryPromoteClaimCandidate snapshot global guard candidates authoritative serviceNow) := by
  unfold tryPromoteClaimCandidate
  split
  · exact .ite (fun _ => .pure _) fun _ =>
      (promoteClaimCandidate_namesKept _ _ _).bind fun _ => .pure _
  · exact .pure _

theorem settleClaimCandidates_namesKept (promoted : Bool) (guard : CandidateGuard)
    (candidates : List BusinessConnectionCandidate)
    (authoritative : Option AuthoritativeBusinessConnection) (fromUserId : Int) :
    Respects NamesKept
      (settleClaimCandidates promoted guard candidates authoritative fromUserId) := by
  have hdelete (p) : Respects NamesKept (Uow.deleteCandidate p) :=
    namesKept_of_names (deleteCandidate_names p)
  refine .ite (fun _ => (hdelete _).bind fun _ => .pure _) fun _ =>
    .ite (fun _ => .bind ?_ fun _ => .pure _) fun _ => (hdelete _).bind fun _ => .pure _
  exact .ite (fun _ => .throw_bind _ _) fun _ => hdelete _

/-- **No transaction adds a blank id.** -/
theorem Transaction.namesKept (h : db.NoConnectionChange) (x : Transaction) :
    NamesKept db (x.after db) := by
  have hframe := x.after_frame h
  have hgate {db' : Database} (hwithheld : Withheld db db') (hrows : db'.candidate = db.candidate) :
      NamesKept db db' := by
    have hnames : NamesWithin [] db db' := .of_withheld hwithheld hrows
    exact hnames.kept (by simp)
  cases x with
  | normalize now =>
    exact hgate ((normalizeStartupReconciliation_withheld now).commit db) (hframe.candidate (by simp))
  | startup connectionId snapshot answer now =>
    exact (reconcileTrustedCurrentState_respects
      (namesKept_of_names (retireTrustedConnectionNotFound_names _ _))
      (fun _ => reconcileThrough_namesKept _ _) (setTelegramAuthFailed_namesKept _)).commit db
  | trigger updateId connectionId occurredAt owner snapshot answer now =>
    exact (reconcileConnectionTrigger_respects
      (namesKept_of_names (retireTrustedConnectionNotFound_names _ _))
      (fun _ => reconcileThrough_namesKept _ _)
      (fun _ _ => applyAuthoritativeCandidate_namesKept _ _)
      (namesKept_of_names (pruneConnectionCandidates_names _ _))
      (fun _ _ _ => namesKept_of_writes [.owner] (by simp) (promoteReportedChat_writes (by simp) _ _ _))
      (setTelegramAuthFailed_namesKept _)
      (fun _ => namesKept_of_writes [.audit] (by simp) (insertConnectionAudit_writes (by simp) _ _ _))
      (namesKept_of_writes [.update] (by simp)
        (markConnectionTriggerApplied_writes (by simp) _ _))).commit db
  | record event =>
    exact hgate ((recordPreparedEvent_withheld event).commit db) (hframe.candidate (by simp))
  | ownerClaim updateId claim snapshot answer now =>
    exact (commitOwnerClaim_respects
      (namesKept_of_writes [.update] (by simp) (insertRedactedUpdate_writes (by simp) _ _))
      (fun _ => namesKept_of_writes [.audit] (by simp) (insertOwnerClaimAudit_writes (by simp) _ _))
      (namesKept_of_enqueues (enqueuePrivateMessage_writes (by simp) _ _ _))
      (namesKept_of_names (pruneConnectionCandidates_names _ _))
      (fun _ => namesKept_of_writes [.owner] (by simp) (claimOwner_writes (by simp) _ _ _ _))
      (setTelegramAuthFailed_namesKept _)
      (fun _ _ _ _ => tryPromoteClaimCandidate_namesKept _ _ _ _ _ _)
      (fun _ _ _ _ => settleClaimCandidates_namesKept _ _ _ _ _)
      fun _ =>
        namesKept_of_writes [.enqueue] (by simp)
          (enqueueDirectOwnerMessage_writes (by simp) _ _ _ _)).commit db
  | finish action now result =>
    exact hgate ((finishDispatch_withheld action now result).commit db) (hframe.candidate (by simp))
  | _ =>
    have hnames : NamesWithin [] db _ := .of_frame hframe (by simp)
    exact hnames.kept (by simp)

/-- **No stored id is blank.** -/
theorem World.named {ok : World → Op → Prop} {w : World} (h : service.ReachableBy ok w) :
    ∀ id, w.db.Names id → blank id = false := by
  refine h.invariant (P := fun w => ∀ id, w.db.Names id → blank id = false) ?_
    fun w op w' hw ih _ hstep => ?_
  · rintro w ⟨now, rfl⟩ id (⟨c, hc, -⟩ | ⟨c, hc, -⟩) <;> cases hc
  · rcases World.step_db hstep with hdb | ⟨x, -, hdb⟩
    · exact hdb ▸ ih
    · intro id hid
      rw [hdb] at hid
      exact (x.namesKept (World.eventsPrepared hw).noConnectionChange id hid).elim (ih id) fun hkept => hkept

end ChatHygiene
