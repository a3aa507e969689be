import ChatHygiene.Connection.Gate
import ChatHygiene.Connection.Window
import ChatHygiene.Retention.Recorded
/-!
# What is left to try for a connection

A connection is pending from the moment a trigger of it is recorded, or from a
start, until an answer about it is taken on or it is gone. All that while there
is something to be tried again: the recorded trigger, or the lookup of the
start. An authentication failure closes every gate, until the next start.
-/

namespace ChatHygiene

open Txn (Respects commit)

variable {db db' db'' : Database} {gated : Option String}

/-! ## What closes a gate -/

/-- Every pending connection has been pending before, or is this one. -/
def GatedBy (gated : Option String) (db db' : Database) : Prop :=
  ∀ c' ∈ db'.businessConnection.rows, c'.reconciliationState = .pending →
    (∃ c ∈ db.businessConnection.rows, c.connectionId = c'.connectionId ∧
      c.reconciliationState = .pending) ∨ gated = some c'.connectionId

namespace GatedBy

theorem of_eq (h : db'.businessConnection = db.businessConnection) : GatedBy gated db db' :=
  fun c' hc' hpending => .inl ⟨c', h ▸ hc', rfl, hpending⟩

protected theorem trans (h : GatedBy gated db db') (h' : GatedBy gated db' db'') :
    GatedBy gated db db'' := by
  intro c'' hc'' hpending
  rcases h' c'' hc'' hpending with ⟨c', hc', hid', hpending'⟩ | hgated
  · rcases h c' hc' hpending' with ⟨c, hc, hid, hwas⟩ | hgated
    · exact .inl ⟨c, hc, hid.trans hid', hwas⟩
    · exact .inr (hid' ▸ hgated)
  · exact .inr hgated

end GatedBy

/-- **No other connection is gated**, unless the service has failed to authenticate; and that it
goes on to have. -/
def GateStep (gated : Option String) (db db' : Database) : Prop :=
  db'.reconciliation.state = .authFailed ∨
    db.reconciliation.state ≠ .authFailed ∧ GatedBy gated db db'

namespace GateStep

/-- The global state is the same. -/
theorem of_gatedBy (h : GatedBy gated db db') (hglobal : db'.reconciliation = db.reconciliation) :
    GateStep gated db db' := by
  by_cases hfailed : db.reconciliation.state = .authFailed
  · exact .inl (hglobal ▸ hfailed)
  · exact .inr ⟨hfailed, h⟩

theorem of_frame {targets : List Target} (h : Frame targets db.toTables db'.toTables)
    (ht : Target.connection ∉ targets ∧ Target.dropConnection ∉ targets ∧
      Target.reconciliation ∉ targets) : GateStep gated db db' :=
  .of_gatedBy (.of_eq (h.businessConnection ht.1 ht.2.1)) (h.reconciliation ht.2.2)

protected theorem refl (db : Database) : GateStep gated db db := .of_gatedBy (.of_eq rfl) rfl

protected theorem trans (h : GateStep gated db db') (h' : GateStep gated db' db'') :
    GateStep gated db db'' := by
  rcases h' with hfailed | ⟨hnot, hgated'⟩
  · exact .inl hfailed
  · rcases h with hfailed | ⟨hnot', hgated⟩
    · exact absurd hfailed hnot
    · exact .inr ⟨hnot', hgated.trans hgated'⟩

instance : Std.Refl (GateStep gated) := ⟨GateStep.refl⟩

instance : IsTrans Database (GateStep gated) := ⟨fun _ _ _ => GateStep.trans⟩

end GateStep

theorem gateStep_of_writes {α : Type} {x : Uow α} {K : NewOutboxAction → Prop}
    (targets : List Target) (ht : Target.connection ∉ targets ∧ Target.dropConnection ∉ targets ∧
      Target.reconciliation ∉ targets) (h : Respects (WritesTo targets K) x) :
    Respects (GateStep gated) x :=
  h.mono fun _ _ hw => .of_frame hw.frame ht

theorem updateConnection_gatedBy {p : BusinessConnectionRecord → Bool}
    {f : BusinessConnectionRecord → BusinessConnectionRecord} {hf : Tables.ConnectionChange f}
    (h : ∀ c, p c = true → (f c).reconciliationState = .pending →
      c.reconciliationState = .pending ∨ gated = some c.connectionId) :
    Respects (GateStep gated) (Uow.updateConnection p f hf) := by
  intro db n db' hx
  obtain ⟨-, hrows, hframe⟩ := updateConnection_ok hx
  refine .of_gatedBy (fun c' hc' hpending => ?_) (hframe.reconciliation (by simp))
  rw [hrows] at hc'
  obtain ⟨c, hc, rfl⟩ := List.mem_map.1 hc'
  by_cases hp : p c = true
  · rw [if_pos hp] at hpending ⊢
    rw [hf.connectionId]
    exact (h c hp hpending).imp_left fun hwas => ⟨c, hc, rfl, hwas⟩
  · rw [if_neg hp] at hpending ⊢
    exact .inl ⟨c, hc, rfl, hpending⟩

theorem updateOne_gateStep (n : Nat) : Respects (GateStep gated) (updateOne n) :=
  .of_readOnly (.ite (fun _ => .pure _) fun _ => .throw _)

theorem disableBusinessConnection_gateStep (connectionId : String) (now : DateTime) :
    Respects (GateStep gated) (disableBusinessConnection connectionId now) := by
  refine (updateConnection_gatedBy fun c _ hpending => ?_).bind fun _ => updateOne_gateStep _
  exact .inl hpending

theorem finishDispatch_gateStep (action : OutboxActionRecord) (now : DateTime) (result : Finish) :
    Respects (GateStep gated) (finishDispatch action now result) :=
  finishDispatch_respects
    (fun _ _ _ => gateStep_of_writes (K := fun _ => True) [.outbox] (by simp)
      (finishOutbox_writes (by simp) _ _ _ _ _))
    (fun alert challengeId => gateStep_of_writes [.enqueue] (by simp)
      (enqueueOwnerAlert_writes (by simp) action (fun _ ha => ha) alert challengeId now))
    (fun _ _ => gateStep_of_writes (K := fun _ => True) [.challenge] (by simp)
      (markChallengeSent_writes (by simp) _ _))
    (fun _ => gateStep_of_writes (K := fun _ => True) [.challenge] (by simp)
      (markChallengeUncertain_writes (by simp) _))
    (fun _ => disableBusinessConnection_gateStep _ _)
    (gateStep_of_writes (K := fun _ => True) [.mode] (by simp)
      (Uow.setDestructiveMode_writes (by exact List.mem_singleton.2 rfl))) result

/-- A recorded trigger gates its connection. -/
theorem gateMatchingTrustedForReconciliation_gateStep (connectionId : String) (now : DateTime) :
    Respects (GateStep (some connectionId))
      (gateMatchingTrustedForReconciliation connectionId now) := by
  intro db r db' h
  unfold gateMatchingTrustedForReconciliation loadBusinessConnectionForReconciliation at h
  rw [Txn.read_bind_apply] at h
  cases hlookup : db.businessConnection.lookup connectionId with
  | none =>
    rw [hlookup] at h
    obtain ⟨-, rfl⟩ := Prod.mk.inj (Txn.pure_ok_iff.1 h)
    exact refl _
  | some current =>
    rw [hlookup] at h
    dsimp only at h
    have hid : current.connectionId = connectionId := Table.key_of_lookup hlookup
    refine Respects.of_ok (.ite (fun _ => .pure _) fun _ => ?_) h
    refine (updateConnection_gatedBy fun c hp _ => .inr ?_).bind fun _ =>
      (updateOne_gateStep _).bind fun _ => .pure _
    simp only [BusinessConnectionRecord.atRevision, Bool.and_eq_true, decide_eq_true_eq] at hp
    rw [hp.1.1, hid]

/-- **A failure to authenticate shows in the global state.** -/
theorem setTelegramAuthFailed_state {now : DateTime} {global : TelegramReconciliationState}
    (h : setTelegramAuthFailed now db = .ok (global, db')) :
    db'.reconciliation.state = .authFailed := by
  have hgate {s : Database} (hs : s.reconciliation.state = .authFailed)
      (h : (do
        let _ ← Uow.updateConnection (fun c => c.enabled || c.reconciliationState ≠ .pending)
          (BusinessConnectionRecord.gated true now) (BusinessConnectionRecord.gated_change ..)
        loadTelegramReconciliationState : Uow TelegramReconciliationState) s = .ok (global, db')) :
      db'.reconciliation.state = .authFailed := by
    obtain ⟨n, s', hupdate, hload⟩ := Txn.bind_ok_iff.1 h
    obtain ⟨-, rfl⟩ := Prod.mk.inj (Txn.read_ok_iff.1 hload)
    rw [(updateConnection_ok hupdate).2.2.reconciliation (by simp)]
    exact hs
  unfold setTelegramAuthFailed loadTelegramReconciliationState at h
  rw [Txn.read_bind_apply] at h
  obtain ⟨trusted, -, h⟩ := Txn.bind_ok_of_readOnly requireSingleTrusted_readOnly h
  split at h
  · obtain ⟨n, s, hupdate, h⟩ := Txn.bind_ok_iff.1 h
    obtain ⟨⟨⟩, s', hone, h⟩ := Txn.bind_ok_iff.1 h
    obtain ⟨rfl, rfl⟩ := updateOne_ok hone
    refine hgate ?_ h
    have hupdate := Uow.statement_ok_iff.1 hupdate
    unfold Tables.updateReconciliation at hupdate
    rw [if_pos (by simp)] at hupdate
    obtain ⟨-, hdb⟩ := Prod.mk.inj (Except.ok.inj hupdate)
    rw [← hdb]
    rfl
  · next hfailed => exact hgate (not_not.1 hfailed) h

theorem setTelegramAuthFailed_gateStep (now : DateTime) :
    Respects (GateStep gated) (setTelegramAuthFailed now) :=
  fun _ _ _ h => .inl (setTelegramAuthFailed_state h)

/-! ## Answers -/

variable {connectionId : String} {snapshot : ConnectionReconciliationSnapshot}
  {answer : LookupAnswer} {now : DateTime}

/-- A response gates no connection but the one it is about. -/
theorem Reconciled.gatedBy {a : BusinessConnectionCandidate} {expected : Option Nat}
    {write : TrustedConnectionWrite} (h : Reconciled a expected db db' write) :
    GatedBy (some a.connectionId) db db' := by
  intro c' hc' hpending
  cases h with
  | conflict hwrite hsame => exact .inl ⟨c', hsame ▸ hc', rfl, hpending⟩
  | installed revision hnone hexpected howner hfloor hrows hframe =>
    rw [hrows, List.mem_singleton] at hc'
    subst hc'
    cases hpending
  | replaced t g revision ht hne hcurrent hgeneration howner hlater hfloor hrows hretired hmode
      hframe =>
    rw [hrows, List.mem_singleton] at hc'
    subst hc'
    cases hpending
  | ambiguous t ht hne hcurrent hgeneration hrows hfloor hages hrises hframe =>
    rw [hrows] at hc'
    cases hc'
  | same t row ht hid hsame hrows hframe =>
    rw [hrows, List.mem_singleton] at hc'
    subst hc'
    exact .inr (by rw [hsame.connectionId, hid])

theorem Reconciled.reconciliation {a : BusinessConnectionCandidate} {expected : Option Nat}
    {write : TrustedConnectionWrite} (h : Reconciled a expected db db' write) :
    db'.reconciliation = db.reconciliation := by
  cases h with
  | conflict hwrite hsame => rw [hsame]
  | installed revision hnone hexpected howner hfloor hrows hframe =>
    exact hframe.reconciliation (by simp)
  | replaced t g revision ht hne hcurrent hgeneration howner hlater hfloor hrows hretired hmode
      hframe => exact hframe.reconciliation (by simp)
  | ambiguous t ht hne hcurrent hgeneration hrows hfloor hages hrises hframe =>
    exact hframe.reconciliation (by simp)
  | same t row ht hid hsame hrows hframe => exact hframe.reconciliation (by simp)

theorem NotFound.gateStep {expectedRevision : Nat} (h : NotFound connectionId expectedRevision db db') :
    GateStep gated db db' := by
  cases h with
  | absent hnone hframe => exact .of_frame hframe (by simp)
  | conflict hsame => exact hsame ▸ refl _
  | retired t ht hid hcurrent hrows hfloor hages hframe =>
    refine .of_gatedBy (fun c' hc' hpending => ?_) (hframe.reconciliation (by simp))
    rw [hrows] at hc'
    exact .inl ⟨c', (List.mem_filter.1 hc').1, rfl, hpending⟩

/-- **The answer to a lookup gates no connection but the one that was looked up.** -/
theorem LookupCommitted.gateStep (h : LookupCommitted connectionId snapshot answer now db db')
    (hvalid : answer.validFor connectionId = true) : GateStep (some connectionId) db db' := by
  cases h with
  | aside h => exact .of_frame h (by simp)
  | notFound write db₁ hanswer hretire h =>
    exact trans_of (GateStep _) (retireTrustedConnectionNotFound_ok hretire).gateStep
      (.of_frame h (by simp))
  | authFailed global hanswer h => exact .inl (setTelegramAuthFailed_state h)
  | found a write db₁ hanswer hreconcile h =>
    have hreconciled := reconcileAuthoritativeTrustedConnection_ok hreconcile
    have hid : a.connectionId = connectionId := by
      rw [hanswer] at hvalid
      simp only [LookupAnswer.validFor, Bool.and_eq_true, decide_eq_true_eq] at hvalid
      exact hvalid.1.1.1
    refine trans_of (GateStep _) (.of_gatedBy ?_ hreconciled.reconciliation) (.of_frame h (by simp))
    rw [← hid]
    exact hreconciled.gatedBy

/-! ## Answers that are taken on -/

/-- Whatever is still pending has been pending before, and is not this connection. -/
def Cleared (connectionId : String) (db db' : Database) : Prop :=
  ∀ c' ∈ db'.businessConnection.rows, c'.reconciliationState = .pending →
    c'.connectionId ≠ connectionId ∧ ∃ c ∈ db.businessConnection.rows,
      c.connectionId = c'.connectionId ∧ c.reconciliationState = .pending

theorem Cleared.of_absent (hnone : ∀ c ∈ db.businessConnection.rows, c.connectionId ≠ connectionId)
    (h : db'.businessConnection = db.businessConnection) : Cleared connectionId db db' :=
  fun c' hc' hpending => ⟨hnone c' (h ▸ hc'), c', h ▸ hc', rfl, hpending⟩

theorem Cleared.congr (h : Cleared connectionId db db')
    (hrows : db''.businessConnection = db'.businessConnection) : Cleared connectionId db db'' :=
  fun c'' hc'' => h c'' (hrows ▸ hc'')

/-- A response that is no conflict, or is about a connection that is not stored, clears it. -/
theorem Reconciled.cleared {a : BusinessConnectionCandidate} {expected : Option Nat}
    {write : TrustedConnectionWrite} (h : Reconciled a expected db db' write)
    (htaken : write.isConflict = true →
      ∀ c ∈ db.businessConnection.rows, c.connectionId ≠ a.connectionId) :
    Cleared a.connectionId db db' := by
  cases h with
  | conflict hwrite hsame => exact .of_absent (htaken hwrite) (by rw [hsame])
  | installed revision hnone hexpected howner hfloor hrows hframe =>
    intro c' hc' hpending
    rw [hrows, List.mem_singleton] at hc'
    subst hc'
    cases hpending
  | replaced t g revision ht hne hcurrent hgeneration howner hlater hfloor hrows hretired hmode
      hframe =>
    intro c' hc' hpending
    rw [hrows, List.mem_singleton] at hc'
    subst hc'
    cases hpending
  | ambiguous t ht hne hcurrent hgeneration hrows hfloor hages hrises hframe =>
    intro c' hc'
    rw [hrows] at hc'
    cases hc'
  | same t row ht hid hsame hrows hframe =>
    have hstored (hwrite : write.isConflict = true) : False :=
      htaken hwrite t (by simp [ht]) hid
    intro c' hc' hpending
    rw [hrows, List.mem_singleton] at hc'
    subst hc'
    cases hsame with
    | kept hstale => exact (hstored rfl).elim
    | lessened hstale => exact (hstored rfl).elim
    | gated hcurrent hwrite hrefused => exact (hstored hwrite).elim
    | refreshed hcurrent howner hgeneration => cases hpending

/-- A connection that is retired is gone. -/
theorem retireThrough_cleared
    (h : retireThrough snapshot connectionId db = .ok (.reconciled, db')) :
    Cleared connectionId db db' := by
  have hnotFound := retireTrustedConnectionNotFound_ok h
  unfold retireThrough retireTrustedConnectionNotFound loadBusinessConnectionForReconciliation at h
  rw [Txn.read_bind_apply] at h
  cases hlookup : db.businessConnection.lookup connectionId with
  | none =>
    rw [hlookup] at h
    obtain ⟨n, s, hdelete, h⟩ := Txn.bind_ok_iff.1 h
    obtain ⟨-, rfl⟩ := Prod.mk.inj (Txn.pure_ok_iff.1 h)
    exact .of_absent (Table.lookup_eq_none_iff.1 hlookup)
      ((deleteConnectionCandidate_ok hdelete).businessConnection (by simp) (by simp))
  | some t =>
    cases hnotFound with
    | absent hnone hframe =>
      rw [hlookup] at hnone
      cases hnone
    | conflict hsame =>
      -- a deletion that commits has deleted the row
      subst hsame
      rw [hlookup] at h
      dsimp only at h
      split at h
      · cases h
      obtain ⟨owner, -, h⟩ := Txn.bind_ok_of_readOnly loadOwnerIdentity_readOnly h
      cases owner with
      | unclaimed => cases h
      | claimed ownerUserId ownerChatId source floor boundAt =>
        dsimp only at h
        split at h
        · cases h
        obtain ⟨owner, s, hadvance, h⟩ := Txn.bind_ok_iff.1 h
        obtain ⟨n, s', hdelete, h⟩ := Txn.bind_ok_iff.1 h
        split at h
        · cases h
        next hone =>
        obtain ⟨-, rfl⟩ := Prod.mk.inj (Txn.pure_ok_iff.1 h)
        obtain ⟨hn, hrows, -⟩ := deleteConnection_ok hdelete
        have hrows₁ := (advanceOwnerConnectionFloor_ok hadvance).1.businessConnection (by simp) (by simp)
        have haffected : 0 < s.businessConnection.affected (fun c =>
            c.connectionId = connectionId && c.stateRevision = snapshot.trustedRevision.getD 0) := by
          omega
        obtain ⟨c, hc, hp⟩ := Table.affected_pos_iff.1 haffected
        have hkept : c ∈ s'.businessConnection.rows := by
          rw [← hrows₁]
          exact hc
        rw [hrows] at hkept
        have hnot := (List.mem_filter.1 hkept).2
        rw [Bool.not_eq_true'] at hnot
        exact absurd hp (Bool.not_eq_true _ ▸ hnot)
    | retired t' ht' hid hcurrent hrows hfloor hages hframe =>
      intro c' hc' hpending
      rw [hrows] at hc'
      obtain ⟨hc', hne⟩ := List.mem_filter.1 hc'
      exact ⟨by simpa using hne, c', hc', rfl, hpending⟩

/-- What is committed went on with the Owner its snapshot saw. -/
theorem withExpectedOwner_commit {owner : OwnerIdentity} {next : Uow TriggerApplication}
    (h : rollbackRetry (withExpectedOwner owner next) db = .ok (.commit, db')) :
    db.ownerIdentity = .ready owner ∧ next db = .ok (.commit, db') := by
  have h : withExpectedOwner owner next db = .ok (.commit, db') := by
    unfold rollbackRetry at h
    split at h
    · cases h
    · exact h
  unfold withExpectedOwner loadOwnerLifecycleState at h
  rw [Txn.read_bind_apply] at h
  cases howner : db.ownerIdentity with
  | pending =>
    rw [howner] at h
    cases h
  | ready current =>
    rw [howner] at h
    dsimp only at h
    split at h
    · cases h
    · next hsame =>
      rw [not_not] at hsame
      exact ⟨congrArg _ hsame, h⟩

/-- The trigger of a claimed service is taken on, or is about a connection that is not stored. -/
theorem applyClaimedConnectionTrigger_cleared {authoritative : AuthoritativeBusinessConnection}
    {ownerUserId : Int} {source : OwnerChatSource} {updateId : Int} {occurredAt : DateTime}
    (hmatching : ∀ c ∈ db.businessConnection.rows, c.connectionId = authoritative.connectionId →
      snapshot.trustedConnectionId = some authoritative.connectionId)
    (h : applyClaimedConnectionTrigger authoritative (authoritativeCandidate authoritative now)
      snapshot ownerUserId source updateId occurredAt db = .ok (.commit, db')) :
    Cleared authoritative.connectionId db db' := by
  have haudit {eventKind : String} {s : Database}
      (h : (do
        insertConnectionAudit updateId eventKind occurredAt
        pure TriggerApplication.commit : Uow _) s = .ok (.commit, db')) :
      db'.businessConnection = s.businessConnection :=
    (show WritesTo [.audit] (fun _ => True) s db' from Respects.of_ok
      ((insertConnectionAudit_writes (by simp) _ _ _).bind fun _ => .pure _)
        h).frame.businessConnection (by simp) (by simp)
  have hpromote {s : Database}
      (h : (do
        promoteReportedChat authoritative ownerUserId source
        pure TriggerApplication.commit : Uow _) s = .ok (.commit, db')) :
      db'.businessConnection = s.businessConnection :=
    (show WritesTo [.owner] (fun _ => True) s db' from Respects.of_ok
      ((promoteReportedChat_writes (by simp) _ _ _).bind fun _ => .pure _)
        h).frame.businessConnection (by simp) (by simp)
  have habsent (hnot : ¬(decide (snapshot.trustedConnectionId =
      some (authoritativeCandidate authoritative now).connectionId) = true)) :
      ∀ c ∈ db.businessConnection.rows, c.connectionId ≠ authoritative.connectionId := by
    intro c hc hid
    exact hnot (decide_eq_true (hmatching c hc hid))
  unfold applyClaimedConnectionTrigger at h
  split at h
  · obtain ⟨write, db₁, hreconcile, h⟩ := Txn.bind_ok_iff.1 h
    have hreconciled := reconcileAuthoritativeTrustedConnection_ok hreconcile
    cases write with
    | revisionConflict => cases h
    | userConflict | generationConflict =>
      dsimp only at h
      split at h
      · cases h
      · next hnot => exact (hreconciled.cleared fun _ => habsent hnot).congr (haudit h)
    | installed | reconciled | replaced | ambiguous =>
      refine Cleared.congr (hreconciled.cleared ?_) (hpromote h)
      intro hconflict
      cases hconflict
  · split at h
    · cases h
    · next hnot => exact .of_absent (habsent hnot) (haudit h)

/-- **A trigger that is committed is taken on**: its connection is not pending any more. -/
theorem reconcileConnectionTrigger_cleared {updateId : Int} {occurredAt : DateTime}
    {owner : OwnerIdentity} (hvalid : answer.validFor connectionId = true)
    (hsingle : db.SingleTrusted)
    (hmatching : ∀ c ∈ db.businessConnection.rows, c.connectionId = connectionId →
      snapshot.trustedConnectionId = some connectionId)
    (h : reconcileConnectionTrigger updateId connectionId occurredAt owner snapshot answer now db =
      .ok (.commit, db')) : Cleared connectionId db db' := by
  have hend {application : TriggerApplication} {s : Database}
      (h : endTrigger updateId now application s = .ok (.commit, db')) :
      application = .commit ∧ db'.businessConnection = s.businessConnection := by
    refine ⟨?_, ((endTrigger_writes (by simp) _ _ _).of_ok h :
      WritesTo [.update] (fun _ => True) _ _).frame.businessConnection (by simp) (by simp)⟩
    cases application with
    | commit => rfl
    | retry transient => cases h
  match answer with
  | .error .connectionNotFound =>
    obtain ⟨-, h⟩ := withExpectedOwner_commit h
    obtain ⟨write, db₁, hretire, h⟩ := Txn.bind_ok_iff.1 h
    cases write with
    | reconciled => exact (retireThrough_cleared hretire).congr (@hend .commit _ h).2
    | revisionConflict | userConflict | generationConflict => cases h
    | installed | replaced | ambiguous => cases h
  | .error .botAuthentication =>
    obtain ⟨global, db₁, hfailed, h⟩ := Txn.bind_ok_iff.1 h
    cases h
  | .error .transientExhausted | .error .invalidResponse | .error .clientRejected => cases h
  | .ok authoritative =>
    have hid : authoritative.connectionId = connectionId := by
      simp only [LookupAnswer.validFor, Bool.and_eq_true, decide_eq_true_eq] at hvalid
      exact hvalid.1.1.1
    obtain ⟨howner, h⟩ := withExpectedOwner_commit h
    cases owner with
    | unclaimed =>
      -- nothing is stored before the claim
      obtain ⟨application, db₁, hunclaimed, h⟩ := Txn.bind_ok_iff.1 h
      have hnone := hsingle.unclaimed (by rw [howner]; rfl)
      refine .of_absent (by rw [hnone]; simp) ((hend h).2.trans ?_)
      exact (applyUnclaimedConnectionTrigger_frame hunclaimed).businessConnection (by simp) (by simp)
    | claimed =>
      obtain ⟨application, db₁, hclaimed, h⟩ := Txn.bind_ok_iff.1 h
      obtain ⟨rfl, hrows⟩ := hend h
      subst hid
      exact (applyClaimedConnectionTrigger_cleared hmatching hclaimed).congr hrows

/-- A trigger that is tried again has changed nothing, or it has failed to authenticate. -/
theorem reconcileConnectionTrigger_retried {updateId : Int} {occurredAt : DateTime}
    {owner : OwnerIdentity} {transient : Bool}
    (h : reconcileConnectionTrigger updateId connectionId occurredAt owner snapshot answer now db =
      .ok (.retry transient, db')) :
    db' = db ∨ db'.reconciliation.state = .authFailed ∧
      db'.processedUpdate = db.processedUpdate := by
  have hrolled {x : Uow TriggerApplication} (h : rollbackRetry x db = .ok (.retry transient, db')) :
      db' = db := by
    unfold rollbackRetry at h
    split at h
    · cases h
      rfl
    · next hne => exact absurd h (hne _ _)
  match answer with
  | .error .connectionNotFound => exact .inl (hrolled h)
  | .error .botAuthentication =>
    obtain ⟨global, db₁, hfailed, h⟩ := Txn.bind_ok_iff.1 h
    obtain ⟨-, rfl⟩ := Prod.mk.inj (Txn.pure_ok_iff.1 h)
    have hwrites : WritesTo [.reconciliation, .connection] (fun _ => True) db _ :=
      (setTelegramAuthFailed_writes (by simp) _).of_ok hfailed
    exact .inr ⟨setTelegramAuthFailed_state hfailed,
      hwrites.frame.processedUpdate (by simp) (by simp) (by simp)⟩
  | .error .transientExhausted | .error .invalidResponse | .error .clientRejected =>
    obtain ⟨-, rfl⟩ := Prod.mk.inj (Txn.pure_ok_iff.1 h)
    exact .inl rfl
  | .ok authoritative => exact .inl (hrolled h)

/-- **A startup lookup that converges is taken on.** -/
theorem reconcileTrustedCurrentState_cleared
    (h : reconcileTrustedCurrentState connectionId snapshot answer now db =
      .ok (.converged, db')) : Cleared connectionId db db' := by
  match answer with
  | .error .connectionNotFound =>
    obtain ⟨write, db₁, hretire, h⟩ := Txn.bind_ok_iff.1 h
    obtain ⟨hwrite, rfl⟩ := Prod.mk.inj (Txn.pure_ok_iff.1 h)
    split at hwrite
    · next hreconciled =>
      subst hreconciled
      exact retireThrough_cleared hretire
    · cases hwrite
  | .error .botAuthentication =>
    obtain ⟨global, db₁, hfailed, h⟩ := Txn.bind_ok_iff.1 h
    cases h
  | .error .transientExhausted | .error .invalidResponse | .error .clientRejected => cases h
  | .ok authoritative =>
    unfold reconcileTrustedCurrentState at h
    dsimp only at h
    split at h
    · cases h
    next hid =>
    rw [not_not] at hid
    obtain ⟨write, db₁, hreconcile, h⟩ := Txn.bind_ok_iff.1 h
    obtain ⟨hwrite, rfl⟩ := Prod.mk.inj (Txn.pure_ok_iff.1 h)
    have hreconciled := reconcileAuthoritativeTrustedConnection_ok hreconcile
    subst hid
    refine hreconciled.cleared fun hconflict => ?_
    cases write <;> simp [TrustedConnectionWrite.isConflict] at hwrite hconflict

/-! ## Transactions -/

/-- A recording gates the connection of a trigger that was not recorded before. -/
theorem recordPreparedEvent_gateStep {event : PreparedEvent} {receipt : RecordReceipt}
    (h : recordPreparedEvent event db = .ok (receipt, db')) :
    GateStep none db db' ∨ ∃ connectionId, receipt = .recorded ∧ event.isTrigger = true ∧
      event.facts.connectionId = some connectionId ∧ GateStep (some connectionId) db db' := by
  unfold recordPreparedEvent at h
  obtain ⟨⟨⟩, -, h⟩ := Txn.bind_ok_of_readOnly (validateFacts_readOnly _) h
  obtain ⟨trigger, htrigger, h⟩ := Txn.bind_ok_of_readOnly (connectionTriggerId_readOnly _) h
  obtain ⟨inserted, s, hinsert, h⟩ := Txn.bind_ok_iff.1 h
  have hlog {gated : Option String} : GateStep gated db s :=
    (gateStep_of_writes (K := fun _ => True) [.record] (by simp)
      (Uow.insertOrIgnoreUpdate_writes (by exact List.mem_singleton.2 rfl))).of_ok hinsert
  cases inserted with
  | false =>
    left
    refine hlog.trans (Respects.of_ok (.of_readOnly ?_) h)
    refine (Respects.read _).bind fun status => ?_
    match status with
    | none => exact .throw _
    | some .recorded => exact .pure _
    | some .applied => exact .pure _
    | some .failed => exact .throw _
  | true =>
    cases trigger with
    | none =>
      obtain ⟨-, rfl⟩ := Prod.mk.inj (Txn.pure_ok_iff.1 h)
      exact .inl hlog
    | some connectionId =>
      obtain ⟨gate, s', hgate, h⟩ := Txn.bind_ok_iff.1 h
      obtain ⟨hreceipt, rfl⟩ := Prod.mk.inj (Txn.pure_ok_iff.1 h)
      unfold connectionTriggerId at htrigger
      split at htrigger
      · cases htrigger
      next hisTrigger =>
      cases hid : event.facts.connectionId.filter (!blank ·) with
      | some id =>
        rw [hid] at htrigger
        obtain ⟨hsome, -⟩ := Prod.mk.inj (Txn.pure_ok_iff.1 htrigger)
        obtain rfl := Option.some.inj hsome
        refine .inr ⟨_, hreceipt.symm, by simpa using hisTrigger,
          (Option.filter_eq_some_iff.1 hid).1, ?_⟩
        exact hlog.trans
          ((gateMatchingTrustedForReconciliation_gateStep _ _).of_ok hgate)
      | none =>
        rw [hid] at htrigger
        cases htrigger

theorem commitOwnerClaim_gateStep (updateId : Int) (claim : ValidOwnerClaim)
    (snapshot : OwnerClaimSnapshot) (answer : Option LookupAnswer) (serviceNow : DateTime) :
    Respects (GateStep gated) (commitOwnerClaim updateId claim snapshot answer serviceNow) := by
  have hpromote (a : BusinessConnectionCandidate) (revision guardRevision : Nat) :
      Respects (GateStep gated) (promoteClaimCandidate a revision guardRevision) := by
    intro db write db' h
    rcases promoteClaimCandidate_ok h with rfl | ⟨-, -, hrows, hframe⟩
    · exact refl _
    · refine .of_gatedBy (fun c' hc' hpending => ?_) (hframe.reconciliation (by simp))
      rw [hrows, List.mem_singleton] at hc'
      subst hc'
      cases hpending
  exact commitOwnerClaim_respects
    (gateStep_of_writes (K := fun _ => True) [.update] (by simp)
      (insertRedactedUpdate_writes (by simp) _ _))
    (fun _ => gateStep_of_writes (K := fun _ => True) [.audit] (by simp)
      (insertOwnerClaimAudit_writes (by simp) _ _))
    (gateStep_of_writes (K := NewOutboxAction.Of updateId True) [.enqueue] (by simp)
      (enqueuePrivateMessage_writes (by simp) _ _ _))
    (gateStep_of_writes (K := fun _ => True) [.candidate, .guard] (by simp)
      (pruneConnectionCandidates_writes (by simp) _ _))
    (fun _ => gateStep_of_writes (K := fun _ => True) [.owner] (by simp)
      (claimOwner_writes (by simp) _ _ _ _))
    (setTelegramAuthFailed_gateStep _)
    (fun _ _ _ _ => by
      unfold tryPromoteClaimCandidate
      split
      · exact .ite (fun _ => .pure _) fun _ => (hpromote _ _ _).bind fun _ => .pure _
      · exact .pure _)
    (fun _ _ _ _ => gateStep_of_writes (K := fun _ => True) [.candidate] (by simp)
      (settleClaimCandidates_writes (by simp) _ _ _ _ _))
    fun _ => gateStep_of_writes (K := fun _ => True) [.enqueue] (by simp)
      (enqueueDirectOwnerMessage_writes (by simp) _ _ _ _)

/-- **No other transaction gates a connection**, but for that of the start. -/
theorem Transaction.gateStep (h : db.NoConnectionChange) (x : Transaction)
    (hlookup : x.lookup = none) (hnormalize : ∀ now, x ≠ .normalize now)
    (hrecord : ∀ event, x ≠ .record event) : GateStep none db (x.after db) := by
  have hframe := x.after_frame h
  cases x with
  | normalize now => exact absurd rfl (hnormalize now)
  | record event => exact absurd rfl (hrecord event)
  | startup | trigger => cases hlookup
  | publishReady startupPending now =>
    change GateStep none db (commit (publishReadyIfDrained startupPending now) db).1
    cases hx : publishReadyIfDrained startupPending now db with
    | error error =>
      rw [Txn.commit_of_error hx]
      exact refl _
    | ok r =>
      rw [Txn.commit_of_ok hx]
      rcases publishReadyIfDrained_ok hx with hsame | hopened
      · exact hsame ▸ refl _
      · refine .inr ⟨by rw [hopened.wasPending]; simp, .of_eq ?_⟩
        exact hopened.frame.businessConnection (by simp) (by simp)
  | ownerClaim updateId claim snapshot answer now =>
    exact (commitOwnerClaim_gateStep _ _ _ _ _).commit db
  | finish action now result => exact (finishDispatch_gateStep _ _ _).commit db
  | _ => exact .of_frame hframe (by simp)

end ChatHygiene
