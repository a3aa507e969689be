import ChatHygiene.Binding.Memory
/-!
# The Owner binding

An unclaimed installation is bound once. What a step publishes is what its
transaction has left in the Owner row, so the published identity is always one
that was committed; a claim that binds finds the row unclaimed, so no second one
does; and a claim that does not bind touches neither the row, nor the token, nor
the candidates.
-/

namespace ChatHygiene

open Txn (Respects commit)

variable {db db' : Database} {updateId : Int}

/-! ## What is returned is what is stored -/

/-- The identity a transaction returns is the one in the Owner row when it ends. -/
def ReturnsStored (x : Uow OwnerIdentity) : Prop :=
  ∀ db identity db', x db = .ok (identity, db') → db'.ownerIdentity = .ready identity

namespace ReturnsStored

theorem load : ReturnsStored loadOwnerIdentity := by
  intro db identity db' h
  obtain rfl : db = db' := loadOwnerIdentity_readOnly.of_ok h
  exact loadOwnerIdentity_ok h

theorem throw (e : Error) : ReturnsStored (throw e) := by
  intro db identity db' h
  cases h

theorem bind {α : Type} {x : Uow α} {f : α → Uow OwnerIdentity} (h : ∀ a, ReturnsStored (f a)) :
    ReturnsStored (x >>= f) := by
  intro db identity db' hx
  obtain ⟨a, s, -, hx⟩ := Txn.bind_ok_iff.1 hx
  exact h a _ _ _ hx

theorem ite {c : Prop} [Decidable c] {x y : Uow OwnerIdentity} (hx : ReturnsStored x)
    (hy : ReturnsStored y) : ReturnsStored (if c then x else y) := by
  split
  · exact hx
  · exact hy

end ReturnsStored

theorem initializeOrLoadOwnerIdentity_stored (now : DateTime) :
    ReturnsStored (initializeOrLoadOwnerIdentity now) := by
  intro db identity db' h
  unfold initializeOrLoadOwnerIdentity loadOwnerLifecycleState at h
  simp only [Txn.read_bind_apply] at h
  cases howner : db.ownerIdentity with
  | ready current =>
    rw [howner] at h
    obtain ⟨rfl, rfl⟩ := Prod.mk.inj (Txn.pure_ok_iff.1 h)
    exact howner
  | pending =>
    rw [howner] at h
    refine ReturnsStored.bind (fun connections => ?_) _ _ _ h
    have hset (f : OwnerLifecycleState → OwnerLifecycleState) : ReturnsStored (do
        let affected ← Uow.updateOwner (· = .pending) f
        if affected ≠ 1 then throw .concurrentModification
        loadOwnerIdentity) :=
      .bind fun _ => .ite (.bind fun _ => .load) .load
    match connections with
    | [] => exact hset _
    | [ownerUserId] => exact .ite (hset _) (.throw _)
    | _ :: _ :: _ => exact .throw _

theorem promoteOwnerChat_stored (ownerUserId ownerChatId : Int) (source : OwnerChatSource) :
    ReturnsStored (promoteOwnerChat ownerUserId ownerChatId source) := by
  intro db identity db' h
  unfold promoteOwnerChat at h
  obtain ⟨-, h⟩ := Txn.guard_ok_iff.1 h
  obtain ⟨-, h⟩ := Txn.guard_ok_iff.1 h
  obtain ⟨current, hcurrent, h⟩ := Txn.bind_ok_of_readOnly loadOwnerIdentity_readOnly h
  cases current with
  | unclaimed => cases h
  | claimed user chat chatSource floor boundAt =>
    obtain ⟨-, h⟩ := Txn.guard_ok_iff.1 h
    dsimp only at h
    split at h
    · obtain ⟨rfl, rfl⟩ := Prod.mk.inj (Txn.pure_ok_iff.1 h)
      exact loadOwnerIdentity_ok hcurrent
    · exact ReturnsStored.bind (fun _ => .ite (.bind fun _ => .load) .load) _ _ _ h

theorem claimOwner_stored (ownerUserId ownerChatId floor : Int) (boundAt : DateTime) :
    ReturnsStored (claimOwner ownerUserId ownerChatId floor boundAt) := by
  intro db identity db' h
  unfold claimOwner at h
  obtain ⟨-, h⟩ := Txn.guard_ok_iff.1 h
  refine ReturnsStored.bind (fun state => ?_) _ _ _ h
  match state with
  | .pending => exact .throw _
  | .ready (.claimed ..) => exact .throw _
  | .ready .unclaimed => exact .bind fun _ => .ite (.bind fun _ => .load) .load

/-- The Owner row is bound to the identity a claim returns. -/
theorem claimOwner_claimed {ownerUserId ownerChatId floor : Int} {boundAt : DateTime}
    {identity : OwnerIdentity}
    (h : claimOwner ownerUserId ownerChatId floor boundAt db = .ok (identity, db')) :
    identity ≠ .unclaimed := by
  have hstored := claimOwner_stored _ _ _ _ _ _ _ h
  unfold claimOwner loadOwnerLifecycleState at h
  obtain ⟨-, h⟩ := Txn.guard_ok_iff.1 h
  simp only [Txn.read_bind_apply] at h
  rintro rfl
  match howner : db.ownerIdentity with
  | .pending =>
    rw [howner] at h
    cases h
  | .ready (.claimed ..) =>
    rw [howner] at h
    cases h
  | .ready .unclaimed =>
    rw [howner] at h
    obtain ⟨affected, s, hupdate, h⟩ := Txn.bind_ok_iff.1 h
    obtain ⟨haffected, h⟩ := Txn.guard_ok_iff.1 h
    obtain rfl : s = db' := loadOwnerIdentity_readOnly.of_ok h
    have hupdate := Uow.statement_ok_iff.1 hupdate
    unfold Tables.updateOwner at hupdate
    rw [howner] at hupdate
    obtain ⟨-, hdb⟩ := Prod.mk.inj (Except.ok.inj hupdate)
    rw [← hdb] at hstored
    cases hstored

/-- An authorised command goes on with the identity that is stored. -/
theorem authorizedAs_ok {ownerUserId : Int} {identity : OwnerIdentity} {owner : AuthorizedOwner}
    (h : authorizedAs ownerUserId identity db = .ok (some owner, db')) :
    owner.identity = identity ∧ db' = db := by
  have hdb : db = db' := (authorizedAs_readOnly _ _).of_ok h
  unfold authorizedAs at h
  obtain ⟨connection, -, h⟩ := Txn.bind_ok_of_readOnly findSingleBusinessConnection_readOnly h
  obtain ⟨-, h⟩ := Txn.guard_ok_iff.1 h
  cases identity with
  | unclaimed => cases h
  | claimed =>
    obtain ⟨howner, -⟩ := Prod.mk.inj (Txn.pure_ok_iff.1 h)
    rw [← Option.some.inj howner]
    exact ⟨rfl, hdb.symm⟩

theorem authorize_ok {source : OwnerCommandSource} {now : DateTime} {owner : AuthorizedOwner}
    (h : authorize source now db = .ok (some owner, db')) :
    db'.ownerIdentity = .ready owner.identity := by
  have hrejected {s : Database} (h : (do
      insertSecurityAudit now
      pure none : Uow (Option AuthorizedOwner)) s = .ok (some owner, db')) : False := by
    obtain ⟨⟨⟩, s', -, h⟩ := Txn.bind_ok_iff.1 h
    cases h
  have hrest {identity : OwnerIdentity} {user : Int} {s : Database}
      (hstored : s.ownerIdentity = .ready identity)
      (h : authorizedAs user identity s = .ok (some owner, db')) :
      db'.ownerIdentity = .ready owner.identity := by
    obtain ⟨howner, hdb⟩ := authorizedAs_ok h
    rw [hdb, howner, hstored]
  unfold authorize at h
  obtain ⟨current, hcurrent, h⟩ := Txn.bind_ok_of_readOnly loadOwnerIdentity_readOnly h
  cases current with
  | unclaimed => exact (hrejected h).elim
  | claimed user chat chatSource floor boundAt =>
    dsimp only at h
    split at h
    · exact (hrejected h).elim
    split at h
    · obtain ⟨identity, s, hidentity, h⟩ := Txn.bind_ok_iff.1 h
      exact hrest (promoteOwnerChat_stored _ _ _ _ _ _ hidentity) h
    · exact hrest (loadOwnerIdentity_ok hcurrent) h

/-! ## What is published is what is stored -/

/-- The reply to a command leaves the Owner row alone. -/
theorem ownerCommandReply_frame {snapshot : OwnerCommandSnapshot} {owner : AuthorizedOwner}
    {occurredAt : DateTime} {default destructiveMode : Bool} {receipt : RecordReceipt}
    (h : (do
      let execution ← executeCommand snapshot owner occurredAt default
      enqueueOwnerTelegramActions updateId execution.telegramActions occurredAt
      enqueueDirectOwnerMessage updateId owner.ownerChatId execution.response occurredAt
        "OWNER_COMMAND_REPLY"
      if !destructiveMode then
        enqueueOwnerCommandTrace updateId owner.ownerChatId snapshot.messageId occurredAt
      pure .recorded : Uow RecordReceipt) db = .ok (receipt, db')) :
    db'.ownerIdentity = db.ownerIdentity := by
  have hwrites : Respects (WritesTo (.enqueue :: commandTargets) (NewOutboxAction.Of updateId True))
      (do
        let execution ← executeCommand snapshot owner occurredAt default
        enqueueOwnerTelegramActions updateId execution.telegramActions occurredAt
        enqueueDirectOwnerMessage updateId owner.ownerChatId execution.response occurredAt
          "OWNER_COMMAND_REPLY"
        if !destructiveMode then
          enqueueOwnerCommandTrace updateId owner.ownerChatId snapshot.messageId occurredAt
        pure RecordReceipt.recorded) :=
    (executeCommand_writes (by simp) _ _ _ _).bind fun _ =>
      (enqueueOwnerTelegramActions_writes (by simp) _ (fun _ => trivial) _).bind fun _ =>
      (enqueueDirectOwnerMessage_of (by simp) _ _ _ .command rfl).bind fun _ =>
      .ite (fun _ => Respects.bind
        ((Respects.read _).bind fun _ => enqueueDirectOwnerMessage_of (by simp) _ _ _ .trace rfl)
        fun _ => .pure _) fun _ => .pure _
  exact (hwrites.of_ok h).frame.ownerIdentity (by simp)

theorem publishedByCommand_stored {snapshot : OwnerCommandSnapshot} {occurredAt : DateTime}
    {default : Bool} {identity : OwnerIdentity}
    (h : publishedByCommand updateId snapshot occurredAt default db = some identity) :
    (commit (processOwnerCommand updateId snapshot occurredAt default) db).1.ownerIdentity =
      .ready identity := by
  unfold publishedByCommand at h
  split at h
  · next current s r hnew hidentity hcommitted =>
    subst h
    obtain ⟨receipt, db'⟩ := r
    rw [Txn.commit_of_ok hcommitted]
    unfold processOwnerCommand at hcommitted
    rw [withoutReceipt_new hnew] at hcommitted
    obtain ⟨destructiveMode, -, hcommitted⟩ := Txn.bind_ok_of_readOnly
      (x := runtimeDestructiveMode default) (Respects.read _) hcommitted
    -- both go the same way up to the authorisation
    obtain ⟨⟨⟩, s₁, hinsert, hidentity⟩ := Txn.bind_ok_iff.1 hidentity
    obtain ⟨owner, s₂, hauthorize, hidentity⟩ := Txn.bind_ok_iff.1 hidentity
    obtain ⟨howner, rfl⟩ := Prod.mk.inj (Txn.pure_ok_iff.1 hidentity)
    rw [Txn.bind_of_ok hinsert, Txn.bind_of_ok hauthorize] at hcommitted
    obtain ⟨owner, rfl, rfl⟩ := Option.map_eq_some_iff.1 howner
    dsimp only at hcommitted
    rw [ownerCommandReply_frame hcommitted]
    exact authorize_ok hauthorize
  · cases h

/-- A start that is accepted from the Owner is a command. -/
theorem processOwnerStart_eq {snapshot : OwnerCommandSnapshot} {occurredAt : DateTime}
    {default : Bool} {owner : OwnerIdentity} {r : RecordReceipt × Database}
    (h : processOwnerStart updateId snapshot occurredAt default db = .ok r)
    (hnew : db.processedUpdate.lookup updateId = none) (howner : db.ownerIdentity = .ready owner)
    (hstart : isOwnerStart (snapshot.fromUserId.getD 0) (snapshot.chatId.getD 0) owner = true) :
    processOwnerCommand updateId { snapshot with command := .ok .help } occurredAt default db =
      .ok r := by
  unfold processOwnerStart at h
  cases hfrom : snapshot.fromUserId.filter (0 < ·) with
  | none =>
    rw [hfrom] at h
    cases h
  | some fromUserId =>
    rw [hfrom] at h
    cases hchat : snapshot.chatId.filter (0 < ·) with
    | none =>
      rw [hchat] at h
      cases h
    | some chatId =>
      rw [hchat] at h
      simp only [Txn.pure_bind_apply] at h
      obtain ⟨-, h⟩ := Txn.guard_ok_iff.1 h
      rw [withoutReceipt_new hnew] at h
      obtain ⟨current, hcurrent, h⟩ := Txn.bind_ok_of_readOnly loadOwnerIdentity_readOnly h
      obtain rfl : current = owner := by
        simpa [howner] using (loadOwnerIdentity_ok hcurrent).symm
      rw [(Option.filter_eq_some_iff.1 hfrom).1, (Option.filter_eq_some_iff.1 hchat).1,
        Option.getD_some, Option.getD_some] at hstart
      rwa [if_pos hstart] at h

theorem publishedByStart_stored {snapshot : OwnerCommandSnapshot} {occurredAt : DateTime}
    {default : Bool} {identity : OwnerIdentity}
    (h : publishedByStart updateId snapshot occurredAt default db = some identity) :
    (commit (processOwnerStart updateId snapshot occurredAt default) db).1.ownerIdentity =
      .ready identity := by
  unfold publishedByStart at h
  split at h
  · next r owner hcommitted howner =>
    obtain ⟨hstart, h⟩ := Option.ite_none_right_eq_some.1 h
    have hnew : db.processedUpdate.lookup updateId = none := by
      unfold publishedByCommand at h
      split at h
      · assumption
      · cases h
    have hstored := publishedByCommand_stored h
    rw [Txn.commit_of_ok (processOwnerStart_eq hcommitted hnew howner hstart)] at hstored
    rw [Txn.commit_of_ok hcommitted]
    exact hstored
  · cases h

/-! ## Claims -/

/-- What a claim does once the Owner is bound. -/
def afterBind (updateId : Int) (claim : ValidOwnerClaim) (snapshot : OwnerClaimSnapshot)
    (answer : Option LookupAnswer) (serviceNow : DateTime) (global : TelegramReconciliationState)
    (guard : CandidateGuard) (candidates : List BusinessConnectionCandidate) :
    Uow RecordReceipt := do
  match answer with
  | some (.error .botAuthentication) =>
    let _ ← setTelegramAuthFailed serviceNow
  | _ => pure ()
  let promoted ← tryPromoteClaimCandidate snapshot global guard candidates
    (answer.bind Except.toOption) serviceNow
  let connectionState ← settleClaimCandidates promoted guard candidates
    (answer.bind Except.toOption) claim.fromUserId
  insertRedactedUpdate updateId .ownerClaim claim.occurredAt
  insertOwnerClaimAudit updateId true claim.occurredAt
  enqueueDirectOwnerMessage updateId claim.ownerChatId
    (.plain s!"claim succeeded connection={connectionState}") claim.occurredAt
    "OWNER_CLAIM_CONFIRMATION"
  pure .recorded

theorem afterBind_frame {claim : ValidOwnerClaim} {snapshot : OwnerClaimSnapshot}
    {answer : Option LookupAnswer} {serviceNow : DateTime} {global : TelegramReconciliationState}
    {guard : CandidateGuard} {candidates : List BusinessConnectionCandidate}
    {receipt : RecordReceipt}
    (h : afterBind updateId claim snapshot answer serviceNow global guard candidates db =
      .ok (receipt, db')) :
    db'.ownerIdentity = db.ownerIdentity := by
  have hrest : Respects (WritesTo [.connection, .candidate, .reconciliation, .update, .audit, .enqueue]
      (NewOutboxAction.Of updateId True))
      (settleClaim updateId claim snapshot global guard candidates (answer.bind Except.toOption)
        serviceNow) :=
    (tryPromoteClaimCandidate_writes (by simp) _ _ _ _ _ _).bind fun _ =>
      (settleClaimCandidates_writes (by simp) _ _ _ _ _).bind fun _ =>
      (insertRedactedUpdate_writes (by simp) _ _).bind fun _ =>
      (insertOwnerClaimAudit_writes (by simp) _ _).bind fun _ =>
      (enqueueDirectOwnerMessage_of (by simp) _ _ _ .claim rfl).bind fun _ => .pure _
  have hwrites : Respects (WritesTo
      [.connection, .candidate, .reconciliation, .update, .audit, .enqueue]
      (NewOutboxAction.Of updateId True))
      (afterBind updateId claim snapshot answer serviceNow global guard candidates) := by
    unfold afterBind
    dsimp only
    split
    · exact (setTelegramAuthFailed_writes (by simp) _).bind fun _ => hrest
    · exact hrest
  exact (hwrites.of_ok h).frame.ownerIdentity (by simp)

/-- **A claim of an unclaimed installation binds it first.** -/
theorem commitOwnerClaim_binds {claim : ValidOwnerClaim} {snapshot : OwnerClaimSnapshot}
    {answer : Option LookupAnswer} {serviceNow : DateTime} {receipt : RecordReceipt}
    (h : commitOwnerClaim updateId claim snapshot answer serviceNow db = .ok (receipt, db'))
    (hnew : db.processedUpdate.lookup updateId = none)
    (howner : db.ownerIdentity = .ready .unclaimed) :
    ∃ identity s, claimedIdentity claim snapshot serviceNow db = .ok (identity, s) ∧
      identity ≠ .unclaimed ∧ s.ownerIdentity = .ready identity ∧
      db'.ownerIdentity = .ready identity := by
  unfold commitOwnerClaim at h
  rw [withoutReceipt_new hnew] at h
  obtain ⟨owner, hload, h⟩ := Txn.bind_ok_of_readOnly loadOwnerIdentity_readOnly h
  obtain rfl : owner = .unclaimed := by simpa [howner] using (loadOwnerIdentity_ok hload).symm
  obtain ⟨global, -, h⟩ := Txn.bind_ok_of_readOnly
    (x := loadTelegramReconciliationState) (Respects.read _) h
  obtain ⟨guard, hguard, h⟩ := Txn.bind_ok_of_readOnly (x := loadCandidateGuard) (Respects.read _) h
  obtain ⟨candidates, hcandidates, h⟩ := Txn.bind_ok_of_readOnly (candidatesForUser_readOnly _) h
  obtain ⟨pruned, s₁, hprune, h⟩ := Txn.bind_ok_iff.1 h
  obtain ⟨guard', -, h⟩ := Txn.bind_ok_of_readOnly (x := loadCandidateGuard) (Respects.read _) h
  obtain ⟨candidates', -, h⟩ := Txn.bind_ok_of_readOnly (candidatesForUser_readOnly _) h
  obtain ⟨identity, s₂, hclaim, h⟩ := Txn.bind_ok_iff.1 h
  refine ⟨identity, s₂, ?_, claimOwner_claimed hclaim, claimOwner_stored _ _ _ _ _ _ _ hclaim, ?_⟩
  · unfold claimedIdentity
    rw [Txn.bind_of_ok hguard, Txn.bind_of_ok hcandidates, Txn.bind_of_ok hprune]
    exact hclaim
  · have hframe := afterBind_frame (show afterBind updateId claim snapshot answer serviceNow global
      guard' candidates' s₂ = .ok (receipt, db') from h)
    rw [hframe]
    exact claimOwner_stored _ _ _ _ _ _ _ hclaim

/-- **A claim that succeeds binds an unclaimed installation.** -/
theorem boundByClaim_stored {claim : ValidOwnerClaim} {snapshot : OwnerClaimSnapshot}
    {answer : Option LookupAnswer} {serviceNow : DateTime} {identity : OwnerIdentity}
    (h : boundByClaim updateId claim snapshot answer serviceNow db = some identity) :
    db.ownerIdentity = .ready .unclaimed ∧ identity ≠ .unclaimed ∧
      (commit (commitOwnerClaim updateId claim snapshot answer serviceNow) db).1.ownerIdentity =
        .ready identity := by
  unfold boundByClaim at h
  split at h
  · next bound s r hnew howner hidentity hcommitted =>
    obtain rfl := Option.some.inj h
    obtain ⟨receipt, db'⟩ := r
    rw [Txn.commit_of_ok hcommitted]
    obtain ⟨identity, s', hidentity', hclaimed, -, hstored⟩ :=
      commitOwnerClaim_binds hcommitted hnew howner
    obtain ⟨rfl, -⟩ := Prod.mk.inj (Except.ok.inj (hidentity.symm.trans hidentity'))
    exact ⟨howner, hclaimed, hstored⟩
  · cases h

/-- A claim that does not succeed leaves the row and the candidates as they are. -/
theorem boundByClaim_none {claim : ValidOwnerClaim} {snapshot : OwnerClaimSnapshot}
    {answer : Option LookupAnswer} {serviceNow : DateTime}
    (h : boundByClaim updateId claim snapshot answer serviceNow db = none) :
    (commit (commitOwnerClaim updateId claim snapshot answer serviceNow) db).1.ownerIdentity =
        db.ownerIdentity ∧
      (commit (commitOwnerClaim updateId claim snapshot answer serviceNow) db).1.candidate =
        db.candidate := by
  cases hcommitted : commitOwnerClaim updateId claim snapshot answer serviceNow db with
  | error error =>
    rw [Txn.commit_of_error hcommitted]
    exact ⟨rfl, rfl⟩
  | ok r =>
    obtain ⟨receipt, db'⟩ := r
    rw [Txn.commit_of_ok hcommitted]
    rcases withoutReceipt_ok hcommitted with rfl | ⟨hnew, -⟩
    · exact ⟨rfl, rfl⟩
    rcases commitOwnerClaim_ok hcommitted with hframe | howner
    · exact ⟨hframe.ownerIdentity (by simp), hframe.candidate (by simp)⟩
    · obtain ⟨identity, s, hidentity, -⟩ := commitOwnerClaim_binds hcommitted hnew howner
      unfold boundByClaim at h
      rw [hnew, howner, hidentity, hcommitted] at h
      cases h

/-! ## Steps -/

theorem World.step_claimAnswer {w w' : World} {answer : Option LookupAnswer} {now : DateTime}
    (h : w.step (.worker (.claimAnswer answer now)) = some w') :
    ∃ updateId claim snapshot, w.worker = .claimLookup updateId claim snapshot ∧
      w' = w.commitIdle (commitOwnerClaim updateId claim snapshot answer now) := by
  change w.stepWorker _ = _ at h
  unfold stepWorker at h
  split at h <;> try contradiction
  next updateId claim snapshot answer' now' hworker hop =>
    cases hop
    obtain ⟨-, h⟩ := Option.ite_none_right_eq_some.1 h
    exact ⟨updateId, claim, snapshot, hworker, (Option.some.inj h).symm⟩

/-- **A claim that binds finds the installation unclaimed and leaves it bound.** -/
theorem World.binds_stored {w w' : World} {op : Op} {identity : OwnerIdentity}
    (h : w.binds op = some identity) (hstep : w.step op = some w') :
    w.db.ownerIdentity = .ready .unclaimed ∧ identity ≠ .unclaimed ∧
      w'.db.ownerIdentity = .ready identity := by
  unfold World.binds at h
  split at h
  · next answer now =>
    obtain ⟨updateId, claim, snapshot, hworker, rfl⟩ := World.step_claimAnswer hstep
    rw [hworker] at h
    exact boundByClaim_stored h
  · cases h

/-- **What a step publishes is what it leaves in the Owner row.** -/
theorem World.publishes_stored {w w' : World} {op : Op} {identity : OwnerIdentity}
    (h : w.publishes op = some identity) (hstep : w.step op = some w') :
    w'.db.ownerIdentity = .ready identity := by
  unfold World.publishes at h
  split at h
  · next now =>
    have hstep : w.stepWorker (.initializeOwner now) = some w' := hstep
    unfold stepWorker at hstep
    split at hstep <;> try contradiction
    next hworker hop =>
      cases hop
      obtain rfl := Option.some.inj hstep
      cases hinit : initializeOrLoadOwnerIdentity now w.db with
      | error error =>
        rw [hinit] at h
        cases h
      | ok r =>
        obtain ⟨current, db'⟩ := r
        rw [hinit] at h
        obtain rfl := Option.some.inj h
        change (commit (initializeOrLoadOwnerIdentity now) w.db).1.ownerIdentity = _
        rw [Txn.commit_of_ok hinit]
        exact initializeOrLoadOwnerIdentity_stored _ _ _ _ hinit
  · next updateId snapshot occurredAt =>
    have hstep : w.stepWorker (.ownerCommand updateId snapshot occurredAt) = some w' := hstep
    unfold stepWorker at hstep
    split at hstep <;> try contradiction
    next hworker hop =>
      cases hop
      obtain rfl := Option.some.inj hstep
      exact publishedByCommand_stored h
  · next updateId snapshot occurredAt =>
    have hstep : w.stepWorker (.ownerStart updateId snapshot occurredAt) = some w' := hstep
    unfold stepWorker at hstep
    split at hstep <;> try contradiction
    next hworker hop =>
      cases hop
      obtain rfl := Option.some.inj hstep
      exact publishedByStart_stored h
  · exact (World.binds_stored h hstep).2.2

/-- A step on behalf of a claim message. -/
inductive World.Claims (w : World) : Op → Prop
  | message {updateId : Int} {claim : ValidOwnerClaim} {tokenMatches : Bool} {now : DateTime} :
    Claims w (.worker (.ownerClaim updateId claim tokenMatches now))
  | rejected {updateId : Int} {replyChatId : Option Int} {occurredAt : DateTime} :
    Claims w (.worker (.ownerClaimRejected updateId replyChatId occurredAt))
  | answer {answer : Option LookupAnswer} {now : DateTime} :
    Claims w (.worker (.claimAnswer answer now))
  | storageFailure {updateId : Int} {claim : ValidOwnerClaim} {snapshot : OwnerClaimSnapshot}
    (h : w.worker = .claimLookup updateId claim snapshot) : Claims w (.worker .storageFailure)

/-- **A claim that does not bind leaves the process running, the Owner row and the candidates as
they are.** -/
theorem World.claims_frame {w w' : World} {op : Op} (h : w.Claims op) (hnone : w.binds op = none)
    (hstep : w.step op = some w') :
    w'.worker.isDown = false ∧ w'.db.ownerIdentity = w.db.ownerIdentity ∧
      w'.db.candidate = w.db.candidate := by
  have hrejected (updateId : Int) (replyChatId : Option Int) (occurredAt : DateTime) :
      Frame [.update, .audit, .enqueue] w.db.toTables
        (commit (recordOwnerClaimRejection updateId replyChatId occurredAt) w.db).1.toTables := by
    have hwrites : Respects (WritesTo [.update, .audit, .enqueue] (NewOutboxAction.Of updateId True))
        (recordOwnerClaimRejection updateId replyChatId occurredAt) :=
      recordOwnerClaimRejection_writes (fun _ ht => ht) _ _
    exact (hwrites.commit w.db).frame
  cases h with
  | @message updateId claim tokenMatches now =>
    change w.stepWorker _ = _ at hstep
    unfold stepWorker at hstep
    split at hstep <;> try contradiction
    next hworker hop =>
      cases hop
      split at hstep
      · obtain rfl := Option.some.inj hstep
        exact ⟨by rw [hworker]; rfl, rfl, rfl⟩
      · split at hstep
        · obtain rfl := Option.some.inj hstep
          have hframe := hrejected updateId (some claim.ownerChatId) claim.occurredAt
          exact ⟨rfl, hframe.ownerIdentity (by simp), hframe.candidate (by simp)⟩
        · obtain rfl := Option.some.inj hstep
          exact ⟨rfl, rfl, rfl⟩
  | @rejected updateId replyChatId occurredAt =>
    change w.stepWorker _ = _ at hstep
    unfold stepWorker at hstep
    split at hstep <;> try contradiction
    next hworker hop =>
      cases hop
      obtain rfl := Option.some.inj hstep
      have hframe := hrejected updateId replyChatId occurredAt
      exact ⟨rfl, hframe.ownerIdentity (by simp), hframe.candidate (by simp)⟩
  | answer =>
    obtain ⟨updateId, claim, snapshot, hworker, rfl⟩ := World.step_claimAnswer hstep
    simp only [World.binds, hworker] at hnone
    exact ⟨rfl, boundByClaim_none hnone⟩
  | storageFailure h =>
    simp only [World.step, stepWorker, h, WorkerPhase.serving] at hstep
    obtain rfl := Option.some.inj hstep
    exact ⟨rfl, rfl, rfl⟩

/-! ## Runs -/

/-- A bound Owner's chat moves off the legacy fallback, and then no more. -/
theorem OwnerLifecycleState.Ages.chat {o o' : OwnerLifecycleState} (h : o.Ages o')
    {source : OwnerChatSource} (hsource : o.chatSource = some source) :
    o'.chat = o.chat ∧ o'.chatSource = some source ∨
      source = .legacyFallback ∧ ∃ source', o'.chatSource = some source' ∧
        source' ≠ .legacyFallback := by
  match o with
  | .ready (.claimed user chat source' floor boundAt) =>
    obtain rfl := Option.some.inj hsource
    obtain ⟨chat', source'', floor', rfl, hchat, -⟩ := h.claimed _ _ _ _ _ rfl
    rcases hchat with ⟨rfl, rfl⟩ | ⟨hlegacy, hmoved⟩
    · exact .inl ⟨rfl, rfl⟩
    · exact .inr ⟨hlegacy, _, rfl, hmoved⟩

namespace BoundWorld

variable {Token : Type} {derived : Token}

/-- What every step keeps of the binding and its history. -/
structure Sound (s : BoundWorld Token) : Prop where
  prepared : s.world.EventsPrepared
  published : ∀ identity, s.handle = some identity → identity ∈ s.committed
  claims : s.claims = 0 ∨ s.claims = 1 ∧ s.world.db.ownerIdentity.isClaimed = true
  chatMoves : s.chatMoves = 0 ∨ s.chatMoves = 1 ∧ ∃ source,
    s.world.db.ownerIdentity.chatSource = some source ∧ source ≠ .legacyFallback

/-- **One step keeps the binding sound.** -/
theorem Sound.move {s s' : BoundWorld Token} {op : Op} (h : s.Sound)
    (hmove : s.move derived op = some s') :
    s'.Sound ∧ OwnerAges s.world.db s'.world.db := by
  obtain ⟨w', hstep, rfl⟩ := Option.map_eq_some_iff.1 hmove
  have hages : OwnerAges s.world.db w'.db := (h.prepared.bindingKept hstep).owner
  refine ⟨⟨h.prepared.step hstep, fun identity hidentity => ?_, ?_, ?_⟩, hages⟩
  · -- what is published now is in the row now, and the rest was published before
    rw [List.mem_append]
    dsimp only at hidentity
    split at hidentity
    · cases hidentity
    rcases hpublishes : s.world.publishes op with - | published
    · rw [hpublishes, Option.none_or] at hidentity
      exact .inl (h.published identity hidentity)
    · rw [hpublishes, Option.some_or] at hidentity
      obtain rfl := Option.some.inj hidentity
      rw [World.publishes_stored hpublishes hstep]
      exact .inr (List.mem_singleton.2 rfl)
  · rcases hbinds : s.world.binds op with - | identity
    · exact h.claims.imp (by simp) fun ⟨hone, hclaimed⟩ =>
        ⟨by simp [hone], hages.isClaimed hclaimed⟩
    · obtain ⟨hunclaimed, hidentity, hstored⟩ := World.binds_stored hbinds hstep
      rcases h.claims with hnone | ⟨-, hclaimed⟩
      · refine .inr ⟨by simp [hnone], ?_⟩
        dsimp only
        rw [hstored]
        cases identity with
        | unclaimed => exact absurd rfl hidentity
        | claimed => rfl
      · rw [hunclaimed] at hclaimed
        cases hclaimed
  · rcases h.chatMoves with hnone | ⟨hone, source, hsource, hmoved⟩
    · dsimp only
      rw [hnone]
      split
      · next hchat =>
        obtain ⟨chat, hsome⟩ := Option.isSome_iff_exists.1 hchat.1
        obtain ⟨source, hsource⟩ : ∃ source, s.world.db.ownerIdentity.chatSource = some source := by
          revert hsome
          match s.world.db.ownerIdentity with
          | .pending => exact nofun
          | .ready .unclaimed => exact nofun
          | .ready (.claimed _ _ source _ _) => exact fun _ => ⟨source, rfl⟩
        rcases hages.chat hsource with ⟨hsame, -⟩ | ⟨-, hmoved⟩
        · exact absurd hsame hchat.2
        · exact .inr ⟨rfl, hmoved⟩
      · exact .inl rfl
    · rcases hages.chat hsource with ⟨hsame, hsource'⟩ | ⟨hlegacy, -⟩
      · exact .inr ⟨by simp [hone, hsame], source, hsource', hmoved⟩
      · exact absurd hlegacy hmoved

variable [DecidableEq Token]

theorem step_move {s s' : BoundWorld Token} {op : BoundOp Token}
    (h : s.step derived op = some s') :
    ∃ inner, op.inner s.token = some inner ∧ s.move derived inner = some s' :=
  Option.bind_eq_some_iff.1 h

theorem sound {s : BoundWorld Token} (h : (boundService derived).Reachable s) : s.Sound := by
  refine h.invariant ?_ fun s op s' _ hs _ hstep => ?_
  · rintro s ⟨now, rfl⟩
    have hinitial : service.Reachable (World.initial now) := ⟨_, ⟨now, rfl⟩, .refl _⟩
    exact ⟨World.eventsPrepared hinitial, nofun, .inl rfl, .inl rfl⟩
  · obtain ⟨inner, -, hmove⟩ := step_move hstep
    exact (hs.move hmove).1

theorem run_ages {s s' : BoundWorld Token} (hs : s.Sound)
    (h : (boundService derived).Runs (fun _ _ => True) s s') :
    OwnerAges s.world.db s'.world.db := by
  have hboth : s'.Sound ∧ OwnerAges s.world.db s'.world.db := by
    refine h.invariant (P := fun t => t.Sound ∧ OwnerAges s.world.db t.world.db) ⟨hs, refl _⟩
      fun t op t' ⟨ht, hages⟩ _ hstep => ?_
    obtain ⟨inner, -, hmove⟩ := step_move hstep
    obtain ⟨ht', hages'⟩ := ht.move hmove
    exact ⟨ht', trans_of OwnerAges hages hages'⟩
  exact hboth.2

end BoundWorld

section

variable {Token : Type} [DecidableEq Token] {derived : Token}

/-- **The Owner binding.** At most one claim succeeds, and the chat of the bound Owner moves at most
once; what is published has been committed; a bound row keeps its user and the instant it was bound,
leaves its chat unless that is the legacy fallback, and its floor never falls; and a claim that does
not succeed leaves the row, the token and the candidates as they are. -/
theorem owner_binding {s : BoundWorld Token} (h : (boundService derived).Reachable s) :
    s.claims ≤ 1 ∧ s.chatMoves ≤ 1 ∧
    (∀ identity, s.handle = some identity → identity ∈ s.committed) ∧
    (∀ s', (boundService derived).Runs (fun _ _ => True) s s' →
      ∀ user chat source floor boundAt,
      s.world.db.ownerIdentity = .ready (.claimed user chat source floor boundAt) →
      ∃ chat' source' floor',
        s'.world.db.ownerIdentity = .ready (.claimed user chat' source' floor' boundAt) ∧
        (chat' = chat ∧ source' = source ∨ source = .legacyFallback ∧ source' ≠ .legacyFallback) ∧
        ∀ g, floor = some g → ∃ g', floor' = some g' ∧ g ≤ g') ∧
    ∀ op inner s', op.inner s.token = some inner → s.world.Claims inner →
      s.step derived op = some s' → s'.claims = s.claims →
      s'.world.db.ownerIdentity = s.world.db.ownerIdentity ∧ s'.token = s.token ∧
        s'.world.db.candidate = s.world.db.candidate := by
  have hs : s.Sound := BoundWorld.sound h
  refine ⟨?_, ?_, hs.published, fun s' hruns user chat source floor boundAt howner => ?_,
    fun op inner s' hinner hclaims hstep hsame => ?_⟩
  · rcases hs.claims with hnone | ⟨hone, -⟩ <;> omega
  · rcases hs.chatMoves with hnone | ⟨hone, -⟩ <;> omega
  · exact (BoundWorld.run_ages hs hruns).claimed _ _ _ _ _ howner
  · obtain ⟨inner', hinner', hmove⟩ := BoundWorld.step_move hstep
    obtain rfl : inner = inner' := Option.some.inj (hinner.symm.trans hinner')
    obtain ⟨w', hworld, rfl⟩ := Option.map_eq_some_iff.1 hmove
    have hnone : s.world.binds inner = none := by
      cases hbinds : s.world.binds inner with
      | none => rfl
      | some identity => simp [hbinds] at hsame
    obtain ⟨hup, howner, hcandidate⟩ := World.claims_frame hclaims hnone hworld
    refine ⟨howner, ?_, hcandidate⟩
    dsimp only
    rw [hup]
    cases hclaims <;> simp [BoundWorld.tokenAfter, hnone]

open Sample

/-- The service starts, a claimant brings the token, and so does a second one. -/
def claimedTwice : List (BoundOp String) :=
  (start false).map .service ++
    [.claim 1 ⟨7, 7, 100, 1⟩ "token" 1, .service (.worker (.claimAnswer none 1)),
      .claim 2 ⟨8, 8, 100, 2⟩ "token" 2]

/-- The first claimant is bound. -/
def BoundWorld.boundToFirst (s : BoundWorld String) : Bool :=
  s.claims = 1 && s.handle.any fun
    | .claimed ownerUserId .. => ownerUserId = 7
    | .unclaimed => false

set_option maxRecDepth 100000 in
theorem claimedTwice_bound :
    ∃ s, (boundService "token").Reachable s ∧ s.boundToFirst = true :=
  Machine.reachable_of_run claimedTwice BoundWorld.boundToFirst ⟨0, rfl⟩ (by decide +kernel)

/-- One of two claims succeeds, and what is published is committed. -/
theorem owner_binding_once : ∃ s, (boundService "token").Reachable s ∧ s.claims ≤ 1 ∧
    ∃ identity, s.handle = some identity ∧ identity ∈ s.committed := by
  obtain ⟨s, hs, hbound⟩ := claimedTwice_bound
  simp only [BoundWorld.boundToFirst, Bool.and_eq_true, Option.any_eq_true] at hbound
  obtain ⟨-, identity, hidentity, -⟩ := hbound
  obtain ⟨hclaims, -, hpublished, -⟩ := owner_binding hs
  exact ⟨s, hs, hclaims, identity, hidentity, hpublished identity hidentity⟩

end

end ChatHygiene
