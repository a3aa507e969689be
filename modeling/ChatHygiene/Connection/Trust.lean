import ChatHygiene.Binding.Kept
import ChatHygiene.Connection.Lookup
import ChatHygiene.Connection.Store
/-!
# The single trusted connection

The schema lets one user have one connection and knows no Owner. That there is
at most one trusted row, that it is the Owner's, and that there is none before
the claim, rests on its writers: the gates write to rows there are, an answer
installs a connection of the Owner over no other, and a claim promotes the
claimant's where there is none.
-/

namespace ChatHygiene

open Txn (Respects commit)

variable {db db' : Database}

/-- At most one connection is trusted, and it is the user's. -/
structure Database.Trusts (db : Database) (user : Option Int) : Prop where
  single : db.businessConnection.rows.length ≤ 1
  owned : ∀ c ∈ db.businessConnection.rows, user = some c.ownerUserId

/-- At most one connection is trusted, and it is the claimed Owner's. -/
def Database.SingleTrusted (db : Database) : Prop := db.Trusts db.ownerIdentity.ownerUserId

theorem Database.Trusts.congr {user : Option Int} (h : db.Trusts user)
    (hrows : db'.businessConnection = db.businessConnection) : db'.Trusts user :=
  ⟨by rw [hrows]; exact h.single, by rw [hrows]; exact h.owned⟩

/-- The Owner row ages: it keeps its user. -/
theorem Database.Trusts.age {o o' : OwnerLifecycleState} (h : db.Trusts o.ownerUserId)
    (hages : o.Ages o') : db.Trusts o'.ownerUserId :=
  ⟨h.single, fun c hc => hages.ownerUserId (h.owned c hc)⟩

/-- Nothing is trusted before the claim. -/
theorem Database.SingleTrusted.unclaimed (h : db.SingleTrusted)
    (howner : db.ownerIdentity.ownerUserId = none) : db.businessConnection.rows = [] := by
  refine List.eq_nil_iff_forall_not_mem.2 fun c hc => ?_
  have hclaimed := h.owned c hc
  rw [howner] at hclaimed
  cases hclaimed

theorem Database.SingleTrusted.load (h : db.SingleTrusted) :
    loadSingleTrustedConnection db = .ok (db.businessConnection.rows.head?, db) := by
  have hsingle := h.single
  refine loadSingleTrustedConnection_of_rows ?_
  match hrows : db.businessConnection.rows with
  | [] => rfl
  | [t] => rfl
  | _ :: _ :: _ => simp [hrows] at hsingle

/-! ## The writers -/

theorem Withheld.trusts {user : Option Int} (h : Withheld db db') (htrusts : db.Trusts user) :
    db'.Trusts user := by
  refine ⟨?_, fun c' hc' => ?_⟩
  · obtain ⟨f, hf, -⟩ := h
    rw [hf, List.length_map]
    exact htrusts.single
  · obtain ⟨c, hc, hwithholds⟩ := h.row hc'
    rw [hwithholds.ownerUserId]
    exact htrusts.owned c hc

/-- The one row is put in place. -/
theorem trusts_of_installed {row : BusinessConnectionRecord}
    (hrows : db.businessConnection.rows = [row]) : db.Trusts (some row.ownerUserId) := by
  refine ⟨by simp [hrows], fun c hc => ?_⟩
  rw [hrows, List.mem_singleton] at hc
  rw [hc]

theorem SameReconciled.ownerUserId {t row : BusinessConnectionRecord}
    {a : BusinessConnectionCandidate} {expected : Option Nat} {write : TrustedConnectionWrite}
    (h : SameReconciled t a expected write row) : row.ownerUserId = t.ownerUserId := by
  cases h <;> rfl

/-- What is reconciled is the Owner's the response was compared with. -/
theorem Reconciled.trusts {a : BusinessConnectionCandidate} {expected : Option Nat}
    {write : TrustedConnectionWrite} (h : Reconciled a expected db db' write)
    (hsingle : db.SingleTrusted) : db'.Trusts db.ownerIdentity.ownerUserId := by
  cases h with
  | conflict hwrite hsame => exact hsame ▸ hsingle
  | installed revision hnone hexpected howner hfloor hrows hframe =>
    rw [howner]
    exact trusts_of_installed hrows
  | same t row ht hid hsame hrows hframe =>
    rw [hsingle.owned t (by simp [ht]), ← hsame.ownerUserId]
    exact trusts_of_installed hrows
  | replaced t g revision ht hne hcurrent hgeneration howner hlater hfloor hrows hretired hmode
      hframe =>
    rw [howner]
    exact trusts_of_installed hrows
  | ambiguous t ht hne hcurrent hgeneration hrows hfloor hages hrises hframe =>
    exact ⟨by simp [hrows], by simp [hrows]⟩

theorem NotFound.trusts {user : Option Int} {connectionId : String} {expectedRevision : Nat}
    (h : NotFound connectionId expectedRevision db db') (htrusts : db.Trusts user) :
    db'.Trusts user := by
  cases h with
  | absent hnone hframe => exact htrusts.congr (hframe.businessConnection (by simp) (by simp))
  | conflict hsame => exact hsame ▸ htrusts
  | retired t ht hid hcurrent hrows hfloor hages hframe =>
    refine ⟨?_, fun c hc => ?_⟩
    · rw [hrows]
      exact (List.length_filter_le _ _).trans htrusts.single
    · rw [hrows] at hc
      exact htrusts.owned c (List.mem_filter.1 hc).1

/-- **Every operation of the store keeps the trusted connection single.** -/
theorem ConnectionStep.singleTrusted (h : ConnectionStep db db') (hsingle : db.SingleTrusted) :
    db'.SingleTrusted := by
  cases h with
  | quiet hrows howner hguard => exact (hrows.trusts hsingle).age howner
  | reconciled h => exact (h.trusts hsingle).age h.bindingKept.owner
  | notFound h => exact (h.trusts hsingle).age h.bindingKept.owner

/-- The answer to a lookup, once it is committed. -/
theorem LookupCommitted.trusts {connectionId : String}
    {snapshot : ConnectionReconciliationSnapshot} {answer : LookupAnswer} {now : DateTime}
    (h : LookupCommitted connectionId snapshot answer now db db') (hsingle : db.SingleTrusted) :
    db'.Trusts db.ownerIdentity.ownerUserId := by
  cases h with
  | aside h => exact Database.Trusts.congr hsingle (h.businessConnection (by simp) (by simp))
  | notFound write db₁ hanswer hretire h =>
    exact ((retireTrustedConnectionNotFound_ok hretire).trusts hsingle).congr
      (h.businessConnection (by simp) (by simp))
  | authFailed global hanswer h => exact ((setTelegramAuthFailed_withheld _).of_ok h).trusts hsingle
  | found a write db₁ hanswer hreconcile h =>
    exact ((reconcileAuthoritativeTrustedConnection_ok hreconcile).trusts hsingle).congr
      (h.businessConnection (by simp) (by simp))

/-! ## The claim -/

/-- A claim changes no connection, or it puts the first one in place, for the Owner it binds. -/
def Promoted (db db' : Database) : Prop :=
  BindingKept db db' ∧ (Withheld db db' ∨ db.businessConnection.rows = [] ∧
    ∃ row, db'.businessConnection.rows = [row] ∧ db'.SingleTrusted)

namespace Promoted

protected theorem refl (db : Database) : Promoted db db := ⟨refl _, .inl (.refl db)⟩

protected theorem trans {db'' : Database} (h : Promoted db db') (h' : Promoted db' db'') :
    Promoted db db'' := by
  obtain ⟨hkept, hrows⟩ := h
  obtain ⟨hkept', hrows'⟩ := h'
  refine ⟨trans_of BindingKept hkept hkept', ?_⟩
  rcases hrows with hwithheld | ⟨hnone, row, hrow, hsingle⟩
  · rcases hrows' with hwithheld' | ⟨hnone', hinstalled⟩
    · exact .inl (hwithheld.trans hwithheld')
    · refine .inr ⟨?_, hinstalled⟩
      obtain ⟨f, hf, -⟩ := hwithheld
      rw [hnone'] at hf
      exact List.map_eq_nil_iff.1 hf.symm
  · rcases hrows' with hwithheld' | ⟨hnone', -⟩
    · have hsingle' : db''.SingleTrusted := (hwithheld'.trusts hsingle).age hkept'.owner
      obtain ⟨f, hf, -⟩ := hwithheld'
      exact .inr ⟨hnone, f row, by rw [hf, hrow, List.map_singleton], hsingle'⟩
    · rw [hnone'] at hrow
      cases hrow

instance : Std.Refl Promoted := ⟨Promoted.refl⟩

instance : IsTrans Database Promoted := ⟨fun _ _ _ => Promoted.trans⟩

end Promoted

theorem promoted_of_withheld {α : Type} {x : Uow α} (hkept : Respects BindingKept x)
    (h : Respects Withheld x) : Respects Promoted x :=
  fun _ _ _ hx => ⟨hkept _ _ _ hx, .inl (h _ _ _ hx)⟩

/-- A transaction with targets that are no connection. -/
theorem promoted_of_writes {α : Type} {x : Uow α} (targets : List Target)
    (hbinding : Target.owner ∉ targets ∧ Target.guard ∉ targets)
    (hrows : Target.connection ∉ targets ∧ Target.dropConnection ∉ targets)
    (h : Respects (WritesTo targets fun _ => True) x) : Respects Promoted x :=
  promoted_of_withheld (bindingKept_of_writes targets hbinding h)
    (withheld_of_writes targets hrows h)

theorem promoteClaimCandidate_promoted (a : BusinessConnectionCandidate)
    (revision guardRevision : Nat) :
    Respects Promoted (promoteClaimCandidate a revision guardRevision) := by
  intro db write db' h
  rcases promoteClaimCandidate_ok h with rfl | ⟨hnone, howner, hrows, hframe⟩
  · exact refl _
  · have hkept : BindingKept db db' := .of_frame (by simp) hframe
    refine ⟨hkept, .inr ⟨hnone, _, hrows, ?_⟩⟩
    unfold Database.SingleTrusted
    rw [hkept.owner.ownerUserId howner]
    exact trusts_of_installed hrows

theorem tryPromoteClaimCandidate_promoted (snapshot : OwnerClaimSnapshot)
    (global : TelegramReconciliationState) (guard : CandidateGuard)
    (candidates : List BusinessConnectionCandidate)
    (authoritative : Option AuthoritativeBusinessConnection) (serviceNow : DateTime) :
    Respects Promoted
      (tryPromoteClaimCandidate snapshot global guard candidates authoritative serviceNow) := by
  unfold tryPromoteClaimCandidate
  split
  · exact .ite (fun _ => .pure _) fun _ =>
      (promoteClaimCandidate_promoted _ _ _).bind fun _ => .pure _
  · exact .pure _

/-- An update that only enqueues. -/
theorem promoted_of_enqueues {α : Type} {updateId : Int} {x : Uow α}
    (h : Respects (WritesTo [.enqueue] (NewOutboxAction.Of updateId True)) x) :
    Respects Promoted x :=
  promoted_of_writes [.enqueue] (by simp) (by simp)
    (h.through_mono fun _ hst => hst.mono (fun _ => id) fun _ _ => trivial)

/-- What rejects a claim. -/
theorem ownerClaimRejected_writes {updateId : Int} (claim : ValidOwnerClaim) :
    Respects (WritesTo [.update, .audit, .enqueue] fun _ => True) (do
      insertRedactedUpdate updateId .ownerClaim claim.occurredAt
      insertOwnerClaimAudit updateId false claim.occurredAt
      enqueuePrivateMessage updateId claim.ownerChatId .ownerClaimRejected claim.occurredAt
      pure RecordReceipt.recorded) := by
  have hwrites : Respects (WritesTo [.update, .audit, .enqueue] (NewOutboxAction.Of updateId True))
      (do
        insertRedactedUpdate updateId .ownerClaim claim.occurredAt
        insertOwnerClaimAudit updateId false claim.occurredAt
        enqueuePrivateMessage updateId claim.ownerChatId .ownerClaimRejected claim.occurredAt
        pure RecordReceipt.recorded) :=
    (insertRedactedUpdate_writes (by simp) _ _).bind fun _ =>
      (insertOwnerClaimAudit_writes (by simp) _ _).bind fun _ =>
      (enqueuePrivateMessage_writes (by simp) _ _ _).bind fun _ => .pure _
  exact hwrites.through_mono fun _ hst => hst.mono (fun _ => id) fun _ _ => trivial

/-- A claim that finds the Owner bound is rejected, and changes nothing but its own update. -/
theorem commitOwnerClaim_ok {updateId : Int} {claim : ValidOwnerClaim}
    {snapshot : OwnerClaimSnapshot} {answer : Option LookupAnswer} {serviceNow : DateTime}
    {receipt : RecordReceipt}
    (h : commitOwnerClaim updateId claim snapshot answer serviceNow db = .ok (receipt, db')) :
    Frame [.update, .audit, .enqueue] db.toTables db'.toTables ∨
      db.ownerIdentity = .ready .unclaimed := by
  rcases withoutReceipt_ok h with rfl | ⟨-, h⟩
  · exact .inl (.refl _)
  obtain ⟨owner, howner, h⟩ := Txn.bind_ok_of_readOnly loadOwnerIdentity_readOnly h
  replace howner := loadOwnerIdentity_ok howner
  cases owner with
  | unclaimed => exact .inr howner
  | claimed => exact .inl ((ownerClaimRejected_writes claim).of_ok h).frame

/-- **A claim promotes at most.** -/
theorem commitOwnerClaim_promoted {updateId : Int} (claim : ValidOwnerClaim)
    (snapshot : OwnerClaimSnapshot) (answer : Option LookupAnswer) (serviceNow : DateTime) :
    Respects Promoted (commitOwnerClaim updateId claim snapshot answer serviceNow) :=
  commitOwnerClaim_respects
    (promoted_of_writes [.update] (by simp) (by simp) (insertRedactedUpdate_writes (by simp) _ _))
    (fun _ => promoted_of_writes [.audit] (by simp) (by simp)
      (insertOwnerClaimAudit_writes (by simp) _ _))
    (promoted_of_enqueues (enqueuePrivateMessage_writes (by simp) _ _ _))
    (promoted_of_withheld (pruneConnectionCandidates_kept _ _) (withheld_of_writes
      [.candidate, .guard] (by simp) (pruneConnectionCandidates_writes (fun _ ht => ht) _ _)))
    (fun _ => promoted_of_withheld (claimOwner_kept _ _ _ _)
      (withheld_of_writes [.owner] (by simp) (claimOwner_writes (by simp) _ _ _ _)))
    (promoted_of_withheld (setTelegramAuthFailed_kept _) (setTelegramAuthFailed_withheld _))
    (fun _ _ _ _ => tryPromoteClaimCandidate_promoted _ _ _ _ _ _)
    (fun _ _ _ _ => promoted_of_writes [.candidate] (by simp) (by simp)
      (settleClaimCandidates_writes (by simp) _ _ _ _ _))
    fun _ =>
      promoted_of_writes [.enqueue] (by simp) (by simp)
        (enqueueDirectOwnerMessage_writes (by simp) _ _ _ _)

/-! ## Transactions and runs -/

/-- The lookup whose answer the transaction goes on from. -/
def Transaction.lookup : Transaction → Option (String × LookupAnswer)
  | .startup connectionId _ answer _ => some (connectionId, answer)
  | .trigger _ connectionId _ _ _ answer _ => some (connectionId, answer)
  | _ => none

/-- **What a transaction does to the trusted connection.** -/
inductive Transaction.Trusted (x : Transaction) (db db' : Database) : Prop
  | withheld (h : Withheld db db')
  | answered (connectionId : String) (snapshot : ConnectionReconciliationSnapshot)
    (answer : LookupAnswer) (now : DateTime) (hx : x.lookup = some (connectionId, answer))
    (h : LookupCommitted connectionId snapshot answer now db db')
  | claimed (hunclaimed : db.ownerIdentity = .ready .unclaimed) (h : Promoted db db')

theorem recordPreparedEvent_withheld (event : PreparedEvent) :
    Respects Withheld (recordPreparedEvent event) := by
  refine (Respects.of_readOnly (validateFacts_readOnly _)).bind fun _ =>
    (Respects.of_readOnly (connectionTriggerId_readOnly _)).bind fun trigger =>
    (withheld_of_writes [.record] (by simp)
      (Uow.insertOrIgnoreUpdate_writes (by exact List.mem_singleton.2 rfl))).bind fun _ =>
    .ite (fun _ => ?_) fun _ => (Respects.read _).bind fun status => ?_
  · cases trigger with
    | none => exact .pure _
    | some connectionId =>
      exact (gateMatchingTrustedForReconciliation_withheld _ _).bind fun _ => .pure _
  · match status with
    | none => exact .throw _
    | some .recorded => exact .pure _
    | some .applied => exact .pure _
    | some .failed => exact .throw _

theorem finishDispatch_withheld (action : OutboxActionRecord) (now : DateTime) (result : Finish) :
    Respects Withheld (finishDispatch action now result) :=
  finishDispatch_respects
    (fun _ _ _ => withheld_of_writes [.outbox] (by simp) (finishOutbox_writes (by simp) _ _ _ _ _))
    (fun alert challengeId => withheld_of_writes [.enqueue] (by simp)
      (enqueueOwnerAlert_writes (by simp) action (fun _ _ => trivial) alert challengeId now))
    (fun _ _ => withheld_of_writes [.challenge] (by simp) (markChallengeSent_writes (by simp) _ _))
    (fun _ => withheld_of_writes [.challenge] (by simp) (markChallengeUncertain_writes (by simp) _))
    (fun _ => disableBusinessConnection_withheld _ _)
    (withheld_of_writes [.mode] (by simp)
      (Uow.setDestructiveMode_writes (by exact List.mem_singleton.2 rfl))) result

theorem Transaction.trusted (h : db.NoConnectionChange) (x : Transaction) :
    x.Trusted db (x.after db) := by
  have hframe := x.after_frame h
  cases x with
  | normalize now => exact .withheld ((normalizeStartupReconciliation_withheld now).commit db)
  | startup connectionId snapshot answer now => exact .answered _ _ _ _ rfl startup_answered
  | trigger updateId connectionId occurredAt owner snapshot answer now =>
    exact .answered _ _ _ _ rfl trigger_answered
  | record event => exact .withheld ((recordPreparedEvent_withheld event).commit db)
  | ownerClaim updateId claim snapshot answer now =>
    change Transaction.Trusted _ db (commit (commitOwnerClaim updateId claim snapshot answer now) db).1
    cases hx : commitOwnerClaim updateId claim snapshot answer now db with
    | error error =>
      rw [Txn.commit_of_error hx]
      exact .withheld (refl _)
    | ok r =>
      rw [Txn.commit_of_ok hx]
      rcases commitOwnerClaim_ok hx with hframe | hunclaimed
      · exact .withheld (.of_eq (hframe.businessConnection (by simp) (by simp)))
      · exact .claimed hunclaimed (commitOwnerClaim_promoted _ _ _ _ _ _ _ hx)
  | finish action now result => exact .withheld ((finishDispatch_withheld _ _ _).commit db)
  | _ => exact .withheld (.of_eq (hframe.businessConnection (by simp) (by simp)))

theorem Transaction.singleTrusted (h : db.NoConnectionChange) (x : Transaction)
    (hsingle : db.SingleTrusted) : (x.after db).SingleTrusted := by
  have hages : OwnerAges db (x.after db) := (x.bindingKept h).owner
  cases x.trusted h with
  | withheld h => exact (h.trusts hsingle).age hages
  | answered connectionId snapshot answer now hx h => exact (h.trusts hsingle).age hages
  | claimed hunclaimed h =>
    rcases h.2 with hwithheld | ⟨-, row, -, hsingle'⟩
    · exact (hwithheld.trusts hsingle).age hages
    · exact hsingle'

theorem World.singleTrusted {ok : World → Op → Prop} {w : World} (h : service.ReachableBy ok w) :
    w.db.SingleTrusted := by
  refine h.invariant (P := fun w => w.db.SingleTrusted) ?_ fun w op w' hw hsingle _ hstep => ?_
  · rintro w ⟨now, rfl⟩
    exact ⟨by simp [World.initial, Database.migrated, Tables.migrated, Table.empty], nofun⟩
  · rcases World.step_db hstep with hdb | ⟨x, -, hdb⟩
    · exact hdb ▸ hsingle
    · exact hdb ▸ x.singleTrusted (World.eventsPrepared hw).noConnectionChange hsingle

/-- **The trusted connection is single, and the Owner's.** In every reachable world at most one
connection is trusted, none before the claim and none of another user, and it can be loaded; and
each operation of the store keeps it so, whatever its arguments. -/
theorem single_trusted_connection {w : World} (h : service.Reachable w) :
    w.db.businessConnection.rows.length ≤ 1 ∧
    (w.db.ownerIdentity.ownerUserId = none → w.db.businessConnection.rows = []) ∧
    (∀ c ∈ w.db.businessConnection.rows, w.db.ownerIdentity.ownerUserId = some c.ownerUserId) ∧
    (∃ trusted, loadSingleTrustedConnection w.db = .ok (trusted, w.db)) ∧
    (∀ op : ConnectionOp, (op.after w.db).SingleTrusted) ∧
    ∀ a revision guardRevision,
      (commit (promoteClaimCandidate a revision guardRevision) w.db).1.SingleTrusted := by
  have hsingle : w.db.SingleTrusted := World.singleTrusted h
  refine ⟨hsingle.single, hsingle.unclaimed, hsingle.owned, ⟨_, hsingle.load⟩,
    fun op => (op.after_step w.db).singleTrusted hsingle, fun a revision guardRevision => ?_⟩
  obtain ⟨hkept, hrows⟩ := (promoteClaimCandidate_promoted a revision guardRevision).commit w.db
  rcases hrows with hwithheld | ⟨-, row, -, hsingle'⟩
  · exact (hwithheld.trusts hsingle).age hkept.owner
  · exact hsingle'

section

open Sample

/-- A connection is trusted. -/
def World.connected (w : World) : Bool := !w.db.businessConnection.rows.isEmpty

set_option maxRecDepth 100000 in
theorem connected_reachable : ∃ w, service.Reachable w ∧ w.connected = true :=
  Machine.reachable_of_run (Sample.connected true) World.connected ⟨0, rfl⟩ (by decide +kernel)

/-- The connection of the claimed Owner is the one there is. -/
theorem single_trusted_connection_connected : ∃ w, service.Reachable w ∧
    ∃ c, w.db.businessConnection.rows = [c] ∧
      w.db.ownerIdentity.ownerUserId = some c.ownerUserId := by
  obtain ⟨w, hw, hconnected⟩ := connected_reachable
  obtain ⟨hlength, -, howned, -⟩ := single_trusted_connection hw
  match hrows : w.db.businessConnection.rows with
  | [] => simp [World.connected, hrows] at hconnected
  | [c] => exact ⟨w, hw, c, hrows, howned c (by simp [hrows])⟩
  | _ :: _ :: _ => simp [hrows] at hlength

end

end ChatHygiene
