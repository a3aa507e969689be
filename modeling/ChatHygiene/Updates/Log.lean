import ChatHygiene.Connection.Lookup
import ChatHygiene.System.Invariants
/-!
# The log of updates

An update is one row of the log. Recording adds a row and a purge removes
rows; any other transaction moves the row of one update at most: it applies
what is recorded, or adds the row of an Owner's update as applied.
-/

namespace ChatHygiene

open Txn (Respects commit)

variable {db db' db'' : Database} {updateId : Int}

/-! ## Moves -/

/-- The row of an Owner's own update, which is applied as it is inserted. -/
structure ProcessedUpdate.Redacted (u : ProcessedUpdate) : Prop where
  event : u.event = none
  lifecycle : u.eventType ≠ .lifecycle
  trigger : u.eventType ≠ .businessConnectionChanged
  applied : u.status = .applied

/-- A row keeps its facts, and its status unless it goes from recorded to applied. -/
structure ProcessedUpdate.Moves (u u' : ProcessedUpdate) : Prop where
  event : u'.event = u.event
  eventType : u'.eventType = u.eventType
  status : u' = u ∨ u.status = .recorded ∧ u'.status = .applied

protected theorem ProcessedUpdate.Moves.refl (u : ProcessedUpdate) : u.Moves u :=
  ⟨rfl, rfl, .inl rfl⟩

protected theorem ProcessedUpdate.Moves.trans {u u' u'' : ProcessedUpdate} (h : u.Moves u')
    (h' : u'.Moves u'') : u.Moves u'' := by
  refine ⟨h'.event.trans h.event, h'.eventType.trans h.eventType, ?_⟩
  rcases h'.status with rfl | ⟨hrecorded, happlied⟩
  · exact h.status
  · rcases h.status with rfl | ⟨hrecorded', -⟩
    · exact .inr ⟨hrecorded, happlied⟩
    · exact .inr ⟨hrecorded', happlied⟩

/-- The log moves at one update. -/
structure LogMoves (updateId : Int) (db db' : Database) : Prop where
  others : ∀ k ≠ updateId, db'.processedUpdate.lookup k = db.processedUpdate.lookup k
  stored : ∀ u, db.processedUpdate.lookup updateId = some u →
    ∃ u', db'.processedUpdate.lookup updateId = some u' ∧ u.Moves u'
  fresh : ∀ u', db'.processedUpdate.lookup updateId = some u' →
    db.processedUpdate.lookup updateId = none → u'.Redacted

namespace LogMoves

theorem of_eq (h : db'.processedUpdate = db.processedUpdate) : LogMoves updateId db db' := by
  refine ⟨fun k _ => by rw [h], fun u hu => ⟨u, by rw [h]; exact hu, .refl u⟩, ?_⟩
  intro u' hu' hnone
  rw [h, hnone] at hu'
  cases hu'

protected theorem trans (h : LogMoves updateId db db') (h' : LogMoves updateId db' db'') :
    LogMoves updateId db db'' := by
  refine ⟨fun k hk => (h'.others k hk).trans (h.others k hk), fun u hu => ?_, fun u'' hu'' hnone => ?_⟩
  · obtain ⟨u', hu', hmoves⟩ := h.stored u hu
    obtain ⟨u'', hu'', hmoves'⟩ := h'.stored u' hu'
    exact ⟨u'', hu'', hmoves.trans hmoves'⟩
  · cases hlookup : db'.processedUpdate.lookup updateId with
    | none => exact h'.fresh u'' hu'' hlookup
    | some u' =>
      have hredacted := h.fresh u' hlookup hnone
      obtain ⟨v, hv, hmoves⟩ := h'.stored u' hlookup
      obtain rfl : v = u'' := Option.some.inj (hv.symm.trans hu'')
      -- an applied row does not move
      rcases hmoves.status with rfl | ⟨hrecorded, -⟩
      · exact hredacted
      · rw [hredacted.applied] at hrecorded
        cases hrecorded

instance : Std.Refl (LogMoves updateId) := ⟨fun _ => .of_eq rfl⟩

instance : IsTrans Database (LogMoves updateId) := ⟨fun _ _ _ => .trans⟩

end LogMoves

/-- A transaction that does not write to the log. -/
theorem logMoves_of_writes {α : Type} {x : Uow α} {K : NewOutboxAction → Prop}
    (targets : List Target)
    (hlog : Target.record ∉ targets ∧ Target.update ∉ targets ∧ Target.purgeUpdate ∉ targets)
    (h : Respects (WritesTo targets K) x) : Respects (LogMoves updateId) x :=
  h.mono fun _ _ hw => .of_eq (hw.frame.processedUpdate hlog.1 hlog.2.1 hlog.2.2)

theorem markApplied_moves (now : DateTime) :
    Respects (LogMoves updateId) (markApplied updateId now) := by
  intro db n db' h
  unfold markApplied Uow.updateUpdate at h
  obtain ⟨-, hdb⟩ := Prod.mk.inj (Except.ok.inj (Uow.statement_ok_iff.1 h))
  have hlookup (k : Int) : db'.processedUpdate.lookup k = (db.processedUpdate.lookup k).map fun u =>
      if u.updateId = updateId && u.status = .recorded then
        { u with status := .applied, appliedAt := some now }
      else u := by
    have hlog := congrArg (·.processedUpdate.lookup k) hdb
    refine hlog.symm.trans (Table.lookup_update _ _ _ ?_ k)
    exact fun _ => rfl
  refine ⟨fun k hk => ?_, fun u hu => ?_, fun u' hu' hnone => ?_⟩
  · rw [hlookup k]
    cases hrow : db.processedUpdate.lookup k with
    | none => rfl
    | some u =>
      have hne : u.updateId ≠ updateId := fun hid => hk ((Table.key_of_lookup hrow).symm.trans hid)
      simp [hne]
  · rw [hlookup updateId, hu]
    refine ⟨_, rfl, ?_⟩
    dsimp only
    split
    · next hrecorded =>
      simp only [Bool.and_eq_true, decide_eq_true_eq] at hrecorded
      exact ⟨rfl, rfl, .inr ⟨hrecorded.2, rfl⟩⟩
    · exact .refl u
  · rw [hlookup updateId, hnone] at hu'
    cases hu'

theorem insertRedactedUpdate_moves {eventType : EventType} (hlifecycle : eventType ≠ .lifecycle)
    (htrigger : eventType ≠ .businessConnectionChanged) (occurredAt : DateTime) :
    Respects (LogMoves updateId) (insertRedactedUpdate updateId eventType occurredAt) := by
  intro db n db' h
  unfold insertRedactedUpdate Uow.insertUpdate at h
  replace h := Uow.statement_ok_iff.1 h
  unfold Tables.insertUpdate at h
  split at h
  · next hnone =>
    obtain ⟨-, hdb⟩ := Prod.mk.inj (Except.ok.inj h)
    have hlookup (k : Int) : db'.processedUpdate.lookup k = if updateId = k then
        some ⟨updateId, eventType, none, .applied, occurredAt, some occurredAt⟩
        else db.processedUpdate.lookup k := by
      have hlog := congrArg (·.processedUpdate.lookup k) hdb
      exact hlog.symm.trans (Table.lookup_insert db.processedUpdate _ hnone k)
    refine ⟨fun k hk => ?_, fun u hu => ?_, fun u' hu' _ => ?_⟩
    · rw [hlookup k, if_neg (Ne.symm hk)]
    · have hnone : db.processedUpdate.lookup updateId = none := hnone
      rw [hnone] at hu
      cases hu
    · rw [hlookup updateId, if_pos rfl] at hu'
      obtain rfl := Option.some.inj hu'
      exact ⟨rfl, hlifecycle, htrigger, rfl⟩
  · cases h

/-! ## Purges -/

/-- Some rows of messages from before the cutoff are gone. -/
def LogPurges (cutoff : DateTime) (db db' : Database) : Prop :=
  ∀ k, db'.processedUpdate.lookup k = db.processedUpdate.lookup k ∨
    db'.processedUpdate.lookup k = none ∧
      ∃ row, db.processedUpdate.lookup k = some row ∧ row.receivedAt ≤ cutoff

namespace LogPurges

variable {cutoff : DateTime}

theorem of_eq (h : db'.processedUpdate = db.processedUpdate) : LogPurges cutoff db db' :=
  fun k => .inl (by rw [h])

protected theorem trans (h : LogPurges cutoff db db') (h' : LogPurges cutoff db' db'') :
    LogPurges cutoff db db'' := by
  intro k
  rcases h k with hsame | ⟨hgone, hold⟩
  · rw [← hsame]
    exact h' k
  · rcases h' k with hsame' | ⟨hgone', -⟩
    · exact .inr ⟨hsame'.trans hgone, hold⟩
    · exact .inr ⟨hgone', hold⟩

instance : Std.Refl (LogPurges cutoff) := ⟨fun _ => .of_eq rfl⟩

instance : IsTrans Database (LogPurges cutoff) := ⟨fun _ _ _ => .trans⟩

end LogPurges

theorem purgeProcessedUpdates_purges (cutoff : DateTime) :
    Respects (LogPurges cutoff) (purgeProcessedUpdates cutoff) := by
  refine (Respects.read _).bind fun actions => (Respects.read _).bind fun audits => ?_
  intro db n db' h
  unfold Uow.deleteUpdate at h
  obtain ⟨-, hdb⟩ := Prod.mk.inj (Except.ok.inj (Uow.statement_ok_iff.1 h))
  intro k
  have hlog := congrArg (·.processedUpdate.lookup k) hdb
  replace hlog := hlog.symm.trans (Table.lookup_delete db.processedUpdate _ k)
  rw [hlog]
  cases hrow : db.processedUpdate.lookup k with
  | none => exact .inl rfl
  | some row =>
    by_cases hold : row.receivedAt ≤ cutoff
    · cases hkeep : Option.filter _ (some row) with
      | none => exact .inr ⟨rfl, row, rfl, hold⟩
      | some row' =>
        exact .inl (Option.filter_eq_some_iff.1 hkeep).1.symm
    · exact .inl (Option.filter_eq_some_iff.2 ⟨rfl, by simp [hold]⟩)

/-- **A purge keeps the rows of the last seven days.** -/
theorem purgeHistory_purges (now : DateTime) :
    Respects (LogPurges (now - DateTime.days 7)) (purgeHistory now) := by
  have hother {α : Type} {x : Uow α} (targets : List Target)
      (hlog : Target.record ∉ targets ∧ Target.update ∉ targets ∧ Target.purgeUpdate ∉ targets)
      (h : Respects (WritesTo targets fun _ => True) x) :
      Respects (LogPurges (now - DateTime.days 7)) x :=
    h.mono fun _ _ hw => .of_eq (hw.frame.processedUpdate hlog.1 hlog.2.1 hlog.2.2)
  refine (Respects.read _).bind fun _ => Respects.bind ?_ fun _ => Respects.bind ?_ fun _ =>
    Respects.bind ?_ fun _ => (purgeProcessedUpdates_purges _).bind fun _ => .pure _
  · exact hother [.ledger] (by simp) (Uow.deleteLedger_writes (by exact List.mem_singleton.2 rfl))
  · exact (Respects.read _).bind fun _ =>
      hother [.audit] (by simp) (Uow.deleteAudit_writes (by exact List.mem_singleton.2 rfl))
  · exact hother [.outbox] (by simp) (Uow.deleteOutbox_writes (by exact List.mem_singleton.2 rfl))

/-! ## Transactions -/

theorem reconcileConnectionTrigger_moves (connectionId : String) (occurredAt : DateTime)
    (owner : OwnerIdentity) (snapshot : ConnectionReconciliationSnapshot) (answer : LookupAnswer)
    (now : DateTime) : Respects (LogMoves updateId)
      (reconcileConnectionTrigger updateId connectionId occurredAt owner snapshot answer now) :=
  reconcileConnectionTrigger_respects
    (logMoves_of_writes (K := fun _ => True) reconciliationTargets (by simp)
      (retireTrustedConnectionNotFound_writes (by simp) _ _))
    (fun _ => logMoves_of_writes (K := fun _ => True) reconciliationTargets (by simp)
      (reconcileAuthoritativeTrustedConnection_writes (fun _ ht => ht) _ _ _ _))
    (fun _ _ => logMoves_of_writes (K := fun _ => True) [.candidate, .guard] (by simp)
      (applyAuthoritativeCandidate_writes (by simp) _ _))
    (logMoves_of_writes (K := fun _ => True) [.candidate, .guard] (by simp)
      (pruneConnectionCandidates_writes (by simp) _ _))
    (fun _ _ _ => logMoves_of_writes (K := fun _ => True) [.owner] (by simp)
      (promoteReportedChat_writes (by simp) _ _ _))
    (logMoves_of_writes (K := fun _ => True) [.reconciliation, .connection] (by simp)
      (setTelegramAuthFailed_writes (by simp) _))
    (fun _ => logMoves_of_writes (K := fun _ => True) [.audit] (by simp)
      (insertConnectionAudit_writes (by simp) _ _ _))
    ((markApplied_moves now).bind fun _ => .ite (fun _ => .throw _) fun _ => .pure _)

theorem enqueueDirectOwnerMessage_moves (ownerChatId : Int) (message : OwnerText)
    (occurredAt : DateTime) (suffix : String) : Respects (LogMoves updateId)
      (enqueueDirectOwnerMessage updateId ownerChatId message occurredAt suffix) :=
  logMoves_of_writes (K := fun _ => True) [.enqueue] (by simp)
    (enqueueDirectOwnerMessage_writes (by simp) _ _ _ _)

theorem enqueuePrivateMessage_moves (chatId : Int) (messageKind : PrivateMessageKind)
    (occurredAt : DateTime) : Respects (LogMoves updateId)
      (enqueuePrivateMessage updateId chatId messageKind occurredAt) :=
  logMoves_of_writes (K := NewOutboxAction.Of updateId True) [.enqueue] (by simp)
    (enqueuePrivateMessage_writes (by simp) _ _ _)

theorem insertOwnerClaimAudit_moves (success : Bool) (occurredAt : DateTime) :
    Respects (LogMoves updateId) (insertOwnerClaimAudit updateId success occurredAt) :=
  logMoves_of_writes (K := fun _ => True) [.audit] (by simp)
    (insertOwnerClaimAudit_writes (by simp) _ _)

theorem processOwnerCommand_moves (snapshot : OwnerCommandSnapshot) (occurredAt : DateTime)
    (default : Bool) :
    Respects (LogMoves updateId) (processOwnerCommand updateId snapshot occurredAt default) :=
  processOwnerCommand_respects (insertRedactedUpdate_moves (by simp) (by simp) _)
    (logMoves_of_writes (K := fun _ => True) [.audit, .owner] (by simp)
      (authorize_writes (by simp) _ _))
    (fun _ => logMoves_of_writes (K := fun _ => True) commandTargets (by simp)
      (executeCommand_writes (fun _ ht => ht) _ _ _ _))
    (fun _ => logMoves_of_writes (K := NewOutboxAction.Of updateId True) [.enqueue] (by simp)
      (enqueueOwnerTelegramActions_writes (by simp) _ (fun _ => trivial) _))
    fun _ _ _ => enqueueDirectOwnerMessage_moves _ _ _ _

theorem processOwnerStart_moves (snapshot : OwnerCommandSnapshot) (occurredAt : DateTime)
    (default : Bool) :
    Respects (LogMoves updateId) (processOwnerStart updateId snapshot occurredAt default) :=
  processOwnerStart_respects (processOwnerCommand_moves _ _ _)
    (insertRedactedUpdate_moves (by simp) (by simp) _) fun _ => enqueuePrivateMessage_moves _ _ _

theorem recordOwnerClaimRejection_moves (replyChatId : Option Int) (occurredAt : DateTime) :
    Respects (LogMoves updateId) (recordOwnerClaimRejection updateId replyChatId occurredAt) := by
  refine withoutReceipt_respects ((insertRedactedUpdate_moves (by simp) (by simp) _).bind fun _ =>
    (insertOwnerClaimAudit_moves _ _).bind fun _ => ?_)
  cases replyChatId with
  | none => exact .pure _
  | some chatId => exact (enqueuePrivateMessage_moves _ _ _).bind fun _ => .pure _

theorem commitOwnerClaim_moves (claim : ValidOwnerClaim) (snapshot : OwnerClaimSnapshot)
    (answer : Option LookupAnswer) (serviceNow : DateTime) :
    Respects (LogMoves updateId) (commitOwnerClaim updateId claim snapshot answer serviceNow) :=
  commitOwnerClaim_respects (insertRedactedUpdate_moves (by simp) (by simp) _)
    (fun _ => insertOwnerClaimAudit_moves _ _) (enqueuePrivateMessage_moves _ _ _)
    (logMoves_of_writes (K := fun _ => True) [.candidate, .guard] (by simp)
      (pruneConnectionCandidates_writes (by simp) _ _))
    (fun _ => logMoves_of_writes (K := fun _ => True) [.owner] (by simp)
      (claimOwner_writes (by simp) _ _ _ _))
    (logMoves_of_writes (K := fun _ => True) [.reconciliation, .connection] (by simp)
      (setTelegramAuthFailed_writes (by simp) _))
    (fun _ _ _ _ => logMoves_of_writes (K := fun _ => True) [.connection, .candidate] (by simp)
      (tryPromoteClaimCandidate_writes (by simp) _ _ _ _ _ _))
    (fun _ _ _ _ => logMoves_of_writes (K := fun _ => True) [.candidate] (by simp)
      (settleClaimCandidates_writes (by simp) _ _ _ _ _))
    fun _ => enqueueDirectOwnerMessage_moves _ _ _ _

theorem applyRecordedEvent_moves (h : db.NoConnectionChange) (now : DateTime) :
    LogMoves updateId db (commit (applyRecordedEvent updateId now) db).1 := by
  cases hx : applyRecordedEvent updateId now db with
  | error error =>
    rw [Txn.commit_of_error hx]
    exact refl _
  | ok r =>
    rw [Txn.commit_of_ok hx]
    rcases applyRecordedEvent_ok hx with ⟨-, hsame⟩ |
      ⟨-, row, event, db₁, hrow, hrecorded, hevent, happly, hmark⟩
    · rw [hsame]
      exact refl _
    · have hwrites : Respects (WritesTo handlerTargets
          (NewOutboxAction.Of event.updateId (event.facts.action.cleans = true)))
          (LifecycleHandler.apply event) :=
        apply_writes (by simp) event (h row (Table.mem_of_lookup hrow) hrecorded event hevent)
      exact trans_of (LogMoves updateId)
        ((logMoves_of_writes handlerTargets (by simp) hwrites).of_ok happly)
        ((markApplied_moves now).of_ok hmark)

/-- The update a transaction is about. -/
def Transaction.subject : Transaction → Option Int
  | .apply updateId _ | .trigger updateId .. | .ownerCommand updateId .. | .ownerStart updateId ..
  | .ownerClaimRejected updateId .. | .ownerClaim updateId .. => some updateId
  | _ => none

/-- **What a transaction does to the log**, if it neither records nor purges: it moves the row of the
update it is about. -/
theorem Transaction.log (h : db.NoConnectionChange) {x : Transaction}
    (hrecord : ∀ event, x ≠ .record event) (hpurge : ∀ now, x ≠ .purge now) :
    (x.after db).processedUpdate = db.processedUpdate ∨
      ∃ updateId, x.subject = some updateId ∧ LogMoves updateId db (x.after db) := by
  have hframe := x.after_frame h
  cases x with
  | record event => exact absurd rfl (hrecord event)
  | purge now => exact absurd rfl (hpurge now)
  | apply updateId now => exact .inr ⟨updateId, rfl, applyRecordedEvent_moves h now⟩
  | trigger updateId connectionId occurredAt owner snapshot answer now =>
    exact .inr ⟨updateId, rfl, (reconcileConnectionTrigger_moves _ _ _ _ _ _).commit db⟩
  | ownerCommand updateId snapshot occurredAt default =>
    exact .inr ⟨updateId, rfl, (processOwnerCommand_moves _ _ _).commit db⟩
  | ownerStart updateId snapshot occurredAt default =>
    exact .inr ⟨updateId, rfl, (processOwnerStart_moves _ _ _).commit db⟩
  | ownerClaimRejected updateId replyChatId occurredAt =>
    exact .inr ⟨updateId, rfl, (recordOwnerClaimRejection_moves _ _).commit db⟩
  | ownerClaim updateId claim snapshot answer now =>
    exact .inr ⟨updateId, rfl, (commitOwnerClaim_moves _ _ _ _).commit db⟩
  | _ => exact .inl (hframe.processedUpdate (by simp) (by simp) (by simp))

end ChatHygiene
