import ChatHygiene.Footprint.Contracts
import ChatHygiene.System.Dispatching
/-!
# Attempts

Only the dispatcher claims an action, and only the end of a dispatch lets go of
one. Whatever else is committed leaves the status, the claim and the attempts
of an action as they are, settles it for good, or adds a new one.
-/

namespace ChatHygiene

open Txn (Respects commit bind_ok_iff pure_ok_iff)

variable {db db' db'' : Database}

/-! ## What other transactions leave alone -/

/-- The action is as far as it was, or settled for good. -/
structure OutboxActionRow.Rests (a b : OutboxActionRow) : Prop where
  same : a.Same b
  attempts : b.attempts = a.attempts
  status : b.status = a.status ∧ b.claimedAt = a.claimedAt ∨ b.status.unfinished = false

/-- The action has just been enqueued. -/
structure OutboxActionRow.Fresh (b : OutboxActionRow) : Prop where
  attempts : b.attempts = 0
  status : b.status = .pending
  claimedAt : b.claimedAt = none

theorem OutboxActionRow.Rests.refl (a : OutboxActionRow) : a.Rests a :=
  ⟨.rfl, rfl, .inl ⟨rfl, rfl⟩⟩

theorem OutboxActionRow.Rests.trans {a b c : OutboxActionRow} (h : a.Rests b) (h' : b.Rests c) :
    a.Rests c := by
  refine ⟨h.same.trans h'.same, h'.attempts.trans h.attempts, ?_⟩
  rcases h'.status with ⟨hstatus', hclaimed'⟩ | hsettled
  · rcases h.status with ⟨hstatus, hclaimed⟩ | hsettled
    · exact .inl ⟨hstatus'.trans hstatus, hclaimed'.trans hclaimed⟩
    · exact .inr (hstatus' ▸ hsettled)
  · exact .inr hsettled

/-- A new action that is settled for good was never dispatched. -/
theorem OutboxActionRow.Fresh.rests {a b : OutboxActionRow} (h : a.Fresh) (hrests : a.Rests b) :
    b.attempts = 0 ∧ (b.Fresh ∨ b.status.unfinished = false) := by
  have hattempts : b.attempts = 0 := hrests.attempts.trans h.attempts
  rcases hrests.status with ⟨hstatus, hclaimed⟩ | hsettled
  · exact ⟨hattempts, .inl ⟨hattempts, hstatus.trans h.status, hclaimed.trans h.claimedAt⟩⟩
  · exact ⟨hattempts, .inr hsettled⟩

/-- Every action rests, or is new and was never dispatched. -/
structure OutboxRests (db db' : Database) : Prop where
  seq : db.outboxSeq ≤ db'.outboxSeq
  row : ∀ b ∈ db'.outboxAction.rows, (∃ a ∈ db.outboxAction.rows, a.Rests b) ∨
    db.outboxSeq < b.id ∧ b.attempts = 0 ∧ (b.Fresh ∨ b.status.unfinished = false)

namespace OutboxRests

theorem of_eq (hrows : db'.outboxAction = db.outboxAction) (hseq : db'.outboxSeq = db.outboxSeq) :
    OutboxRests db db' :=
  ⟨Nat.le_of_eq hseq.symm, fun b hb => .inl ⟨b, hrows ▸ hb, .refl b⟩⟩

protected theorem refl (db : Database) : OutboxRests db db := .of_eq rfl rfl

protected theorem trans (h : OutboxRests db db') (h' : OutboxRests db' db'') :
    OutboxRests db db'' := by
  refine ⟨Nat.le_trans h.seq h'.seq, fun c hc => ?_⟩
  rcases h'.row c hc with ⟨b, hb, hrests⟩ | ⟨hnew, hfresh⟩
  · rcases h.row b hb with ⟨a, ha, hrests'⟩ | ⟨hnew, hattempts, hfresh⟩
    · exact .inl ⟨a, ha, hrests'.trans hrests⟩
    · refine .inr ⟨hrests.same.id ▸ hnew, ?_⟩
      rcases hfresh with hfresh | hsettled
      · exact hfresh.rests hrests
      · refine ⟨hrests.attempts.trans hattempts, .inr ?_⟩
        rcases hrests.status with ⟨hstatus, -⟩ | hsettled'
        · exact hstatus ▸ hsettled
        · exact hsettled'
  · exact .inr ⟨Nat.lt_of_le_of_lt h.seq hnew, hfresh⟩

instance : Std.Refl OutboxRests := ⟨.refl⟩

instance : IsTrans Database OutboxRests := ⟨fun _ _ _ => .trans⟩

end OutboxRests

/-- A statement other than an update of actions lets them rest. -/
theorem Statement.Effect.outboxRests {st : Statement} (h : st.Effect db.toTables db'.toTables)
    (hst : ∀ p f hf, st ≠ .updateOutbox p f hf) : OutboxRests db db' := by
  have hsubset (hseq : db'.outboxSeq = db.outboxSeq)
      (hrows : ∀ a ∈ db'.outboxAction.rows, a ∈ db.outboxAction.rows) : OutboxRests db db' :=
    ⟨Nat.le_of_eq hseq.symm, fun a ha => .inl ⟨a, hrows a ha, .refl a⟩⟩
  by_cases htarget : st.target = .enqueue ∨ st.target = .outbox ∨ st.target = .purgeUpdate
  · cases st with
    | insertOutbox a =>
      obtain ⟨b, h⟩ := h
      unfold Tables.insertOutbox at h
      dsimp only at h
      split_ifs at h
      · obtain ⟨-, hdb⟩ := Prod.mk.inj (Except.ok.inj h)
        exact .of_eq (by rw [hdb]) (by rw [hdb])
      · obtain ⟨-, hdb⟩ := Prod.mk.inj (Except.ok.inj h)
        refine ⟨by rw [← hdb]; exact Nat.le_succ _, fun b hb => ?_⟩
        rw [← hdb, Table.mem_insert] at hb
        rcases hb with hb | rfl
        · exact .inl ⟨b, hb, .refl b⟩
        · exact .inr ⟨Nat.lt_succ_self _, rfl, .inl ⟨rfl, rfl, rfl⟩⟩
    | updateOutbox p f hf => exact absurd rfl (hst p f hf)
    | deleteOutbox p =>
      obtain ⟨n, h⟩ := h
      obtain ⟨-, hdb⟩ := Prod.mk.inj (Except.ok.inj h)
      exact hsubset (by rw [← hdb]) fun a ha => (Table.mem_delete.1 (by rw [← hdb] at ha; exact ha)).1
    | deleteUpdate p =>
      obtain ⟨n, h⟩ := h
      obtain ⟨-, hdb⟩ := Prod.mk.inj (Except.ok.inj h)
      exact hsubset (by rw [← hdb]) fun a ha => (Table.mem_delete.1 (by rw [← hdb] at ha; exact ha)).1
    | _ => simp at htarget
  · rw [not_or, not_or] at htarget
    exact .of_eq (h.frame.outboxAction (by simpa using Ne.symm htarget.1)
      (by simpa using Ne.symm htarget.2.1) (by simpa using Ne.symm htarget.2.2))
      (h.frame.outboxSeq (by simpa using Ne.symm htarget.1))

theorem WritesTo.outboxRests {targets : List Target} {K : NewOutboxAction → Prop}
    (h : WritesTo targets K db db') (htargets : Target.outbox ∉ targets) : OutboxRests db db' := by
  induction h with
  | refl => exact .refl _
  | tail _ hstep ih =>
    obtain ⟨st, hst, heffect⟩ := hstep
    refine ih.trans (heffect.outboxRests fun p f hf hno => htargets ?_)
    exact (hno ▸ hst : (Statement.updateOutbox p f hf).Within targets K)

/-- A transaction that does not write to actions, but may enqueue some. -/
theorem outboxRests_of_writes {α : Type} {x : Uow α} {K : NewOutboxAction → Prop}
    (targets : List Target) (htargets : Target.outbox ∉ targets)
    (h : Respects (WritesTo targets K) x) : Respects OutboxRests x :=
  h.mono fun _ _ hw => hw.outboxRests htargets

theorem deleteOutbox_rests (p : OutboxActionRow → Bool) :
    Respects OutboxRests (Uow.deleteOutbox p) := by
  intro db n db' h
  have heffect : (Statement.deleteOutbox p).Effect db.toTables db'.toTables :=
    ⟨n, Uow.statement_ok_iff.1 h⟩
  exact heffect.outboxRests fun p f hf => by simp

/-- The actions of a connection that is replaced are settled. -/
theorem upsertBusinessConnection_rests (connection : BusinessConnectionRecord) :
    Respects OutboxRests (upsertBusinessConnection connection) := by
  refine (Respects.read _).bind fun stale => ?_
  cases stale with
  | none =>
    exact outboxRests_of_writes (K := fun _ => True) [.connection] (by simp)
      (Uow.upsertConnection_writes (by exact List.mem_singleton.2 rfl))
  | some stale =>
    have hsettle : Respects OutboxRests (Uow.updateOutbox
        (fun a => a.key.any (·.connectionId = stale.connectionId) && a.status.unfinished)
        (OutboxActionRow.finish .permanentFailure none (some "business_connection_replaced")
          connection.updatedAt)
        (OutboxActionRow.finish_change ..)) := by
      intro db n db' h
      obtain ⟨-, hdb⟩ := Prod.mk.inj (Except.ok.inj (Uow.statement_ok_iff.1 h))
      refine ⟨by rw [← hdb], fun b hb => ?_⟩
      rw [← hdb] at hb
      obtain ⟨a, ha, rfl⟩ := List.mem_map.1 hb
      refine .inl ⟨a, ha, ?_⟩
      split
      · exact ⟨⟨rfl, rfl, rfl, rfl, rfl⟩, rfl, .inr rfl⟩
      · exact .refl a
    refine hsettle.bind fun _ => ?_
    exact outboxRests_of_writes (K := fun _ => True) [.dropConnection, .mode, .connection] (by simp)
      ((Uow.deleteConnection_writes (by simp [Statement.Within])).bind fun _ =>
        (Uow.setDestructiveMode_writes (by simp [Statement.Within])).bind fun _ =>
        Uow.upsertConnection_writes (by simp [Statement.Within]))

theorem reconcileAuthoritativeTrustedConnection_rests
    (authoritative : BusinessConnectionCandidate) (trusted candidate : Option Nat) (guard : Nat) :
    Respects OutboxRests
      (reconcileAuthoritativeTrustedConnection authoritative trusted candidate guard) :=
  reconcileAuthoritativeTrustedConnection_respects
    (fun _ => outboxRests_of_writes (K := fun _ => True) [.connection, .candidate] (by simp)
      (reconcileSameTrusted_writes (fun _ ht => ht) _ _ _))
    (fun _ _ => outboxRests_of_writes (K := fun _ => True)
      [.dropConnection, .candidate, .owner, .guard] (by simp)
      ((Uow.deleteConnection_writes (by simp [Statement.Within])).bind fun _ =>
        (updateOne_writes _).bind fun _ =>
        (Uow.upsertCandidate_writes (by simp [Statement.Within])).bind fun _ =>
        (Uow.upsertCandidate_writes (by simp [Statement.Within])).bind fun _ =>
        (advanceOwnerConnectionFloor_writes (by simp) _).bind fun _ =>
        advanceOverflowGuardIfActive_writes (by simp) _))
    (upsertBusinessConnection_rests _)
    (outboxRests_of_writes (K := fun _ => True) [.candidate] (by simp)
      (deleteConnectionCandidate_writes (by simp) _))

theorem resetConversation_rests (connection : BusinessConnectionRecord) (chatId : Int)
    (now : DateTime) : Respects OutboxRests (resetConversation connection chatId now) := by
  refine (Respects.read _).bind fun conversation => ?_
  cases conversation with
  | none => exact .pure _
  | some conversation =>
    refine (Respects.read _).bind fun _ => (Respects.read _).bind fun _ =>
      (deleteOutbox_rests _).bind fun _ => ?_
    exact outboxRests_of_writes (K := fun _ => True) [.challenge, .ledger, .conversation, .audit]
      (by simp)
      ((Uow.deleteChallenge_writes (by simp [Statement.Within])).bind fun _ =>
        (Uow.deleteLedger_writes (by simp [Statement.Within])).bind fun _ =>
        (Uow.updateConversation_writes (by simp [Statement.Within])).bind fun _ =>
        Respects.bind ((insertAuditEvent_writes (by simp) _).bind fun _ => .pure _)
          fun _ => .pure _)

theorem processOwnerCommand_rests {updateId : Int} (snapshot : OwnerCommandSnapshot)
    (occurredAt : DateTime) (default : Bool) :
    Respects OutboxRests (processOwnerCommand updateId snapshot occurredAt default) :=
  processOwnerCommand_respects
    (outboxRests_of_writes (K := fun _ => True) [.update] (by simp)
      (insertRedactedUpdate_writes (by simp) _ _))
    (outboxRests_of_writes (K := fun _ => True) [.owner, .audit] (by simp)
      (authorize_writes (by simp) _ _))
    (fun _ => executeCommand_respects fun _ _ => executeAuthorized_respects
      (fun _ _ _ => resetConversation_rests _ _ _)
      (fun _ _ => outboxRests_of_writes (K := fun _ => True)
        [.conversation, .challenge, .audit] (by simp) (unblockConversation_writes (by simp) _ _ _))
      (fun _ _ => outboxRests_of_writes (K := fun _ => True) [.mode] (by simp)
        (setDryRun_writes (by simp) _ _)))
    (fun actions => outboxRests_of_writes (K := NewOutboxAction.Of updateId True) [.enqueue]
      (by simp) (enqueueOwnerTelegramActions_writes (by simp) actions (fun _ => trivial) _))
    (fun _ _ _ => outboxRests_of_writes (K := fun _ => True) [.enqueue]
      (by simp) (enqueueDirectOwnerMessage_writes (by simp) _ _ _ _))

/-- **Only a claim and the end of a dispatch move an action.** -/
theorem Transaction.outboxRests (h : db.NoConnectionChange) {x : Transaction}
    (hclaim : ∀ now, x ≠ .claim now) (hfinish : ∀ action now finish, x ≠ .finish action now finish) :
    OutboxRests db (x.after db) := by
  have hwrites := x.after_writes h
  cases x with
  | claim now => exact absurd rfl (hclaim now)
  | finish action now finish => exact absurd rfl (hfinish action now finish)
  | startup connectionId snapshot answer now =>
    refine Respects.commit (reconcileTrustedCurrentState_respects ?_
      (fun _ => reconcileAuthoritativeTrustedConnection_rests _ _ _ _) ?_) db
    · exact outboxRests_of_writes (K := fun _ => True) [.candidate, .owner, .dropConnection]
        (by simp) (retireTrustedConnectionNotFound_writes (fun _ ht => ht) _ _)
    · exact outboxRests_of_writes (K := fun _ => True) [.reconciliation, .connection] (by simp)
        (setTelegramAuthFailed_writes (fun _ ht => ht) _)
  | trigger updateId connectionId occurredAt owner snapshot answer now =>
    refine Respects.commit (reconcileConnectionTrigger_respects ?_
      (fun _ => reconcileAuthoritativeTrustedConnection_rests _ _ _ _) (fun _ _ => ?_) ?_
      (fun _ _ _ => ?_) ?_ (fun _ => ?_) ?_) db
    · exact outboxRests_of_writes (K := fun _ => True) [.candidate, .owner, .dropConnection]
        (by simp) (retireTrustedConnectionNotFound_writes (fun _ ht => ht) _ _)
    · exact outboxRests_of_writes (K := fun _ => True) [.candidate, .guard] (by simp)
        (applyAuthoritativeCandidate_writes (fun _ ht => ht) _ _)
    · exact outboxRests_of_writes (K := fun _ => True) [.candidate, .guard] (by simp)
        (pruneConnectionCandidates_writes (fun _ ht => ht) _ _)
    · exact outboxRests_of_writes (K := fun _ => True) [.owner] (by simp)
        (promoteReportedChat_writes (by simp) _ _ _)
    · exact outboxRests_of_writes (K := fun _ => True) [.reconciliation, .connection] (by simp)
        (setTelegramAuthFailed_writes (fun _ ht => ht) _)
    · exact outboxRests_of_writes (K := fun _ => True) [.audit] (by simp)
        (insertConnectionAudit_writes (by simp) _ _ _)
    · exact outboxRests_of_writes (K := fun _ => True) [.update] (by simp)
        (markConnectionTriggerApplied_writes (by simp) _ _)
  | ownerCommand updateId snapshot occurredAt default =>
    exact Respects.commit (processOwnerCommand_rests _ _ _) db
  | ownerStart updateId snapshot occurredAt default =>
    refine Respects.commit (processOwnerStart_respects (processOwnerCommand_rests _ _ _) ?_
      fun _ => ?_) db
    · exact outboxRests_of_writes (K := fun _ => True) [.update] (by simp)
        (insertRedactedUpdate_writes (by simp) _ _)
    · exact outboxRests_of_writes (K := NewOutboxAction.Of updateId True) [.enqueue] (by simp)
        (enqueuePrivateMessage_writes (by simp) _ _ _)
  | purge now =>
    refine Respects.commit ?_ db
    refine (Respects.read _).bind fun _ => Respects.bind ?_ fun _ => Respects.bind ?_ fun _ =>
      (deleteOutbox_rests _).bind fun _ => Respects.bind ?_ fun _ => .pure _
    · exact outboxRests_of_writes (K := fun _ => True) [.ledger] (by simp)
        (Uow.deleteLedger_writes (by simp [Statement.Within]))
    · exact (Respects.read _).bind fun _ => outboxRests_of_writes (K := fun _ => True) [.audit]
        (by simp) (Uow.deleteAudit_writes (by simp [Statement.Within]))
    · exact (Respects.read _).bind fun _ => (Respects.read _).bind fun _ =>
        outboxRests_of_writes (K := fun _ => True) [.purgeUpdate] (by simp)
          (Uow.deleteUpdate_writes (by simp [Statement.Within]))
  | _ => exact hwrites.outboxRests (by simp)

/-! ## What the dispatcher does -/

/-- The action after it is claimed. -/
def OutboxActionRow.claimed (now : DateTime) (a : OutboxActionRow) : OutboxActionRow :=
  { a with
    attempts := a.attempts + if a.claimedAt.isSome then 0 else 1
    claimedAt := some now
    updatedAt := now }

/-- **What a claim does**: one unfinished action is claimed, and held as it is then. -/
theorem claimDueOutboxAction_claims {now : DateTime} {action : OutboxActionRecord}
    (h : claimDueOutboxAction now db = .ok (some action, db')) :
    ∃ row ∈ db.outboxAction.rows, row.status.unfinished = true ∧ action.id = row.id ∧
      action.kind = row.kind ∧ action.interrupted = row.claimedAt.isSome ∧
      action.attempts = (row.claimed now).attempts ∧ db'.outboxSeq = db.outboxSeq ∧
      ∀ b ∈ db'.outboxAction.rows, b ∈ db.outboxAction.rows ∧ b.id ≠ row.id ∨ b = row.claimed now := by
  unfold claimDueOutboxAction at h
  obtain ⟨ready, s₁, hready, h₁⟩ := bind_ok_iff.1 h
  obtain rfl : db = s₁ := readinessIn_readOnly now _ _ _ hready
  obtain ⟨found, s₂, hread, h₂⟩ := bind_ok_iff.1 h₁
  obtain ⟨hfound, rfl⟩ := Prod.mk.inj (Txn.read_ok_iff.1 hread)
  cases found with
  | none => cases h₂
  | some row =>
    have hmem := List.mem_of_find?_eq_some hfound
    have hdue : row.due now = true := by
      have := List.find?_some hfound
      simp only [Bool.and_eq_true] at this
      exact this.1
    obtain ⟨affected, s₃, hupdate, h₃⟩ := bind_ok_iff.1 h₂
    obtain ⟨-, hdb⟩ := Prod.mk.inj (Except.ok.inj (Uow.statement_ok_iff.1 hupdate))
    by_cases hone : affected = 1
    · rw [if_neg (by simp [hone])] at h₃
      obtain ⟨haction, rfl⟩ := Prod.mk.inj (pure_ok_iff.1 h₃)
      obtain rfl := Option.some.inj haction
      simp only [OutboxActionRow.due, Bool.and_eq_true] at hdue
      refine ⟨row, hmem, hdue.1, rfl, rfl, rfl, rfl, by rw [← hdb], fun b hb => ?_⟩
      rw [← hdb] at hb
      obtain ⟨a, ha, rfl⟩ := List.mem_map.1 hb
      by_cases hid : a.id = row.id
      · obtain rfl : a = row := Table.eq_of_key_eq ha hmem hid
        exact .inr (if_pos (by simp))
      · rw [if_neg (by simp [hid])]
        exact .inl ⟨ha, hid⟩
    · rw [if_pos hone] at h₃
      cases h₃

/-- The status the end of a dispatch gives its action. -/
def Finish.status : Finish → OutboxStatus
  | .success _ => .succeeded
  | .uncertain .. | .actionUncertain _ => .uncertain
  | .permanent .. => .permanentFailure
  | .retry .. => .retry

/-- The action is given a status and let go of, and the other actions are as they were. -/
def LetGo (actionId : Nat) (status : OutboxStatus) (now : DateTime) (db db' : Database) : Prop :=
  db'.outboxSeq = db.outboxSeq ∧ ∃ row ∈ db.outboxAction.rows, row.id = actionId ∧
    row.status.unfinished = true ∧ ∃ next code, ∀ b ∈ db'.outboxAction.rows,
      b ∈ db.outboxAction.rows ∧ b.id ≠ actionId ∨ b = row.finish status next code now

theorem finishOutbox_ok {actionId : Nat} {status : OutboxStatus} {next : Option DateTime}
    {code : Option String} {now : DateTime} {u : Unit}
    (h : finishOutbox actionId status next code now db = .ok (u, db')) :
    LetGo actionId status now db db' := by
  by_cases hopen : ∃ row ∈ db.outboxAction.rows, row.id = actionId ∧ row.status.unfinished = true
  · obtain ⟨row, hrow, rfl, hunfinished⟩ := hopen
    obtain ⟨n, s, hupdate, h⟩ := bind_ok_iff.1 h
    obtain rfl : s = db' := by
      unfold updateOne at h
      split at h
      · exact (Prod.mk.inj (pure_ok_iff.1 h)).2
      · cases h
    obtain ⟨-, hdb⟩ := Prod.mk.inj (Except.ok.inj (Uow.statement_ok_iff.1 hupdate))
    refine ⟨by rw [← hdb], row, hrow, rfl, hunfinished, next, code, fun b hb => ?_⟩
    rw [← hdb] at hb
    obtain ⟨a, ha, rfl⟩ := List.mem_map.1 hb
    by_cases hid : a.id = row.id
    · obtain rfl : a = row := Table.eq_of_key_eq ha hrow hid
      exact .inr (if_pos (by simp [hunfinished]))
    · rw [if_neg (by simp [hid])]
      exact .inl ⟨ha, hid⟩
  · have hfails : ¬Txn.Succeeds (finishOutbox actionId status next code now) db :=
      finishOutbox_fails (by simpa using hopen) status next code now
    exact absurd ⟨_, h⟩ hfails

/-- **What the end of a dispatch does**: it gives its action the status of the end and lets go of
it, and the other actions rest. -/
theorem finishDispatch_ok {action : OutboxActionRecord} {now : DateTime} {finish : Finish} {u : Unit}
    (h : finishDispatch action now finish db = .ok (u, db')) :
    ∃ mid, LetGo action.id finish.status now db mid ∧ OutboxRests mid db' := by
  have hspec {status : OutboxStatus} {next : Option DateTime} {code : Option String}
      {rest : Unit → Uow Unit} (hrest : ∀ u, Respects OutboxRests (rest u))
      (h : (finishOutbox action.id status next code now >>= rest) db = .ok (u, db')) :
      ∃ mid, LetGo action.id status now db mid ∧ OutboxRests mid db' := by
    obtain ⟨v, mid, hfinish, h⟩ := bind_ok_iff.1 h
    exact ⟨mid, finishOutbox_ok hfinish, (hrest v).of_ok h⟩
  have hkeep {x : Uow Unit} (hx : Respects (WritesTo [.challenge, .connection, .mode, .enqueue]
      fun _ => True) x) : Respects OutboxRests x :=
    outboxRests_of_writes _ (by simp) hx
  have halert (alert : OwnerAlert) (challengeId : Option Nat) :
      Respects (WritesTo [.challenge, .connection, .mode, .enqueue] fun _ => True)
        (enqueueOwnerAlert action alert challengeId now) :=
    enqueueOwnerAlert_writes (by simp) _ (fun _ _ => trivial) _ _ _
  cases finish with
  | success challengeSent =>
    refine hspec (fun _ => ?_) h
    cases challengeSent with
    | none => exact .pure _
    | some sent => exact hkeep (markChallengeSent_writes (by simp) _ _)
  | uncertain challengeId errorCode =>
    exact hspec (fun _ => hkeep ((markChallengeUncertain_writes (by simp) _).bind fun _ =>
      halert _ _)) h
  | actionUncertain errorCode => exact ⟨db', finishOutbox_ok h, .refl _⟩
  | permanent errorCode disableConnection =>
    refine hspec (fun _ => .ite (fun _ => hkeep (.bind ?_ fun _ =>
      (Uow.setDestructiveMode_writes (by simp [Statement.Within])).bind fun _ => halert _ _))
      fun _ => .pure _) h
    unfold disableConnectionOf
    split
    · exact disableBusinessConnection_writes (by simp) _ _
    · exact .pure _
  | retry nextAttemptAt errorCode => exact ⟨db', finishOutbox_ok h, .refl _⟩

end ChatHygiene
