import ChatHygiene.Lifecycle.Causes
import ChatHygiene.Updates.Due
/-!
# What only the Owner can do

A command counts if its source is the claimed Owner in the chat on record. From
any reachable world, whatever steps are taken, the destructive mode is switched
on by such a command alone; and a command from anybody else leaves a trace in
the logs and nothing more.
-/

namespace ChatHygiene

open Txn (Respects bind_ok_iff commit)

variable {db db' : Database} {key : ConversationKey}

/-- The source is the claimed Owner, in the chat on record. -/
def Database.authorizes (db : Database) (source : OwnerCommandSource) : Bool :=
  match db.ownerIdentity with
  | .ready (.claimed ownerUserId ownerChatId ownerChatSource _ _) =>
    source.accepted ownerUserId ownerChatId ownerChatSource
  | _ => false

/-- A connection of which the Owner has confirmed that it is enabled, with every right. -/
def Database.Entitled (db : Database) : Prop :=
  ∃ c ∈ db.businessConnection.rows,
    c.reconciliationState = .confirmed ∧ c.enabled = true ∧ c.rights.complete = true

/-! ## Commands -/

theorem findSingleBusinessConnection_confirmed {c : BusinessConnectionRecord}
    (h : findSingleBusinessConnection db = .ok (some c, db')) :
    c ∈ db.businessConnection.rows ∧ c.reconciliationState = .confirmed := by
  unfold findSingleBusinessConnection loadTelegramReconciliationState singleConnection at h
  simp only [Txn.read_bind_apply] at h
  split at h
  · cases h
  · simp only [Txn.read_bind_apply] at h
    split at h
    · cases h
    · obtain ⟨hc, -⟩ := Prod.mk.inj (Txn.pure_ok_iff.1 h)
      have hmem := List.mem_filter.1 (List.mem_of_mem_head? hc)
      exact ⟨hmem.1, of_decide_eq_true hmem.2⟩

/-- The Owner is taken for themselves, on a connection that is confirmed. -/
def AuthorizedOwner.OnConfirmed (owner : AuthorizedOwner) (db : Database) : Prop :=
  ∀ c, owner.connection = some c →
    c ∈ db.businessConnection.rows ∧ c.reconciliationState = .confirmed

theorem authorizedAs_confirmed {ownerUserId : Int} {identity : OwnerIdentity}
    {found : Option AuthorizedOwner} (h : authorizedAs ownerUserId identity db = .ok (found, db')) :
    ∃ owner, found = some owner ∧ owner.OnConfirmed db := by
  obtain ⟨connection, s, hfind, hrest⟩ := bind_ok_iff.1 h
  clear h
  obtain rfl := findSingleBusinessConnection_readOnly.of_ok hfind
  obtain ⟨-, hrest⟩ := Txn.guard_ok_iff.1 hrest
  cases identity with
  | unclaimed => cases hrest
  | claimed =>
    obtain ⟨howner, -⟩ := Prod.mk.inj (Txn.pure_ok_iff.1 hrest)
    refine ⟨_, howner.symm, fun c hc => ?_⟩
    obtain rfl : connection = some c := hc
    exact findSingleBusinessConnection_confirmed hfind

/-- **Only an authorised source is taken for the Owner**; any other is audited, and no more. -/
theorem authorize_requires {source : OwnerCommandSource} {now : DateTime}
    {found : Option AuthorizedOwner} (h : authorize source now db = .ok (found, db')) :
    (found = none ∧ WritesTo [.audit] (fun _ => False) db db') ∨
      (db.authorizes source = true ∧ ∃ owner, found = some owner ∧ owner.OnConfirmed db) := by
  have haudit (h : (do
        insertSecurityAudit now
        pure (none : Option AuthorizedOwner)) db = .ok (found, db')) :
      found = none ∧ WritesTo [.audit] (fun _ => False) db db' := by
    obtain ⟨_, db₁, hinsert, h⟩ := bind_ok_iff.1 h
    obtain ⟨rfl, rfl⟩ := Prod.mk.inj (Txn.pure_ok_iff.1 h)
    have hwrites : Respects (WritesTo [.audit] fun _ => False) (insertSecurityAudit now) :=
      (insertAuditEvent_writes (by simp) _).bind fun _ => .pure _
    exact ⟨rfl, hwrites.of_ok hinsert⟩
  obtain ⟨identity, hload, h⟩ := Txn.bind_ok_of_readOnly loadOwnerIdentity_readOnly h
  have hstored := loadOwnerIdentity_ok hload
  cases identity with
  | unclaimed => exact .inl (haudit h)
  | claimed ownerUserId ownerChatId ownerChatSource floor boundAt =>
    cases haccepted : source.accepted ownerUserId ownerChatId ownerChatSource with
    | false =>
      dsimp only at h
      rw [haccepted] at h
      exact .inl (haudit h)
    | true =>
      right
      refine ⟨?_, ?_⟩
      · unfold Database.authorizes
        rw [hstored]
        exact haccepted
      · dsimp only at h
        rw [haccepted] at h
        simp only [Bool.not_true, Bool.false_eq_true, if_false] at h
        split at h
        · obtain ⟨identity', db₁, hpromote, h⟩ := bind_ok_iff.1 h
          have hpromoted : WritesTo [.owner] (fun _ => False) db db₁ :=
            (promoteOwnerChat_writes (by simp) _ _ _).of_ok hpromote
          unfold AuthorizedOwner.OnConfirmed
          rw [← hpromoted.frame.businessConnection (by simp) (by simp)]
          exact authorizedAs_confirmed h
        · have hsettled : authorizedAs ownerUserId
              (.claimed ownerUserId ownerChatId ownerChatSource floor boundAt) db =
                .ok (found, db') := h
          exact authorizedAs_confirmed hsettled

/-- What a command from anybody else writes to. -/
def refusedTargets : List Target := [.update, .audit]

/-- What is written before a command is executed. -/
def authorizedTargets : List Target := [.update, .audit, .owner]

/-- The command is executed for the Owner, on the connection that is confirmed. -/
structure Executed (updateId : Int) (snapshot : OwnerCommandSnapshot) (occurredAt : DateTime)
    (default : Bool) (db db' : Database) : Prop where
  authorized : db.authorizes snapshot.source = true
  executes : ∃ owner execution db₁ db₂, WritesTo authorizedTargets (fun _ => False) db db₁ ∧
    owner.OnConfirmed db ∧
    executeCommand snapshot owner occurredAt default db₁ = .ok (execution, db₂) ∧
    WritesTo [.enqueue] (NewOutboxAction.Of updateId True) db₂ db'

/-- **A command is executed for the Owner, or it is logged, and no more.** -/
theorem processOwnerCommand_ok {updateId : Int} {snapshot : OwnerCommandSnapshot}
    {occurredAt : DateTime} {default : Bool} {receipt : RecordReceipt}
    (h : processOwnerCommand updateId snapshot occurredAt default db = .ok (receipt, db')) :
    WritesTo refusedTargets (fun _ => False) db db' ∨
      Executed updateId snapshot occurredAt default db db' := by
  rcases withoutReceipt_ok h with rfl | ⟨-, hnext⟩
  · exact .inl (refl _)
  obtain ⟨mode, s, hread, hnext⟩ := bind_ok_iff.1 hnext
  obtain ⟨-, rfl⟩ := Prod.mk.inj (Txn.read_ok_iff.1 hread)
  obtain ⟨_, db₁, hinsert, hnext⟩ := bind_ok_iff.1 hnext
  obtain ⟨owner, db₂, hauthorize, hnext⟩ := bind_ok_iff.1 hnext
  have hlogged : WritesTo refusedTargets (fun _ => False) db db₁ :=
    (insertRedactedUpdate_writes (by simp [refusedTargets]) _ _).of_ok hinsert
  have hsame : db₁.authorizes snapshot.source = db.authorizes snapshot.source := by
    unfold Database.authorizes
    rw [hlogged.frame.ownerIdentity (by simp [refusedTargets])]
  have hconnections : db₁.businessConnection = db.businessConnection :=
    hlogged.frame.businessConnection (by simp [refusedTargets]) (by simp [refusedTargets])
  rcases authorize_requires hauthorize with ⟨rfl, haudited⟩ | ⟨hyes, owner, rfl, hconfirmed⟩
  · obtain ⟨-, rfl⟩ := Prod.mk.inj (Txn.pure_ok_iff.1 hnext)
    exact .inl (trans_of _ hlogged (haudited.mono fun st hst =>
      hst.mono (fun _ ht => by simp [refusedTargets, List.mem_singleton.1 ht]) fun _ => id))
  have hauthorized : WritesTo authorizedTargets (fun _ => False) db db₂ :=
    trans_of (WritesTo _ _) (hlogged.mono fun st hst => hst.mono
        (fun _ ht => by revert ht; simp only [refusedTargets, authorizedTargets]; decide +revert)
        fun _ => id)
      ((authorize_writes (by simp [authorizedTargets]) _ _).of_ok hauthorize)
  obtain ⟨execution, db₃, hexecute, hnext⟩ := bind_ok_iff.1 hnext
  unfold AuthorizedOwner.OnConfirmed at hconfirmed
  rw [hconnections] at hconfirmed
  refine .inr ⟨hsame ▸ hyes, owner, execution, db₂, db₃, hauthorized, hconfirmed, hexecute, ?_⟩
  have hreplies : Respects (WritesTo [.enqueue] (NewOutboxAction.Of updateId True)) (do
      enqueueOwnerTelegramActions updateId execution.telegramActions occurredAt
      enqueueDirectOwnerMessage updateId owner.ownerChatId execution.response occurredAt
        "OWNER_COMMAND_REPLY"
      if !mode then
        enqueueOwnerCommandTrace updateId owner.ownerChatId snapshot.messageId occurredAt
      pure RecordReceipt.recorded) :=
    (enqueueOwnerTelegramActions_writes (by simp) _ (fun _ => trivial) _).bind fun _ =>
      (enqueueDirectOwnerMessage_of (by simp) _ _ _ .command rfl).bind fun _ =>
      .ite (fun _ => Respects.bind ((Respects.read _).bind fun _ =>
        enqueueDirectOwnerMessage_of (by simp) _ _ _ .trace rfl) fun _ => .pure _)
        fun _ => .pure _
  exact hreplies.of_ok hnext

/-! ## The mode -/

/-- The destructive mode is as it was, or off. -/
def Guarded (db db' : Database) : Prop :=
  db'.destructiveMode = db.destructiveMode ∨ db'.destructiveMode = some false

instance : Std.Refl Guarded := ⟨fun _ => .inl rfl⟩

instance : IsTrans Database Guarded := ⟨fun _ _ _ h h' =>
  h'.elim (fun hsame => h.imp hsame.trans hsame.trans) .inr⟩

section

variable {α : Type} {x : Uow α}

theorem guarded_of_writes {K : NewOutboxAction → Prop} (targets : List Target)
    (hmode : Target.mode ∉ targets) (h : Respects (WritesTo targets K) x) : Respects Guarded x :=
  h.mono fun _ _ hw => .inl (hw.frame.destructiveMode hmode)

theorem deleteConnection_guarded (p : BusinessConnectionRecord → Bool) :
    Respects Guarded (Uow.deleteConnection p) :=
  guarded_of_writes (K := fun _ => True) [.dropConnection] (by simp)
    (Uow.deleteConnection_writes (by exact List.mem_singleton.2 rfl))

theorem forceDryRun_guarded : Respects Guarded (Uow.setDestructiveMode false) := by
  intro db u db' h
  obtain ⟨-, hdb⟩ := Prod.mk.inj (Except.ok.inj (Uow.statement_ok_iff.1 h))
  exact .inr (by rw [← hdb])

/-- A replaced connection leaves the mode off. -/
theorem installTrusted_guarded (a : BusinessConnectionCandidate) (revision : Nat) :
    Respects Guarded (installTrusted a revision) := by
  have hupsert : Respects Guarded (Uow.upsertConnection (a.installed revision)) :=
    guarded_of_writes (K := fun _ => True) [.connection] (by simp)
      (Uow.upsertConnection_writes (by exact List.mem_singleton.2 rfl))
  rw [installTrusted_eq]
  refine (Respects.read _).bind fun stale => ?_
  cases stale with
  | none => exact hupsert
  | some stale =>
    refine (guarded_of_writes (K := fun _ => True) [.outbox] (by simp)
      (Uow.updateOutbox_writes (by exact List.mem_singleton.2 rfl))).bind fun _ => ?_
    exact (deleteConnection_guarded _).bind fun _ => forceDryRun_guarded.bind fun _ => hupsert

theorem reconcileThrough_guarded (snapshot : ConnectionReconciliationSnapshot)
    (candidate : BusinessConnectionCandidate) :
    Respects Guarded (reconcileThrough snapshot candidate) := by
  have hcandidate (c : BusinessConnectionCandidate) : Respects Guarded (Uow.upsertCandidate c) :=
    guarded_of_writes (K := fun _ => True) [.candidate] (by simp)
      (Uow.upsertCandidate_writes (by exact List.mem_singleton.2 rfl))
  refine reconcileAuthoritativeTrustedConnection_respects (fun current => ?_)
    (fun current ownerChatId => ?_) (installTrusted_guarded _ _) ?_
  · exact guarded_of_writes (K := fun _ => True) [.connection, .candidate] (by simp)
      (reconcileSameTrusted_writes (fun _ ht => ht) _ _ _)
  · have hone (n : Nat) : Respects Guarded (updateOne n) := .ite (fun _ => .pure _) fun _ => .throw _
    exact (deleteConnection_guarded _).bind fun _ => (hone _).bind fun _ =>
      (hcandidate _).bind fun _ => (hcandidate _).bind fun _ => Respects.bind
        (guarded_of_writes (K := fun _ => True) [.owner] (by simp)
          (advanceOwnerConnectionFloor_writes (by simp) _))
        fun _ => guarded_of_writes (K := fun _ => True) [.guard] (by simp)
          (advanceOverflowGuardIfActive_writes (by simp) _)
  · exact guarded_of_writes (K := fun _ => True) [.candidate] (by simp)
      (deleteConnectionCandidate_writes (by simp) _)

theorem retireThrough_guarded (snapshot : ConnectionReconciliationSnapshot)
    (connectionId : String) : Respects Guarded (retireThrough snapshot connectionId) :=
  guarded_of_writes (K := fun _ => True) [.candidate, .owner, .dropConnection] (by simp)
    (retireTrustedConnectionNotFound_writes (by simp) _ _)

theorem Transaction.guarded_of_targets (h : db.NoConnectionChange) {x : Transaction}
    (hmode : Target.mode ∉ x.targets) : Guarded db (x.after db) :=
  .inl ((x.after_frame h).destructiveMode hmode)

end

theorem withConnection_respects {R : Database → Database → Prop} [Std.Refl R]
    {owner : AuthorizedOwner} {command : BusinessConnectionRecord → Uow CommandResult}
    (h : ∀ c, Respects R (command c)) : Respects R (withConnection owner command) := by
  unfold withConnection
  split
  · exact .pure _
  · exact h _

theorem resetConversation_guarded (connection : BusinessConnectionRecord) (chatId : Int)
    (now : DateTime) : Respects Guarded (resetConversation connection chatId now) := by
  refine (Respects.read _).bind fun conversation => ?_
  cases conversation with
  | none => exact .pure _
  | some conversation =>
    refine (Respects.read _).bind fun _ => (Respects.read _).bind fun _ => ?_
    refine (guarded_of_writes (K := fun _ => True) [.outbox] (by simp)
      (Uow.deleteOutbox_writes (by exact List.mem_singleton.2 rfl))).bind fun _ => ?_
    refine (guarded_of_writes (K := fun _ => True) [.challenge] (by simp)
      (Uow.deleteChallenge_writes (by exact List.mem_singleton.2 rfl))).bind fun _ => ?_
    refine (guarded_of_writes (K := fun _ => True) [.ledger] (by simp)
      (Uow.deleteLedger_writes (by exact List.mem_singleton.2 rfl))).bind fun _ => ?_
    refine (guarded_of_writes (K := fun _ => True) [.conversation] (by simp)
      (Uow.updateConversation_writes (by exact List.mem_singleton.2 rfl))).bind fun _ => ?_
    exact (guarded_of_writes (K := fun _ => True) [.audit] (by simp)
      ((insertAuditEvent_writes (by simp) _).bind fun _ => .pure _)).bind fun _ => .pure _

/-- What a command makes of the mode. -/
theorem executeCommand_mode {snapshot : OwnerCommandSnapshot} {owner : AuthorizedOwner}
    {occurredAt : DateTime} {default : Bool} {execution : OwnerCommandExecution}
    (h : executeCommand snapshot owner occurredAt default db = .ok (execution, db')) :
    Guarded db db' ∨ (snapshot.command = .ok (.dryRun false) ∧
      ∃ c, owner.connection = some c ∧ c.enabled = true ∧ c.rights.complete = true) := by
  by_cases hswitch : snapshot.command = .ok (.dryRun false) ∧
      owner.connection.any (fun c => c.enabled && c.rights.complete) = true
  · obtain ⟨hcommand, hentitled⟩ := hswitch
    obtain ⟨c, hc, hrights⟩ := (Option.any_eq_true _ _).1 hentitled
    rw [Bool.and_eq_true] at hrights
    exact .inr ⟨hcommand, c, hc, hrights⟩
  · left
    have hguarded : Respects Guarded (executeCommand snapshot owner occurredAt default) := by
      refine executeCommand_respects fun command hcommand => ?_
      cases command with
      | dryRun enabled =>
        refine .ite (fun _ => .pure _) fun hallowed => ?_
        cases enabled with
        | true => exact forceDryRun_guarded.bind fun _ => .pure _
        | false => exact absurd ⟨hcommand, by simpa using hallowed⟩ hswitch
      | help => exact .pure _
      | health => exact .of_readOnly (health_readOnly _ _)
      | inspect chatId => exact withConnection_respects fun _ => .of_readOnly (inspect_readOnly _ _)
      | reset chatId => exact withConnection_respects fun _ => resetConversation_guarded _ _ _
      | unblock chatId =>
        exact withConnection_respects fun _ => guarded_of_writes (K := fun _ => True)
          [.conversation, .challenge, .audit] (by simp) (unblockConversation_writes (by simp) _ _ _)
      | errors limit => exact .of_readOnly (recentErrors_readOnly _)
      | markSpam | markHam => exact .of_readOnly (labelSample_readOnly _ _)
    exact hguarded.of_ok h

/-- The transaction switches the destructive mode on, for the Owner. -/
def Transaction.Switches (db : Database) : Transaction → Prop
  | .ownerCommand _ snapshot _ _ =>
    db.authorizes snapshot.source = true ∧ snapshot.command = .ok (.dryRun false) ∧ db.Entitled
  | _ => False

theorem processOwnerCommand_mode {updateId : Int} {snapshot : OwnerCommandSnapshot}
    {occurredAt : DateTime} {default : Bool} {receipt : RecordReceipt}
    (h : processOwnerCommand updateId snapshot occurredAt default db = .ok (receipt, db')) :
    Guarded db db' ∨ (Transaction.ownerCommand updateId snapshot occurredAt default).Switches db := by
  rcases processOwnerCommand_ok h with hrefused | ⟨hauthorized, owner, execution, db₁, db₂, hbefore,
    hconfirmed, hexecute, hafter⟩
  · exact .inl (.inl (hrefused.frame.destructiveMode (by simp [refusedTargets])))
  have hsame₁ : db₁.destructiveMode = db.destructiveMode :=
    hbefore.frame.destructiveMode (by simp [authorizedTargets])
  have hsame₂ : db'.destructiveMode = db₂.destructiveMode := hafter.frame.destructiveMode (by simp)
  rcases executeCommand_mode hexecute with hguarded | ⟨hcommand, c, hc, hrights⟩
  · left
    rw [Guarded, hsame₂, ← hsame₁]
    exact hguarded
  · obtain ⟨hstored, hconfirmed⟩ := hconfirmed c hc
    exact .inr ⟨hauthorized, hcommand, c, hstored, hconfirmed, hrights⟩

/-- **The destructive mode is switched on by the Owner alone**, and only where the connection is
confirmed with every right. -/
theorem Transaction.mode (h : db.NoConnectionChange) (x : Transaction) :
    Guarded db (x.after db) ∨ x.Switches db := by
  have hother {α : Type} {x : Uow α} (h : Respects (WritesTo [.reconciliation, .connection,
      .candidate, .guard, .owner, .audit, .update] fun _ => True) x) : Respects Guarded x :=
    guarded_of_writes _ (by simp) h
  cases x with
  | startup connectionId snapshot answer now =>
    exact .inl ((reconcileTrustedCurrentState_respects (retireThrough_guarded _ _)
      (fun _ => reconcileThrough_guarded _ _)
      (hother (setTelegramAuthFailed_writes (by simp) _))).commit db)
  | trigger updateId connectionId occurredAt owner snapshot answer now =>
    exact .inl ((reconcileConnectionTrigger_respects (retireThrough_guarded _ _)
      (fun _ => reconcileThrough_guarded _ _)
      (fun _ _ => hother (applyAuthoritativeCandidate_writes (by simp) _ _))
      (hother (pruneConnectionCandidates_writes (by simp) _ _))
      (fun _ _ _ => hother (promoteReportedChat_writes (by simp) _ _ _))
      (hother (setTelegramAuthFailed_writes (by simp) _))
      (fun _ => hother (insertConnectionAudit_writes (by simp) _ _ _))
      (hother (markConnectionTriggerApplied_writes (by simp) _ _))).commit db)
  | ownerCommand updateId snapshot occurredAt default =>
    exact Txn.commit_cases (P := fun db' => Guarded db db' ∨ _) (.inl (refl _))
      fun _ _ hr => processOwnerCommand_mode hr
  | ownerStart updateId snapshot occurredAt default =>
    -- a start is the help command at most
    have hhelp : Respects Guarded (processOwnerCommand updateId { snapshot with command := .ok .help }
        occurredAt default) := by
      intro s r s' hr
      rcases processOwnerCommand_mode hr with hguarded | ⟨-, hcommand, -⟩
      · exact hguarded
      · cases hcommand
    exact .inl ((processOwnerStart_respects hhelp
      (hother (insertRedactedUpdate_writes (by simp) _ _))
      fun _ => guarded_of_writes (K := NewOutboxAction.Of updateId True) [.enqueue] (by simp)
        (enqueuePrivateMessage_writes (by simp) _ _ _)).commit db)
  | finish action now result =>
    have hwrites {x : Uow Unit} (h : Respects (WritesTo [.outbox, .challenge, .connection, .enqueue]
        fun _ => True) x) : Respects Guarded x := guarded_of_writes _ (by simp) h
    exact .inl ((finishDispatch_respects
      (fun _ _ _ => hwrites (finishOutbox_writes (by simp) _ _ _ _ _))
      (fun _ _ => hwrites (enqueueOwnerAlert_writes (by simp) action (fun _ _ => trivial) _ _ _))
      (fun _ _ => hwrites (markChallengeSent_writes (by simp) _ _))
      (fun _ => hwrites (markChallengeUncertain_writes (by simp) _))
      (fun _ => hwrites (disableBusinessConnection_writes (by simp) _ _))
      forceDryRun_guarded result).commit db)
  | _ => exact .inl (Transaction.guarded_of_targets h (by simp))

/-! ## Runs -/

namespace World

variable {w w' : World} {op : Op}

/-- The step is the Owner's command that switches the destructive mode on, on a connection that is
confirmed with every right. -/
def Switches (w : World) (op : Op) : Prop :=
  ∃ updateId snapshot occurredAt, op = .worker (.ownerCommand updateId snapshot occurredAt) ∧
    w.db.authorizes snapshot.source = true ∧ snapshot.command = .ok (.dryRun false) ∧
    w.db.Entitled

/-- **One step.** -/
theorem step_mode (h : service.Reachable w) (hstep : w.step op = some w') :
    Guarded w.db w'.db ∨ w.Switches op := by
  rcases step_db hstep with hsame | ⟨x, hcommits, hdb⟩
  · exact .inl (hsame ▸ refl _)
  · rw [hdb]
    refine (Transaction.mode (eventsPrepared h).noConnectionChange x).imp id fun hswitches => ?_
    cases hcommits with
    | ownerCommand hw => exact ⟨_, _, _, rfl, hswitches⟩
    | _ => exact absurd hswitches id

/-- A command that is refused. -/
theorem step_refused {updateId : Int} {snapshot : OwnerCommandSnapshot} {occurredAt : DateTime}
    (hstep : w.step (.worker (.ownerCommand updateId snapshot occurredAt)) = some w')
    (hno : w.db.authorizes snapshot.source = false) :
    Frame refusedTargets w.db.toTables w'.db.toTables := by
  cases hworker : w.worker with
  | idle =>
    simp only [World.step, stepWorker, hworker] at hstep
    obtain rfl := Option.some.inj hstep
    refine Txn.commit_cases (P := fun db' : Database => Frame refusedTargets w.db.toTables db'.toTables)
      (.refl _) fun receipt db' hx => ?_
    rcases processOwnerCommand_ok hx with hwrites | hexecuted
    · exact hwrites.frame
    · have hyes := hexecuted.authorized
      rw [hno] at hyes
      cases hyes
  | _ => simp [World.step, stepWorker, hworker] at hstep

end World

/-- **The Owner alone commands.** Along every run from a reachable world in which no step is the
Owner's switch, the stored destructive mode stays as it was or is switched off; and a command of
anybody else writes to the logs of updates and audits, and to nothing else. -/
theorem owner_alone_commands {w w' : World} (h : service.Reachable w) :
    (service.Runs (fun w op => ¬w.Switches op) w w' → Guarded w.db w'.db) ∧
    ∀ updateId snapshot occurredAt,
      w.step (.worker (.ownerCommand updateId snapshot occurredAt)) = some w' →
      w.db.authorizes snapshot.source = false →
      Frame refusedTargets w.db.toTables w'.db.toTables := by
  constructor
  · intro hrun
    have hboth : service.Reachable w' ∧ Guarded w.db w'.db :=
      hrun.invariant (P := fun w' => service.Reachable w' ∧ Guarded w.db w'.db) ⟨h, refl _⟩
        fun w₁ op w₂ hw₁ hno hstep => ⟨hw₁.1.step trivial hstep,
          trans_of Guarded hw₁.2 ((World.step_mode hw₁.1 hstep).resolve_right hno)⟩
    exact hboth.2
  · intro updateId snapshot occurredAt hstep hno
    exact World.step_refused hstep hno

section

open Sample

/-- The Owner switches to dry-run. -/
def switchedOff : List Op := connected true ++ command 3 (.dryRun true) 3

/-- Somebody else asks for the destructive mode. -/
def strangerCommand : Op :=
  .worker (.ownerCommand 4 ⟨some 9, some 9, none, true, .ok (.dryRun false), none⟩ 4)

/-- The mode is off, and the stranger's command can be taken, from whom it must not. -/
def World.refusesStranger (w : World) : Bool :=
  w.db.destructiveMode = some false && !w.db.authorizes ⟨9, 9, true, none⟩ &&
    (w.step strangerCommand).isSome

set_option maxRecDepth 100000 in
theorem owner_alone_commands_stranger : ∃ w w' : World, service.Reachable w ∧
    w.db.destructiveMode = some false ∧ w.step strangerCommand = some w' ∧
    Guarded w.db w'.db ∧ Frame refusedTargets w.db.toTables w'.db.toTables := by
  obtain ⟨w, hw, hrefuses⟩ : ∃ w, service.Reachable w ∧ w.refusesStranger = true :=
    Machine.reachable_of_run switchedOff World.refusesStranger ⟨0, rfl⟩ (by decide +kernel)
  unfold World.refusesStranger at hrefuses
  rw [Bool.and_eq_true, Bool.and_eq_true, Bool.not_eq_true', decide_eq_true_eq] at hrefuses
  obtain ⟨⟨hmode, hno⟩, hsome⟩ := hrefuses
  obtain ⟨w', hstep⟩ := Option.isSome_iff_exists.1 hsome
  have hnot : ¬w.Switches strangerCommand := by
    rintro ⟨updateId, snapshot, occurredAt, hop, hyes, -⟩
    cases hop
    rw [show (⟨some 9, some 9, none, true, .ok (.dryRun false), none⟩ :
      OwnerCommandSnapshot).source = ⟨9, 9, true, none⟩ from rfl, hno] at hyes
    cases hyes
  have hrun : service.Runs (fun w op => ¬w.Switches op) w w' :=
    (Machine.Runs.refl w).tail strangerCommand hnot hstep
  exact ⟨w, w', hw, hmode, hstep, (owner_alone_commands hw).1 hrun,
    (owner_alone_commands hw).2 _ _ _ hstep hno⟩

end

end ChatHygiene
