import ChatHygiene.System.Dispatching
/-!
# What is still requested of Telegram

A dispatch checks the right its action needs and loads the challenge its action
is about. It consults neither the destructive mode nor whether the challenge is
closed, so an action that has become pointless since it was enqueued is still
carried out: a cleanup after the return to dry-run, and the prompt of a
challenge that nobody waits for any more.
-/

namespace ChatHygiene

open Txn (commit)

variable {db : Database} {action : OutboxActionRecord}

/-- The stored connection is effective, enabled and grants the right. -/
def Database.grants (db : Database) (connectionId : String) (required : RequiredRight) : Bool :=
  db.reconciliation.state = .ready && (db.businessConnection.lookup connectionId).any fun c =>
    c.reconciliationState = .confirmed && c.enabled && required.permitted c.rights

theorem findBusinessConnection_apply (connectionId : String) (db : Database) :
    findBusinessConnection connectionId db = .ok
      (if db.reconciliation.state ≠ .ready then none
        else (db.businessConnection.lookup connectionId).filter
          fun c => c.reconciliationState = .confirmed, db) := by
  unfold findBusinessConnection loadTelegramReconciliationState
  simp only [Txn.read_bind_apply]
  split <;> rfl

theorem ensureRight_apply (connectionId : String) (required : RequiredRight) (db : Database) :
    ensureRight connectionId required db = .ok (db.grants connectionId required, db) := by
  unfold ensureRight
  rw [Txn.bind_of_ok (findBusinessConnection_apply connectionId db), Txn.pure_apply]
  congr 2
  unfold Database.grants
  by_cases hready : db.reconciliation.state = .ready
  · rw [if_neg (by simp [hready])]
    cases db.businessConnection.lookup connectionId with
    | none => simp
    | some c => by_cases hc : c.reconciliationState = .confirmed <;> simp [Option.filter, hready, hc]
  · simp [hready]

/-- What a dispatch goes on with after the check of a right. -/
theorem withRight_apply (action : OutboxActionRecord) (required : RequiredRight)
    (next : ConversationKey → Progress) (db : Database) :
    withRight action required next db = .ok
      (match action.key with
        | none => .finish (.invalid "business_identity_missing")
        | some key =>
          if db.grants key.connectionId required then next key else .finish .rightsUnavailable,
        db) := by
  unfold withRight
  cases action.key with
  | none => rfl
  | some key =>
    dsimp only
    rw [Txn.bind_of_ok (ensureRight_apply key.connectionId required db)]
    split <;> rfl

/-! ## Cleanup in dry-run -/

/-- A cleanup of an automatic event, claimed while the destructive mode is off. -/
structure Dispatch.DryRunCleanup (dispatch : Dispatch) : Prop where
  destructive : dispatch.action.kind.destructive = true
  automatic : (dispatch.claimedIn.processedUpdate.lookup dispatch.action.sourceUpdateId).any
    (·.eventType = .lifecycle) = true
  dryRun : dispatch.claimedIn.destructiveMode = some false

/-- The connection of a cleanup grants the right it needs. -/
def OutboxActionRecord.granted (action : OutboxActionRecord) (db : Database) : Bool :=
  match action.key, action.payload with
  | some key, .readBusinessMessage _ => db.grants key.connectionId .read
  | some key, .deleteBusinessMessages _ => db.grants key.connectionId .deleteAll
  | _, _ => false

/-- **The check of a cleanup**: whether it is carried out is a matter of its connection alone. -/
theorem executeCheck_cleanup (h : action.kind.destructive = true) (db : Database) :
    ∃ progress, executeCheck action db = .ok (progress, db) ∧ progress ≠ .loadChallenge ∧
      ((∃ call, progress = .call call) ↔ action.granted db = true) := by
  have hidempotent : (action.interrupted && !isIdempotent action.kind) = false := by
    revert h
    cases action.kind <;> simp [OutboxActionKind.destructive, isIdempotent]
  unfold executeCheck OutboxActionRecord.granted
  rw [if_neg (by simp [hidempotent])]
  cases hpayload : action.payload with
  | readBusinessMessage messageId =>
    refine ⟨_, withRight_apply _ _ _ _, ?_⟩
    cases action.key with
    | none => simp
    | some key => cases hgrants : db.grants key.connectionId .read <;> simp [hgrants]
  | deleteBusinessMessages messageIds =>
    refine ⟨_, withRight_apply _ _ _ _, ?_⟩
    cases action.key with
    | none => simp
    | some key => cases hgrants : db.grants key.connectionId .deleteAll <;> simp [hgrants]
  | _ => simp [OutboxActionRecord.kind, OutboxPayload.kind, OutboxActionKind.destructive,
      hpayload] at h

/-- The dispatch that has passed its check and not been answered. -/
def DispatcherPhase.requested : DispatcherPhase → Option Dispatch
  | .loading dispatch | .calling dispatch _ => some dispatch
  | _ => none

namespace World

/-- The checks of dry-run cleanups that a run makes find their connection without the right. -/
def CleanupRefused (w : World) (op : Op) : Prop :=
  op = .dispatcher .check → ∀ dispatch, w.dispatcher = .claimed dispatch →
    dispatch.DryRunCleanup → dispatch.action.granted w.db = false

/-- The dispatcher after a check. -/
theorem step_check {w w' : World} {dispatch : Dispatch} (hclaimed : w.dispatcher = .claimed dispatch)
    (hstep : w.step (.dispatcher .check) = some w') :
    w'.dispatcher = advance dispatch (commit (executeCheck dispatch.action) w.db).2 := by
  replace hstep := (Option.ite_none_right_eq_some.1 hstep).2
  unfold stepDispatcher at hstep
  simp only [hclaimed] at hstep
  cases hstep
  rfl

theorem step_load {w w' : World} {dispatch : Dispatch} (hloading : w.dispatcher = .loading dispatch)
    (hstep : w.step (.dispatcher .load) = some w') :
    w'.dispatcher = advance dispatch (commit (executeChallenge dispatch.action) w.db).2 := by
  replace hstep := (Option.ite_none_right_eq_some.1 hstep).2
  unfold stepDispatcher at hstep
  simp only [hloading] at hstep
  cases hstep
  rfl

/-- **Where a request comes from**: it was there, or a check or a load has just passed. -/
theorem step_requested {w w' : World} {op : Op} {dispatch : Dispatch} (hstep : w.step op = some w')
    (h : w'.dispatcher.requested = some dispatch) :
    w'.dispatcher = w.dispatcher ∨
    (op = .dispatcher .check ∧ w.dispatcher = .claimed dispatch) ∨
    (op = .dispatcher .load ∧ w.dispatcher = .loading dispatch) := by
  have hadvance (d : Dispatch) (r : Except Error Progress)
      (hd : (advance d r).requested = some dispatch) : d = dispatch := by
    cases r with
    | error e => cases hd
    | ok progress => cases progress <;> first | exact Option.some.inj hd | cases hd
  cases op with
  | worker op => exact .inl (stepWorker_dispatcher hstep)
  | crash =>
    cases hstep
    cases h
  | dispatcher op =>
    replace hstep := (Option.ite_none_right_eq_some.1 hstep).2
    unfold stepDispatcher at hstep
    split at hstep
    · next now hw =>
      cases hstep
      exfalso
      revert h
      simp only [commitDispatcher]
      unfold afterClaim
      split <;> simp [DispatcherPhase.requested]
    · next hw =>
      cases hstep
      obtain rfl := hadvance _ _ h
      exact .inr (.inl ⟨rfl, hw⟩)
    · next hw =>
      cases hstep
      obtain rfl := hadvance _ _ h
      exact .inr (.inr ⟨rfl, hw⟩)
    · cases hstep
      cases h
    · cases hstep
      cases h
    · cases hstep
      cases h
    · cases hstep

/-- Without a right, no cleanup is requested in dry-run. -/
theorem requested_cleanup {w : World} (h : service.ReachableBy CleanupRefused w)
    {dispatch : Dispatch} (hrequested : w.dispatcher.requested = some dispatch) :
    ¬dispatch.DryRunCleanup := by
  refine h.invariant (P := fun w => ∀ dispatch, w.dispatcher.requested = some dispatch →
    ¬dispatch.DryRunCleanup) ?_ ?_ dispatch hrequested
  · rintro w ⟨now, rfl⟩ dispatch hrequested
    cases hrequested
  · intro w op w' hr hw hok hstep dispatch hrequested hcleanup
    rcases step_requested hstep hrequested with hsame | ⟨rfl, hclaimed⟩ | ⟨-, hloading⟩
    · exact hw dispatch (hsame ▸ hrequested) hcleanup
    · obtain ⟨progress, hx, hload, hcall⟩ := executeCheck_cleanup hcleanup.destructive w.db
      rw [step_check hclaimed hstep, Txn.commit_of_ok hx] at hrequested
      have hrefused := hok rfl dispatch hclaimed hcleanup
      cases progress with
      | loadChallenge => exact hload rfl
      | call call => simp [hcall.1 ⟨call, rfl⟩] at hrefused
      | finish finish => cases hrequested
    · exact hw dispatch (by rw [hloading]; rfl) hcleanup

end World

/-- **Dry-run stops a cleanup exactly when its connection does.** A cleanup of an automatic event
that is claimed in dry-run is requested of Telegram if and only if its check finds the connection
effective, enabled and with the right; so in a run in which no such check does, none is
requested. -/
theorem dryRun_cleanup_requested_iff {w : World} :
    (service.Reachable w → ∀ (w' : World) (dispatch : Dispatch),
      w.dispatcher = .claimed dispatch → dispatch.DryRunCleanup →
      w.step (.dispatcher .check) = some w' →
      ((∃ call, w'.dispatcher = .calling dispatch call) ↔ dispatch.action.granted w.db = true)) ∧
    (service.ReachableBy World.CleanupRefused w → ∀ (dispatch : Dispatch) (call : Call),
      w.dispatcher = .calling dispatch call → ¬dispatch.DryRunCleanup) := by
  refine ⟨fun _ w' dispatch hclaimed hcleanup hstep => ?_, fun h dispatch call hcalling =>
    World.requested_cleanup h (by rw [hcalling]; rfl)⟩
  obtain ⟨progress, hx, hload, hcall⟩ := executeCheck_cleanup hcleanup.destructive w.db
  rw [World.step_check hclaimed hstep, Txn.commit_of_ok hx, ← hcall]
  cases progress <;> simp [World.advance]

section

open Sample

/-- A message is judged spam and its cleanup enqueued; then the Owner turns dry-run on, and the
cleanup is claimed. -/
def dryRunCleanup : List Op :=
  connected true ++ message 3 50 1 .inboundMessage .spam .correct 3 ++ command 4 (.dryRun true) 4 ++
    dispatch 5 ++ [.dispatcher (.claim 6)]

/-- The dispatcher has claimed a cleanup in dry-run, and its check passes. -/
def World.cleansInDryRun (w : World) : Bool :=
  match w.dispatcher with
  | .claimed dispatch =>
    dispatch.action.kind.destructive &&
    (dispatch.claimedIn.processedUpdate.lookup dispatch.action.sourceUpdateId).any
      (·.eventType = .lifecycle) &&
    dispatch.claimedIn.destructiveMode = some false && dispatch.action.granted w.db &&
    (w.step (.dispatcher .check)).isSome
  | _ => false

set_option maxRecDepth 100000 in
theorem dryRunCleanup_cleans : ∃ w w' dispatch, service.Reachable w ∧
    w.dispatcher = .claimed dispatch ∧ dispatch.DryRunCleanup ∧
    dispatch.action.granted w.db = true ∧ w.step (.dispatcher .check) = some w' := by
  obtain ⟨w, hw, hcleans⟩ := Machine.reachable_of_run (M := service) dryRunCleanup
    World.cleansInDryRun ⟨0, rfl⟩ (by decide +kernel)
  unfold World.cleansInDryRun at hcleans
  split at hcleans
  · next dispatch hclaimed =>
    simp only [Bool.and_eq_true, decide_eq_true_eq] at hcleans
    obtain ⟨⟨⟨⟨hkind, hauto⟩, hmode⟩, hgranted⟩, hstep⟩ := hcleans
    obtain ⟨w', hstep⟩ := Option.isSome_iff_exists.1 hstep
    exact ⟨w, w', dispatch, hw, hclaimed, ⟨hkind, hauto, hmode⟩, hgranted, hstep⟩
  · cases hcleans

/-- The cleanup of `dryRunCleanup` is requested exactly if its connection grants the right. -/
theorem dryRun_cleanup_requested_iff_sample : ∃ (w w' : World) (dispatch : Dispatch),
    service.Reachable w ∧ dispatch.DryRunCleanup ∧
    ((∃ call, w'.dispatcher = .calling dispatch call) ↔ dispatch.action.granted w.db = true) := by
  obtain ⟨w, w', dispatch, hw, hclaimed, hcleanup, -, hstep⟩ := dryRunCleanup_cleans
  exact ⟨w, w', dispatch, hw, hcleanup,
    dryRun_cleanup_requested_iff.1 hw w' dispatch hclaimed hcleanup hstep⟩

/-- **A queued cleanup is carried out in dry-run.** -/
theorem dryRun_cleanup_requested : ¬∀ (w : World) (dispatch : Dispatch) (call : Call),
    service.Reachable w → w.dispatcher = .calling dispatch call → ¬dispatch.DryRunCleanup := by
  intro h
  obtain ⟨w, w', dispatch, hw, hclaimed, hcleanup, hgranted, hstep⟩ := dryRunCleanup_cleans
  obtain ⟨progress, hx, -, hcall⟩ := executeCheck_cleanup hcleanup.destructive w.db
  obtain ⟨call, rfl⟩ := hcall.2 hgranted
  have hcalling := World.step_check hclaimed hstep
  rw [Txn.commit_of_ok hx] at hcalling
  have hw' : service.Reachable w' := Machine.ReachableBy.step (i := .dispatcher .check) hw trivial hstep
  exact h w' dispatch call hw' hcalling hcleanup

end

/-! ## Challenges nobody waits for -/

/-- A challenge is to be sent that was closed or gone when the action was claimed. -/
structure Dispatch.StaleChallenge (dispatch : Dispatch) (challengeId : Nat) : Prop where
  sends : ∃ expression expiresAt attemptsRemaining,
    dispatch.action.payload = .sendChallenge challengeId expression expiresAt attemptsRemaining
  stale : ∀ c, dispatch.claimedIn.challenge.lookup challengeId = some c → c.closedAt ≠ none

/-- The check of a challenge requests nothing: the challenge has to be loaded first. -/
theorem executeCheck_challenge {challengeId : Nat}
    (h : ∃ expression expiresAt attemptsRemaining,
      action.payload = .sendChallenge challengeId expression expiresAt attemptsRemaining)
    (db : Database) :
    ∃ progress, executeCheck action db = .ok (progress, db) ∧ ∀ call, progress ≠ .call call := by
  obtain ⟨expression, expiresAt, attemptsRemaining, hpayload⟩ := h
  unfold executeCheck
  split
  · exact ⟨_, rfl, by simp⟩
  · rw [hpayload]
    refine ⟨_, withRight_apply _ _ _ _, ?_⟩
    cases action.key with
    | none => simp
    | some key => cases hgrants : db.grants key.connectionId .reply <;> simp [hgrants]

/-- **Loading a challenge**: it is sent if it is stored, closed or not. -/
theorem executeChallenge_challenge {challengeId : Nat}
    (h : ∃ expression expiresAt attemptsRemaining,
      action.payload = .sendChallenge challengeId expression expiresAt attemptsRemaining)
    (db : Database) :
    ∃ progress, executeChallenge action db = .ok (progress, db) ∧
      ((∃ call, progress = .call call) ↔
        action.key.isSome = true ∧ db.challenge.contains challengeId = true) := by
  obtain ⟨expression, expiresAt, attemptsRemaining, hpayload⟩ := h
  unfold executeChallenge findChallengeById
  rw [hpayload]
  cases action.key with
  | none => exact ⟨_, rfl, by simp⟩
  | some key =>
    simp only [Txn.read_bind_apply]
    cases hrow : db.challenge.lookup challengeId with
    | none => exact ⟨_, rfl, by simp [Table.contains, hrow]⟩
    | some c => exact ⟨_, rfl, by simp [Table.contains, hrow]⟩

namespace World

/-- The stale challenges that a run loads are gone by then. -/
def StaleGone (w : World) (op : Op) : Prop :=
  op = .dispatcher .load → ∀ dispatch challengeId, w.dispatcher = .loading dispatch →
    dispatch.StaleChallenge challengeId → w.db.challenge.contains challengeId = false

end World

/-- **A stale challenge is sent exactly when it is still stored.** A challenge that was closed or
gone when its action was claimed is requested of Telegram, once the action gets to load it, if and
only if its row is stored; so in a run in which no such row is, none is requested. -/
theorem stale_challenge_requested_iff {w : World} :
    (service.Reachable w → ∀ (w' : World) (dispatch : Dispatch) (challengeId : Nat),
      w.dispatcher = .loading dispatch → dispatch.StaleChallenge challengeId →
      w.step (.dispatcher .load) = some w' →
      ((∃ call, w'.dispatcher = .calling dispatch call) ↔
        dispatch.action.key.isSome = true ∧ w.db.challenge.contains challengeId = true)) ∧
    (service.ReachableBy World.StaleGone w →
      ∀ (dispatch : Dispatch) (call : Call) (challengeId : Nat),
      w.dispatcher = .calling dispatch call → ¬dispatch.StaleChallenge challengeId) := by
  constructor
  · intro _ w' dispatch challengeId hloading hstale hstep
    obtain ⟨progress, hx, hcall⟩ := executeChallenge_challenge hstale.sends w.db
    rw [World.step_load hloading hstep, Txn.commit_of_ok hx, ← hcall]
    cases progress <;> simp [World.advance]
  · intro h dispatch call challengeId hcalling hstale
    refine h.invariant (P := fun w => ∀ dispatch call, w.dispatcher = .calling dispatch call →
      ¬dispatch.StaleChallenge challengeId) ?_ ?_ dispatch call hcalling hstale
    · rintro w ⟨now, rfl⟩ dispatch call hcalling
      cases hcalling
    · intro w op w' _ hw hok hstep dispatch call hcalling hstale
      rcases World.step_requested hstep (by rw [hcalling]; rfl) with
        hsame | ⟨rfl, hclaimed⟩ | ⟨rfl, hloading⟩
      · exact hw dispatch call (hsame ▸ hcalling) hstale
      · obtain ⟨progress, hx, hnone⟩ := executeCheck_challenge hstale.sends w.db
        rw [World.step_check hclaimed hstep, Txn.commit_of_ok hx] at hcalling
        cases progress with
        | call call' => exact hnone call' rfl
        | loadChallenge => cases hcalling
        | finish finish => cases hcalling
      · obtain ⟨progress, hx, hcall⟩ := executeChallenge_challenge hstale.sends w.db
        rw [World.step_load hloading hstep, Txn.commit_of_ok hx] at hcalling
        have hgone := hok rfl dispatch challengeId hloading hstale
        cases progress with
        | call call' => simp [(hcall.1 ⟨call', rfl⟩).2] at hgone
        | loadChallenge => cases hcalling
        | finish finish => cases hcalling

section

open Sample

/-- A new correspondent is challenged, the Owner replies before the challenge is sent, and the
challenge is loaded. -/
def answeredByOwner : List Op :=
  connected false ++ message 3 50 1 .inboundMessage .allow .correct 3 ++
    message 4 50 2 .manualOwnerMessage .allow .correct 4 ++
    dispatch 5 ++ [.dispatcher (.claim 6), .dispatcher .check]

/-- The dispatcher is about to load a challenge that was closed when its action was claimed. -/
def World.sendsStale (w : World) : Bool :=
  match w.dispatcher with
  | .loading dispatch =>
    match dispatch.action.payload with
    | .sendChallenge challengeId _ _ _ =>
      (dispatch.claimedIn.challenge.lookup challengeId).all (·.closedAt.isSome) &&
        dispatch.action.key.isSome && w.db.challenge.contains challengeId &&
        (w.step (.dispatcher .load)).isSome
    | _ => false
  | _ => false

set_option maxRecDepth 100000 in
theorem answeredByOwner_sendsStale : ∃ (w w' : World) (dispatch : Dispatch) (challengeId : Nat),
    service.Reachable w ∧ w.dispatcher = .loading dispatch ∧ dispatch.StaleChallenge challengeId ∧
    (dispatch.action.key.isSome = true ∧ w.db.challenge.contains challengeId = true) ∧
    w.step (.dispatcher .load) = some w' := by
  obtain ⟨w, hw, hsends⟩ := Machine.reachable_of_run (M := service) answeredByOwner
    World.sendsStale ⟨0, rfl⟩ (by decide +kernel)
  unfold World.sendsStale at hsends
  split at hsends
  · next dispatch hloading =>
    split at hsends
    · next challengeId expression expiresAt attemptsRemaining hpayload =>
      simp only [Bool.and_eq_true] at hsends
      obtain ⟨⟨⟨hclosed, hkey⟩, hstored⟩, hstep⟩ := hsends
      obtain ⟨w', hstep⟩ := Option.isSome_iff_exists.1 hstep
      refine ⟨w, w', dispatch, challengeId, hw, hloading, ⟨⟨_, _, _, hpayload⟩, ?_⟩,
        ⟨hkey, hstored⟩, hstep⟩
      intro c hc hnone
      simp [hc, hnone] at hclosed
    · cases hsends
  · cases hsends

/-- The challenge of `answeredByOwner` is sent exactly if it is stored. -/
theorem stale_challenge_requested_iff_sample : ∃ (w w' : World) (dispatch : Dispatch)
    (challengeId : Nat), service.Reachable w ∧ dispatch.StaleChallenge challengeId ∧
    ((∃ call, w'.dispatcher = .calling dispatch call) ↔
      dispatch.action.key.isSome = true ∧ w.db.challenge.contains challengeId = true) := by
  obtain ⟨w, w', dispatch, challengeId, hw, hloading, hstale, -, hstep⟩ :=
    answeredByOwner_sendsStale
  exact ⟨w, w', dispatch, challengeId, hw, hstale,
    stale_challenge_requested_iff.1 hw w' dispatch challengeId hloading hstale hstep⟩

/-- **A challenge the Owner has already answered for is sent.** -/
theorem stale_challenge_requested : ¬∀ (w : World) (dispatch : Dispatch) (call : Call)
    (challengeId : Nat), service.Reachable w → w.dispatcher = .calling dispatch call →
    ¬dispatch.StaleChallenge challengeId := by
  intro h
  obtain ⟨w, w', dispatch, challengeId, hw, hloading, hstale, hstored, hstep⟩ :=
    answeredByOwner_sendsStale
  obtain ⟨progress, hx, hcall⟩ := executeChallenge_challenge hstale.sends w.db
  obtain ⟨call, rfl⟩ := hcall.2 hstored
  have hcalling := World.step_load hloading hstep
  rw [Txn.commit_of_ok hx] at hcalling
  have hw' : service.Reachable w' := Machine.ReachableBy.step (i := .dispatcher .load) hw trivial hstep
  exact h w' dispatch call challengeId hw' hcalling hstale

end

end ChatHygiene
