import ChatHygiene.Connection.Confirmed
import ChatHygiene.Outbox.Stale
/-!
# The permission gate

A trigger for a stored connection opens a window as its recording commits. The
window closes with the commit of a reconciliation that takes on a response about
the connection, fetched by a lookup that began after the window had opened.
Throughout it the connection is not confirmed, so no check of a right succeeds,
and a request that is on its way rests on a check from before.
-/

namespace ChatHygiene

open Txn (Respects commit)

variable {db db' : Database}

/-- A trigger, recorded for a connection that was stored. -/
structure Window where
  updateId : Int
  connectionId : String
  deriving DecidableEq

/-- A check of the dispatcher: its action, and the database and the open windows it was evaluated
in. -/
structure GateCheck where
  action : OutboxActionRecord
  db : Database
  windows : List Window

/-- The service with its windows. All but the first field is history: the windows that are open,
those that were when the last lookup began, and the last check. -/
structure GateWorld where
  world : World
  windows : List Window
  covered : List Window
  checked : Option GateCheck

/-- The window the step opens. -/
def World.opens (w : World) (op : Op) : List Window :=
  match op, w.worker with
  | .worker .record, .prepared event _ =>
    match recordPreparedEvent event w.db, event.facts.connectionId with
    | .ok (.recorded, _), some connectionId =>
      if event.isTrigger && w.db.businessConnection.contains connectionId then
        [⟨event.updateId, connectionId⟩]
      else []
    | _, _ => []
  | _, _ => []

/-- A lookup begins with this step. -/
def Op.looksUp : Op → Bool
  | .worker .startupSnapshot | .worker .triggerSnapshot | .worker .startupRetrySnapshot => true
  | _ => false

namespace GateWorld

/-- The check made by the step. -/
def checks (s : GateWorld) (op : Op) : Option GateCheck :=
  match op, s.world.dispatcher with
  | .dispatcher .check, .claimed dispatch => some ⟨dispatch.action, s.world.db, s.windows⟩
  | _, _ => none

/-- The window is closed by what the step takes on. -/
def closes (s : GateWorld) (op : Op) (x : Window) : Bool :=
  s.world.reconciles op = some x.connectionId && decide (x ∈ s.covered)

def step (s : GateWorld) (op : Op) : Option GateWorld :=
  (s.world.step op).map fun w' =>
    { world := w'
      windows := s.windows.filter (fun x => !s.closes op x) ++ s.world.opens op
      covered := if op.looksUp then s.windows else s.covered
      checked := (s.checks op).or s.checked }

end GateWorld

/-- The service with its windows, before its first start. -/
def gateService : Machine GateWorld Op where
  init s := ∃ now, s = ⟨.initial now, [], [], none⟩
  step := GateWorld.step

/-! ## Lookups -/

/-- The worker waits for the answer to a lookup about a trusted connection. -/
def WorkerPhase.looking : WorkerPhase → Bool
  | .startupLookup .. | .triggerLookup .. | .startupRetry .. => true
  | _ => false

namespace World

theorem afterRecord_looking (w : World) (event : PreparedEvent) (preparedIn : Database)
    (result : Except Error RecordReceipt) :
    (w.afterRecord event preparedIn result).worker.looking = false := by
  unfold afterRecord
  split
  · rfl
  · rfl
  · split
    · cases event.facts.connectionId <;> rfl
    · rfl

theorem looking_of_rests {phase : WorkerPhase} (h : phase.rests = true) :
    phase.looking = false := by
  cases phase <;> first | rfl | cases h

/-- **A lookup begins with a snapshot.** -/
theorem stepWorker_looking {w w' : World} {op : WorkerOp} (h : w.stepWorker op = some w')
    (hlooking : w'.worker.looking = true) : (Op.worker op).looksUp = true := by
  cases stepWorker_step h with
  | rests hrests =>
    rw [looking_of_rests hrests] at hlooking
    cases hlooking
  | takesOn phase htakes hw' =>
    subst hw'
    cases htakes <;> first | rfl | cases hlooking
  | records event preparedIn hw hop hw' =>
    subst hw'
    rw [afterRecord_looking] at hlooking
    cases hlooking

/-- A step that is no step of the worker leaves the worker where it is, or takes the process
down. -/
theorem step_looking {w w' : World} {op : Op} (h : w.step op = some w')
    (hlooking : w'.worker.looking = true) :
    op.looksUp = true ∨ w'.worker = w.worker ∧ w.opens op = [] := by
  cases op with
  | worker op => exact .inl (stepWorker_looking h hlooking)
  | dispatcher op =>
    obtain ⟨-, h⟩ := Option.ite_none_right_eq_some.1 h
    exact .inr ⟨(stepDispatcher_frame h).1, rfl⟩
  | crash =>
    cases h
    cases hlooking

/-- What the step takes on is the answer to a lookup. -/
theorem looking_of_reconciles {w : World} {op : Op} {connectionId : String}
    (h : w.reconciles op = some connectionId) : w.worker.looking = true := by
  unfold reconciles at h
  split at h <;> first | (next hw => rw [hw]; rfl) | cases h

end World

/-! ## The gate -/

theorem gateMatchingTrustedForReconciliation_gates {connectionId : String} {now : DateTime}
    {gated : Option Nat}
    (h : gateMatchingTrustedForReconciliation connectionId now db = .ok (gated, db')) :
    ∀ c ∈ db'.businessConnection.rows, c.connectionId = connectionId →
      c.reconciliationState ≠ .confirmed := by
  intro c' hc' hid
  unfold gateMatchingTrustedForReconciliation loadBusinessConnectionForReconciliation at h
  simp only [Txn.read_bind_apply] at h
  cases hlookup : db.businessConnection.lookup connectionId with
  | none =>
    rw [hlookup] at h
    obtain ⟨-, rfl⟩ := Prod.mk.inj (Txn.pure_ok_iff.1 h)
    exact absurd hid (Table.lookup_eq_none_iff.1 hlookup c' hc')
  | some current =>
    rw [hlookup] at h
    dsimp only at h
    have honly {c : BusinessConnectionRecord} (hc : c ∈ db.businessConnection.rows)
        (hid : c.connectionId = connectionId) : c = current := by
      have hc := Table.lookup_of_mem hc
      rw [hid, hlookup] at hc
      exact (Option.some.inj hc).symm
    split at h
    · next hpending =>
      obtain ⟨-, rfl⟩ := Prod.mk.inj (Txn.pure_ok_iff.1 h)
      rw [honly hc' hid, hpending]
      simp
    · next hconfirmed =>
      obtain ⟨affected, s, hupdate, hrest⟩ := Txn.bind_ok_iff.1 h
      obtain ⟨⟨⟩, s', hone, hpure⟩ := Txn.bind_ok_iff.1 hrest
      obtain ⟨-, rfl⟩ := updateOne_ok hone
      obtain ⟨-, rfl⟩ := Prod.mk.inj (Txn.pure_ok_iff.1 hpure)
      rw [(updateConnection_ok hupdate).2.1] at hc'
      obtain ⟨c, hc, rfl⟩ := List.mem_map.1 hc'
      split at hid
      · next hp => rw [if_pos hp]; simp [BusinessConnectionRecord.gated]
      · next hp =>
        obtain rfl := honly hc hid
        rw [if_neg hp]
        intro hstate
        exact hp (by simp [BusinessConnectionRecord.atRevision, hstate])

/-- **The recording of a trigger closes the gate.** -/
theorem recordPreparedEvent_gates {event : PreparedEvent} {connectionId : String}
    (h : recordPreparedEvent event db = .ok (.recorded, db')) (htrigger : event.isTrigger = true)
    (hid : event.facts.connectionId = some connectionId) :
    ∀ c ∈ db'.businessConnection.rows, c.connectionId = connectionId →
      c.reconciliationState ≠ .confirmed := by
  unfold recordPreparedEvent at h
  obtain ⟨⟨⟩, -, h⟩ := Txn.bind_ok_of_readOnly (validateFacts_readOnly _) h
  obtain ⟨trigger, htrigger', h⟩ := Txn.bind_ok_of_readOnly (connectionTriggerId_readOnly _) h
  obtain rfl : trigger = some connectionId := by
    unfold connectionTriggerId at htrigger'
    rw [if_neg (by simp [htrigger]), hid] at htrigger'
    cases hc : (some connectionId).filter (!blank ·) with
    | some c =>
      rw [hc] at htrigger'
      obtain ⟨rfl, -⟩ := Prod.mk.inj (Txn.pure_ok_iff.1 htrigger')
      exact (Option.filter_eq_some_iff.1 hc).1.symm
    | none =>
      rw [hc] at htrigger'
      cases htrigger'
  obtain ⟨inserted, s, hinsert, h⟩ := Txn.bind_ok_iff.1 h
  cases inserted with
  | true =>
    obtain ⟨gated, s', hgate, h⟩ := Txn.bind_ok_iff.1 h
    obtain ⟨-, rfl⟩ := Prod.mk.inj (Txn.pure_ok_iff.1 h)
    exact gateMatchingTrustedForReconciliation_gates hgate
  | false =>
    simp only [Bool.false_eq_true, if_false, Txn.read_bind_apply] at h
    cases hrow : s.processedUpdate.lookup event.updateId with
    | none =>
      rw [hrow] at h
      cases h
    | some row =>
      rw [hrow] at h
      cases hstatus : row.status <;> (simp only [Option.map_some, hstatus] at h; cases h)

/-! ## Checks -/

/-- The connection a request is made for. -/
def TelegramRequest.connection : TelegramRequest → Option String
  | .sendBusinessMessage businessConnectionId _ _ => businessConnectionId
  | .editBusinessMessage businessConnectionId _ _ _ => some businessConnectionId
  | .readBusinessMessage businessConnectionId _ _ => some businessConnectionId
  | .deleteBusinessMessages businessConnectionId _ => some businessConnectionId

/-- The connection a dispatch goes on for. -/
def Progress.connection (action : OutboxActionRecord) : Progress → Option String
  | .loadChallenge => action.key.map (·.connectionId)
  | .call made => made.request.connection
  | .finish _ => none

/-- The connection a dispatch that has passed its check goes on for. -/
def DispatcherPhase.connection : DispatcherPhase → Option String
  | .loading dispatch => dispatch.action.key.map (·.connectionId)
  | .calling _ call => call.request.connection
  | _ => none

theorem withRight_granted {action : OutboxActionRecord} {required : RequiredRight}
    {next : ConversationKey → Progress} {progress : Progress} {connectionId : String}
    (hnext : ∀ key, action.key = some key →
      (next key).connection action = some connectionId → key.connectionId = connectionId)
    (h : withRight action required next db = .ok (progress, db'))
    (hprogress : progress.connection action = some connectionId) :
    db.grants connectionId required = true := by
  rw [withRight_apply] at h
  obtain ⟨rfl, -⟩ := Prod.mk.inj (Except.ok.inj h)
  cases hkey : action.key with
  | none =>
    rw [hkey] at hprogress
    cases hprogress
  | some key =>
    rw [hkey] at hprogress
    dsimp only at hprogress
    split at hprogress
    · next hgrants => rwa [hnext key hkey hprogress] at hgrants
    · cases hprogress

/-- **A dispatch goes on for a connection that grants a right.** -/
theorem executeCheck_granted {action : OutboxActionRecord} {progress : Progress}
    {connectionId : String} (h : executeCheck action db = .ok (progress, db'))
    (hprogress : progress.connection action = some connectionId) :
    ∃ required, db.grants connectionId required = true := by
  have hpure {progress' : Progress}
      (h : (pure progress' : Uow Progress) db = .ok (progress, db'))
      (hnone : progress'.connection action = none) :
      ∃ required, db.grants connectionId required = true := by
    obtain ⟨rfl, -⟩ := Prod.mk.inj (Txn.pure_ok_iff.1 h)
    rw [hnone] at hprogress
    cases hprogress
  unfold executeCheck at h
  split at h
  · refine hpure h ?_
    unfold uncertainFinish
    split <;> rfl
  cases hpayload : action.payload with
  | sendChallenge challengeId expression expiresAt attemptsRemaining =>
    rw [hpayload] at h
    exact ⟨_, withRight_granted (fun key hkey => by simp [Progress.connection, hkey]) h hprogress⟩
  | editChallenge challengeId status attemptsRemaining =>
    rw [hpayload] at h
    exact ⟨_, withRight_granted (fun key hkey => by simp [Progress.connection, hkey]) h hprogress⟩
  | readBusinessMessage messageId =>
    rw [hpayload] at h
    refine ⟨_, withRight_granted ?_ h hprogress⟩
    intro key _ hid
    exact Option.some.inj hid
  | deleteBusinessMessages messageIds =>
    rw [hpayload] at h
    refine ⟨_, withRight_granted ?_ h hprogress⟩
    intro key _ hid
    exact Option.some.inj hid
  | sendPrivateMessage chatId messageKind =>
    rw [hpayload] at h
    refine hpure h ?_
    unfold executePrivateMessage
    split <;> rfl
  | proposedDestructiveAction reason score hours =>
    rw [hpayload] at h
    exact hpure h rfl
  | sendOwnerMessage payload =>
    rw [hpayload] at h
    -- an owner message is sent for no connection
    exfalso
    have hnone : Txn.Returns (fun progress : Progress => progress.connection action = none)
        (executeOwnerMessage action payload) := by
      unfold executeOwnerMessage
      split
      · exact .pure rfl
      · split
        · exact .pure rfl
        · refine .bind fun chat => ?_
          cases chat with
          | none => exact .pure rfl
          | some chat => exact .pure rfl
    rw [hnone _ _ _ h] at hprogress
    cases hprogress

/-- A challenge is loaded for the connection that was checked. -/
theorem executeChallenge_connection {action : OutboxActionRecord} {progress : Progress}
    {connectionId : String} (h : executeChallenge action db = .ok (progress, db'))
    (hprogress : progress.connection action = some connectionId) :
    action.key.map (·.connectionId) = some connectionId := by
  have hreturns : Txn.Returns (fun progress : Progress => progress.connection action = none ∨
      progress.connection action = action.key.map (·.connectionId)) (executeChallenge action) := by
    unfold executeChallenge
    split
    · next key challengeId _ _ _ hkey _ =>
      refine .bind fun challenge => ?_
      cases challenge with
      | none => exact .pure (.inl rfl)
      | some challenge => exact .pure (.inr (by rw [hkey]; rfl))
    · next key challengeId status attemptsRemaining hkey _ =>
      refine .bind fun challenge => ?_
      cases challenge with
      | none => exact .pure (.inl rfl)
      | some challenge =>
        dsimp only
        split
        · exact .pure (.inr (by rw [hkey]; rfl))
        · exact .ite (fun _ => .pure (.inl rfl)) fun _ => .pure (.inl rfl)
    · exact .pure (.inl rfl)
  rcases hreturns _ _ _ h with hnone | hsame
  · rw [hnone] at hprogress
    cases hprogress
  · exact hsame ▸ hprogress

/-- **Where the connection of a dispatch comes from**: it was there, or a check has just passed. -/
theorem World.step_connection {w w' : World} {op : Op} {connectionId : String}
    (h : w.step op = some w') (hconnection : w'.dispatcher.connection = some connectionId) :
    w.dispatcher.connection = some connectionId ∧ op ≠ .dispatcher .check ∧
        w'.dispatcher.dispatch = w.dispatcher.dispatch ∨
      ∃ dispatch required, op = .dispatcher .check ∧ w.dispatcher = .claimed dispatch ∧
        w'.dispatcher.dispatch = some dispatch ∧ w.db.grants connectionId required = true := by
  -- only a transaction that has committed moves the dispatch on
  have hadvance {dispatch : Dispatch} {r : Except Error Progress}
      (h : (advance dispatch r).connection = some connectionId) :
      ∃ progress, r = .ok progress ∧ progress.connection dispatch.action = some connectionId ∧
        (advance dispatch r).dispatch = some dispatch := by
    cases r with
    | error error => cases h
    | ok progress => cases progress <;> exact ⟨_, rfl, h, rfl⟩
  cases op with
  | worker op =>
    rw [stepWorker_dispatcher h] at hconnection ⊢
    exact .inl ⟨hconnection, by simp, rfl⟩
  | crash =>
    cases h
    cases hconnection
  | dispatcher op =>
    obtain ⟨-, h⟩ := Option.ite_none_right_eq_some.1 h
    unfold stepDispatcher at h
    split at h
    · cases h
      exfalso
      revert hconnection
      simp only [commitDispatcher]
      unfold afterClaim
      split <;> simp [DispatcherPhase.connection]
    · next dispatch hw hop =>
      cases h
      obtain ⟨progress, hr, hprogress, hdispatch⟩ := hadvance hconnection
      cases hx : executeCheck dispatch.action w.db with
      | error error =>
        rw [Txn.commit_of_error hx] at hr
        cases hr
      | ok r =>
        obtain ⟨progress', db'⟩ := r
        rw [Txn.commit_of_ok hx] at hr
        obtain rfl := Except.ok.inj hr
        obtain ⟨required, hgrants⟩ := executeCheck_granted hx hprogress
        exact .inr ⟨dispatch, required, rfl, hw, hdispatch, hgrants⟩
    · next dispatch hw hop =>
      cases h
      obtain ⟨progress, hr, hprogress, hdispatch⟩ := hadvance hconnection
      cases hx : executeChallenge dispatch.action w.db with
      | error error =>
        rw [Txn.commit_of_error hx] at hr
        cases hr
      | ok r =>
        obtain ⟨progress', db'⟩ := r
        rw [Txn.commit_of_ok hx] at hr
        obtain rfl := Except.ok.inj hr
        -- the challenge is loaded under the check that came before it
        refine .inl ⟨?_, by simp, by rw [hw]; exact hdispatch⟩
        rw [hw]
        exact executeChallenge_connection hx hprogress
    · cases h
      cases hconnection
    · cases h
      cases hconnection
    · cases h
      cases hconnection
    · cases h

/-! ## Runs -/

namespace GateWorld

/-- **The gate holds**: no connection with an open window is confirmed, and what the dispatcher is
about to request rests on a check from outside the windows. -/
structure Gated (s : GateWorld) : Prop where
  reachable : service.Reachable s.world
  claimed : s.windows ≠ [] → s.world.db.ownerIdentity.isClaimed = true
  covered : s.world.worker.looking = true → ∀ x ∈ s.windows, x ∈ s.covered
  gate : ∀ x ∈ s.windows, ∀ c ∈ s.world.db.businessConnection.rows,
    c.connectionId = x.connectionId → c.reconciliationState ≠ .confirmed
  rests : ∀ connectionId, s.world.dispatcher.connection = some connectionId →
    ∃ check required, s.checked = some check ∧
      s.world.dispatcher.dispatch.map (·.action) = some check.action ∧
      check.db.grants connectionId required = true ∧
      ∀ x ∈ check.windows, x.connectionId ≠ connectionId

/-- A right is granted by a confirmed connection. -/
theorem confirmed_of_grants {connectionId : String} {required : RequiredRight}
    (h : db.grants connectionId required = true) :
    ∃ c ∈ db.businessConnection.rows, c.connectionId = connectionId ∧
      c.reconciliationState = .confirmed := by
  simp only [Database.grants, Bool.and_eq_true, decide_eq_true_eq, Option.any_eq_true] at h
  obtain ⟨-, c, hlookup, ⟨hconfirmed, -⟩, -⟩ := h
  exact ⟨c, Table.mem_of_lookup hlookup, Table.key_of_lookup hlookup, hconfirmed⟩

/-- The window that a step opens. -/
theorem mem_opens {w : World} {op : Op} {x : Window} (h : x ∈ w.opens op) :
    ∃ event preparedIn db', op = .worker .record ∧ w.worker = .prepared event preparedIn ∧
      recordPreparedEvent event w.db = .ok (.recorded, db') ∧ event.isTrigger = true ∧
      event.facts.connectionId = some x.connectionId ∧
      w.db.businessConnection.contains x.connectionId = true := by
  unfold World.opens at h
  split at h
  · next event preparedIn hworker =>
    split at h
    · next db' connectionId hrecord hid =>
      split at h
      · next hopens =>
        obtain rfl := List.mem_singleton.1 h
        rw [Bool.and_eq_true] at hopens
        exact ⟨event, preparedIn, db', rfl, hworker, hrecord, hopens.1, hid, hopens.2⟩
      · cases h
    · cases h
  · cases h

theorem isClaimed_of_ownerUserId {o : OwnerLifecycleState} {user : Int}
    (h : o.ownerUserId = some user) : o.isClaimed = true := by
  match o with
  | .ready (.claimed ..) => rfl

/-- **One step keeps the gate.** -/
theorem Gated.step {s s' : GateWorld} {op : Op} (h : s.Gated) (hstep : s.step op = some s') :
    s'.Gated := by
  obtain ⟨w', hworld, rfl⟩ := Option.map_eq_some_iff.1 hstep
  have hprepared : s.world.EventsPrepared := World.eventsPrepared h.reachable
  have hsingle : s.world.db.SingleTrusted := World.singleTrusted h.reachable
  have hages : OwnerAges s.world.db w'.db := (hprepared.bindingKept hworld).owner
  -- a window is old, or has just been opened
  have hmem {x : Window} (hx : x ∈ s.windows.filter (fun x => !s.closes op x) ++ s.world.opens op) :
      x ∈ s.windows ∧ s.closes op x = false ∨ x ∈ s.world.opens op := by
    rcases List.mem_append.1 hx with hx | hx
    · obtain ⟨hx, hcloses⟩ := List.mem_filter.1 hx
      exact .inl ⟨hx, by simpa using hcloses⟩
    · exact .inr hx
  refine ⟨h.reachable.step trivial hworld, fun hne => ?_, fun hlooking x hx => ?_,
    fun x hx c hc hid => ?_, fun connectionId hconnection => ?_⟩
  · obtain ⟨x, hx⟩ := List.exists_mem_of_ne_nil _ hne
    refine hages.isClaimed ?_
    rcases hmem hx with ⟨hx, -⟩ | hx
    · exact h.claimed (List.ne_nil_of_mem hx)
    · obtain ⟨event, preparedIn, db', -, -, -, -, -, hstored⟩ := mem_opens hx
      obtain ⟨c, hc, -⟩ := Table.contains_iff.1 hstored
      exact isClaimed_of_ownerUserId (hsingle.owned c hc)
  · rcases World.step_looking hworld hlooking with hlooks | ⟨hsame, hnone⟩
    · rcases hmem hx with ⟨hx, -⟩ | hx
      · exact (if_pos hlooks).symm ▸ hx
      · obtain ⟨event, preparedIn, db', rfl, -⟩ := mem_opens hx
        cases hlooks
    · have hx : x ∈ s.windows := by
        rcases hmem hx with ⟨hx, -⟩ | hx
        · exact hx
        · rw [hnone] at hx
          cases hx
      dsimp only
      split
      · exact hx
      · exact h.covered (hsame ▸ hlooking) x hx
  · rcases hmem hx with ⟨hx, hcloses⟩ | hx
    · intro hconfirmed
      have hclaimed : s.world.db.ownerIdentity ≠ .ready .unclaimed := by
        intro howner
        have hclaimed := h.claimed (List.ne_nil_of_mem hx)
        rw [howner] at hclaimed
        cases hclaimed
      -- a connection that was not confirmed is the one a response has been taken on for
      rcases hprepared.confirmedBy hclaimed hworld c hc hconfirmed with ⟨d, hd, hdc, hdconf⟩ | htaken
      · exact h.gate x hx d hd (hdc.trans hid) hdconf
      · have hcovered := h.covered (World.looking_of_reconciles htaken) x hx
        simp [closes, htaken, hid, hcovered] at hcloses
    · obtain ⟨event, preparedIn, db', rfl, hworker, hrecord, htrigger, hfacts, -⟩ := mem_opens hx
      have hdb : w'.db = db' := by
        simp only [World.step, World.stepWorker, hworker, Txn.commit_of_ok hrecord] at hworld
        cases hworld
        exact World.afterRecord_db _ _ _ _
      exact recordPreparedEvent_gates hrecord htrigger hfacts c (hdb ▸ hc) hid
  · rcases World.step_connection hworld hconnection with ⟨hbefore, hop, hdispatch⟩ |
      ⟨dispatch, required, rfl, hclaimed, hdispatch, hgrants⟩
    · obtain ⟨check, required, hchecked, haction, hgrants, hclear⟩ := h.rests connectionId hbefore
      refine ⟨check, required, ?_, hdispatch ▸ haction, hgrants, hclear⟩
      have hnone : s.checks op = none := by
        unfold checks
        split
        · exact absurd rfl hop
        · rfl
      rw [hnone]
      exact hchecked
    · refine ⟨⟨dispatch.action, s.world.db, s.windows⟩, required, ?_, by rw [hdispatch]; rfl,
        hgrants, fun x hx heq => ?_⟩
      · simp [checks, hclaimed]
      · obtain ⟨c, hc, hcid, hconfirmed⟩ := confirmed_of_grants hgrants
        exact h.gate x hx c hc (hcid.trans heq.symm) hconfirmed

theorem gated {s : GateWorld} (h : gateService.Reachable s) : s.Gated := by
  refine h.invariant (P := Gated) ?_ fun s op s' _ ih _ hstep => ih.step hstep
  rintro _ ⟨now, rfl⟩
  refine ⟨⟨_, ⟨now, rfl⟩, .refl _⟩, fun hne => absurd rfl hne, fun h => ?_, fun x hx => ?_, fun _ h => ?_⟩
  · cases h
  · cases hx
  · cases h

/-- Every run of the service has its windows. -/
theorem exists_of_reachable {w : World} (h : service.Reachable w) :
    ∃ s, gateService.Reachable s ∧ s.world = w := by
  refine Machine.ReachableBy.follow h ?_ fun s op w' hstep => ?_
  · rintro _ ⟨now, rfl⟩
    exact ⟨_, ⟨now, rfl⟩, rfl⟩
  · exact ⟨_, congrArg (Option.map _) hstep, rfl⟩

end GateWorld

section

/-- **The permission gate.** While a window is open its connection is not confirmed and no check of a
right succeeds for it; and a business request that is on its way rests on a check of its action
that succeeded for its connection while none of its windows was open. -/
theorem permission_gate {s : GateWorld} (h : gateService.Reachable s) :
    (∀ x ∈ s.windows,
      (∀ c ∈ s.world.db.businessConnection.rows, c.connectionId = x.connectionId →
        c.reconciliationState ≠ .confirmed) ∧
      ∀ required, ensureRight x.connectionId required s.world.db = .ok (false, s.world.db)) ∧
    ∀ dispatch call connectionId, s.world.dispatcher = .calling dispatch call →
      call.request.connection = some connectionId →
      ∃ check required, s.checked = some check ∧ check.action = dispatch.action ∧
        ensureRight connectionId required check.db = .ok (true, check.db) ∧
        ∀ x ∈ check.windows, x.connectionId ≠ connectionId := by
  have hs := GateWorld.gated h
  refine ⟨fun x hx => ⟨hs.gate x hx, fun required => ?_⟩,
    fun dispatch call connectionId hcalling hconnection => ?_⟩
  · rw [ensureRight_apply]
    cases hgrants : s.world.db.grants x.connectionId required with
    | false => rfl
    | true =>
      obtain ⟨c, hc, hid, hconfirmed⟩ := GateWorld.confirmed_of_grants hgrants
      exact absurd hconfirmed (hs.gate x hx c hc hid)
  · obtain ⟨check, required, hchecked, haction, hgrants, hclear⟩ :=
      hs.rests connectionId (by rw [hcalling]; exact hconnection)
    rw [hcalling] at haction
    refine ⟨check, required, hchecked, (Option.some.inj haction).symm, ?_, hclear⟩
    rw [ensureRight_apply, hgrants]

open Sample

/-- A challenge is on its way as a connection update arrives. -/
def updatedInFlight : List Op :=
  connected true ++ message 3 50 1 .inboundMessage .allow .correct 3 ++ dispatch 4 ++
    [.dispatcher (.claim 4), .dispatcher .check, .dispatcher .load,
      .worker (.prepare 4 (raw .businessConnectionChanged "c" none none none 4)
        (preparer .allow .correct 4)), .worker .record]

/-- A window is open, and a request for its connection is on its way. -/
def GateWorld.windowed (s : GateWorld) : Bool :=
  s.windows = [⟨4, "c"⟩] &&
    match s.world.dispatcher with
    | .calling _ call => call.request.connection = some "c"
    | _ => false

set_option maxRecDepth 100000 in
theorem updatedInFlight_windowed : ∃ s, gateService.Reachable s ∧ s.windowed = true :=
  Machine.reachable_of_run updatedInFlight GateWorld.windowed ⟨0, rfl⟩ (by decide +kernel)

/-- The request rests on a check from before the window, and no new check succeeds. -/
theorem permission_gate_updated : ∃ s, gateService.Reachable s ∧ s.windows = [⟨4, "c"⟩] ∧
    ensureRight "c" .reply s.world.db = .ok (false, s.world.db) ∧
    ∃ check required, s.checked = some check ∧
      ensureRight "c" required check.db = .ok (true, check.db) := by
  obtain ⟨s, hs, hwindowed⟩ := updatedInFlight_windowed
  simp only [GateWorld.windowed, Bool.and_eq_true, decide_eq_true_eq] at hwindowed
  obtain ⟨hwindows, hcalling⟩ := hwindowed
  split at hcalling
  · next dispatch call hphase =>
    obtain ⟨hclosed, hrests⟩ := permission_gate hs
    obtain ⟨check, required, hchecked, -, hright, -⟩ :=
      hrests dispatch call "c" hphase (of_decide_eq_true hcalling)
    exact ⟨s, hs, hwindows, (hclosed ⟨4, "c"⟩ (by simp [hwindows])).2 .reply, check, required,
      hchecked, hright⟩
  · cases hcalling

end

end ChatHygiene
