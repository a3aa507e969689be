import ChatHygiene.Binding.Claim
import ChatHygiene.Connection.Named
/-!
# The promotion of a claimant's candidate

A claim is decided from a snapshot and the answer to a lookup, and committed
later. Whatever has happened in between, an installation that is still
unclaimed is bound; its claimant's candidate is promoted only if nothing the
decision rests on has changed.
-/

namespace ChatHygiene

open Txn (Respects Yields Succeeds commit)

variable {db db' : Database} {updateId : Int}

/-! ## The steps of a claim -/

theorem claimOwner_yields {user chat floor : Int} (howner : db.ownerIdentity = .ready .unclaimed)
    (hpositive : 0 < user ∧ 0 < chat ∧ 0 < floor) (boundAt : DateTime) :
    Yields (claimOwner user chat floor boundAt) db fun _ db' =>
      db'.ownerIdentity = .ready (.claimed user chat .claim (some floor) boundAt) ∧
        Frame [.owner] db.toTables db'.toTables := by
  refine yields_frame ?_ (claimOwner_writes (by simp) _ _ _ _)
  have hupdate : db.toTables.updateOwner (· = .ready .unclaimed) (fun _ =>
      .ready (.claimed user chat .claim (some floor) boundAt)) = .ok (1, _) :=
    if_pos (by simp [howner])
  unfold claimOwner loadOwnerLifecycleState
  rw [if_neg (by omega)]
  refine Yields.bind_read ?_
  rw [howner]
  refine Yields.bind (Uow.statement_yields hupdate) ?_
  rintro _ db' ⟨rfl, hdb⟩
  have howner' : db'.ownerIdentity = .ready (.claimed user chat .claim (some floor) boundAt) := by
    rw [hdb]
  rw [if_neg (by simp)]
  unfold loadOwnerIdentity loadOwnerLifecycleState
  refine Yields.bind_read ?_
  rw [howner']
  exact .pure howner'

theorem insertRedactedUpdate_yields (h : db.processedUpdate.lookup updateId = none)
    (eventType : EventType) (occurredAt : DateTime) :
    Yields (insertRedactedUpdate updateId eventType occurredAt) db fun _ db' =>
      db'.processedUpdate.contains updateId = true ∧ Frame [.update] db.toTables db'.toTables := by
  refine yields_frame ?_ (insertRedactedUpdate_writes (by simp) _ _)
  unfold insertRedactedUpdate
  refine (Uow.statement_yields (dif_pos h)).mono ?_
  rintro _ db' ⟨-, hdb⟩
  rw [hdb]
  simp [Table.contains]

/-- The candidates of a user. -/
def Database.claimants (db : Database) (businessUserId : Int) :
    List BusinessConnectionCandidate :=
  db.candidate.rows.filter (·.businessUserId = businessUserId)

theorem candidatesForUser_ok (db : Database) {businessUserId : Int} (h : 0 < businessUserId) :
    ∃ candidates, candidatesForUser businessUserId db = .ok (candidates, db) ∧
      candidates.Perm (db.claimants businessUserId) := by
  unfold candidatesForUser
  rw [if_neg (by omega)]
  exact ⟨_, rfl, List.perm_insertionSort _ _⟩

/-- Without a trusted connection an authentication failure is stored. -/
theorem setTelegramAuthFailed_yields (hrows : db.businessConnection.rows = []) (now : DateTime) :
    Yields (setTelegramAuthFailed now) db fun _ db' =>
      db'.businessConnection.rows = [] ∧
        Frame [.reconciliation, .connection] db.toTables db'.toTables := by
  refine yields_frame ?_ (setTelegramAuthFailed_writes (by simp) now)
  have hsingle : requireSingleTrusted db = .ok (none, db) := requireSingleTrusted_of_rows hrows
  have hgate (s : Database) (hs : s.businessConnection.rows = []) : Yields (do
      let _ ← Uow.updateConnection (fun c => c.enabled || c.reconciliationState ≠ .pending)
        (BusinessConnectionRecord.gated true now) (BusinessConnectionRecord.gated_change ..)
      loadTelegramReconciliationState : Uow TelegramReconciliationState) s
      fun _ s' => s'.businessConnection.rows = [] := by
    refine Yields.bind (Uow.statement_yields rfl) ?_
    rintro _ s' ⟨-, hs'⟩
    refine .read ?_
    rw [hs']
    exact List.map_eq_nil_iff.2 hs
  unfold setTelegramAuthFailed
  refine Yields.bind_read (Yields.bind_of_ok hsingle ?_)
  split
  · have hupdate : db.toTables.updateReconciliation
        (fun g => g.stateRevision = db.reconciliation.stateRevision)
        (TelegramReconciliationState.move .authFailed now) = .ok (1, _) := if_pos (by simp)
    refine Yields.bind (Uow.statement_yields hupdate) ?_
    rintro _ s ⟨rfl, hs⟩
    rw [updateOne_of_eq rfl]
    exact Yields.bind_pure (hgate s (by rw [hs]; exact hrows))
  · exact hgate db hrows

/-! ## The promotion -/

/-- What a claim has to find for a candidate to be promoted: that nothing its decision rests on has
changed since its snapshot, and that the response is the candidate's. -/
structure Promotes (snapshot : OwnerClaimSnapshot) (global : TelegramReconciliationState)
    (guard : CandidateGuard) (candidates : List BusinessConnectionCandidate)
    (response : Option AuthoritativeBusinessConnection) (seen candidate : BusinessConnectionCandidate)
    (fresh : AuthoritativeBusinessConnection) : Prop where
  wasReady : snapshot.global.state = .ready
  ready : global.state = .ready
  sameGlobal : snapshot.global.stateRevision = global.stateRevision
  sameGuard : snapshot.guard = guard
  unset : guard.overflowEstablishedAt = none
  one : snapshot.candidates = [seen]
  stillOne : candidates = [candidate]
  sameConnection : seen.connectionId = candidate.connectionId
  sameCandidate : seen.stateRevision = candidate.stateRevision
  responds : response = some fresh
  enabled : fresh.enabled = true
  freshConnection : fresh.connectionId = candidate.connectionId
  freshUser : fresh.businessUserId = candidate.businessUserId
  freshGeneration : fresh.connectionEstablishedAt = candidate.connectionEstablishedAt

theorem promoteClaimCandidate_yields {a c : BusinessConnectionCandidate} {guardRevision : Nat}
    (hvalid : a.Valid) (hguard : db.guard.stateRevision = guardRevision)
    (hunset : db.guard.overflowEstablishedAt = none)
    (howner : db.ownerIdentity.ownerUserId = some a.businessUserId)
    (hrows : db.businessConnection.rows = []) (hc : db.candidate.lookup a.connectionId = some c)
    (huser : c.businessUserId = a.businessUserId)
    (hgeneration : c.connectionEstablishedAt = a.connectionEstablishedAt) :
    Yields (promoteClaimCandidate a c.stateRevision guardRevision) db fun write db' =>
      (write = .installed ∧ db'.businessConnection.rows = [a.installed (c.stateRevision + 1)]) ∧
        Frame [.connection, .candidate] db.toTables db'.toTables := by
  obtain ⟨chat, source, floor, boundAt, howner⟩ := exists_claimed_of_ownerUserId howner
  have hidentity : loadOwnerIdentity db =
      .ok (.claimed a.businessUserId chat source floor boundAt, db) := by
    unfold loadOwnerIdentity loadOwnerLifecycleState
    rw [Txn.read_bind_apply, howner]
    rfl
  have hsingle : loadSingleTrustedConnection db = .ok (none, db) :=
    loadSingleTrustedConnection_of_rows hrows
  have hinstall : Yields (installTrusted a (c.stateRevision + 1)) db fun _ db' =>
      db'.businessConnection.rows = [a.installed (c.stateRevision + 1)] := by
    rw [installTrusted_eq]
    unfold upsertBusinessConnection
    refine Yields.bind_read ?_
    rw [hrows, List.find?_nil]
    have hnew : db.businessConnection.lookup (a.installed (c.stateRevision + 1)).connectionId = none :=
      Table.lookup_eq_none_iff.2 (by simp [hrows])
    have hupsert : db.toTables.upsertConnection (a.installed (c.stateRevision + 1)) =
        .ok ((), _) :=
      (if_pos ⟨hvalid.businessUserId, by simpa [BusinessConnectionCandidate.installed] using
        hvalid.established⟩).trans ((if_pos (by simp [hrows])).trans (dif_pos hnew))
    refine (Uow.statement_yields hupsert).mono ?_
    rintro _ db' ⟨-, hdb⟩
    rw [hdb]
    simp [hrows]
  refine yields_frame ?_ (promoteClaimCandidate_writes (fun _ ht => ht) _ _ _)
  unfold promoteClaimCandidate loadCandidateGuard loadCandidate
  refine Yields.bind_of_ok (validateCandidate_ok_iff.2 ⟨hvalid, rfl⟩) (Yields.bind_read ?_)
  rw [if_neg (by simp [hguard, hunset])]
  refine Yields.bind_of_ok hidentity ?_
  dsimp only
  rw [if_neg (by simp)]
  refine Yields.bind_of_ok hsingle (Yields.bind_read ?_)
  rw [hc]
  dsimp only
  rw [if_neg (by simp), if_neg (by simp [huser]), if_neg (by simp [hgeneration])]
  refine Yields.bind hinstall ?_
  rintro _ db₁ hinstalled
  have hdelete : Yields (deleteConnectionCandidate a.connectionId) db₁ fun _ db' =>
      Frame [.candidate] db₁.toTables db'.toTables :=
    succeeds_frame (deleteConnectionCandidate_succeeds _) (deleteConnectionCandidate_writes (by simp) _)
  refine Yields.bind hdelete ?_
  rintro _ db₂ hframe
  refine .pure ⟨rfl, ?_⟩
  rw [hframe.businessConnection (by simp) (by simp)]
  exact hinstalled

theorem tryPromoteClaimCandidate_yields {snapshot : OwnerClaimSnapshot}
    {global : TelegramReconciliationState} {candidates : List BusinessConnectionCandidate}
    {response : Option AuthoritativeBusinessConnection} {user : Int} (now : DateTime)
    (howner : db.ownerIdentity.ownerUserId = some user) (hrows : db.businessConnection.rows = [])
    (hcandidates : ∀ c ∈ candidates, c ∈ db.candidate.rows ∧ c.businessUserId = user ∧
      blank c.connectionId = false)
    (hresponse : ∀ a, response = some a → ∃ id, LookupAnswer.validFor id (.ok a) = true) :
    Yields (tryPromoteClaimCandidate snapshot global db.guard candidates response now) db
      fun _ db' =>
        ((∃ seen c a, Promotes snapshot global db.guard candidates response seen c a ∧
            db'.businessConnection.rows =
              [(authoritativeCandidate a now).installed (c.stateRevision + 1)]) ∨
          (¬∃ seen c a, Promotes snapshot global db.guard candidates response seen c a) ∧
            db'.businessConnection.rows = []) ∧
        Frame [.connection, .candidate] db.toTables db'.toTables := by
  refine yields_frame ?_ (tryPromoteClaimCandidate_writes (fun _ ht => ht) _ _ _ _ _ _)
  by_cases hpromotes : ∃ seen c a, Promotes snapshot global db.guard candidates response seen c a
  · obtain ⟨seen, c, a, h⟩ := hpromotes
    obtain ⟨hmem, huser, hblank⟩ := hcandidates c (by simp [h.stillOne])
    obtain ⟨id, hvalid⟩ := hresponse a h.responds
    simp only [LookupAnswer.validFor, Bool.and_eq_true, decide_eq_true_eq] at hvalid
    have hlookup : db.candidate.lookup (authoritativeCandidate a now).connectionId = some c := by
      have hid : (authoritativeCandidate a now).connectionId = c.connectionId := h.freshConnection
      rw [hid]
      exact Table.lookup_of_mem hmem
    have hcandidate : (authoritativeCandidate a now).Valid :=
      ⟨by rw [← hblank]; exact congrArg blank h.freshConnection, hvalid.1.1.2, hvalid.1.2, hvalid.2⟩
    have howned : db.ownerIdentity.ownerUserId =
        some (authoritativeCandidate a now).businessUserId := by
      rw [howner, ← huser, ← h.freshUser]
      rfl
    have hpromote := promoteClaimCandidate_yields hcandidate rfl h.unset howned hrows hlookup
      h.freshUser.symm h.freshGeneration.symm
    unfold tryPromoteClaimCandidate
    rw [h.one, h.stillOne, h.responds]
    dsimp only
    rw [if_neg (by simp [h.wasReady, h.ready, h.sameGlobal, h.sameGuard, h.unset, h.sameConnection,
      h.sameCandidate, h.enabled, h.freshConnection, h.freshUser, h.freshGeneration])]
    refine Yields.bind hpromote ?_
    rintro _ db' ⟨⟨rfl, hinstalled⟩, -⟩
    exact .pure (.inl ⟨seen, c, a, ⟨h.wasReady, h.ready, h.sameGlobal, h.sameGuard, h.unset, h.one, rfl,
      h.sameConnection, h.sameCandidate, rfl, h.enabled, h.freshConnection, h.freshUser,
      h.freshGeneration⟩, hinstalled⟩)
  · have hnone : Yields (pure false : Uow Bool) db fun promoted db' =>
        ((∃ seen c a, Promotes snapshot global db.guard candidates response seen c a ∧
            db'.businessConnection.rows =
              [(authoritativeCandidate a now).installed (c.stateRevision + 1)]) ∨
          (¬∃ seen c a, Promotes snapshot global db.guard candidates response seen c a) ∧
            db'.businessConnection.rows = []) := .pure (.inr ⟨hpromotes, hrows⟩)
    unfold tryPromoteClaimCandidate
    split
    · next seen c a hone =>
      split
      · exact hnone
      · next hsame =>
        -- what is compared is all there is
        simp only [not_or, not_not, Bool.not_eq_true', Bool.not_eq_false] at hsame
        obtain ⟨h₁, h₂, h₃, h₄, h₅, h₆, h₇, h₈, h₉, h₁₀, h₁₁⟩ := hsame
        exact absurd ⟨seen, c, a, h₁, h₂, h₃, h₄, by simpa using h₅, hone, rfl, h₆, h₇, rfl, h₈, h₉,
          h₁₀, h₁₁⟩ hpromotes
    · exact hnone

/-! ## The commit -/

/-- What `parse_owner_claim` lets through. -/
structure ValidOwnerClaim.Parsed (claim : ValidOwnerClaim) : Prop where
  fromUserId : 0 < claim.fromUserId
  ownerChatId : 0 < claim.ownerChatId
  messageDate : 0 < claim.messageDate

/-- The floor of a claim is not behind its message, nor behind what it was decided and committed
on. -/
theorem le_claimGenerationFloor {messageDate e : Int} {snapshot : OwnerClaimSnapshot}
    {guard : CandidateGuard} {candidates : List BusinessConnectionCandidate}
    (h : e = messageDate ∨ (∃ c ∈ snapshot.candidates ++ candidates, c.connectionEstablishedAt = e) ∨
      snapshot.guard.overflowEstablishedAt = some e ∨ guard.overflowEstablishedAt = some e) :
    e ≤ claimGenerationFloor messageDate snapshot guard candidates := by
  have hfold (l : List Int) (a : Int) : a ≤ l.foldl max a ∧ ∀ b ∈ l, b ≤ l.foldl max a := by
    induction l generalizing a with
    | nil => exact ⟨le_refl a, by simp⟩
    | cons b l ih =>
      obtain ⟨hstart, hrest⟩ := ih (max a b)
      refine ⟨le_trans (le_max_left a b) hstart, fun d hd => ?_⟩
      rcases List.mem_cons.1 hd with rfl | hd
      · exact le_trans (le_max_right a d) hstart
      · exact hrest d hd
  unfold claimGenerationFloor
  rcases h with rfl | ⟨c, hc, rfl⟩ | h | h
  · exact (hfold _ _).1
  · exact (hfold _ _).2 _ (by
      simp only [List.mem_append, List.mem_map]
      exact .inl (.inl ⟨c, List.mem_append.1 hc, rfl⟩))
  · exact (hfold _ _).2 _ (by simp [h])
  · exact (hfold _ _).2 _ (by simp [h])

theorem settleClaimCandidates_yields {fromUserId : Int} (h : 0 < fromUserId) (promoted : Bool)
    (guard : CandidateGuard) (candidates : List BusinessConnectionCandidate)
    (response : Option AuthoritativeBusinessConnection) :
    Yields (settleClaimCandidates promoted guard candidates response fromUserId) db fun _ db' =>
      (guard.overflowEstablishedAt ≠ none → db'.candidate.rows = []) ∧
        Frame [.candidate] db.toTables db'.toTables := by
  refine yields_frame ?_ (settleClaimCandidates_writes (by simp) _ _ _ _ _)
  have hclear : Yields clearConnectionCandidates db fun _ db' => db'.candidate.rows = [] := by
    unfold clearConnectionCandidates Uow.deleteCandidate
    refine (Uow.statement_yields rfl).mono ?_
    rintro _ db' ⟨-, hdb⟩
    rw [hdb]
    exact List.filter_eq_nil_iff.2 (by simp)
  unfold settleClaimCandidates
  split
  · exact hclear.bind fun _ _ h => .pure fun _ => h
  · split
    · next hambiguous =>
      unfold deleteConnectionCandidatesForOtherUsers
      rw [if_neg (by omega)]
      refine (Uow.statement_yields rfl).bind fun _ _ _ => .pure fun hset => ?_
      exact absurd hambiguous.1 hset
    · exact hclear.bind fun _ _ h => .pure fun _ => h

/-- What a claim of an unclaimed installation comes to. -/
structure ClaimCommitted (claim : ValidOwnerClaim) (snapshot : OwnerClaimSnapshot)
    (answer : Option LookupAnswer) (now : DateTime) (db db' : Database) : Prop where
  bound : ∃ floor, db'.ownerIdentity =
      .ready (.claimed claim.fromUserId claim.ownerChatId .claim (some floor) now) ∧
    claim.messageDate ≤ floor ∧
    (∀ c ∈ snapshot.candidates ++ db.claimants claim.fromUserId,
      c.connectionEstablishedAt ≤ floor) ∧
    ∀ g, snapshot.guard.overflowEstablishedAt = some g ∨ db.guard.overflowEstablishedAt = some g →
      g ≤ floor
  trusted : db'.businessConnection.rows = [] ∨ ∃ seen c fresh,
    Promotes snapshot db.reconciliation db.guard
      ((db.retained (now - candidateRetention)).filter (·.businessUserId = claim.fromUserId))
      (answer.bind Except.toOption) seen c fresh ∧
    db'.businessConnection.rows =
      [(authoritativeCandidate fresh now).installed (c.stateRevision + 1)]
  rises : GuardRises db db'
  cleared : db.guard.overflowEstablishedAt ≠ none → db'.candidate.rows = []
  global : answer = none → db'.reconciliation = db.reconciliation

/-- What the pruned store promotes, the store promotes. -/
theorem Promotes.of_pruned {snapshot : OwnerClaimSnapshot} {global : TelegramReconciliationState}
    {candidates : List BusinessConnectionCandidate} {cutoff : DateTime} {maximumRows : Nat}
    {response : Option AuthoritativeBusinessConnection} {user : Int}
    {seen c : BusinessConnectionCandidate} {fresh : AuthoritativeBusinessConnection}
    (h : Promotes snapshot global db'.guard candidates response seen c fresh)
    (hpruned : Pruned cutoff maximumRows db db') (hperm : candidates.Perm (db'.claimants user)) :
    Promotes snapshot global db.guard
      ((db.retained cutoff).filter (·.businessUserId = user)) response seen c fresh := by
  have hfits : (db.retained cutoff).length ≤ maximumRows := by
    by_contra hmore
    have hsome : db.retained cutoff ≠ [] := by
      rintro hnil
      simp [hnil] at hmore
    obtain ⟨d, hd⟩ := List.exists_mem_of_ne_nil _ hsome
    exact (hpruned.overflows (by omega) d hd).isSet h.unset
  have hrows := hpruned.newest.eq_of_length_le hfits
  have hone : (db.retained cutoff).filter (·.businessUserId = user) = [c] := by
    rw [h.stillOne, Database.claimants, hrows] at hperm
    exact List.perm_singleton.1 hperm.symm
  rw [← hpruned.fits hfits, hone]
  exact ⟨h.wasReady, h.ready, h.sameGlobal, h.sameGuard, h.unset, h.one, rfl, h.sameConnection,
    h.sameCandidate, h.responds, h.enabled, h.freshConnection, h.freshUser, h.freshGeneration⟩

/-- What the claim does once the Owner is bound: the trusted connection is up to the promotion. -/
theorem settleClaim_yields {claim : ValidOwnerClaim} {snapshot : OwnerClaimSnapshot}
    {global : TelegramReconciliationState} {candidates : List BusinessConnectionCandidate}
    {response : Option AuthoritativeBusinessConnection} (now : DateTime)
    (hnew : db.processedUpdate.lookup updateId = none)
    (howner : db.ownerIdentity.ownerUserId = some claim.fromUserId) (hclaim : claim.Parsed)
    (hrows : db.businessConnection.rows = [])
    (hcandidates : ∀ c ∈ candidates, c ∈ db.candidate.rows ∧ c.businessUserId = claim.fromUserId ∧
      blank c.connectionId = false)
    (hresponse : ∀ a, response = some a → ∃ id, LookupAnswer.validFor id (.ok a) = true) :
    Yields (settleClaim updateId claim snapshot global db.guard candidates response now) db
      fun receipt db' => (receipt = .recorded ∧
        (db'.businessConnection.rows = [] ∨ ∃ seen c fresh,
          Promotes snapshot global db.guard candidates response seen c fresh ∧
          db'.businessConnection.rows =
            [(authoritativeCandidate fresh now).installed (c.stateRevision + 1)]) ∧
        (db.guard.overflowEstablishedAt ≠ none → db'.candidate.rows = [])) ∧
        Frame [.connection, .candidate, .update, .audit, .enqueue] db.toTables db'.toTables := by
  unfold settleClaim
  refine Yields.bind (tryPromoteClaimCandidate_yields now howner hrows hcandidates hresponse) ?_
  rintro promoted db₁ ⟨hpromoted, hframe₁⟩
  refine Yields.bind (settleClaimCandidates_yields hclaim.fromUserId _ _ _ _) ?_
  rintro connectionState db₂ ⟨hcleared, hframe₂⟩
  -- neither the promotion nor the settling of the candidates has recorded an update
  have hnew₂ : db₂.processedUpdate.lookup updateId = none := by
    rw [hframe₂.processedUpdate (by simp) (by simp) (by simp),
      hframe₁.processedUpdate (by simp) (by simp) (by simp), hnew]
  refine Yields.bind (insertRedactedUpdate_yields hnew₂ _ _) ?_
  rintro _ db₃ ⟨hcontains, hframe₃⟩
  have haudit : Yields (insertOwnerClaimAudit updateId true claim.occurredAt) db₃ fun _ db₄ =>
      Frame [.audit] db₃.toTables db₄.toTables :=
    Yields.bind (insertAuditEvent_yields rfl hcontains) fun _ _ hframe₄ => .pure hframe₄
  refine Yields.bind haudit ?_
  rintro _ db₄ hframe₄
  have hcontains₄ : db₄.processedUpdate.contains updateId = true := by
    rw [hframe₄.processedUpdate (by simp) (by simp) (by simp)]
    exact hcontains
  have henqueue (message : OwnerText) : Yields (enqueueDirectOwnerMessage updateId
      claim.ownerChatId message claim.occurredAt "OWNER_CLAIM_CONFIRMATION") db₄ fun _ db₅ =>
      Frame [.enqueue] db₄.toTables db₅.toTables :=
    Yields.bind (enqueueOutboxAction_yields hcontains₄) fun _ _ h => .pure h.2
  refine Yields.bind (henqueue _) ?_
  rintro _ db₅ hframe₅
  have hlast : Frame [.update, .audit, .enqueue] db₂.toTables db₅.toTables :=
    (hframe₃.mono (by simp)).trans ((hframe₄.mono (by simp)).trans (hframe₅.mono (by simp)))
  have hframe : Frame [.candidate, .update, .audit, .enqueue] db₁.toTables db₅.toTables :=
    (hframe₂.mono (by simp)).trans (hlast.mono (by simp))
  refine .pure ⟨⟨rfl, ?_, fun hset => ?_⟩, (hframe₁.mono (by simp)).trans (hframe.mono (by simp))⟩
  · rw [hframe.businessConnection (by simp) (by simp)]
    rcases hpromoted with hpromotes | ⟨-, hnone⟩
    · exact .inr hpromotes
    · exact .inl hnone
  · rw [hlast.candidate (by simp)]
    exact hcleared hset

/-- **A claim of an unclaimed installation commits.** -/
theorem commitOwnerClaim_yields {claim : ValidOwnerClaim} (snapshot : OwnerClaimSnapshot)
    {answer : Option LookupAnswer} (now : DateTime)
    (hnew : db.processedUpdate.lookup updateId = none)
    (howner : db.ownerIdentity = .ready .unclaimed) (hrows : db.businessConnection.rows = [])
    (hnamed : ∀ c ∈ db.candidate.rows, blank c.connectionId = false) (hclaim : claim.Parsed)
    (hanswer : ∀ a, answer = some a → ∃ id, a.validFor id = true) :
    Yields (commitOwnerClaim updateId claim snapshot answer now) db fun receipt db' =>
      receipt = .recorded ∧ ClaimCommitted claim snapshot answer now db db' := by
  have hidentity : loadOwnerIdentity db = .ok (.unclaimed, db) := by
    unfold loadOwnerIdentity loadOwnerLifecycleState
    rw [Txn.read_bind_apply, howner]
    rfl
  obtain ⟨before, hbefore, hbeforePerm⟩ := candidatesForUser_ok db hclaim.fromUserId
  have hfloor {e : Int} := @le_claimGenerationFloor claim.messageDate e snapshot db.guard before
  have hdate := hfloor (.inl rfl)
  have hpositive := hclaim.messageDate
  have hresponse (a : AuthoritativeBusinessConnection) (ha : answer.bind Except.toOption = some a) :
      ∃ id, LookupAnswer.validFor id (.ok a) = true := by
    obtain ⟨response, hresponse, ha⟩ := Option.bind_eq_some_iff.1 ha
    cases response with
    | error error => cases ha
    | ok response =>
      obtain rfl := Option.some.inj ha
      exact hanswer _ hresponse
  unfold commitOwnerClaim withoutReceipt
  refine Yields.bind_read ?_
  rw [hnew]
  refine Yields.bind_of_ok hidentity (Yields.bind_read (Yields.bind_read
    (Yields.bind_of_ok hbefore ?_)))
  refine Yields.bind (Yields.and_respects (pruneConnectionCandidates_yields _ _)
    (pruneConnectionCandidates_rises _ _)) ?_
  rintro _ db₁ ⟨⟨hpruned, hframe₁⟩, hrises⟩
  obtain ⟨after, hafter, hafterPerm⟩ := candidatesForUser_ok db₁ hclaim.fromUserId
  refine Yields.bind_read (Yields.bind_of_ok hafter ?_)
  have howner₁ : db₁.ownerIdentity = .ready .unclaimed := by
    rw [hframe₁.ownerIdentity (by simp), howner]
  refine Yields.bind (claimOwner_yields howner₁ ⟨hclaim.fromUserId, hclaim.ownerChatId,
    by omega⟩ now) ?_
  rintro _ db₂ ⟨howner₂, hframe₂⟩
  have hframe₁₂ : Frame [.candidate, .guard, .owner] db.toTables db₂.toTables :=
    (hframe₁.mono (by simp)).trans (hframe₂.mono (by simp))
  have hrows₂ : db₂.businessConnection.rows = [] := by
    rw [hframe₁₂.businessConnection (by simp) (by simp), hrows]
  -- the rest of the claim, from what is stored once an authentication failure is
  have hrest (db₃ : Database) (hrows₃ : db₃.businessConnection.rows = [])
      (hframe₃ : Frame [.reconciliation, .connection] db₂.toTables db₃.toTables)
      (hglobal : answer = none → db₃.reconciliation = db.reconciliation) :
      Yields (settleClaim updateId claim snapshot db.reconciliation db₁.guard after
        (answer.bind Except.toOption) now) db₃ fun receipt db' =>
          receipt = .recorded ∧ ClaimCommitted claim snapshot answer now db db' := by
    have hguard : db₁.guard = db₃.guard := by
      rw [hframe₃.guard (by simp), hframe₂.guard (by simp)]
    have hnew₃ : db₃.processedUpdate.lookup updateId = none := by
      rw [hframe₃.processedUpdate (by simp) (by simp) (by simp),
        hframe₁₂.processedUpdate (by simp) (by simp) (by simp), hnew]
    have howner₃ := hframe₃.ownerIdentity (by simp)
    have hafter₃ (c : BusinessConnectionCandidate) (hc : c ∈ after) : c ∈ db₃.candidate.rows ∧
        c.businessUserId = claim.fromUserId ∧ blank c.connectionId = false := by
      obtain ⟨hstored, huser⟩ := List.mem_filter.1 (hafterPerm.mem_iff.1 hc)
      refine ⟨?_, by simpa using huser, hnamed c (List.mem_filter.1 (hpruned.newest.mem hstored)).1⟩
      rw [hframe₃.candidate (by simp), hframe₂.candidate (by simp)]
      exact hstored
    rw [hguard]
    refine (settleClaim_yields now hnew₃ (by rw [howner₃, howner₂]; rfl) hclaim hrows₃ hafter₃
      hresponse).mono ?_
    rintro receipt db' ⟨⟨rfl, hpromoted, hcleared⟩, hframe⟩
    have hguard' : db'.guard = db₁.guard := by
      rw [hframe.guard (by simp), hguard]
    refine ⟨rfl, ⟨⟨_, by rw [hframe.ownerIdentity (by simp), howner₃, howner₂], hdate,
      fun c hc => ?_, fun g hg => hfloor (.inr (.inr hg))⟩, ?_, ?_, fun hset => ?_, fun hnone => ?_⟩⟩
    · refine hfloor (.inr (.inl ⟨c, ?_, rfl⟩))
      simp only [List.mem_append] at hc ⊢
      exact hc.imp_right hbeforePerm.mem_iff.2
    · refine hpromoted.imp_right fun ⟨seen, c, fresh, hpromotes, hinstalled⟩ => ?_
      rw [← hguard] at hpromotes
      exact ⟨seen, c, fresh, hpromotes.of_pruned hpruned hafterPerm, hinstalled⟩
    · exact trans_of GuardRises hrises (.of_eq hguard')
    · obtain ⟨g, hg⟩ := Option.ne_none_iff_exists'.1 hset
      obtain ⟨g', hg', -⟩ := hrises g hg
      exact hcleared (by simp [← hguard, hg'])
    · rw [hframe.reconciliation (by simp), hglobal hnone]
  have hreconciliation₂ : db₂.reconciliation = db.reconciliation :=
    hframe₁₂.reconciliation (by simp)
  dsimp only
  split
  · refine Yields.bind (setTelegramAuthFailed_yields hrows₂ now) ?_
    rintro _ db₃ ⟨hrows₃, hframe₃⟩
    exact hrest db₃ hrows₃ hframe₃ fun hnone => by cases hnone
  · exact hrest db₂ hrows₂ (.refl _) fun _ => hreconciliation₂

theorem snapshotOwnerClaim_readOnly (claimantUserId : Int) (seenAt : DateTime) :
    Respects Eq (snapshotOwnerClaim claimantUserId seenAt) :=
  loadOwnerIdentity_readOnly.bind fun _ => (Respects.read _).bind fun _ =>
    (Respects.read _).bind fun _ => (candidatesForUser_readOnly _).bind fun _ => .pure _

/-- What a snapshot sees. -/
theorem snapshotOwnerClaim_ok {claimantUserId : Int} {seenAt : DateTime}
    {snapshot : OwnerClaimSnapshot} (hpositive : 0 < claimantUserId)
    (h : snapshotOwnerClaim claimantUserId seenAt db = .ok (snapshot, db')) :
    snapshot.global = db.reconciliation ∧ snapshot.guard = db.guard ∧
      snapshot.candidates.Perm ((db.retained (seenAt - candidateRetention)).filter
        (·.businessUserId = claimantUserId)) := by
  obtain ⟨candidates, hcandidates, hperm⟩ := candidatesForUser_ok db hpositive
  unfold snapshotOwnerClaim loadTelegramReconciliationState loadCandidateGuard at h
  obtain ⟨owner, -, h⟩ := Txn.bind_ok_of_readOnly loadOwnerIdentity_readOnly h
  rw [Txn.read_bind_apply, Txn.read_bind_apply, Txn.bind_of_ok hcandidates] at h
  obtain ⟨rfl, -⟩ := Prod.mk.inj (Txn.pure_ok_iff.1 h)
  refine ⟨rfl, rfl, (hperm.filter _).trans ?_⟩
  unfold Database.claimants Database.retained
  rw [List.filter_filter, List.filter_filter]
  exact .of_eq (List.filter_congr fun c _ => Bool.and_comm _ _)

/-- **The promotion of a claim.** A snapshot is taken, the service goes on in any way, and the claim
is committed. If no Owner is bound by then, the claimant is, whatever the lookup has answered; the
floor is past its message and past every generation the claimant's candidates and the guard had, in
the snapshot and at the commit; and a connection is trusted only if the global state, the guard and
the one candidate of the claimant are still those of the snapshot, and the response is the
candidate's. Only a claim that is delivered again changes nothing. -/
theorem claim_promotion {w w' : World} (h : service.Reachable w)
    (hruns : service.Runs (fun _ _ => True) w w') {claim : ValidOwnerClaim}
    {snapshot : OwnerClaimSnapshot} {seenAt : DateTime}
    (hsnapshot : snapshotOwnerClaim claim.fromUserId seenAt w.db = .ok (snapshot, w.db))
    {answer : Option LookupAnswer} (hanswer : ∀ a, answer = some a →
      ∃ connectionId, snapshot.lookupTarget = some connectionId ∧ a.validFor connectionId = true)
    (hclaim : claim.Parsed) (hunclaimed : w'.db.ownerIdentity = .ready .unclaimed)
    (now : DateTime) :
    (w'.db.processedUpdate.contains updateId = true ∧
      (commit (commitOwnerClaim updateId claim snapshot answer now) w'.db).1 = w'.db) ∨
    ∃ db' floor, commit (commitOwnerClaim updateId claim snapshot answer now) w'.db =
        (db', .ok .recorded) ∧
      db'.ownerIdentity =
        .ready (.claimed claim.fromUserId claim.ownerChatId .claim (some floor) now) ∧
      claim.messageDate ≤ floor ∧
      (∀ c ∈ snapshot.candidates ++ w'.db.claimants claim.fromUserId,
        c.connectionEstablishedAt ≤ floor) ∧
      (∀ g, w.db.guard.overflowEstablishedAt = some g ∨
        w'.db.guard.overflowEstablishedAt = some g → g ≤ floor) ∧
      (db'.businessConnection.rows = [] ∨ ∃ seen candidate fresh,
        Promotes snapshot w'.db.reconciliation w'.db.guard
          ((w'.db.retained (now - candidateRetention)).filter
            (·.businessUserId = claim.fromUserId))
          (answer.bind Except.toOption) seen candidate fresh ∧
        db'.businessConnection.rows =
          [(authoritativeCandidate fresh now).installed (candidate.stateRevision + 1)]) ∧
      snapshot.global = w.db.reconciliation ∧ snapshot.guard = w.db.guard ∧
      snapshot.candidates.Perm ((w.db.retained (seenAt - candidateRetention)).filter
        (·.businessUserId = claim.fromUserId)) := by
  have hw' : service.Reachable w' := h.imp fun _ ⟨h₀, hr⟩ => ⟨h₀, hr.trans hruns⟩
  have hrows := (World.singleTrusted hw').unclaimed (by rw [hunclaimed]; rfl)
  obtain ⟨hglobal, hguard, hperm⟩ := snapshotOwnerClaim_ok hclaim.fromUserId hsnapshot
  cases hnew : w'.db.processedUpdate.lookup updateId with
  | some row =>
    exact .inl ⟨by simp [Table.contains, hnew], withoutReceipt_again hnew _⟩
  | none =>
    obtain ⟨receipt, db', hcommit, rfl, hcommitted⟩ :=
      commitOwnerClaim_yields snapshot now hnew hunclaimed hrows
        (fun c hc => World.named hw' _ (.inl ⟨c, hc, rfl⟩)) hclaim
        fun a ha => (hanswer a ha).imp fun _ => And.right
    obtain ⟨floor, howner, hdate, hcandidates, hguards⟩ := hcommitted.bound
    rw [hguard] at hguards
    exact .inr ⟨db', floor, Txn.commit_of_ok hcommit, howner, hdate, hcandidates, hguards,
      hcommitted.trusted, hglobal, hguard, hperm⟩

section

open Sample

/-- A connection of user 7 can be looked up for a claim, and before it commits another one is
announced. -/
def World.offersCandidate (w : World) : Bool :=
  match snapshotOwnerClaim 7 1 w.db with
  | .ok (snapshot, _) =>
    snapshot.lookupTarget = some "c" &&
      (service.run (trigger 4 "d" (found "d" 300) 1) w).any fun w' =>
        w'.db.ownerIdentity = .ready .unclaimed && !w'.db.processedUpdate.contains 5 &&
          (w'.db.claimants 7).any (·.connectionEstablishedAt = 300)
  | .error _ => false

/-- A connection is announced before the claim. -/
theorem exists_offersCandidate : ∃ w, service.Reachable w ∧ w.offersCandidate = true :=
  Machine.reachable_of_run (start true ++ trigger 3 "c" (found "c" 1) 1) World.offersCandidate
    ⟨0, rfl⟩ (by decide +kernel)

/-- User 7 claims the service with the candidate `c`, and the candidate `d` of generation 300 comes
in between. -/
theorem claim_promotion_offered : ∃ (w w' : World) (snapshot : OwnerClaimSnapshot) (db' : Database)
    (floor : Int), service.Reachable w ∧ service.Runs (fun _ _ => True) w w' ∧
    snapshot.lookupTarget = some "c" ∧
    (w'.db.claimants 7).any (·.connectionEstablishedAt = 300) = true ∧
    commit (commitOwnerClaim 5 ⟨7, 7, 100, 1⟩ snapshot (some (found "c" 1)) 1) w'.db =
      (db', .ok .recorded) ∧
    db'.ownerIdentity = .ready (.claimed 7 7 .claim (some floor) 1) ∧ 300 ≤ floor := by
  obtain ⟨w, hw, hoffers⟩ := exists_offersCandidate
  unfold World.offersCandidate at hoffers
  cases hsnapshot : snapshotOwnerClaim 7 1 w.db with
  | error e => simp [hsnapshot] at hoffers
  | ok r =>
    obtain ⟨snapshot, db⟩ := r
    obtain rfl : w.db = db := (snapshotOwnerClaim_readOnly 7 1).of_ok hsnapshot
    rw [hsnapshot] at hoffers
    obtain ⟨htarget, hbetween⟩ := Bool.and_eq_true_iff.1 hoffers
    obtain ⟨w', hrun, hlater⟩ := (Option.any_eq_true _ _).1 hbetween
    simp only [Bool.and_eq_true, decide_eq_true_eq, Bool.not_eq_true'] at htarget hlater
    obtain ⟨⟨hunclaimed, hnew⟩, hclaimants⟩ := hlater
    have hruns := Machine.runs_of_run hrun
    obtain ⟨hold, -⟩ | ⟨db', floor, hcommit, howner, -, hfloor, -⟩ :=
      @claim_promotion 5 w w' hw hruns ⟨7, 7, 100, 1⟩ snapshot 1 hsnapshot (some (found "c" 1))
        (by rintro a ⟨⟩; exact ⟨"c", htarget, by decide⟩) ⟨by decide, by decide, by decide⟩
        hunclaimed 1
    · rw [hnew] at hold
      cases hold
    · obtain ⟨c, hc, hgeneration⟩ := List.any_eq_true.1 hclaimants
      have hle := hfloor c (List.mem_append_right _ hc)
      rw [of_decide_eq_true hgeneration] at hle
      exact ⟨w, w', snapshot, db', floor, hw, hruns, htarget, hclaimants, hcommit, howner, hle⟩

end

end ChatHygiene
