import ChatHygiene.Footprint.Identity
import ChatHygiene.Footprint.Service
import ChatHygiene.Lifecycle.Contracts
/-!
# What the other transactions do to the lives of conversations

Only an applied event carries a conversation on. The expiry pass, the commands
of the Owner, the loss of a connection, a dispatch and the key upgrade renew
states and close challenges, the two together, or leave every life alone.
-/

namespace ChatHygiene

open Txn (Respects Yields)

variable {db db' : Database} {targets : List Target} {K : NewOutboxAction → Prop}

/-- Every life is the same. -/
def Steady (db db' : Database) : Prop := ∀ k, db'.lifecycle k = db.lifecycle k

/-- Every life has receded, or is the same. -/
def Receded (db db' : Database) : Prop := ∀ k, (db.lifecycle k).Recedes (db'.lifecycle k)

instance : Std.Refl Steady := ⟨fun _ _ => rfl⟩

instance : IsTrans Database Steady := ⟨fun _ _ _ h h' k => (h' k).trans (h k)⟩

instance : Std.Refl Receded := ⟨fun _ _ => .refl _⟩

instance : IsTrans Database Receded := ⟨fun _ _ _ h h' k => (h k).trans (h' k)⟩

theorem Steady.receded (h : Steady db db') : Receded db db' := fun k => by
  rw [h k]
  exact .refl _

/-! ## Footprints that leave lives alone -/

theorem WritesTo.steady (h : WritesTo targets K db db') (hconversation : Target.conversation ∉ targets)
    (hchallenge : Target.challenge ∉ targets) (hdrop : Target.dropConnection ∉ targets) :
    Steady db db' :=
  fun _ => Database.lifecycle_of_frame h.frame hconversation hchallenge hdrop

/-- A transaction that writes to no conversation, challenge or connection. -/
theorem steady_of_writes {α : Type} {x : Uow α} (targets : List Target)
    (hlives : Target.conversation ∉ targets ∧ Target.challenge ∉ targets ∧
      Target.dropConnection ∉ targets)
    (h : Respects (WritesTo targets fun _ => True) x) : Respects Steady x :=
  h.mono fun _ _ hw => hw.steady hlives.1 hlives.2.1 hlives.2.2

/-- **A conversation goes with its connection, or stays as it is.** -/
theorem lifecycle_deleteConnection {p : BusinessConnectionRecord → Bool}
    (h : (Statement.deleteConnection p).Effect db.toTables db'.toTables) (k : ConversationKey) :
    db'.lifecycle k = db.lifecycle k ∨ db'.lifecycle k = Lifecycle.initial := by
  obtain ⟨n, h⟩ := h
  obtain ⟨-, hdb⟩ := Prod.mk.inj (Except.ok.inj h)
  have hrow : db'.conversation.lookup k = (db.conversation.lookup k).filter fun c =>
      (db.businessConnection.delete p).contains c.key.connectionId := by
    rw [← hdb]
    simp
  cases hk : db'.conversation.lookup k with
  | none => exact .inr (Database.lifecycle_of_lookup_none hk)
  | some c =>
    refine .inl (Database.lifecycle_congr ?_ ?_)
    · rw [hk] at hrow
      rw [hk, (Option.filter_eq_some_iff.1 hrow.symm).1]
    · have hcontains : db'.conversation.contains k = true := by simp [Table.contains, hk]
      have hdelete : db'.challenge = db.challenge.delete fun c =>
          !db'.conversation.contains c.key := by rw [← hdb]
      rw [Database.openChallenge_delete hdelete]
      cases hopen : db.openChallenge k with
      | none => rfl
      | some r =>
        have hkey := (Database.openChallenge_eq_some_iff.1 hopen).2.1
        simp [Option.filter, hkey, hcontains]

/-- **A transaction that writes to no conversation and no challenge**: at most it deletes
connections. -/
theorem WritesTo.receded (h : WritesTo targets K db db')
    (hconversation : Target.conversation ∉ targets) (hchallenge : Target.challenge ∉ targets) :
    Receded db db' := by
  refine Txn.Through.relation (R := Receded) ?_ h
  intro st s s' hst heffect
  by_cases hdrop : st.target = .dropConnection
  · cases st with
    | deleteConnection p =>
      intro k
      rcases lifecycle_deleteConnection heffect k with hsame | hinitial
      · rw [hsame]
        exact .refl _
      · rw [hinitial]
        exact .renewed rfl rfl
    | _ => simp at hdrop
  · have htarget := hst.target_mem
    refine Steady.receded fun k => Database.lifecycle_of_frame heffect.frame ?_ ?_ ?_
    · exact fun m => hconversation (List.mem_singleton.1 m ▸ htarget)
    · exact fun m => hchallenge (List.mem_singleton.1 m ▸ htarget)
    · exact fun m => hdrop (List.mem_singleton.1 m).symm

/-! ## Dispatches and the key upgrade -/

/-- A report on a challenge that leaves it open or closed, with its attempts. -/
theorem updateChallenge_steady {p : ChallengeRow → Bool} {f : ChallengeRow → ChallengeRow}
    {hf : Tables.ChallengeChange p f}
    (h : ∀ c, (f c).closedAt = c.closedAt ∧ (f c).asOpen = c.asOpen) :
    Respects Steady (Uow.updateChallenge p f hf) := by
  intro db n db' hx k
  have hx := Uow.statement_ok_iff.1 hx
  obtain ⟨-, hdb⟩ := Prod.mk.inj (Except.ok.inj hx)
  have hrow : db'.conversation.lookup k = db.conversation.lookup k := by rw [← hdb]
  have hopen : db'.openChallenge k =
      ((db.openChallenge k).map fun c => if p c then f c else c).filter (·.closedAt.isNone) :=
    Database.openChallenge_update hf (by rw [← hdb]) k
  have hsame : (db'.openChallenge k).map ChallengeRow.asOpen =
      (db.openChallenge k).map ChallengeRow.asOpen := by
    rw [hopen]
    cases hc : db.openChallenge k with
    | none => rfl
    | some c =>
      have hnone := (Database.openChallenge_eq_some_iff.1 hc).2.2
      by_cases hp : p c = true
      · simp [hp, Option.filter, (h c).1, (h c).2, hnone]
      · simp [hp, Option.filter, hnone]
  rw [Database.lifecycle, Database.lifecycle, hrow, Conversation.life, Conversation.life, hsame]

theorem updateOne_steady (n : Nat) : Respects Steady (updateOne n) :=
  steady_of_writes [] (by simp) (updateOne_writes n)

theorem markChallengeSent_steady (challengeId : Nat) (promptMessageId : Int) :
    Respects Steady (markChallengeSent challengeId promptMessageId) := by
  refine Respects.bind (updateChallenge_steady ?_) fun _ => updateOne_steady _
  exact fun _ => ⟨rfl, rfl⟩

theorem markChallengeUncertain_steady (challengeId : Nat) :
    Respects Steady (markChallengeUncertain challengeId) := by
  refine Respects.bind (updateChallenge_steady ?_) fun _ => updateOne_steady _
  exact fun _ => ⟨rfl, rfl⟩

theorem upgradeActiveChallengeHmacs_steady (signer : ChallengeSigner) :
    Respects Steady (upgradeActiveChallengeHmacs signer) := by
  refine .ite (fun _ => .throw _) fun _ => (Respects.read _).bind fun challenges =>
    (Respects.forEach fun challenge _ => ?_).bind fun _ => .pure _
  refine .ite (fun _ => .throw _) fun _ => ?_
  split
  · exact .throw _
  · refine Respects.bind (updateChallenge_steady ?_) fun _ => updateOne_steady _
    exact fun _ => ⟨rfl, rfl⟩

theorem finishDispatch_steady (action : OutboxActionRecord) (now : DateTime) (finish : Finish) :
    Respects Steady (finishDispatch action now finish) :=
  finishDispatch_respects
    (fun _ _ _ => steady_of_writes [.outbox] (by simp) (finishOutbox_writes (by simp) _ _ _ _ _))
    (fun alert challengeId => steady_of_writes [.enqueue] (by simp)
      (enqueueOwnerAlert_writes (by simp) action (fun _ _ => trivial) alert challengeId now))
    (fun _ _ => markChallengeSent_steady _ _) (fun _ => markChallengeUncertain_steady _)
    (fun _ => steady_of_writes [.connection] (by simp)
      (disableBusinessConnection_writes (by simp) _ _))
    (steady_of_writes [.mode] (by simp)
      (Uow.setDestructiveMode_writes (by exact List.mem_singleton.2 rfl))) finish

/-! ## Updates of conversations -/

/-- What is left of the conversations after an update. -/
theorem updateConversation_ok {p : Conversation → Bool} {f : Conversation → Conversation}
    {hf : ∀ c, (f c).key = c.key} {n : Nat}
    (h : Uow.updateConversation p f hf db = .ok (n, db')) :
    n = db.conversation.affected p ∧
      (∀ k, db'.conversation.lookup k =
        (db.conversation.lookup k).map fun c => if p c then f c else c) ∧
      ∀ k, db'.openChallenge k = db.openChallenge k := by
  obtain ⟨rfl, hdb⟩ := Prod.mk.inj (Except.ok.inj (Uow.statement_ok_iff.1 h))
  exact ⟨rfl, fun k => by rw [← hdb]; exact Table.lookup_update _ _ _ hf k,
    fun k => Database.openChallenge_congr (by rw [← hdb])⟩

/-- The state of a conversation, after an update. -/
theorem state_updateConversation {p : Conversation → Bool} {f : Conversation → Conversation}
    {k : ConversationKey} (hrow : db'.conversation.lookup k =
      (db.conversation.lookup k).map fun c => if p c then f c else c)
    (hopen : db'.openChallenge k = db.openChallenge k) (hnew : ∀ c, (f c).state = .new) :
    db'.lifecycle k = db.lifecycle k ∨
      ∃ c, db.conversation.lookup k = some c ∧ p c = true ∧ (db'.lifecycle k).state = .new := by
  cases hc : db.conversation.lookup k with
  | none => exact .inl (Database.lifecycle_congr (by rw [hrow, hc]; rfl) hopen)
  | some c =>
    by_cases hp : p c = true
    · refine .inr ⟨c, rfl, hp, ?_⟩
      rw [Database.lifecycle_of_lookup (c := f c) (by rw [hrow, hc]; simp [hp])]
      exact hnew c
    · exact .inl (Database.lifecycle_congr (by rw [hrow, hc]; simp [hp]) hopen)

theorem state_of_lookup {k : ConversationKey} {c : Conversation}
    (h : db.conversation.lookup k = some c) : (db.lifecycle k).state = c.state := by
  rw [Database.lifecycle_of_lookup h]
  rfl

theorem challenge_congr {k : ConversationKey} (h : db'.openChallenge k = db.openChallenge k) :
    (db'.lifecycle k).challenge = (db.lifecycle k).challenge := by
  rw [Database.lifecycle, Database.lifecycle, Conversation.life, Conversation.life, h]

theorem challenge_eq_none {k : ConversationKey} (h : db.openChallenge k = none) :
    (db.lifecycle k).challenge = none := by
  rw [Database.lifecycle, Conversation.life, h]
  rfl

/-- Renewing conversations that wait for no answer. -/
theorem renewConversations_receded {p : Conversation → Bool} {f : Conversation → Conversation}
    {hf : ∀ c, (f c).key = c.key} (hp : ∀ c, p c = true → c.state ≠ .verifyPending)
    (now : DateTime) : Respects Receded (renewConversations p f hf now) := by
  intro db n db' h k
  obtain ⟨-, hrow, hopen⟩ := updateConversation_ok h
  rcases state_updateConversation (hrow k) (hopen k) fun _ => rfl with hsame | ⟨c, hc, hpc, hnew⟩
  · rw [hsame]
    exact .refl _
  · refine .of_state ?_ hnew (challenge_congr (hopen k))
    rw [state_of_lookup hc]
    exact hp c hpc

/-! ## The expiry pass -/

/-- Expiring a challenge renews its conversation with it. -/
theorem expireChallenge_receded {challenge : ChallengeRecord} {now : DateTime} {n : Nat}
    (hof : ChallengeOf db challenge.id challenge.key)
    (h : expireChallenge now challenge db = .ok (n, db')) : Receded db db' := by
  unfold expireChallenge at h
  obtain ⟨closed, db₁, hclose, hrest⟩ := Txn.bind_ok_iff.1 h
  obtain ⟨⟨hclosed, hopen₁⟩, hframe₁⟩ := (closeChallenges_yields _ now).of_ok hclose
  have hrow₁ (k : ConversationKey) : db₁.conversation.lookup k = db.conversation.lookup k := by
    rw [hframe₁.conversation (by simp) (by simp)]
  have hmine {k : ConversationKey} {r : ChallengeRow} (hr : db.openChallenge k = some r)
      (hid : r.id = challenge.id) : k = challenge.key := by
    obtain ⟨hmem, hkey, -⟩ := Database.openChallenge_eq_some_iff.1 hr
    exact hkey.symm.trans (hof r hmem hid)
  -- of every other conversation nothing is closed
  have hother (k : ConversationKey) (hk : k ≠ challenge.key) :
      db₁.openChallenge k = db.openChallenge k := by
    rw [hopen₁]
    cases hr : db.openChallenge k with
    | none => rfl
    | some r =>
      have hid : r.id ≠ challenge.id := fun hid => hk (hmine hr hid)
      simp [Option.filter, hid]
  by_cases hzero : closed = 0
  · rw [if_pos hzero] at hrest
    obtain ⟨-, rfl⟩ := Prod.mk.inj (Txn.pure_ok_iff.1 hrest)
    refine Steady.receded fun k => Database.lifecycle_congr (hrow₁ k) ?_
    rw [hopen₁]
    cases hr : db.openChallenge k with
    | none => rfl
    | some r =>
      obtain ⟨hmem, -, hopen⟩ := Database.openChallenge_eq_some_iff.1 hr
      have hid := Table.affected_eq_zero_iff.1 (hclosed.symm.trans hzero) r hmem
      have hid : r.id ≠ challenge.id := by simpa [hopen] using hid
      simp [Option.filter, hid]
  · rw [if_neg hzero] at hrest
    obtain ⟨renewed, db₂, hrenew, hrest⟩ := Txn.bind_ok_iff.1 hrest
    obtain ⟨-, hrow₂, hopen₂⟩ := updateConversation_ok hrenew
    have hedit : Respects Steady (do
        if challenge.promptMessageId.isSome then enqueueExpiryEdit challenge now
        pure 1) :=
      .ite (fun _ => Respects.bind (steady_of_writes [.enqueue] (by simp)
        (enqueueExpiryEdit_writes (by simp) (fun _ _ => trivial) _ _)) fun _ => .pure _)
        fun _ => .pure _
    have hsteady := hedit _ _ _ hrest
    -- the closed challenge was the open one of its conversation
    have hnone : db₁.openChallenge challenge.key = none := by
      obtain ⟨r, hmem, hp⟩ := Table.affected_pos_iff.1 (Nat.pos_of_ne_zero (hclosed ▸ hzero))
      simp only [Bool.and_eq_true, decide_eq_true_eq, Option.isNone_iff_eq_none] at hp
      have hr := Database.openChallenge_eq_some_iff.2 ⟨hmem, hof r hmem hp.1, hp.2⟩
      simp [hopen₁, hr, Option.filter, hp.1]
    intro k
    rw [hsteady k]
    by_cases hk : k = challenge.key
    · subst hk
      have hgone := challenge_eq_none ((hopen₂ challenge.key).trans hnone)
      rcases state_updateConversation (hrow₂ challenge.key) (hopen₂ challenge.key) fun _ => rfl with
        hsame | ⟨c, -, -, hnew⟩
      · refine ⟨.inl ?_, .inr hgone, fun _ => Lifecycle.sound_of_none ?_ hgone⟩
        · rw [hsame, Database.lifecycle, Database.lifecycle, hrow₁]
          rfl
        · -- a conversation that is not renewed does not wait
          intro hpending
          cases hc : db₁.conversation.lookup challenge.key with
          | none =>
            rw [hsame, Database.lifecycle_of_lookup_none hc] at hpending
            cases hpending
          | some c =>
            have hkey : c.key = challenge.key := Table.key_of_lookup hc
            have hstate : c.state = .verifyPending := by
              rw [hsame, state_of_lookup hc] at hpending
              exact hpending
            have hrow := hrow₂ challenge.key
            rw [hc] at hrow
            simp only [hkey, hstate, decide_true, Bool.and_self, Option.map_some, if_true] at hrow
            rw [state_of_lookup hrow] at hpending
            cases hpending
      · exact .renewed hnew hgone
    · have hrow := hrow₂ k
      have hlookup : db₂.conversation.lookup k = db.conversation.lookup k := by
        rw [hrow, hrow₁]
        cases hc : db.conversation.lookup k with
        | none => rfl
        | some c =>
          have hkey : c.key ≠ challenge.key := by rwa [show c.key = k from Table.key_of_lookup hc]
          simp [hkey]
      rw [Database.lifecycle_congr hlookup ((hopen₂ k).trans (hother k hk))]
      exact .refl _

/-- A due challenge belongs to the conversation it names, and goes on doing so. -/
structure ChallengeRecord.Known (challenge : ChallengeRecord) (db : Database) : Prop where
  belongs : ChallengeOf db challenge.id challenge.key
  issued : challenge.id ≤ db.challengeSeq

theorem ChallengeRecord.Known.age {challenge : ChallengeRecord} (h : challenge.Known db)
    (hage : ChallengesAge db.toTables db'.toTables) : challenge.Known db' :=
  ⟨h.belongs.age h.issued hage, Nat.le_trans h.issued hage.seq⟩

theorem expireChallenges_receded {now : DateTime} {challenges : List ChallengeRecord} {n : Nat}
    (hknown : ∀ challenge ∈ challenges, challenge.Known db)
    (h : expireChallenges now challenges db = .ok (n, db')) : Receded db db' := by
  induction challenges generalizing db n with
  | nil =>
    obtain ⟨-, rfl⟩ := Prod.mk.inj (Txn.pure_ok_iff.1 h)
    exact refl _
  | cons challenge challenges ih =>
    obtain ⟨expired, db₁, hone, hrest⟩ := Txn.bind_ok_iff.1 h
    obtain ⟨rest, db₂, hmore, hrest⟩ := Txn.bind_ok_iff.1 hrest
    obtain ⟨-, rfl⟩ := Prod.mk.inj (Txn.pure_ok_iff.1 hrest)
    have hfirst := hknown challenge (by simp)
    have hwrites : WritesTo expiryTargets (fun _ => True) db db₁ :=
      expireChallenge_writes (fun _ ht => ht) (fun _ _ => trivial) now challenge _ _ _ hone
    have hage := hwrites.challengesAge
    exact trans_of Receded (expireChallenge_receded hfirst.belongs hone)
      (ih (fun c hc => (hknown c (by simp [hc])).age hage) hmore)

/-- **The expiry pass renews conversations together with their challenges.** -/
theorem expireDueState_receded (now : DateTime) : Respects Receded (expireDueState now) := by
  intro db report db' h
  unfold expireDueState at h
  obtain ⟨due, s, hread, h₁⟩ := Txn.bind_ok_iff.1 h
  obtain ⟨hdue, rfl⟩ := Prod.mk.inj (Txn.read_ok_iff.1 hread)
  obtain ⟨expired, db₁, hchallenges, h₂⟩ := Txn.bind_ok_iff.1 h₁
  obtain ⟨blocks, db₂, hblocks, h₃⟩ := Txn.bind_ok_iff.1 h₂
  obtain ⟨-, rfl⟩ := Prod.mk.inj (Txn.pure_ok_iff.1 h₃)
  have hknown : ∀ challenge ∈ due, challenge.Known db := by
    intro challenge hmem
    rw [← hdue] at hmem
    obtain ⟨r, hr, rfl⟩ := List.mem_map.1 ((List.mem_insertionSort _).1 hmem)
    have hr := (List.mem_filter.1 hr).1
    refine ⟨fun d hd hid => ?_, db.consistent.conversations.challengeIds r hr⟩
    obtain rfl : d = r := Table.eq_of_key_eq hd hr hid
    rfl
  refine trans_of Receded (expireChallenges_receded hknown hchallenges)
    (renewConversations_receded ?_ now _ _ _ hblocks)
  intro c hc
  simp only [Bool.and_eq_true, decide_eq_true_eq] at hc
  simp [hc.1]

/-! ## Owner commands -/

/-- A reset conversation is as good as new. -/
theorem resetConversation_receded (connection : BusinessConnectionRecord) (chatId : Int)
    (now : DateTime) : Respects Receded (resetConversation connection chatId now) := by
  intro db result db' h
  unfold resetConversation at h
  generalize (⟨connection.connectionId, chatId⟩ : ConversationKey) = key at h
  obtain ⟨conversation, s, hread, h₁⟩ := Txn.bind_ok_iff.1 h
  obtain ⟨-, rfl⟩ := Prod.mk.inj (Txn.read_ok_iff.1 hread)
  cases conversation with
  | none =>
    obtain ⟨-, rfl⟩ := Prod.mk.inj (Txn.pure_ok_iff.1 h₁)
    exact refl _
  | some conversation =>
    -- in the order of the source: what is read, what is deleted, the conversation and the audit
    obtain ⟨messageIds, s₁, hledgerIds, h₂⟩ := Txn.bind_ok_iff.1 h₁
    have hread₁ : Respects Eq (eligibleDeletionIds key) := Respects.read _
    obtain rfl : db = s₁ := hread₁.of_ok hledgerIds
    obtain ⟨promptIds, s₂, hpromptIds, h₃⟩ := Txn.bind_ok_iff.1 h₂
    obtain rfl : db = s₂ := (Respects.read (R := Eq) _).of_ok hpromptIds
    obtain ⟨actions, db₁, houtbox, h₄⟩ := Txn.bind_ok_iff.1 h₃
    obtain ⟨challenges, db₂, hchallenge, h₅⟩ := Txn.bind_ok_iff.1 h₄
    obtain ⟨messages, db₃, hledger, h₆⟩ := Txn.bind_ok_iff.1 h₅
    obtain ⟨conversations, db₄, hupdate, h₇⟩ := Txn.bind_ok_iff.1 h₆
    obtain ⟨⟨⟩, db₅, haudit, h₈⟩ := Txn.bind_ok_iff.1 h₇
    obtain ⟨-, rfl⟩ := Prod.mk.inj (Txn.pure_ok_iff.1 h₈)
    have hsteady₁ : Steady db db₁ :=
      (steady_of_writes [.outbox] (by simp)
        (Uow.deleteOutbox_writes (by exact List.mem_singleton.2 rfl))).of_ok houtbox
    have hsteady₃ : Steady db₂ db₃ :=
      (steady_of_writes [.ledger] (by simp)
        (Uow.deleteLedger_writes (by exact List.mem_singleton.2 rfl))).of_ok hledger
    have hsteady₅ : Steady db₄ db₅ :=
      (steady_of_writes [.audit] (by simp)
        ((insertAuditEvent_writes (by simp) _).bind fun _ => .pure _)).of_ok haudit
    obtain ⟨-, hdb₂⟩ := Prod.mk.inj (Except.ok.inj (Uow.statement_ok_iff.1 hchallenge))
    have hopen₂ (k : ConversationKey) :
        db₂.openChallenge k = (db₁.openChallenge k).filter fun c => !(c.key = key : Bool) :=
      Database.openChallenge_delete (by rw [← hdb₂])
    have hrow₂ : db₂.conversation = db₁.conversation := by rw [← hdb₂]
    obtain ⟨-, hrow₄, hopen₄⟩ := updateConversation_ok hupdate
    -- the reset conversation has lost its challenge; another one has lost nothing
    intro k
    rw [hsteady₅ k]
    by_cases hk : k = key
    · subst hk
      have hgone : db₂.openChallenge k = none := by
        rw [hopen₂]
        cases hr : db₁.openChallenge k with
        | none => rfl
        | some r => simp [Option.filter, (Database.openChallenge_eq_some_iff.1 hr).2.1]
      have hnone : (db₄.lifecycle k).challenge = none := by
        rw [challenge_congr (hopen₄ k), hsteady₃ k, challenge_eq_none hgone]
      refine .renewed ?_ hnone
      cases hc : db₃.conversation.lookup k with
      | none =>
        rw [Database.lifecycle_of_lookup_none (by rw [hrow₄, hc]; rfl)]
        rfl
      | some c =>
        have hkey : c.key = k := Table.key_of_lookup hc
        have hrow := hrow₄ k
        rw [hc, Option.map_some, if_pos (by simp [hkey])] at hrow
        exact state_of_lookup hrow
    · rcases state_updateConversation (hrow₄ k) (hopen₄ k) fun _ => rfl with
        hsame | ⟨c, hc, hp, -⟩
      · have hopen : db₂.openChallenge k = db₁.openChallenge k := by
          rw [hopen₂]
          cases hr : db₁.openChallenge k with
          | none => rfl
          | some r => simp [Option.filter, (Database.openChallenge_eq_some_iff.1 hr).2.1, hk]
        rw [hsame, hsteady₃ k, Database.lifecycle_congr (by rw [hrow₂]) hopen, hsteady₁ k]
        exact .refl _
      · exact absurd ((Table.key_of_lookup hc).symm.trans (of_decide_eq_true hp)) hk

/-- An unblocked conversation is renewed, with what was left of its challenges closed. -/
theorem unblockConversation_receded (connection : BusinessConnectionRecord) (chatId : Int)
    (now : DateTime) : Respects Receded (unblockConversation connection chatId now) := by
  intro db result db' h
  unfold unblockConversation at h
  generalize (⟨connection.connectionId, chatId⟩ : ConversationKey) = key at h
  obtain ⟨changed, db₁, hupdate, h₁⟩ := Txn.bind_ok_iff.1 h
  obtain ⟨hchanged, hrow₁, hopen₁⟩ := updateConversation_ok hupdate
  by_cases hzero : changed = 0
  · rw [if_pos hzero] at h₁
    obtain rfl : db₁ = db' := by
      obtain ⟨found, s, hread, h₁⟩ := Txn.bind_ok_iff.1 h₁
      obtain ⟨-, rfl⟩ := Prod.mk.inj (Txn.read_ok_iff.1 hread)
      cases found <;> exact (Prod.mk.inj (Txn.pure_ok_iff.1 h₁)).2
    refine Steady.receded fun k => ?_
    rcases state_updateConversation (hrow₁ k) (hopen₁ k) fun _ => rfl with hsame | ⟨c, hc, hp, -⟩
    · exact hsame
    · have := Table.affected_eq_zero_iff.1 (hchanged.symm.trans hzero) c (Table.mem_of_lookup hc)
      exact absurd hp (by simp [this])
  · rw [if_neg hzero] at h₁
    obtain ⟨closed, db₂, hclose, h₂⟩ := Txn.bind_ok_iff.1 h₁
    obtain ⟨⟨-, hopen₂⟩, hframe₂⟩ := (closeChallenges_yields _ now).of_ok hclose
    have haudit : Respects Steady (do
        insertRecoveryAudit key "unblock" now
        pure (CommandResult.text s!"unblocked chat_id={chatId}")) :=
      Respects.bind (steady_of_writes [.audit] (by simp)
        ((insertAuditEvent_writes (by simp) _).bind fun _ => .pure _)) fun _ => .pure _
    have hsteady := haudit _ _ _ h₂
    have hrow₂ (k : ConversationKey) : db₂.conversation.lookup k = db₁.conversation.lookup k := by
      rw [hframe₂.conversation (by simp) (by simp)]
    intro k
    rw [hsteady k]
    by_cases hk : k = key
    · subst hk
      have hgone : db₂.openChallenge k = none := by
        rw [hopen₂]
        cases hr : db₁.openChallenge k with
        | none => rfl
        | some r => simp [Option.filter, (Database.openChallenge_eq_some_iff.1 hr).2.1]
      -- a change was made, and only to this conversation
      obtain ⟨c, hmem, hp⟩ := Table.affected_pos_iff.1 (Nat.pos_of_ne_zero (hchanged ▸ hzero))
      have hkey : c.key = k := by
        simp only [Bool.and_eq_true, decide_eq_true_eq] at hp
        exact hp.1
      have hlookup : db.conversation.lookup k = some c := hkey ▸ Table.lookup_of_mem hmem
      have hrow := (hrow₂ k).trans (hrow₁ k)
      rw [hlookup, Option.map_some, if_pos hp] at hrow
      exact .renewed (state_of_lookup hrow) (challenge_eq_none hgone)
    · have hopen : db₂.openChallenge k = db₁.openChallenge k := by
        rw [hopen₂]
        cases hr : db₁.openChallenge k with
        | none => rfl
        | some r => simp [Option.filter, (Database.openChallenge_eq_some_iff.1 hr).2.1, hk]
      rw [Database.lifecycle_congr (hrow₂ k) hopen]
      rcases state_updateConversation (hrow₁ k) (hopen₁ k) fun _ => rfl with
        hsame | ⟨c, hc, hp, -⟩
      · rw [hsame]
        exact .refl _
      · simp only [Bool.and_eq_true, decide_eq_true_eq] at hp
        exact absurd ((Table.key_of_lookup hc).symm.trans hp.1) hk

theorem executeAuthorized_receded (command : OwnerCommand) (source : OwnerCommandSource)
    (owner : AuthorizedOwner) (now : DateTime) (default : Bool) :
    Respects Receded (executeAuthorized command source owner now default) :=
  executeAuthorized_respects (fun _ _ _ => resetConversation_receded _ _ _)
    (fun _ _ => unblockConversation_receded _ _ _) fun _ _ =>
      (steady_of_writes [.mode] (by simp) (setDryRun_writes (by simp) _ _)).mono
        fun _ _ => Steady.receded

/-- What the update of an Owner writes besides the command does not touch conversations. -/
theorem receded_of_writes {α : Type} {x : Uow α}
    (h : Respects (WritesTo [.update, .audit, .owner, .enqueue] fun _ => True) x) :
    Respects Receded x :=
  h.mono fun _ _ hw => hw.receded (by simp) (by simp)

theorem processOwnerCommand_receded (updateId : Int) (snapshot : OwnerCommandSnapshot)
    (occurredAt : DateTime) (default : Bool) :
    Respects Receded (processOwnerCommand updateId snapshot occurredAt default) :=
  processOwnerCommand_respects (receded_of_writes (insertRedactedUpdate_writes (by simp) _ _))
    (receded_of_writes (authorize_writes (by simp) _ _))
    (fun _ => executeCommand_respects fun _ _ => executeAuthorized_receded _ _ _ _ _)
    (fun _ => receded_of_writes
      (.forEach fun action _ => by
        cases action with
        | deleteBusinessMessages key messageIds =>
          exact .forEach fun _ _ => (enqueueOutboxAction_writes (by simp) trivial).bind fun _ =>
            .pure _))
    fun _ _ _ => receded_of_writes
      ((enqueueOutboxAction_writes (by simp) trivial).bind fun _ => .pure _)

theorem processOwnerStart_receded (updateId : Int) (snapshot : OwnerCommandSnapshot)
    (occurredAt : DateTime) (default : Bool) :
    Respects Receded (processOwnerStart updateId snapshot occurredAt default) :=
  processOwnerStart_respects (processOwnerCommand_receded _ _ _ _)
    (receded_of_writes (insertRedactedUpdate_writes (by simp) _ _))
    fun _ => receded_of_writes ((enqueueOutboxAction_writes (by simp) trivial).bind fun _ => .pure _)

end ChatHygiene
