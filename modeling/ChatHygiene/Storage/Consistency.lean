import ChatHygiene.Storage.Statements
/-!
# Every statement keeps the constraints

One lemma a statement, and the statement as a unit of work. From here on the
tables are only written through these.
-/

namespace ChatHygiene

namespace Tables

variable {t : Tables}

/-! ## Connections, conversations, messages and challenges -/

theorem consistent_insertConversation {c : Conversation} {r} (h : t.Consistent)
    (hr : t.insertConversation c = .ok r) : r.2.Consistent := by
  unfold insertConversation at hr
  split at hr
  · split at hr
    · next hfk =>
      cases hr
      refine ⟨?_, h.updates⟩
      dsimp only
      refine { h.conversations with
        conversationFk := ?_
        ledgerFk := ?_
        challengeFk := ?_ }
      · intro d hd
        rcases Table.mem_insert.1 hd with hd | rfl
        · exact h.conversations.conversationFk d hd
        · exact hfk
      · intro m hm
        simp [h.conversations.ledgerFk m hm]
      · intro d hd
        simp [h.conversations.challengeFk d hd]
    · cases hr
  · cases hr

theorem consistent_updateConversation {p f hf r} (h : t.Consistent)
    (hr : t.updateConversation p f hf = .ok r) : r.2.Consistent := by
  cases hr
  refine ⟨?_, h.updates⟩
  dsimp only
  refine { h.conversations with
    conversationFk := ?_
    ledgerFk := ?_
    challengeFk := ?_ }
  · intro d hd
    obtain ⟨c, hc, rfl⟩ := Table.mem_update.1 hd
    have := h.conversations.conversationFk c hc
    split
    · rwa [hf]
    · exact this
  · intro m hm
    simpa using h.conversations.ledgerFk m hm
  · intro d hd
    simpa using h.conversations.challengeFk d hd

theorem consistent_insertLedger {m : LedgerMessage} {r} (h : t.Consistent)
    (hr : t.insertLedger m = .ok r) : r.2.Consistent := by
  unfold insertLedger at hr
  split at hr
  · split at hr
    · next hfk =>
      cases hr
      refine ⟨?_, h.updates⟩
      dsimp only
      refine { h.conversations with ledgerFk := ?_ }
      intro n hn
      rcases Table.mem_insert.1 hn with hn | rfl
      · exact h.conversations.ledgerFk n hn
      · exact hfk
    · cases hr
  · cases hr
    exact h

theorem consistent_updateLedger {p f hf r} (h : t.Consistent)
    (hr : t.updateLedger p f hf = .ok r) : r.2.Consistent := by
  cases hr
  refine ⟨?_, h.updates⟩
  dsimp only
  refine { h.conversations with ledgerFk := ?_ }
  intro n hn
  obtain ⟨m, hm, rfl⟩ := Table.mem_update.1 hn
  have := h.conversations.ledgerFk m hm
  split
  · rwa [show (f m).key = m.key from congrArg Prod.fst (hf m)]
  · exact this

theorem consistent_deleteLedger {p r} (h : t.Consistent)
    (hr : t.deleteLedger p = .ok r) : r.2.Consistent := by
  cases hr
  refine ⟨?_, h.updates⟩
  dsimp only
  exact { h.conversations with
    ledgerFk := fun n hn => h.conversations.ledgerFk n (Table.mem_delete.1 hn).1 }

/-- What the partial unique index says of a key it admits. -/
theorem noActiveChallenge_iff {key : ConversationKey} :
    t.noActiveChallenge key = true ↔ ∀ c ∈ t.challenge.rows, c.key = key → c.closedAt ≠ none := by
  simp [noActiveChallenge, Option.isSome_iff_ne_none, imp_iff_not_or]

theorem consistent_insertChallenge {c : ChallengeRecord} {r} (h : t.Consistent)
    (hr : t.insertChallenge c = .ok r) : r.2.Consistent := by
  unfold insertChallenge at hr
  split at hr
  · next hcheck =>
    split at hr
    · next hfk =>
      split at hr
      · next hone =>
        rw [noActiveChallenge_iff] at hone
        dsimp only at hr
        split at hr
        · cases hr
          refine ⟨?_, h.updates⟩
          dsimp only
          refine { h.conversations with
            challengeFk := ?_
            challengeOneActive := ?_
            challengeAttempts := ?_
            challengeIds := ?_ }
          · intro d hd
            rcases Table.mem_insert.1 hd with hd | rfl
            · exact h.conversations.challengeFk d hd
            · exact hfk
          · intro d hd e he hd₀ he₀ hkey
            rcases Table.mem_insert.1 hd with hd | rfl <;> rcases Table.mem_insert.1 he with he | rfl
            · exact h.conversations.challengeOneActive d hd e he hd₀ he₀ hkey
            · exact absurd hd₀ (hone d hd hkey)
            · exact absurd he₀ (hone e he hkey.symm)
            · rfl
          · intro d hd
            rcases Table.mem_insert.1 hd with hd | rfl
            · exact h.conversations.challengeAttempts d hd
            · exact hcheck
          · intro d hd
            rcases Table.mem_insert.1 hd with hd | rfl
            · exact Nat.le_succ_of_le (h.conversations.challengeIds d hd)
            · exact Nat.le_refl _
        · cases hr
      · cases hr
    · cases hr
  · cases hr

theorem consistent_updateChallenge {p f} {hf : ChallengeChange p f} {r} (h : t.Consistent)
    (hr : t.updateChallenge p f hf = .ok r) : r.2.Consistent := by
  cases hr
  -- a changed row keeps its id and key, and is open only if it was
  have hrow : ∀ c, (if p c then f c else c).id = c.id ∧ (if p c then f c else c).key = c.key ∧
      ((if p c then f c else c).closedAt = none → c.closedAt = none) := by
    intro c
    split
    · exact ⟨hf.id c, hf.key c, hf.closed c⟩
    · exact ⟨rfl, rfl, id⟩
  refine ⟨?_, h.updates⟩
  dsimp only
  refine { h.conversations with
    challengeFk := ?_
    challengeOneActive := ?_
    challengeAttempts := ?_
    challengeIds := ?_ }
  · intro d hd
    obtain ⟨c, hc, rfl⟩ := Table.mem_update.1 hd
    rw [(hrow c).2.1]
    exact h.conversations.challengeFk c hc
  · intro d hd e he hd₀ he₀ hkey
    obtain ⟨c, hc, rfl⟩ := Table.mem_update.1 hd
    obtain ⟨c', hc', rfl⟩ := Table.mem_update.1 he
    rw [(hrow c).1, (hrow c').1]
    rw [(hrow c).2.1, (hrow c').2.1] at hkey
    exact h.conversations.challengeOneActive c hc c' hc' ((hrow c).2.2 hd₀) ((hrow c').2.2 he₀) hkey
  · intro d hd
    obtain ⟨c, hc, rfl⟩ := Table.mem_update.1 hd
    have := h.conversations.challengeAttempts c hc
    split
    · next hp => exact hf.attempts c hp this.1 this.2
    · exact this
  · intro d hd
    obtain ⟨c, hc, rfl⟩ := Table.mem_update.1 hd
    rw [(hrow c).1]
    exact h.conversations.challengeIds c hc

theorem consistent_deleteChallenge {p r} (h : t.Consistent)
    (hr : t.deleteChallenge p = .ok r) : r.2.Consistent := by
  cases hr
  have hmem : ∀ c ∈ (t.challenge.delete p).rows, c ∈ t.challenge.rows :=
    fun c hc => (Table.mem_delete.1 hc).1
  refine ⟨?_, h.updates⟩
  dsimp only
  exact { h.conversations with
    challengeFk := fun c hc => h.conversations.challengeFk c (hmem c hc)
    challengeOneActive := fun c hc d hd =>
      h.conversations.challengeOneActive c (hmem c hc) d (hmem d hd)
    challengeAttempts := fun c hc => h.conversations.challengeAttempts c (hmem c hc)
    challengeIds := fun c hc => h.conversations.challengeIds c (hmem c hc) }

theorem consistent_upsertConnection {c : BusinessConnectionRecord} {r} (h : t.Consistent)
    (hr : t.upsertConnection c = .ok r) : r.2.Consistent := by
  unfold upsertConnection at hr
  split at hr
  · split at hr
    · next hunique =>
      simp only [List.all_eq_true, Bool.or_eq_true, decide_eq_true_eq] at hunique
      split at hr
      · cases hr
        refine ⟨?_, h.updates⟩
        dsimp only
        refine { h.conversations with
          ownerUnique := ?_
          conversationFk := ?_ }
        · intro d hd e he howner
          rcases Table.mem_insert.1 hd with hd' | rfl <;>
            rcases Table.mem_insert.1 he with he' | rfl
          · exact h.conversations.ownerUnique d hd' e he' howner
          · exact (hunique d hd').resolve_right (· howner)
          · exact ((hunique e he').resolve_right (· howner.symm)).symm
          · rfl
        · intro d hd
          simp [h.conversations.conversationFk d hd]
      · cases hr
        refine ⟨?_, h.updates⟩
        dsimp only
        refine { h.conversations with
          ownerUnique := ?_
          conversationFk := ?_ }
        · intro d hd e he howner
          obtain ⟨d, hd', rfl⟩ := Table.mem_update.1 hd
          obtain ⟨e, he', rfl⟩ := Table.mem_update.1 he
          by_cases hdc : d.connectionId = c.connectionId <;>
            by_cases hec : e.connectionId = c.connectionId <;>
            simp only [hdc, hec, decide_true, decide_false, if_true, Bool.false_eq_true,
              if_false] at howner ⊢
          · exact ((hunique e he').resolve_right (· howner.symm)).symm
          · exact hdc ((hunique d hd').resolve_right (· howner))
          · exact h.conversations.ownerUnique d hd' e he' howner
        · intro d hd
          simpa using h.conversations.conversationFk d hd
    · cases hr
  · cases hr

theorem consistent_updateConnection {p f} {hf : ConnectionChange f} {r} (h : t.Consistent)
    (hr : t.updateConnection p f hf = .ok r) : r.2.Consistent := by
  cases hr
  have hrow : ∀ c, (if p c then f c else c).connectionId = c.connectionId ∧
      (if p c then f c else c).ownerUserId = c.ownerUserId := by
    intro c
    split
    · exact ⟨hf.connectionId c, hf.ownerUserId c⟩
    · exact ⟨rfl, rfl⟩
  refine ⟨?_, h.updates⟩
  dsimp only
  refine { h.conversations with
    ownerUnique := ?_
    conversationFk := ?_ }
  · intro d hd e he howner
    obtain ⟨d, hd', rfl⟩ := Table.mem_update.1 hd
    obtain ⟨e, he', rfl⟩ := Table.mem_update.1 he
    rw [(hrow d).1, (hrow e).1]
    rw [(hrow d).2, (hrow e).2] at howner
    exact h.conversations.ownerUnique d hd' e he' howner
  · intro d hd
    simpa using h.conversations.conversationFk d hd

theorem consistent_deleteConnection {p r} (h : t.Consistent)
    (hr : t.deleteConnection p = .ok r) : r.2.Consistent := by
  cases hr
  refine ⟨?_, h.updates⟩
  dsimp only
  refine
    { ownerUnique := ?_
      conversationFk := ?_
      ledgerFk := ?_
      challengeFk := ?_
      challengeOneActive := ?_
      challengeAttempts := ?_
      challengeIds := ?_ }
  · exact fun d hd e he => h.conversations.ownerUnique d (Table.mem_delete.1 hd).1 e
      (Table.mem_delete.1 he).1
  · exact fun d hd => by simpa using (Table.mem_delete.1 hd).2
  · exact fun d hd => by simpa using (Table.mem_delete.1 hd).2
  · exact fun d hd => by simpa using (Table.mem_delete.1 hd).2
  · exact fun d hd e he => h.conversations.challengeOneActive d (Table.mem_delete.1 hd).1 e
      (Table.mem_delete.1 he).1
  · exact fun d hd => h.conversations.challengeAttempts d (Table.mem_delete.1 hd).1
  · exact fun d hd => h.conversations.challengeIds d (Table.mem_delete.1 hd).1

/-! ## Updates, actions and audits -/

theorem consistent_insertUpdate {u : ProcessedUpdate} {r} (h : t.Consistent)
    (hr : t.insertUpdate u = .ok r) : r.2.Consistent := by
  unfold insertUpdate at hr
  split at hr
  · cases hr
    refine ⟨h.conversations, ?_⟩
    exact { h.updates with
      outboxFk := fun a ha => by simp [h.updates.outboxFk a ha]
      auditFk := fun a ha u hu => by simp [h.updates.auditFk a ha u hu] }
  · cases hr

theorem consistent_insertOrIgnoreUpdate {u : ProcessedUpdate} {r} (h : t.Consistent)
    (hr : t.insertOrIgnoreUpdate u = .ok r) : r.2.Consistent := by
  unfold insertOrIgnoreUpdate at hr
  split at hr
  · cases hr
    refine ⟨h.conversations, ?_⟩
    exact { h.updates with
      outboxFk := fun a ha => by simp [h.updates.outboxFk a ha]
      auditFk := fun a ha u hu => by simp [h.updates.auditFk a ha u hu] }
  · cases hr
    exact h

theorem consistent_updateUpdate {p f hf r} (h : t.Consistent)
    (hr : t.updateUpdate p f hf = .ok r) : r.2.Consistent := by
  cases hr
  refine ⟨h.conversations, ?_⟩
  exact { h.updates with
    outboxFk := fun a ha => by simpa using h.updates.outboxFk a ha
    auditFk := fun a ha u hu => by simpa using h.updates.auditFk a ha u hu }

theorem consistent_deleteUpdate {p r} (h : t.Consistent)
    (hr : t.deleteUpdate p = .ok r) : r.2.Consistent := by
  cases hr
  refine ⟨h.conversations, ?_⟩
  dsimp only
  refine
    { outboxFk := ?_
      idempotencyUnique := ?_
      outboxIds := ?_
      outboxSorted := ?_
      auditFk := ?_
      auditIds := ?_ }
  · exact fun a ha => by simpa using (Table.mem_delete.1 ha).2
  · exact fun a ha b hb => h.updates.idempotencyUnique a (Table.mem_delete.1 ha).1 b
      (Table.mem_delete.1 hb).1
  · exact fun a ha => h.updates.outboxIds a (Table.mem_delete.1 ha).1
  · exact h.updates.outboxSorted.filter _
  · intro a ha u hu
    obtain ⟨b, hb, rfl⟩ := Table.mem_update.1 ha
    split at hu
    · cases hu
    · next hkept =>
      simp only [Option.any_eq_true, not_exists, not_and, Bool.not_eq_true,
        Bool.not_eq_false'] at hkept
      exact hkept u hu
  · intro a ha
    obtain ⟨b, hb, rfl⟩ := Table.mem_update.1 ha
    have := h.updates.auditIds b hb
    split <;> exact this

theorem consistent_insertOutbox {a : NewOutboxAction} {r} (h : t.Consistent)
    (hr : t.insertOutbox a = .ok r) : r.2.Consistent := by
  unfold insertOutbox at hr
  split at hr
  · cases hr
    exact h
  · next hkey =>
    split at hr
    · next hfk =>
      dsimp only at hr
      split at hr
      · cases hr
        refine ⟨h.conversations, ?_⟩
        dsimp only
        simp only [List.any_eq_true, decide_eq_true_eq, not_exists, not_and] at hkey
        refine { h.updates with
          outboxFk := ?_
          idempotencyUnique := ?_
          outboxIds := ?_
          outboxSorted := ?_ }
        · intro b hb
          rcases Table.mem_insert.1 hb with hb' | rfl
          · exact h.updates.outboxFk b hb'
          · exact hfk
        · intro b hb c hc heq
          rcases Table.mem_insert.1 hb with hb' | rfl <;>
            rcases Table.mem_insert.1 hc with hc' | rfl
          · exact h.updates.idempotencyUnique b hb' c hc' heq
          · exact absurd heq (hkey b hb')
          · exact absurd heq.symm (hkey c hc')
          · rfl
        · intro b hb
          rcases Table.mem_insert.1 hb with hb' | rfl
          · exact Nat.le_succ_of_le (h.updates.outboxIds b hb')
          · exact Nat.le_refl _
        · rw [Table.rows_insert, List.pairwise_append]
          refine ⟨h.updates.outboxSorted, List.pairwise_singleton _ _, ?_⟩
          intro b hb c hc
          rw [List.mem_singleton] at hc
          subst hc
          exact Nat.lt_succ_of_le (h.updates.outboxIds b hb)
      · cases hr
    · cases hr

theorem consistent_updateOutbox {p f} {hf : OutboxChange f} {r} (h : t.Consistent)
    (hr : t.updateOutbox p f hf = .ok r) : r.2.Consistent := by
  cases hr
  refine ⟨h.conversations, ?_⟩
  dsimp only
  have hrow : ∀ a, (if p a then f a else a).id = a.id ∧
      (if p a then f a else a).sourceUpdateId = a.sourceUpdateId ∧
      (if p a then f a else a).idempotencyKey = a.idempotencyKey := by
    intro a
    split
    · exact ⟨hf.id a, hf.sourceUpdateId a, hf.idempotencyKey a⟩
    · exact ⟨rfl, rfl, rfl⟩
  refine { h.updates with
    outboxFk := ?_
    idempotencyUnique := ?_
    outboxIds := ?_
    outboxSorted := ?_ }
  · intro a ha
    obtain ⟨b, hb, rfl⟩ := Table.mem_update.1 ha
    rw [(hrow b).2.1]
    exact h.updates.outboxFk b hb
  · intro a ha b hb heq
    obtain ⟨a, ha', rfl⟩ := Table.mem_update.1 ha
    obtain ⟨b, hb', rfl⟩ := Table.mem_update.1 hb
    rw [(hrow a).1, (hrow b).1]
    rw [(hrow a).2.2, (hrow b).2.2] at heq
    exact h.updates.idempotencyUnique a ha' b hb' heq
  · intro a ha
    obtain ⟨b, hb, rfl⟩ := Table.mem_update.1 ha
    rw [(hrow b).1]
    exact h.updates.outboxIds b hb
  · refine List.pairwise_map.2 (h.updates.outboxSorted.imp fun {a b} hab => ?_)
    rw [(hrow a).1, (hrow b).1]
    exact hab

theorem consistent_deleteOutbox {p r} (h : t.Consistent)
    (hr : t.deleteOutbox p = .ok r) : r.2.Consistent := by
  cases hr
  refine ⟨h.conversations, ?_⟩
  dsimp only
  have hmem : ∀ a ∈ (t.outboxAction.delete p).rows, a ∈ t.outboxAction.rows :=
    fun a ha => (Table.mem_delete.1 ha).1
  exact { h.updates with
    outboxFk := fun a ha => h.updates.outboxFk a (hmem a ha)
    idempotencyUnique := fun a ha b hb =>
      h.updates.idempotencyUnique a (hmem a ha) b (hmem b hb)
    outboxIds := fun a ha => h.updates.outboxIds a (hmem a ha)
    outboxSorted := h.updates.outboxSorted.filter _ }

theorem consistent_insertAudit {a : NewAuditEvent} {r} (h : t.Consistent)
    (hr : t.insertAudit a = .ok r) : r.2.Consistent := by
  unfold insertAudit at hr
  split at hr
  · split at hr
    · next hfk =>
      dsimp only at hr
      split at hr
      · cases hr
        refine ⟨h.conversations, ?_⟩
        dsimp only
        refine { h.updates with
          auditFk := ?_
          auditIds := ?_ }
        · intro b hb u hu
          rcases Table.mem_insert.1 hb with hb' | rfl
          · exact h.updates.auditFk b hb' u hu
          · exact (Option.all_eq_true _ _).1 hfk u hu
        · intro b hb
          rcases Table.mem_insert.1 hb with hb' | rfl
          · exact Nat.le_succ_of_le (h.updates.auditIds b hb')
          · exact Nat.le_refl _
      · cases hr
    · cases hr
  · cases hr

theorem consistent_deleteAudit {p r} (h : t.Consistent)
    (hr : t.deleteAudit p = .ok r) : r.2.Consistent := by
  cases hr
  refine ⟨h.conversations, ?_⟩
  exact { h.updates with
    auditFk := fun a ha => h.updates.auditFk a (Table.mem_delete.1 ha).1
    auditIds := fun a ha => h.updates.auditIds a (Table.mem_delete.1 ha).1 }

/-! ## Candidates and the singletons: no constraint reads them -/

theorem consistent_insertCandidate {c : BusinessConnectionCandidate} {r} (h : t.Consistent)
    (hr : t.insertCandidate c = .ok r) : r.2.Consistent := by
  unfold insertCandidate at hr
  split at hr
  · split at hr
    · cases hr
      exact ⟨h.conversations, h.updates⟩
    · cases hr
  · cases hr

theorem consistent_upsertCandidate {c : BusinessConnectionCandidate} {r} (h : t.Consistent)
    (hr : t.upsertCandidate c = .ok r) : r.2.Consistent := by
  unfold upsertCandidate at hr
  split at hr
  · split at hr <;> cases hr <;> exact ⟨h.conversations, h.updates⟩
  · cases hr

theorem consistent_updateCandidate {p f hf r} (h : t.Consistent)
    (hr : t.updateCandidate p f hf = .ok r) : r.2.Consistent := by
  cases hr
  exact ⟨h.conversations, h.updates⟩

theorem consistent_deleteCandidate {p r} (h : t.Consistent)
    (hr : t.deleteCandidate p = .ok r) : r.2.Consistent := by
  cases hr
  exact ⟨h.conversations, h.updates⟩

theorem consistent_updateGuard {p f r} (h : t.Consistent)
    (hr : t.updateGuard p f = .ok r) : r.2.Consistent := by
  unfold updateGuard at hr
  split at hr <;> cases hr <;> exact ⟨h.conversations, h.updates⟩

theorem consistent_updateReconciliation {p f r} (h : t.Consistent)
    (hr : t.updateReconciliation p f = .ok r) : r.2.Consistent := by
  unfold updateReconciliation at hr
  split at hr <;> cases hr <;> exact ⟨h.conversations, h.updates⟩

theorem consistent_updateOwner {p f r} (h : t.Consistent)
    (hr : t.updateOwner p f = .ok r) : r.2.Consistent := by
  unfold updateOwner at hr
  split at hr <;> cases hr <;> exact ⟨h.conversations, h.updates⟩

theorem consistent_setDestructiveMode {v r} (h : t.Consistent)
    (hr : t.setDestructiveMode v = .ok r) : r.2.Consistent := by
  cases hr
  exact ⟨h.conversations, h.updates⟩

end Tables

/-! ## The statements as units of work -/

namespace Uow

def insertConversation (c : Conversation) : Uow Unit :=
  statement (Tables.insertConversation c) fun _ _ => Tables.consistent_insertConversation

def updateConversation (p : Conversation → Bool) (f : Conversation → Conversation)
    (hf : ∀ c, (f c).key = c.key) : Uow Nat :=
  statement (Tables.updateConversation p f hf) fun _ _ => Tables.consistent_updateConversation

def insertLedger (m : LedgerMessage) : Uow Bool :=
  statement (Tables.insertLedger m) fun _ _ => Tables.consistent_insertLedger

def updateLedger (p : LedgerMessage → Bool) (f : LedgerMessage → LedgerMessage)
    (hf : ∀ m, (f m).pk = m.pk) : Uow Nat :=
  statement (Tables.updateLedger p f hf) fun _ _ => Tables.consistent_updateLedger

def deleteLedger (p : LedgerMessage → Bool) : Uow Nat :=
  statement (Tables.deleteLedger p) fun _ _ => Tables.consistent_deleteLedger

def insertChallenge (c : ChallengeRecord) : Uow Nat :=
  statement (Tables.insertChallenge c) fun _ _ => Tables.consistent_insertChallenge

def updateChallenge (p : ChallengeRow → Bool) (f : ChallengeRow → ChallengeRow)
    (hf : Tables.ChallengeChange p f) : Uow Nat :=
  statement (Tables.updateChallenge p f hf) fun _ _ => Tables.consistent_updateChallenge

def deleteChallenge (p : ChallengeRow → Bool) : Uow Nat :=
  statement (Tables.deleteChallenge p) fun _ _ => Tables.consistent_deleteChallenge

def insertUpdate (u : ProcessedUpdate) : Uow Unit :=
  statement (Tables.insertUpdate u) fun _ _ => Tables.consistent_insertUpdate

def insertOrIgnoreUpdate (u : ProcessedUpdate) : Uow Bool :=
  statement (Tables.insertOrIgnoreUpdate u) fun _ _ => Tables.consistent_insertOrIgnoreUpdate

def updateUpdate (p : ProcessedUpdate → Bool) (f : ProcessedUpdate → ProcessedUpdate)
    (hf : ∀ u, (f u).updateId = u.updateId) : Uow Nat :=
  statement (Tables.updateUpdate p f hf) fun _ _ => Tables.consistent_updateUpdate

def deleteUpdate (p : ProcessedUpdate → Bool) : Uow Nat :=
  statement (Tables.deleteUpdate p) fun _ _ => Tables.consistent_deleteUpdate

def insertOutbox (a : NewOutboxAction) : Uow Bool :=
  statement (Tables.insertOutbox a) fun _ _ => Tables.consistent_insertOutbox

def updateOutbox (p : OutboxActionRow → Bool) (f : OutboxActionRow → OutboxActionRow)
    (hf : Tables.OutboxChange f) : Uow Nat :=
  statement (Tables.updateOutbox p f hf) fun _ _ => Tables.consistent_updateOutbox

def deleteOutbox (p : OutboxActionRow → Bool) : Uow Nat :=
  statement (Tables.deleteOutbox p) fun _ _ => Tables.consistent_deleteOutbox

def insertAudit (a : NewAuditEvent) : Uow Nat :=
  statement (Tables.insertAudit a) fun _ _ => Tables.consistent_insertAudit

def deleteAudit (p : AuditEvent → Bool) : Uow Nat :=
  statement (Tables.deleteAudit p) fun _ _ => Tables.consistent_deleteAudit

def upsertConnection (c : BusinessConnectionRecord) : Uow Unit :=
  statement (Tables.upsertConnection c) fun _ _ => Tables.consistent_upsertConnection

def updateConnection (p : BusinessConnectionRecord → Bool)
    (f : BusinessConnectionRecord → BusinessConnectionRecord) (hf : Tables.ConnectionChange f) :
    Uow Nat :=
  statement (Tables.updateConnection p f hf) fun _ _ => Tables.consistent_updateConnection

def deleteConnection (p : BusinessConnectionRecord → Bool) : Uow Nat :=
  statement (Tables.deleteConnection p) fun _ _ => Tables.consistent_deleteConnection

def insertCandidate (c : BusinessConnectionCandidate) : Uow Unit :=
  statement (Tables.insertCandidate c) fun _ _ => Tables.consistent_insertCandidate

def upsertCandidate (c : BusinessConnectionCandidate) : Uow Unit :=
  statement (Tables.upsertCandidate c) fun _ _ => Tables.consistent_upsertCandidate

def updateCandidate (p : BusinessConnectionCandidate → Bool)
    (f : BusinessConnectionCandidate → BusinessConnectionCandidate)
    (hf : ∀ c, (f c).connectionId = c.connectionId) : Uow Nat :=
  statement (Tables.updateCandidate p f hf) fun _ _ => Tables.consistent_updateCandidate

def deleteCandidate (p : BusinessConnectionCandidate → Bool) : Uow Nat :=
  statement (Tables.deleteCandidate p) fun _ _ => Tables.consistent_deleteCandidate

def updateGuard (p : CandidateGuard → Bool) (f : CandidateGuard → CandidateGuard) : Uow Nat :=
  statement (Tables.updateGuard p f) fun _ _ => Tables.consistent_updateGuard

def updateReconciliation (p : TelegramReconciliationState → Bool)
    (f : TelegramReconciliationState → TelegramReconciliationState) : Uow Nat :=
  statement (Tables.updateReconciliation p f) fun _ _ => Tables.consistent_updateReconciliation

def updateOwner (p : OwnerLifecycleState → Bool)
    (f : OwnerLifecycleState → OwnerLifecycleState) : Uow Nat :=
  statement (Tables.updateOwner p f) fun _ _ => Tables.consistent_updateOwner

def setDestructiveMode (value : Bool) : Uow Unit :=
  statement (Tables.setDestructiveMode value) fun _ _ => Tables.consistent_setDestructiveMode

end Uow

end ChatHygiene
