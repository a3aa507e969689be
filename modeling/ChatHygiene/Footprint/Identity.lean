import ChatHygiene.Footprint.Frame
/-!
# What a row never loses

Challenges keep their id and their conversation, actions keep what they were
enqueued with, and ids are handed out upwards, so an id that is in use or that
was used is never given to another row. Recorded events only come from the
statement that records one.
-/

namespace ChatHygiene

/-- The row is the action as it was enqueued: an outbox row keeps these columns. -/
structure OutboxActionRow.Same (a b : OutboxActionRow) : Prop where
  id : a.id = b.id
  sourceUpdateId : a.sourceUpdateId = b.sourceUpdateId
  key : a.key = b.key
  payload : a.payload = b.payload
  idempotencyKey : a.idempotencyKey = b.idempotencyKey

/-- The row carries the new action. -/
structure OutboxActionRow.Carries (b : OutboxActionRow) (a : NewOutboxAction) : Prop where
  sourceUpdateId : b.sourceUpdateId = a.sourceUpdateId
  key : b.key = a.key
  payload : b.payload = a.payload
  idempotencyKey : b.idempotencyKey = a.idempotencyKey

theorem OutboxActionRow.Same.rfl {a : OutboxActionRow} : a.Same a :=
  ⟨Eq.refl _, Eq.refl _, Eq.refl _, Eq.refl _, Eq.refl _⟩

theorem OutboxActionRow.Same.trans {a b c : OutboxActionRow} (h : a.Same b) (h' : b.Same c) :
    a.Same c where
  id := h.id.trans h'.id
  sourceUpdateId := h.sourceUpdateId.trans h'.sourceUpdateId
  key := h.key.trans h'.key
  payload := h.payload.trans h'.payload
  idempotencyKey := h.idempotencyKey.trans h'.idempotencyKey

theorem OutboxActionRow.Same.carries {b c : OutboxActionRow} {a : NewOutboxAction} (h : b.Same c)
    (hb : b.Carries a) : c.Carries a where
  sourceUpdateId := h.sourceUpdateId.symm.trans hb.sourceUpdateId
  key := h.key.symm.trans hb.key
  payload := h.payload.symm.trans hb.payload
  idempotencyKey := h.idempotencyKey.symm.trans hb.idempotencyKey

/-! ## Challenges -/

/-- Every challenge is one that was there, of the same conversation, or has a new id. -/
structure ChallengesAge (t t' : Tables) : Prop where
  seq : t.challengeSeq ≤ t'.challengeSeq
  row : ∀ c' ∈ t'.challenge.rows,
    (∃ c ∈ t.challenge.rows, c.id = c'.id ∧ c.key = c'.key) ∨ t.challengeSeq < c'.id

theorem ChallengesAge.refl (t : Tables) : ChallengesAge t t :=
  ⟨Nat.le_refl _, fun c hc => .inl ⟨c, hc, rfl, rfl⟩⟩

theorem ChallengesAge.trans {t t' t'' : Tables} (h : ChallengesAge t t')
    (h' : ChallengesAge t' t'') : ChallengesAge t t'' := by
  refine ⟨Nat.le_trans h.seq h'.seq, fun c'' hc'' => ?_⟩
  rcases h'.row c'' hc'' with ⟨c', hc', hid', hkey'⟩ | hnew
  · rcases h.row c' hc' with ⟨c, hc, hid, hkey⟩ | hnew
    · exact .inl ⟨c, hc, hid.trans hid', hkey.trans hkey'⟩
    · exact .inr (hid' ▸ hnew)
  · exact .inr (Nat.lt_of_le_of_lt h.seq hnew)

theorem ChallengesAge.of_subset {t t' : Tables} (hseq : t'.challengeSeq = t.challengeSeq)
    (h : ∀ c ∈ t'.challenge.rows, c ∈ t.challenge.rows) : ChallengesAge t t' :=
  ⟨Nat.le_of_eq hseq.symm, fun c hc => .inl ⟨c, h c hc, rfl, rfl⟩⟩

theorem Statement.Effect.challengesAge {st : Statement} {t t' : Tables} (h : st.Effect t t') :
    ChallengesAge t t' := by
  by_cases htarget : st.target = .challenge ∨ st.target = .dropConnection
  · cases st with
    | insertChallenge r =>
      obtain ⟨n, h⟩ := h
      unfold Tables.insertChallenge at h
      dsimp only at h
      split_ifs at h
      cases h
      refine ⟨Nat.le_succ _, fun c hc => ?_⟩
      simp only [Table.mem_insert] at hc
      rcases hc with hc | rfl
      · exact .inl ⟨c, hc, rfl, rfl⟩
      · exact .inr (Nat.lt_succ_self _)
    | updateChallenge p f hf =>
      obtain ⟨n, h⟩ := h
      cases h
      refine ⟨Nat.le_refl _, fun c' hc' => ?_⟩
      obtain ⟨c, hc, rfl⟩ := List.mem_map.1 hc'
      refine .inl ⟨c, hc, ?_⟩
      split
      · exact ⟨(hf.id c).symm, (hf.key c).symm⟩
      · exact ⟨rfl, rfl⟩
    | deleteChallenge p =>
      obtain ⟨n, h⟩ := h
      cases h
      exact .of_subset rfl fun c hc => (Table.mem_delete.1 hc).1
    | deleteConnection p =>
      obtain ⟨n, h⟩ := h
      cases h
      exact .of_subset rfl fun c hc => (Table.mem_delete.1 hc).1
    | _ => simp at htarget
  · rw [not_or] at htarget
    have hsame := h.frame.challenge (by simpa using Ne.symm htarget.1)
      (by simpa using Ne.symm htarget.2)
    exact .of_subset hsame.2 fun c hc => hsame.1 ▸ hc

/-- **Challenge ids are never given twice.** -/
theorem WritesTo.challengesAge {targets : List Target} {K : NewOutboxAction → Prop}
    {db db' : Database} (h : WritesTo targets K db db') :
    ChallengesAge db.toTables db'.toTables := by
  induction h with
  | refl => exact .refl _
  | tail _ hstep ih =>
    obtain ⟨st, -, heffect⟩ := hstep
    exact ih.trans heffect.challengesAge

/-! ## Actions -/

/-- Every action is one that was there, or has a new id and carries what `K` allows. -/
structure OutboxGrows (K : NewOutboxAction → Prop) (t t' : Tables) : Prop where
  seq : t.outboxSeq ≤ t'.outboxSeq
  row : ∀ b ∈ t'.outboxAction.rows, (∃ a ∈ t.outboxAction.rows, a.Same b) ∨
    t.outboxSeq < b.id ∧ ∃ a, K a ∧ b.Carries a

theorem OutboxGrows.refl {K : NewOutboxAction → Prop} (t : Tables) : OutboxGrows K t t :=
  ⟨Nat.le_refl _, fun a ha => .inl ⟨a, ha, .rfl⟩⟩

theorem OutboxGrows.trans {K : NewOutboxAction → Prop} {t t' t'' : Tables}
    (h : OutboxGrows K t t') (h' : OutboxGrows K t' t'') : OutboxGrows K t t'' := by
  refine ⟨Nat.le_trans h.seq h'.seq, fun c hc => ?_⟩
  rcases h'.row c hc with ⟨b, hb, hsame⟩ | ⟨hnew, hcarries⟩
  · rcases h.row b hb with ⟨a, ha, hsame'⟩ | ⟨hnew, a, hK, hcarries⟩
    · exact .inl ⟨a, ha, hsame'.trans hsame⟩
    · exact .inr ⟨hsame.id ▸ hnew, a, hK, hsame.carries hcarries⟩
  · exact .inr ⟨Nat.lt_of_le_of_lt h.seq hnew, hcarries⟩

theorem OutboxGrows.of_subset {K : NewOutboxAction → Prop} {t t' : Tables}
    (hseq : t'.outboxSeq = t.outboxSeq)
    (h : ∀ a ∈ t'.outboxAction.rows, a ∈ t.outboxAction.rows) : OutboxGrows K t t' :=
  ⟨Nat.le_of_eq hseq.symm, fun a ha => .inl ⟨a, h a ha, .rfl⟩⟩

theorem Statement.Effect.outboxGrows {st : Statement} {t t' : Tables} {targets : List Target}
    {K : NewOutboxAction → Prop} (h : st.Effect t t') (hst : st.Within targets K) :
    OutboxGrows K t t' := by
  by_cases htarget : st.target = .enqueue ∨ st.target = .outbox ∨ st.target = .purgeUpdate
  · cases st with
    | insertOutbox a =>
      obtain ⟨b, h⟩ := h
      unfold Tables.insertOutbox at h
      dsimp only at h
      split_ifs at h
      · cases h
        exact .refl _
      · cases h
        refine ⟨Nat.le_succ _, fun b hb => ?_⟩
        simp only [Table.mem_insert] at hb
        rcases hb with hb | rfl
        · exact .inl ⟨b, hb, .rfl⟩
        · exact .inr ⟨Nat.lt_succ_self _, a, hst.2, rfl, rfl, rfl, rfl⟩
    | updateOutbox p f hf =>
      obtain ⟨n, h⟩ := h
      cases h
      refine ⟨Nat.le_refl _, fun b hb => ?_⟩
      simp only [Table.mem_update] at hb
      obtain ⟨a, ha, rfl⟩ := hb
      refine .inl ⟨a, ha, ?_⟩
      split
      · exact ⟨(hf.id a).symm, (hf.sourceUpdateId a).symm, (hf.key a).symm, (hf.payload a).symm,
          (hf.idempotencyKey a).symm⟩
      · exact .rfl
    | deleteOutbox p =>
      obtain ⟨n, h⟩ := h
      cases h
      exact .of_subset rfl fun a ha => (Table.mem_delete.1 ha).1
    | deleteUpdate p =>
      obtain ⟨n, h⟩ := h
      cases h
      exact .of_subset rfl fun a ha => (Table.mem_delete.1 ha).1
    | _ => simp at htarget
  · rw [not_or, not_or] at htarget
    have hrows := h.frame.outboxAction (by simpa using Ne.symm htarget.1)
      (by simpa using Ne.symm htarget.2.1) (by simpa using Ne.symm htarget.2.2)
    exact .of_subset (h.frame.outboxSeq (by simpa using Ne.symm htarget.1)) fun a ha => hrows ▸ ha

/-- **Actions keep what they were enqueued with**, and new ones carry what `K` allows. -/
theorem WritesTo.outboxGrows {targets : List Target} {K : NewOutboxAction → Prop}
    {db db' : Database} (h : WritesTo targets K db db') :
    OutboxGrows K db.toTables db'.toTables := by
  induction h with
  | refl => exact .refl _
  | tail _ hstep ih =>
    obtain ⟨st, hst, heffect⟩ := hstep
    exact ih.trans (heffect.outboxGrows hst)

/-! ## Recorded events -/

/-- A recorded event was there before, unless the statement is the one that records. -/
theorem Statement.Effect.recorded {st : Statement} {t t' : Tables} {targets : List Target}
    {K : NewOutboxAction → Prop} (h : st.Effect t t') (hst : st.Within targets K)
    (hrecord : Target.record ∉ targets) {u : ProcessedUpdate} (hu : u ∈ t'.processedUpdate.rows)
    (hrecorded : u.status = .recorded) : u ∈ t.processedUpdate.rows := by
  by_cases htarget : st.target = .record ∨ st.target = .update ∨ st.target = .purgeUpdate
  · cases st with
    | insertOrIgnoreUpdate v => exact absurd hst hrecord
    | insertUpdate v =>
      change Tables.insertUpdate v t = _ at h
      unfold Tables.insertUpdate at h
      split at h
      · cases h
        simp only [Table.mem_insert] at hu
        rcases hu with hu | rfl
        · exact hu
        · exact absurd hrecorded hst.2
      · cases h
    | updateUpdate p f hf =>
      obtain ⟨n, h⟩ := h
      cases h
      simp only [Table.mem_update] at hu
      obtain ⟨v, hv, rfl⟩ := hu
      by_cases hp : p v = true
      · rw [if_pos hp] at hrecorded
        exact absurd hrecorded (hst.2 v)
      · rw [if_neg hp]
        exact hv
    | deleteUpdate p =>
      obtain ⟨n, h⟩ := h
      cases h
      exact (Table.mem_delete.1 hu).1
    | _ => simp at htarget
  · rw [not_or, not_or] at htarget
    have hrows := h.frame.processedUpdate (by simpa using Ne.symm htarget.1)
      (by simpa using Ne.symm htarget.2.1) (by simpa using Ne.symm htarget.2.2)
    exact hrows ▸ hu

/-- **Only the transaction that records an event adds a recorded one.** -/
theorem WritesTo.recorded {targets : List Target} {K : NewOutboxAction → Prop}
    {db db' : Database} (h : WritesTo targets K db db') (hrecord : Target.record ∉ targets)
    {u : ProcessedUpdate} (hu : u ∈ db'.processedUpdate.rows) (hrecorded : u.status = .recorded) :
    u ∈ db.processedUpdate.rows := by
  induction h with
  | refl => exact hu
  | tail _ hstep ih =>
    obtain ⟨st, hst, heffect⟩ := hstep
    exact ih (heffect.recorded hst hrecord hu hrecorded)

/-! ## Connections -/

/-- Every stored connection is still stored. -/
def ConnectionsKept (t t' : Tables) : Prop :=
  ∀ connectionId, t.businessConnection.contains connectionId = true →
    t'.businessConnection.contains connectionId = true

theorem Statement.Effect.connectionsKept {st : Statement} {t t' : Tables} (h : st.Effect t t')
    (hdrop : st.target ≠ .dropConnection) : ConnectionsKept t t' := by
  intro connectionId hstored
  by_cases htarget : st.target = .connection
  · cases st with
    | upsertConnection r =>
      simp only [Effect, Tables.upsertConnection] at h
      split_ifs at h
      · cases h
        simp [hstored]
      · cases h
        simpa using hstored
    | updateConnection p f hf =>
      obtain ⟨n, h⟩ := h
      cases h
      simpa using hstored
    | _ => simp at htarget
  · rw [h.frame.businessConnection (by simpa using Ne.symm htarget) (by simpa using Ne.symm hdrop)]
    exact hstored

/-- **Only a deletion loses a connection.** -/
theorem WritesTo.connectionsKept {targets : List Target} {K : NewOutboxAction → Prop}
    {db db' : Database} (h : WritesTo targets K db db') (hdrop : .dropConnection ∉ targets) :
    ConnectionsKept db.toTables db'.toTables := by
  induction h with
  | refl => exact fun _ => id
  | tail _ hstep ih =>
    obtain ⟨st, hst, heffect⟩ := hstep
    have hne : st.target ≠ .dropConnection := fun heq => hdrop (heq ▸ hst.target_mem)
    exact fun connectionId hstored => heffect.connectionsKept hne _ (ih connectionId hstored)

end ChatHygiene
