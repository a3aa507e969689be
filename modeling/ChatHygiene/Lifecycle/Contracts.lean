import ChatHygiene.Footprint.Contracts
import ChatHygiene.Lifecycle.View
/-!
# Contracts of the operations on conversations

What each operation on conversations and challenges needs to succeed, and what
it then does to the lives of conversations. An operation that is refused is
refused for the reason its contract names.
-/

namespace ChatHygiene

open Txn (Yields Fails Succeeds)

variable {db : Database} {key : ConversationKey}

/-! ## Conversations -/

/-- The conversation `c` is in hand: its row is stored, and nothing else of the store has moved. -/
structure Opened (db : Database) (key : ConversationKey) (c : Conversation) (db' : Database) :
    Prop where
  key_eq : c.key = key
  row : db'.conversation.lookup key = some c
  life : c.life (db'.openChallenge key) = db.lifecycle key
  others : ∀ k, db'.lifecycle k = db.lifecycle k
  frame : Frame [.conversation] db.toTables db'.toTables

/-- A conversation that is not stored can be created below a stored connection. -/
theorem getOrCreateConversation_yields (userId : Int) (now : DateTime)
    (h : db.businessConnection.contains key.connectionId = true) :
    Yields (getOrCreateConversation key userId now) db (Opened db key) := by
  unfold getOrCreateConversation findConversation
  refine Yields.bind_read ?_
  cases hrow : db.conversation.lookup key with
  | some c =>
    refine .pure ⟨Table.key_of_lookup hrow, hrow, (Database.lifecycle_of_lookup hrow).symm,
      fun _ => rfl, .refl _⟩
  | none =>
    have hok : db.toTables.insertConversation (.initial key userId now) = .ok ((),
        { db.toTables with conversation := db.conversation.insert (.initial key userId now) hrow }) := by
      exact (dif_pos hrow).trans (if_pos h)
    refine (yields_frame (Uow.statement_yields hok)
      (Uow.insertConversation_writes (List.mem_singleton.2 rfl))).bind ?_
    rintro _ db' ⟨⟨-, hdb⟩, hframe⟩
    have hchallenge : db'.challenge = db.challenge := by rw [hdb]
    have hlookup (k : ConversationKey) : db'.conversation.lookup k =
        if key = k then some (.initial key userId now) else db.conversation.lookup k := by
      rw [hdb]
      exact Table.lookup_insert _ _ hrow k
    have hnone := Database.lifecycle_of_lookup_none hrow
    have hnew : db'.lifecycle key = Lifecycle.initial := by
      rw [Database.lifecycle, hlookup, if_pos rfl, Database.openChallenge_congr hchallenge,
        ← hnone, Database.lifecycle, hrow]
      rfl
    refine .pure ⟨rfl, by rw [hlookup, if_pos rfl], ?_, fun k => ?_, hframe⟩
    · rw [hnone, ← hnew, Database.lifecycle_of_lookup (by rw [hlookup, if_pos rfl])]
    · by_cases hk : key = k
      · subst hk
        rw [hnew, hnone]
      · exact Database.lifecycle_congr (by rw [hlookup, if_neg hk])
          (Database.openChallenge_congr hchallenge)

/-- Nothing is created below a connection that is not stored. -/
theorem getOrCreateConversation_fails (userId : Int) (now : DateTime)
    (h : db.businessConnection.contains key.connectionId = false) :
    Fails (getOrCreateConversation key userId now) db := by
  have hrow : db.conversation.lookup key = none := by
    cases hrow : db.conversation.lookup key with
    | none => rfl
    | some c =>
      have := db.consistent.conversations.conversationFk c (Table.mem_of_lookup hrow)
      rw [Table.key_of_lookup hrow, h] at this
      cases this
  unfold getOrCreateConversation findConversation
  refine Txn.fails_bind_read ?_
  rw [hrow]
  refine Txn.fails_bind_left ?_ _
  rintro ⟨⟨a, db'⟩, hx⟩
  have := Uow.statement_ok_iff.1 hx
  simp [Tables.insertConversation, Conversation.initial, hrow, h] at this

/-- Saving a conversation at the version it was loaded at. -/
theorem saveConversation_yields {c row : Conversation}
    (hrow : db.conversation.lookup c.key = some row) {version : Nat}
    (hversion : row.stateVersion = version) :
    Yields (saveConversation c version) db fun _ db' =>
      (db'.lifecycle c.key = c.life (db.openChallenge c.key) ∧
        ∀ k ≠ c.key, db'.lifecycle k = db.lifecycle k) ∧
      Frame [.conversation] db.toTables db'.toTables := by
  subst hversion
  refine yields_frame ?_ (saveConversation_writes (List.mem_singleton.2 rfl) _ _)
  unfold saveConversation
  refine Yields.bind (Uow.statement_yields rfl) ?_
  rintro affected db' ⟨rfl, hdb⟩
  have hone : db.conversation.affected
      (fun r => r.key = c.key && r.stateVersion = row.stateVersion) = 1 := by
    rw [Table.affected_key db.conversation (k := c.key) (by simp +contextual), hrow]
    simp [Table.key_of_lookup hrow]
  rw [updateOne_of_eq hone]
  have hlookup (k : ConversationKey) : db'.conversation.lookup k =
      (db.conversation.lookup k).map fun r =>
        if r.key = c.key && r.stateVersion = row.stateVersion then { r with
          state := c.state
          updatedAt := c.updatedAt
          blockExpiresAt := c.blockExpiresAt
          blockReason := c.blockReason
          blockCount := c.blockCount
          stateVersion := r.stateVersion + 1 } else r := by
    simp only [hdb, Table.lookup_update]
  have hopen (k : ConversationKey) : db'.openChallenge k = db.openChallenge k :=
    Database.openChallenge_congr (by rw [hdb])
  refine .pure ⟨?_, fun k hk => Database.lifecycle_congr ?_ (hopen k)⟩
  · rw [Database.lifecycle, hlookup, hrow, hopen]
    simp [Table.key_of_lookup hrow, Conversation.life]
  · rw [hlookup]
    cases hkrow : db.conversation.lookup k with
    | none => rfl
    | some r => simp [Table.key_of_lookup hkrow, hk]

/-! ## Messages -/

theorem recordMessage_yields {m : LedgerMessage} (h : db.conversation.contains m.key = true) :
    Yields (recordMessage m) db fun _ db' => Frame [.ledger] db.toTables db'.toTables := by
  refine succeeds_frame ?_ (recordMessage_writes (List.mem_singleton.2 rfl) _)
  unfold recordMessage Uow.insertLedger
  refine Uow.statement_succeeds_iff.2 ?_
  unfold Tables.insertLedger
  by_cases hm : db.messageLedger.lookup m.pk = none
  · rw [dif_pos hm, if_pos h]
    exact ⟨_, rfl⟩
  · rw [dif_neg hm]
    exact ⟨_, rfl⟩

theorem markMessageDeleted_yields (messageId : Int) (deletedAt : DateTime) :
    Yields (markMessageDeleted key messageId deletedAt) db fun _ db' =>
      Frame [.ledger] db.toTables db'.toTables := by
  refine succeeds_frame ?_ (markMessageDeleted_writes (List.mem_singleton.2 rfl) _ _ _)
  exact (Yields.bind (Uow.statement_yields rfl) fun _ _ _ =>
    Yields.pure (Q := fun _ _ => True) trivial).succeeds

/-! ## Challenges -/

/-- The next challenge gets the next id. -/
theorem createChallenge_yields {r : ChallengeRecord} (hattempts : r.attemptsUsed = 0)
    (hmax : r.maxAttempts = 3) (hrow : db.conversation.contains r.key = true)
    (hopen : db.openChallenge r.key = none) :
    Yields (createChallenge r) db fun id db' =>
      (id = db.challengeSeq + 1 ∧
        (db'.openChallenge r.key).map ChallengeRow.asOpen = some ⟨db.challengeSeq + 1, 0, 3⟩ ∧
        ∀ k ≠ r.key, db'.openChallenge k = db.openChallenge k) ∧
      Frame [.challenge] db.toTables db'.toTables := by
  refine yields_frame ?_ (createChallenge_writes (List.mem_singleton.2 rfl) _)
  have hnew : db.challenge.lookup (db.challengeSeq + 1) = none := by
    rw [Table.lookup_eq_none_iff]
    intro c hc hid
    have := db.consistent.conversations.challengeIds c hc
    rw [show c.id = db.challengeSeq + 1 from hid] at this
    omega
  have hok : db.toTables.insertChallenge r = .ok (db.challengeSeq + 1, { db.toTables with
      challenge := db.challenge.insert ⟨{ r with id := db.challengeSeq + 1 }, none⟩ hnew
      challengeSeq := db.challengeSeq + 1 }) := by
    rw [Tables.insertChallenge, if_pos ⟨by omega, hmax⟩, if_pos hrow,
      if_pos (Database.noActiveChallenge_iff_openChallenge.2 hopen)]
    exact dif_pos hnew
  unfold createChallenge Uow.insertChallenge
  refine Yields.mono (Uow.statement_yields hok) ?_
  rintro id db' ⟨rfl, hdb⟩
  have hinsert : db'.challenge =
      db.challenge.insert ⟨{ r with id := db.challengeSeq + 1 }, none⟩ hnew := by rw [hdb]
  have heq (k : ConversationKey) : db'.openChallenge k = if r.key = k then
      some ⟨{ r with id := db.challengeSeq + 1 }, none⟩ else db.openChallenge k :=
    Database.openChallenge_insert hinsert rfl
  refine ⟨rfl, ?_, fun k hk => ?_⟩
  · rw [heq, if_pos rfl]
    simp [ChallengeRow.asOpen, hattempts, hmax]
  · rw [heq, if_neg (Ne.symm hk)]

/-- There is no second open challenge. -/
theorem createChallenge_fails {r : ChallengeRecord} (hopen : db.openChallenge r.key ≠ none) :
    Fails (createChallenge r) db := by
  rintro ⟨⟨id, db'⟩, hx⟩
  unfold createChallenge Uow.insertChallenge at hx
  have hok := Uow.statement_ok_iff.1 hx
  have hone : db.noActiveChallenge r.key = false := by
    rw [Bool.eq_false_iff]
    exact fun h => hopen (Database.noActiveChallenge_iff_openChallenge.1 h)
  simp only [Tables.insertChallenge, hone, Bool.false_eq_true, if_false] at hok
  split at hok
  · split at hok <;> cases hok
  · cases hok

/-- Closing challenges closes the open ones that are meant. -/
theorem closeChallenges_yields (p : ChallengeRow → Bool) (closedAt : DateTime) :
    Yields (closeChallenges p closedAt) db fun n db' =>
      (n = db.challenge.affected (fun c => p c && c.closedAt.isNone) ∧
        ∀ k, db'.openChallenge k = (db.openChallenge k).filter (!p ·)) ∧
      Frame [.challenge] db.toTables db'.toTables := by
  refine yields_frame ?_ (closeChallenges_writes (List.mem_singleton.2 rfl) _ _)
  unfold closeChallenges Uow.updateChallenge
  refine Yields.mono (Uow.statement_yields rfl) ?_
  rintro n db' ⟨rfl, hdb⟩
  refine ⟨rfl, fun k => ?_⟩
  have hupdate : db'.challenge = db.challenge.update (fun c => p c && c.closedAt.isNone)
      (ChallengeRow.close closedAt) (ChallengeRow.close_change p closedAt).id := by rw [hdb]
  rw [Database.openChallenge_update (ChallengeRow.close_change _ closedAt) hupdate]
  cases hc : db.openChallenge k with
  | none => rfl
  | some c =>
    have hopen := (Database.openChallenge_eq_some_iff.1 hc).2.2
    by_cases hp : p c <;> simp [Option.filter, hp, hopen, ChallengeRow.close]

theorem closeChallenge_yields (challengeId : Nat) (closedAt : DateTime) :
    Yields (closeChallenge challengeId closedAt) db fun _ db' =>
      (∀ k, db'.openChallenge k = (db.openChallenge k).filter (·.id ≠ challengeId)) ∧
      Frame [.challenge] db.toTables db'.toTables := by
  refine (closeChallenges_yields _ closedAt).bind ?_
  rintro n db' ⟨⟨-, hopen⟩, hframe⟩
  refine .pure ⟨fun k => ?_, hframe⟩
  simpa using hopen k

theorem closeActiveChallenge_yields (closedAt : DateTime) :
    Yields (closeActiveChallenge key closedAt) db fun _ db' =>
      (db'.openChallenge key = none ∧ ∀ k ≠ key, db'.openChallenge k = db.openChallenge k) ∧
      Frame [.challenge] db.toTables db'.toTables := by
  refine (closeChallenges_yields _ closedAt).bind ?_
  rintro n db' ⟨⟨-, hopen⟩, hframe⟩
  have hkey {k : ConversationKey} {c : ChallengeRow} (h : db.openChallenge k = some c) :
      c.key = k := (Database.openChallenge_eq_some_iff.1 h).2.1
  refine .pure ⟨⟨?_, fun k hk => ?_⟩, hframe⟩
  · rw [hopen]
    cases hc : db.openChallenge key with
    | none => rfl
    | some c => simp [hkey hc]
  · rw [hopen]
    cases hc : db.openChallenge k with
    | none => rfl
    | some c => simp [hkey hc, hk]

/-- Counting a wrong answer to the open challenge. -/
theorem incrementChallengeAttempts_yields {challengeId : Nat} {c : ChallengeRow}
    (hc : db.openChallenge key = some c) (hid : c.id = challengeId)
    (hlt : c.attemptsUsed < c.maxAttempts) :
    Yields (incrementChallengeAttempts challengeId) db fun n db' =>
      (n = c.attemptsUsed + 1 ∧
        (db'.openChallenge key).map ChallengeRow.asOpen =
          some ⟨c.id, c.attemptsUsed + 1, c.maxAttempts⟩ ∧
        ∀ k ≠ key, db'.openChallenge k = db.openChallenge k) ∧
      Frame [.challenge] db.toTables db'.toTables := by
  refine yields_frame ?_ (incrementChallengeAttempts_writes (List.mem_singleton.2 rfl) _)
  obtain ⟨hmem, hkey, hopen⟩ := Database.openChallenge_eq_some_iff.1 hc
  have hconsumable : ChallengeRow.consumable challengeId c = true := by
    simp [ChallengeRow.consumable, hid, hopen, hlt]
  have hunique (d : ChallengeRow) (hd : d ∈ db.challenge.rows)
      (hp : ChallengeRow.consumable challengeId d = true) : d = c := by
    simp only [ChallengeRow.consumable, Bool.and_eq_true, decide_eq_true_eq] at hp
    have hrow := Table.lookup_of_mem hd
    rw [show d.pk = c.pk from hp.1.1.trans hid.symm, Table.lookup_of_mem hmem] at hrow
    exact (Option.some.inj hrow).symm
  have hfind : db.challenge.rows.find? (ChallengeRow.consumable challengeId) = some c := by
    cases hf : db.challenge.rows.find? (ChallengeRow.consumable challengeId) with
    | none => simp [List.find?_eq_none.1 hf c hmem] at hconsumable
    | some d => rw [hunique d (List.mem_of_find?_eq_some hf) (List.find?_some hf)]
  unfold incrementChallengeAttempts
  refine Yields.bind_read ?_
  rw [hfind]
  refine Yields.bind (Uow.statement_yields rfl) ?_
  rintro _ db' ⟨-, hdb⟩
  have hupdate : db'.challenge = db.challenge.update (ChallengeRow.consumable challengeId)
      (fun c => { c with attemptsUsed := c.attemptsUsed + 1 })
      (ChallengeRow.increment_change challengeId).id := by rw [hdb]
  have heq (k : ConversationKey) :=
    Database.openChallenge_update (ChallengeRow.increment_change challengeId) hupdate k
  refine .pure ⟨rfl, ?_, fun k hk => ?_⟩
  · rw [heq, hc]
    simp [hconsumable, hopen, ChallengeRow.asOpen]
  · rw [heq]
    cases hd : db.openChallenge k with
    | none => rfl
    | some d =>
      obtain ⟨hdmem, hdkey, hdopen⟩ := Database.openChallenge_eq_some_iff.1 hd
      have hne : ¬ChallengeRow.consumable challengeId d = true := by
        intro hp
        rw [hunique d hdmem hp] at hdkey
        exact hk (hdkey.symm.trans hkey)
      simp [hne, hdopen]

/-- A challenge that is not open, or has no attempt left, counts no answer. -/
theorem incrementChallengeAttempts_fails {challengeId : Nat}
    (h : ∀ c ∈ db.challenge.rows, ChallengeRow.consumable challengeId c = false) :
    Fails (incrementChallengeAttempts challengeId) db := by
  have hfind : db.challenge.rows.find? (ChallengeRow.consumable challengeId) = none :=
    List.find?_eq_none.2 fun c hc => by simp [h c hc]
  rintro ⟨⟨n, db'⟩, hx⟩
  obtain ⟨attempts, s, hread, hx⟩ := Txn.bind_ok_iff.1 hx
  obtain ⟨hattempts, -⟩ := Prod.mk.inj (Except.ok.inj hread)
  obtain ⟨_, _, -, hx⟩ := Txn.bind_ok_iff.1 hx
  simp only [hfind, Option.map_none] at hattempts
  rw [← hattempts] at hx
  cases hx

end ChatHygiene
