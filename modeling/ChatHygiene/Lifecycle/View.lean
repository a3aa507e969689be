import ChatHygiene.Footprint.Identity
import ChatHygiene.Lifecycle.Model
import ChatHygiene.Storage.Repositories
/-!
# The life of a conversation, as the store has it

`Database.lifecycle` reads the abstract conversation off the tables. Each
statement on conversations or challenges is then one equation about it, and a
transaction that leaves the two tables alone leaves it alone.
-/

namespace ChatHygiene

def ChallengeRow.asOpen (c : ChallengeRow) : OpenChallenge := ⟨c.id, c.attemptsUsed, c.maxAttempts⟩

/-- A conversation row and its open challenge, as a life. -/
def Conversation.life (c : Conversation) (challenge : Option ChallengeRow) : Lifecycle where
  state := c.state
  blockExpiresAt := c.blockExpiresAt
  blockReason := c.blockReason
  blockCount := c.blockCount
  challenge := challenge.map ChallengeRow.asOpen

namespace Database

variable {db db' : Database} {key : ConversationKey}

/-- The open challenge of a conversation. -/
def openChallenge (db : Database) (key : ConversationKey) : Option ChallengeRow :=
  db.challenge.rows.find? fun c => c.key = key && c.closedAt.isNone

/-- The life of a conversation; a conversation without a row is as good as new. -/
def lifecycle (db : Database) (key : ConversationKey) : Lifecycle :=
  ((db.conversation.lookup key).getD (.initial key 0 0)).life (db.openChallenge key)

/-- **The partial unique index makes the open challenge the only one.** -/
theorem openChallenge_eq_some_iff {c : ChallengeRow} :
    db.openChallenge key = some c ↔ c ∈ db.challenge.rows ∧ c.key = key ∧ c.closedAt = none := by
  constructor
  · intro h
    have hp := List.find?_some h
    simp only [Bool.and_eq_true, decide_eq_true_eq, Option.isNone_iff_eq_none] at hp
    exact ⟨List.mem_of_find?_eq_some h, hp⟩
  · rintro ⟨hc, hkey, hopen⟩
    cases hfind : db.openChallenge key with
    | none =>
      have := List.find?_eq_none.1 hfind c hc
      simp [hkey, hopen] at this
    | some d =>
      have hp := List.find?_some hfind
      simp only [Bool.and_eq_true, decide_eq_true_eq, Option.isNone_iff_eq_none] at hp
      have hd := List.mem_of_find?_eq_some hfind
      have hid := db.consistent.conversations.challengeOneActive c hc d hd hopen hp.2
        (hkey.trans hp.1.symm)
      have hrow := Table.lookup_of_mem hc
      rw [show c.pk = d.pk from hid, Table.lookup_of_mem hd] at hrow
      exact hrow

theorem openChallenge_eq_none_iff :
    db.openChallenge key = none ↔ ∀ c ∈ db.challenge.rows, c.key = key → c.closedAt ≠ none := by
  simp [openChallenge, imp_iff_not_or]

theorem openChallenge_id_le {c : ChallengeRow} (h : db.openChallenge key = some c) :
    c.id ≤ db.challengeSeq :=
  db.consistent.conversations.challengeIds c (openChallenge_eq_some_iff.1 h).1

theorem noActiveChallenge_iff_openChallenge :
    db.noActiveChallenge key = true ↔ db.openChallenge key = none := by
  rw [Tables.noActiveChallenge_iff, openChallenge_eq_none_iff]

/-- An open challenge hangs below a conversation. -/
theorem contains_of_openChallenge {c : ChallengeRow} (h : db.openChallenge key = some c) :
    db.conversation.contains key = true := by
  obtain ⟨hc, rfl, -⟩ := openChallenge_eq_some_iff.1 h
  exact db.consistent.conversations.challengeFk c hc

/-! ## Statements on challenges -/

theorem openChallenge_insert {row : ChallengeRow} {h : db.challenge.lookup row.pk = none}
    (hdb : db'.challenge = db.challenge.insert row h) (hopen : row.closedAt = none) :
    db'.openChallenge key = if row.key = key then some row else db.openChallenge key := by
  split
  · next hkey =>
    refine openChallenge_eq_some_iff.2 ⟨?_, hkey, hopen⟩
    simp [hdb]
  · next hkey =>
    ext c
    simp only [openChallenge_eq_some_iff, hdb, Table.mem_insert]
    constructor
    · rintro ⟨hc | rfl, hck, hco⟩
      · exact ⟨hc, hck, hco⟩
      · exact absurd hck hkey
    · rintro ⟨hc, hck, hco⟩
      exact ⟨.inl hc, hck, hco⟩

/-- What is left of an open challenge that a statement may change or close. -/
theorem openChallenge_update {p : ChallengeRow → Bool} {f : ChallengeRow → ChallengeRow}
    (hf : Tables.ChallengeChange p f) (hdb : db'.challenge = db.challenge.update p f hf.id)
    (key : ConversationKey) : db'.openChallenge key =
      ((db.openChallenge key).map fun c => if p c then f c else c).filter (·.closedAt.isNone) := by
  have hrow : ∀ c, (if p c then f c else c).key = c.key ∧
      ((if p c then f c else c).closedAt = none → c.closedAt = none) := by
    intro c
    split
    · exact ⟨hf.key c, hf.closed c⟩
    · exact ⟨rfl, id⟩
  ext c'
  simp only [openChallenge_eq_some_iff, hdb, Option.filter_eq_some_iff, Option.map_eq_some_iff,
    Option.isNone_iff_eq_none]
  constructor
  · rintro ⟨hc', hkey, hopen⟩
    obtain ⟨c, hc, rfl⟩ := Table.mem_update.1 hc'
    exact ⟨⟨c, ⟨hc, (hrow c).1.symm.trans hkey, (hrow c).2 hopen⟩, rfl⟩, hopen⟩
  · rintro ⟨⟨c, ⟨hc, hkey, -⟩, rfl⟩, hopen⟩
    exact ⟨Table.mem_update.2 ⟨c, hc, rfl⟩, (hrow c).1.trans hkey, hopen⟩

theorem openChallenge_delete {p : ChallengeRow → Bool}
    (hdb : db'.challenge = db.challenge.delete p) :
    db'.openChallenge key = (db.openChallenge key).filter (!p ·) := by
  ext c
  simp only [openChallenge_eq_some_iff, hdb, Table.mem_delete, Option.filter_eq_some_iff,
    Bool.not_eq_true']
  tauto

theorem openChallenge_congr (h : db'.challenge = db.challenge) :
    db'.openChallenge key = db.openChallenge key := by
  rw [openChallenge, openChallenge, h]

/-! ## Lives -/

/-- The life of a conversation that has a row. -/
theorem lifecycle_of_lookup {c : Conversation} (h : db.conversation.lookup key = some c) :
    db.lifecycle key = c.life (db.openChallenge key) := by
  rw [lifecycle, h]
  rfl

/-- A conversation without a row has no open challenge either. -/
theorem lifecycle_of_lookup_none (h : db.conversation.lookup key = none) :
    db.lifecycle key = Lifecycle.initial := by
  have hnone : db.openChallenge key = none := by
    cases hc : db.openChallenge key with
    | none => rfl
    | some c =>
      have := contains_of_openChallenge hc
      simp [Table.contains, h] at this
  rw [lifecycle, h, hnone]
  rfl

theorem lifecycle_congr (hrow : db'.conversation.lookup key = db.conversation.lookup key)
    (hopen : db'.openChallenge key = db.openChallenge key) : db'.lifecycle key = db.lifecycle key := by
  rw [lifecycle, lifecycle, hrow, hopen]

/-- **A transaction that writes neither conversations nor challenges leaves every life alone.** -/
theorem lifecycle_of_frame {targets : List Target} (h : Frame targets db.toTables db'.toTables)
    (hconversation : Target.conversation ∉ targets) (hchallenge : Target.challenge ∉ targets)
    (hdrop : Target.dropConnection ∉ targets) : db'.lifecycle key = db.lifecycle key :=
  lifecycle_congr (by rw [h.conversation hconversation hdrop])
    (openChallenge_congr (h.challenge hchallenge hdrop).1)

end Database

/-! ## The challenge an event is about -/

/-- Every stored challenge with the id belongs to the conversation. -/
def ChallengeOf (db : Database) (challengeId : Nat) (key : ConversationKey) : Prop :=
  ∀ d ∈ db.challenge.rows, d.id = challengeId → d.key = key

/-- The challenge an action is about belongs to the conversation. -/
def PreparedAction.Belongs (action : PreparedAction) (db : Database) (key : ConversationKey) :
    Prop :=
  ∀ challengeId, action.challengeId = some challengeId → ChallengeOf db challengeId key

/-- A challenge belongs to the conversation it is open for. -/
theorem challengeOf_openChallenge {db : Database} {key : ConversationKey} {c : ChallengeRow}
    (h : db.openChallenge key = some c) : ChallengeOf db c.id key := by
  intro d hd hid
  obtain ⟨hc, hkey, -⟩ := Database.openChallenge_eq_some_iff.1 h
  have hrow := Table.lookup_of_mem hd
  rw [show d.pk = c.pk from hid, Table.lookup_of_mem hc] at hrow
  cases hrow
  exact hkey

/-- Ids are never given twice, so a challenge that is stored later is the same one. -/
theorem ChallengeOf.age {db db' : Database} {challengeId : Nat} {key : ConversationKey}
    (h : ChallengeOf db challengeId key) (hissued : challengeId ≤ db.challengeSeq)
    (hage : ChallengesAge db.toTables db'.toTables) : ChallengeOf db' challengeId key := by
  intro d hd hid
  rcases hage.row d hd with ⟨c, hc, hcid, hckey⟩ | hnew
  · rw [← hckey]
    exact h c hc (hcid.trans hid)
  · omega

end ChatHygiene
