import ChatHygiene.Lib.Fields
import ChatHygiene.Processing.Service
import ChatHygiene.Retention
import ChatHygiene.Telegram.Outbox
/-!
# Idempotency keys

Seven places enqueue an action, and each makes a key of what it knows of the
action: its source. The insert drops an action whose key is taken, so a key has
to tell the source. The id of a connection is any text, and the separator may be
part of it.
-/

namespace ChatHygiene

/-! ## Sources -/

/-- What the owner is sent under an update of their own, or with a dry run. -/
inductive OwnerReply where
  | command
  | claim
  | trace
  deriving DecidableEq, Repr

def OwnerReply.suffix : OwnerReply → String
  | .command => "OWNER_COMMAND_REPLY"
  | .claim => "OWNER_CLAIM_CONFIRMATION"
  | .trace => "DRY_RUN_TRACE"

/-- Why an action is enqueued. -/
inductive ActionSource where
  /-- A kind of action on a conversation, for an event or a command. -/
  | action (updateId : Int) (kind : OutboxActionKind) (key : ConversationKey) (batchIndex : Nat)
  | reply (updateId : Int) (owner : OwnerReply)
  | notice (updateId : Int) (messageKind : PrivateMessageKind)
  /-- The expiry pass edits the prompt of a challenge. -/
  | expiry (challengeId : Nat)
  /-- The dispatcher alerts the Owner of what became of an action. -/
  | alert (actionId : Nat) (what : OwnerAlert)
  deriving DecidableEq, Repr

namespace ActionSource

def idempotencyKey : ActionSource → String
  | .action updateId kind key batchIndex => actionIdempotencyKey updateId kind key batchIndex
  | .reply updateId owner => s!"{updateId}:{owner.suffix}"
  | .notice updateId messageKind => s!"{updateId}:{messageKind.asStr}"
  | .expiry challengeId => s!"retention:challenge:{challengeId}:expired"
  | .alert actionId what => s!"outbox:{actionId}:{what.asStr}"

/-- What is enqueued for the source: its update, its conversation and its payload. -/
def Describes : ActionSource → Int → Option ConversationKey → OutboxPayload → Prop
  | .action updateId kind key _, sourceUpdateId, key', payload =>
    sourceUpdateId = updateId ∧ key' = some key ∧ payload.kind = kind
  | .reply updateId _, sourceUpdateId, _, payload =>
    sourceUpdateId = updateId ∧ payload.kind = .sendOwnerMessage
  | .notice updateId messageKind, sourceUpdateId, key', payload =>
    sourceUpdateId = updateId ∧ key' = none ∧ ∃ chatId, payload = .sendPrivateMessage chatId messageKind
  | .expiry challengeId, _, key', payload =>
    key'.isSome = true ∧ payload = .editChallenge challengeId .expired none
  | .alert _ what, _, key', payload =>
    key'.isSome = true ∧
      ∃ challengeId, payload = .sendOwnerMessage ⟨some what, none, challengeId, none, none⟩

/-! ## A key tells its source -/

/-- The key up to its first separator. -/
def first : ActionSource → List Char
  | .action updateId .. | .reply updateId _ | .notice updateId _ => updateId.repr.toList
  | .expiry _ => "retention".toList
  | .alert .. => "outbox".toList

/-- The key from its first separator on. -/
def rest : ActionSource → List Char
  | .action _ kind key batchIndex => kind.asStr.toList ++ ':' :: ((key.connectionId.toList ++
      ':' :: key.chatId.repr.toList) ++ ':' :: batchIndex.repr.toList)
  | .reply _ owner => owner.suffix.toList
  | .notice _ messageKind => messageKind.asStr.toList
  | .expiry challengeId => "challenge:".toList ++ (challengeId.repr.toList ++ ":expired".toList)
  | .alert actionId what => actionId.repr.toList ++ ':' :: what.asStr.toList

theorem toList_idempotencyKey (source : ActionSource) :
    source.idempotencyKey.toList = source.first ++ ':' :: source.rest := by
  -- the literals are named, so that no other text is compared with them
  obtain ⟨colon, hcolon, hcolons⟩ : ∃ colon : String, colon = ":" ∧ colon.toList = [':'] :=
    ⟨":", rfl, by decide +kernel⟩
  cases source with
  | action updateId kind key batchIndex =>
    have hkey : (ActionSource.action updateId kind key batchIndex).idempotencyKey =
        updateId.repr ++ colon ++ kind.asStr ++ colon ++ key.connectionId ++ colon ++
          key.chatId.repr ++ colon ++ batchIndex.repr := by
      rw [hcolon]
      rfl
    change _ = updateId.repr.toList ++ ':' :: (kind.asStr.toList ++ ':' :: ((key.connectionId.toList ++
      ':' :: key.chatId.repr.toList) ++ ':' :: batchIndex.repr.toList))
    rw [hkey]
    simp only [String.toList_append, hcolons, List.append_assoc, List.cons_append, List.nil_append]
  | reply updateId owner =>
    have hkey : (ActionSource.reply updateId owner).idempotencyKey =
        updateId.repr ++ colon ++ owner.suffix := by
      rw [hcolon]
      rfl
    change _ = updateId.repr.toList ++ ':' :: owner.suffix.toList
    rw [hkey]
    simp only [String.toList_append, hcolons, List.append_assoc, List.cons_append, List.nil_append]
  | notice updateId messageKind =>
    have hkey : (ActionSource.notice updateId messageKind).idempotencyKey =
        updateId.repr ++ colon ++ messageKind.asStr := by
      rw [hcolon]
      rfl
    change _ = updateId.repr.toList ++ ':' :: messageKind.asStr.toList
    rw [hkey]
    simp only [String.toList_append, hcolons, List.append_assoc, List.cons_append, List.nil_append]
  | expiry challengeId =>
    obtain ⟨front, hfront, hfronts⟩ : ∃ front : String, front = "retention:challenge:" ∧
        front.toList = "retention".toList ++ ':' :: "challenge:".toList := ⟨_, rfl, by decide +kernel⟩
    have hkey : (ActionSource.expiry challengeId).idempotencyKey =
        front ++ challengeId.repr ++ ":expired" := by
      rw [hfront]
      rfl
    change _ = "retention".toList ++
      ':' :: ("challenge:".toList ++ (challengeId.repr.toList ++ ":expired".toList))
    rw [hkey, String.toList_append, String.toList_append, hfronts]
    simp only [List.append_assoc, List.cons_append]
  | alert actionId what =>
    obtain ⟨front, hfront, hfronts⟩ : ∃ front : String, front = "outbox:" ∧
        front.toList = "outbox".toList ++ [':'] := ⟨_, rfl, by decide +kernel⟩
    have hkey : (ActionSource.alert actionId what).idempotencyKey =
        front ++ actionId.repr ++ colon ++ what.asStr := by
      rw [hfront, hcolon]
      rfl
    change _ = "outbox".toList ++ ':' :: (actionId.repr.toList ++ ':' :: what.asStr.toList)
    rw [hkey, String.toList_append, String.toList_append, String.toList_append, hfronts, hcolons]
    simp only [List.append_assoc, List.cons_append, List.nil_append]

theorem kind_asStr_injective {k k' : OutboxActionKind} (h : k.asStr = k'.asStr) : k = k' := by
  cases k <;> cases k' <;> first | rfl | exact absurd h (by decide +kernel)

theorem colon_notMem_intRepr (n : Int) : ':' ∉ n.repr.toList := fun h => by
  rcases Fields.mem_intRepr h with h | h
  · exact absurd h (by decide)
  · exact absurd h (by decide)

theorem colon_notMem_natRepr (n : Nat) : ':' ∉ n.repr.toList := fun h =>
  absurd (Fields.isDigit_of_mem_natRepr h) (by decide)

theorem colon_notMem_first (source : ActionSource) : ':' ∉ source.first := by
  cases source with
  | action updateId kind key batchIndex => exact colon_notMem_intRepr updateId
  | reply updateId owner => exact colon_notMem_intRepr updateId
  | notice updateId messageKind => exact colon_notMem_intRepr updateId
  | expiry challengeId => exact (by decide +kernel : ':' ∉ "retention".toList)
  | alert actionId what => exact (by decide +kernel : ':' ∉ "outbox".toList)

/-- A word is not a numeral. -/
theorem intRepr_ne_word {n : Int} {word : List Char} (hword : ∃ c ∈ word, c ≠ '-' ∧ c.isDigit = false) :
    n.repr.toList ≠ word := by
  intro h
  obtain ⟨c, hc, hsign, hdigit⟩ := hword
  rcases Fields.mem_intRepr (h ▸ hc) with hc | hc
  · exact hsign hc
  · rw [hdigit] at hc
    cases hc

/-- The update a key begins with, if it begins with one. -/
def updateId? : ActionSource → Option Int
  | .action updateId .. | .reply updateId _ | .notice updateId _ => some updateId
  | .expiry _ | .alert .. => none

theorem first_of_updateId? {source : ActionSource} {updateId : Int}
    (h : source.updateId? = some updateId) : source.first = updateId.repr.toList := by
  cases source with
  | action | reply | notice => rw [← Option.some.inj h]; rfl
  | expiry | alert => cases h

/-- A key that begins with no update begins with a word. -/
theorem first_of_updateId?_none {source : ActionSource} (h : source.updateId? = none) :
    ∃ c ∈ source.first, c ≠ '-' ∧ c.isDigit = false := by
  cases source with
  | action | reply | notice => cases h
  | expiry challengeId =>
    exact ⟨'r', List.mem_of_elem_eq_true rfl, by decide, rfl⟩
  | alert actionId what =>
    exact ⟨'o', List.mem_of_elem_eq_true rfl, by decide, rfl⟩

theorem updateId?_eq {source source' : ActionSource} (h : source.first = source'.first) :
    source.updateId? = source'.updateId? := by
  cases hs : source.updateId? with
  | none =>
    cases hs' : source'.updateId? with
    | none => rfl
    | some updateId =>
      rw [first_of_updateId? hs'] at h
      exact absurd h.symm (intRepr_ne_word (first_of_updateId?_none hs))
  | some updateId =>
    cases hs' : source'.updateId? with
    | none =>
      rw [first_of_updateId? hs] at h
      exact absurd h (intRepr_ne_word (first_of_updateId?_none hs'))
    | some updateId' =>
      rw [first_of_updateId? hs, first_of_updateId? hs'] at h
      rw [Fields.toList_intRepr_injective h]

theorem colon_notMem_suffix (owner : OwnerReply) : ':' ∉ owner.suffix.toList := by
  cases owner <;> decide +kernel

theorem colon_notMem_messageKind (messageKind : PrivateMessageKind) :
    ':' ∉ messageKind.asStr.toList := by
  cases messageKind <;> decide +kernel

theorem colon_notMem_kind (kind : OutboxActionKind) : ':' ∉ kind.asStr.toList := by
  cases kind <;> decide +kernel

/-- The sources of one update are told by the rest of the key. -/
theorem eq_of_rest {source source' : ActionSource} {updateId : Int}
    (hsource : source.updateId? = some updateId) (hsource' : source'.updateId? = some updateId)
    (h : source.rest = source'.rest) : source = source' := by
  have hcolon (updateId kind key batchIndex) :
      ':' ∈ (ActionSource.action updateId kind key batchIndex).rest :=
    List.mem_append_right _ List.mem_cons_self
  have hreply (updateId owner) : ':' ∉ (ActionSource.reply updateId owner).rest :=
    colon_notMem_suffix owner
  have hnotice (updateId messageKind) : ':' ∉ (ActionSource.notice updateId messageKind).rest :=
    colon_notMem_messageKind messageKind
  cases source with
  | action u kind key batchIndex =>
    cases source' with
    | action u' kind' key' batchIndex' =>
      obtain ⟨hkind, hrest⟩ := Fields.cut_first (colon_notMem_kind kind) (colon_notMem_kind kind') h
      -- the id of the connection is what is left between the kind and the last two numerals
      obtain ⟨hkey, hbatch⟩ := Fields.cut_last (colon_notMem_natRepr _) (colon_notMem_natRepr _) hrest
      obtain ⟨hconnection, hchat⟩ :=
        Fields.cut_last (colon_notMem_intRepr _) (colon_notMem_intRepr _) hkey
      obtain ⟨connectionId, chatId⟩ := key
      obtain ⟨connectionId', chatId'⟩ := key'
      obtain rfl := kind_asStr_injective (String.toList_injective hkind)
      obtain rfl := Fields.toList_natRepr_injective hbatch
      obtain rfl : connectionId = connectionId' := String.toList_injective hconnection
      obtain rfl : chatId = chatId' := Fields.toList_intRepr_injective hchat
      rw [Option.some.inj hsource, Option.some.inj hsource']
    | reply u' owner => exact absurd (h ▸ hcolon u kind key batchIndex) (hreply u' owner)
    | notice u' messageKind =>
      exact absurd (h ▸ hcolon u kind key batchIndex) (hnotice u' messageKind)
    | expiry | alert => cases hsource'
  | reply u owner =>
    cases source' with
    | action u' kind key batchIndex =>
      exact absurd (h ▸ hcolon u' kind key batchIndex) (hreply u owner)
    | reply u' owner' =>
      have howner : owner = owner' := by
        have hsuffix : owner.suffix = owner'.suffix := String.toList_injective h
        cases owner <;> cases owner' <;> first | rfl | exact absurd hsuffix (by decide +kernel)
      rw [Option.some.inj hsource, Option.some.inj hsource', howner]
    | notice u' messageKind =>
      have hne : owner.suffix ≠ messageKind.asStr := by
        cases owner <;> cases messageKind <;> decide +kernel
      exact absurd (String.toList_injective h) hne
    | expiry | alert => cases hsource'
  | notice u messageKind =>
    cases source' with
    | action u' kind key batchIndex =>
      exact absurd (h ▸ hcolon u' kind key batchIndex) (hnotice u messageKind)
    | reply u' owner =>
      have hne : messageKind.asStr ≠ owner.suffix := by
        cases owner <;> cases messageKind <;> decide +kernel
      exact absurd (String.toList_injective h) hne
    | notice u' messageKind' =>
      have hkind : messageKind = messageKind' := by
        have hstr : messageKind.asStr = messageKind'.asStr := String.toList_injective h
        cases messageKind <;> cases messageKind' <;>
          first | rfl | exact absurd hstr (by decide +kernel)
      rw [Option.some.inj hsource, Option.some.inj hsource', hkind]
    | expiry | alert => cases hsource'
  | expiry | alert => cases hsource

/-- **A key tells its source**, whatever the id of the connection is. -/
theorem idempotencyKey_injective : Function.Injective idempotencyKey := by
  intro source source' h
  have hlist : source.first ++ ':' :: source.rest = source'.first ++ ':' :: source'.rest := by
    rw [← toList_idempotencyKey, ← toList_idempotencyKey, h]
  obtain ⟨hfirst, hrest⟩ := Fields.cut_first source.colon_notMem_first source'.colon_notMem_first hlist
  have hupdate := updateId?_eq hfirst
  cases hs : source.updateId? with
  | some updateId => exact eq_of_rest hs (hupdate ▸ hs) hrest
  | none =>
    rw [hs] at hupdate
    -- an expiry and an alert begin with different words
    cases source with
    | action | reply | notice => cases hs
    | expiry challengeId =>
      cases source' with
      | action | reply | notice => cases hupdate
      | alert actionId what => exact absurd hfirst (by decide +kernel : "retention".toList ≠ "outbox".toList)
      | expiry challengeId' =>
        have hid := List.append_cancel_right (List.append_cancel_left hrest)
        rw [Fields.toList_natRepr_injective hid]
    | alert actionId what =>
      cases source' with
      | action | reply | notice => cases hupdate
      | expiry challengeId => exact absurd hfirst (by decide +kernel : "outbox".toList ≠ "retention".toList)
      | alert actionId' what' =>
        obtain ⟨hid, hwhat⟩ :=
          Fields.cut_first (colon_notMem_natRepr _) (colon_notMem_natRepr _) hrest
        have hstr : what.asStr = what'.asStr := String.toList_injective hwhat
        have hsame : what = what' := by
          cases what <;> cases what' <;> first | rfl | exact absurd hstr (by decide +kernel)
        rw [Fields.toList_natRepr_injective hid, hsame]

end ActionSource

/-- The action is enqueued for the source. -/
structure NewOutboxAction.From (a : NewOutboxAction) (source : ActionSource) : Prop where
  key : a.idempotencyKey = source.idempotencyKey
  describes : source.Describes a.sourceUpdateId a.key a.payload

/-- The trace of a handled event has the key of the trace of a command. -/
theorem ActionSource.trace_key (updateId : Int) :
    s!"{updateId}:DRY_RUN_TRACE" = (ActionSource.reply updateId .trace).idempotencyKey := by
  have hsuffix : ":DRY_RUN_TRACE" = ":" ++ OwnerReply.trace.suffix := by decide +kernel
  change updateId.repr ++ ":DRY_RUN_TRACE" = updateId.repr ++ ":" ++ OwnerReply.trace.suffix
  rw [hsuffix, String.append_assoc]

end ChatHygiene
