import ChatHygiene.Lifecycle.Recede
import ChatHygiene.System.Transaction
/-!
# Renewals

The statements that write the state of a conversation without an event: an
expired challenge, an expired block, an unblock and a reset. Each returns a
conversation to `NEW`, and leaves no block behind.
-/

namespace ChatHygiene

open Txn (Respects commit)

variable {db db' : Database} {reset : ConversationKey → Prop}

/-! ## Rows -/

/-- What anything but an applied event does to a conversation: it leaves its state and its block
alone, or renews it. Only a reset renews any conversation. -/
inductive Conversation.Renews (reset : Prop) (c c' : Conversation) : Prop where
  | kept (hstate : c'.state = c.state) (hexpires : c'.blockExpiresAt = c.blockExpiresAt)
      (hreason : c'.blockReason = c.blockReason)
  | expired (hpending : c.state = .verifyPending) (hstate : c'.state = .new)
      (hexpires : c'.blockExpiresAt = c.blockExpiresAt) (hreason : c'.blockReason = c.blockReason)
  | released (h : c.state.blocked = true ∨ reset) (hstate : c'.state = .new)
      (hexpires : c'.blockExpiresAt = none) (hreason : c'.blockReason = none)

namespace Conversation.Renews

variable {r r' : Prop} {c c' c'' : Conversation}

protected theorem refl (c : Conversation) : c.Renews r c := .kept rfl rfl rfl

theorem mono (h : c.Renews r c') (hr : r → r') : c.Renews r' c' := by
  cases h with
  | kept hstate hexpires hreason => exact .kept hstate hexpires hreason
  | expired hpending hstate hexpires hreason => exact .expired hpending hstate hexpires hreason
  | released h hstate hexpires hreason => exact .released (h.imp_right hr) hstate hexpires hreason

protected theorem trans (h : c.Renews r c') (h' : c'.Renews r c'') : c.Renews r c'' := by
  cases h' with
  | kept hstate' hexpires' hreason' =>
    cases h with
    | kept hstate hexpires hreason =>
      exact .kept (hstate'.trans hstate) (hexpires'.trans hexpires) (hreason'.trans hreason)
    | expired hpending hstate hexpires hreason =>
      exact .expired hpending (hstate'.trans hstate) (hexpires'.trans hexpires)
        (hreason'.trans hreason)
    | released h hstate hexpires hreason =>
      exact .released h (hstate'.trans hstate) (hexpires'.trans hexpires) (hreason'.trans hreason)
  | expired hpending' hstate' hexpires' hreason' =>
    cases h with
    | kept hstate hexpires hreason =>
      exact .expired (hstate.symm.trans hpending') hstate' (hexpires'.trans hexpires)
        (hreason'.trans hreason)
    | expired _ hstate =>
      rw [hstate] at hpending'
      cases hpending'
    | released _ hstate =>
      rw [hstate] at hpending'
      cases hpending'
  | released h' hstate' hexpires' hreason' =>
    refine .released ?_ hstate' hexpires' hreason'
    rcases h' with hblocked | hreset
    · cases h with
      | kept hstate =>
        rw [hstate] at hblocked
        exact .inl hblocked
      | expired _ hstate =>
        rw [hstate] at hblocked
        cases hblocked
      | released h hstate =>
        rw [hstate] at hblocked
        cases hblocked
    · exact .inr hreset

end Conversation.Renews

/-- Every conversation there is was there, and has been renewed at most. -/
def Renewed (reset : ConversationKey → Prop) (db db' : Database) : Prop :=
  ∀ k c', db'.conversation.lookup k = some c' →
    ∃ c, db.conversation.lookup k = some c ∧ c.Renews (reset k) c'

namespace Renewed

instance : Std.Refl (Renewed reset) := ⟨fun _ _ c' hc' => ⟨c', hc', .refl c'⟩⟩

instance : IsTrans Database (Renewed reset) where
  trans _ _ _ h h' k c'' hc'' := by
    obtain ⟨c', hc', hrenews'⟩ := h' k c'' hc''
    obtain ⟨c, hc, hrenews⟩ := h k c' hc'
    exact ⟨c, hc, hrenews.trans hrenews'⟩

theorem of_eq (h : db'.conversation = db.conversation) : Renewed reset db db' := by
  intro k c' hc'
  rw [h] at hc'
  exact ⟨c', hc', .refl c'⟩

theorem mono {reset' : ConversationKey → Prop} (h : Renewed reset db db')
    (hreset : ∀ k, reset k → reset' k) : Renewed reset' db db' := by
  intro k c' hc'
  obtain ⟨c, hc, hrenews⟩ := h k c' hc'
  exact ⟨c, hc, hrenews.mono (hreset k)⟩

end Renewed

/-! ## Footprints -/

/-- A transaction that does not write to conversations removes some at most. -/
theorem WritesTo.renewed {targets : List Target} {K : NewOutboxAction → Prop}
    (h : WritesTo targets K db db') (hconversation : Target.conversation ∉ targets) :
    Renewed reset db db' := by
  refine Txn.Through.relation (R := Renewed reset) ?_ h
  intro st s s' hst heffect
  by_cases hdrop : st.target = .dropConnection
  · cases st with
    | deleteConnection p =>
      obtain ⟨n, heffect⟩ := heffect
      obtain ⟨-, hdb⟩ := Prod.mk.inj (Except.ok.inj heffect)
      intro k c' hc'
      rw [← hdb] at hc'
      simp only [Table.lookup_delete] at hc'
      exact ⟨c', (Option.filter_eq_some_iff.1 hc').1, .refl c'⟩
    | _ => simp at hdrop
  · refine .of_eq (heffect.frame.conversation ?_ ?_)
    · exact fun m => hconversation (List.mem_singleton.1 m ▸ hst.target_mem)
    · exact fun m => hdrop (List.mem_singleton.1 m).symm

theorem renewed_of_writes {α : Type} {x : Uow α} {K : NewOutboxAction → Prop}
    (targets : List Target) (hconversation : Target.conversation ∉ targets)
    (h : Respects (WritesTo targets K) x) : Respects (Renewed reset) x :=
  h.mono fun _ _ hw => hw.renewed hconversation

/-- An update of conversations that renews each of those it is about. -/
theorem updateConversation_renewed {p : Conversation → Bool} {f : Conversation → Conversation}
    {hf : ∀ c, (f c).key = c.key} (h : ∀ c, p c = true → c.Renews (reset c.key) (f c)) :
    Respects (Renewed reset) (Uow.updateConversation p f hf) := by
  intro db n db' hx k c' hc'
  obtain ⟨-, hrow, -⟩ := updateConversation_ok hx
  rw [hrow k] at hc'
  obtain ⟨c, hc, rfl⟩ := Option.map_eq_some_iff.1 hc'
  refine ⟨c, hc, ?_⟩
  by_cases hp : p c = true
  · rw [if_pos hp, ← show c.key = k from Table.key_of_lookup hc]
    exact h c hp
  · rw [if_neg hp]
    exact .refl c

/-! ## The expiry pass -/

theorem expireChallenge_renewed (now : DateTime) (challenge : ChallengeRecord) :
    Respects (Renewed reset) (expireChallenge now challenge) := by
  refine Respects.bind (renewed_of_writes (K := fun _ => True) [.challenge] (by simp)
    (closeChallenges_writes (by simp) _ _)) fun closed => .ite (fun _ => .pure _) fun _ => ?_
  have hedit : Respects (Renewed reset) (enqueueExpiryEdit challenge now) :=
    renewed_of_writes [.enqueue] (by simp)
      (enqueueExpiryEdit_writes (K := fun _ => True) (by simp) (fun _ _ => trivial) _ _)
  refine Respects.bind (updateConversation_renewed fun c hc => ?_) fun _ =>
    .ite (fun _ => hedit.bind fun _ => .pure _) fun _ => .pure _
  simp only [Bool.and_eq_true, decide_eq_true_eq] at hc
  exact .expired hc.2 rfl rfl rfl

theorem expireChallenges_renewed (now : DateTime) (challenges : List ChallengeRecord) :
    Respects (Renewed reset) (expireChallenges now challenges) := by
  induction challenges with
  | nil => exact .pure _
  | cons challenge challenges ih =>
    exact (expireChallenge_renewed now challenge).bind fun _ => ih.bind fun _ => .pure _

theorem expireDueState_renewed (now : DateTime) :
    Respects (Renewed reset) (expireDueState now) := by
  refine (Respects.read _).bind fun due => (expireChallenges_renewed now due).bind fun _ =>
    Respects.bind (updateConversation_renewed fun c hc => ?_) fun _ => .pure _
  simp only [Bool.and_eq_true, decide_eq_true_eq] at hc
  exact .released (.inl (by rw [hc.1]; rfl)) rfl rfl rfl

/-! ## Owner commands -/

theorem resetConversation_renewed (connection : BusinessConnectionRecord) (chatId : Int)
    (now : DateTime) : Respects (Renewed fun k => k.chatId = chatId)
      (resetConversation connection chatId now) := by
  have hother {α : Type} {x : Uow α} (targets : List Target)
      (hconversation : Target.conversation ∉ targets)
      (h : Respects (WritesTo targets fun _ => True) x) :
      Respects (Renewed fun k => k.chatId = chatId) x := renewed_of_writes targets hconversation h
  refine (Respects.read _).bind fun conversation => ?_
  cases conversation with
  | none => exact .pure _
  | some conversation =>
    refine (Respects.read _).bind fun _ => (Respects.read _).bind fun _ =>
      (hother [.outbox] (by simp)
        (Uow.deleteOutbox_writes (by exact List.mem_singleton.2 rfl))).bind fun _ =>
      (hother [.challenge] (by simp)
        (Uow.deleteChallenge_writes (by exact List.mem_singleton.2 rfl))).bind fun _ =>
      (hother [.ledger] (by simp)
        (Uow.deleteLedger_writes (by exact List.mem_singleton.2 rfl))).bind fun _ =>
      Respects.bind (updateConversation_renewed fun c hc => ?_) fun _ =>
      Respects.bind (hother [.audit] (by simp)
        ((insertAuditEvent_writes (by simp) _).bind fun _ => .pure _))
        fun _ => .pure _
    exact .released (.inr (by rw [of_decide_eq_true hc])) rfl rfl rfl

theorem unblockConversation_renewed (connection : BusinessConnectionRecord) (chatId : Int)
    (now : DateTime) : Respects (Renewed reset) (unblockConversation connection chatId now) := by
  refine Respects.bind (updateConversation_renewed fun c hc => ?_) fun _ => .ite (fun _ => ?_)
    fun _ => Respects.bind (renewed_of_writes (K := fun _ => True) [.challenge] (by simp)
      (closeChallenges_writes (by simp) _ _)) fun _ => Respects.bind
      (renewed_of_writes (K := fun _ => True) [.audit] (by simp)
        ((insertAuditEvent_writes (by simp) _).bind fun _ => .pure _)) fun _ => .pure _
  · simp only [Bool.and_eq_true] at hc
    exact .released (.inl hc.2) rfl rfl rfl
  · refine (Respects.read _).bind fun conversation => ?_
    cases conversation with
    | none => exact .pure _
    | some conversation => exact .pure _

/-- The command of an Owner renews what it resets. -/
theorem processOwnerCommand_renewed (updateId : Int) (snapshot : OwnerCommandSnapshot)
    (occurredAt : DateTime) (default : Bool) :
    Respects (Renewed fun k => snapshot.command = .ok (.reset k.chatId))
      (processOwnerCommand updateId snapshot occurredAt default) := by
  have hother {α : Type} {x : Uow α}
      (h : Respects (WritesTo [.update, .audit, .owner, .enqueue, .mode] fun _ => True) x) :
      Respects (Renewed fun k => snapshot.command = .ok (.reset k.chatId)) x :=
    renewed_of_writes _ (by simp) h
  refine processOwnerCommand_respects (hother (insertRedactedUpdate_writes (by simp) _ _))
    (hother (authorize_writes (by simp) _ _))
    (fun _ => executeCommand_respects fun command hcommand => executeAuthorized_respects
      (fun connection chatId hreset => ?_) (fun _ _ => unblockConversation_renewed _ _ _)
      fun _ _ => hother (setDryRun_writes (by simp) _ _))
    (fun actions => renewed_of_writes (K := NewOutboxAction.Of updateId True) [.enqueue] (by simp)
      (enqueueOwnerTelegramActions_writes (by simp) actions (fun _ => trivial) _))
    fun _ _ _ => renewed_of_writes (K := fun _ => True) [.enqueue] (by simp)
      (enqueueDirectOwnerMessage_writes (by simp) _ _ _ _)
  refine (resetConversation_renewed connection chatId _).mono fun _ _ h => h.mono fun k hk => ?_
  rw [hcommand, hreset, hk]

theorem processOwnerStart_renewed (updateId : Int) (snapshot : OwnerCommandSnapshot)
    (occurredAt : DateTime) (default : Bool) :
    Respects (Renewed reset) (processOwnerStart updateId snapshot occurredAt default) :=
  processOwnerStart_respects
    ((processOwnerCommand_renewed _ _ _ _).mono fun _ _ h => h.mono fun k hk => by cases hk)
    (renewed_of_writes (K := fun _ => True) [.update] (by simp)
      (insertRedactedUpdate_writes (by simp) _ _))
    fun _ => renewed_of_writes (K := NewOutboxAction.Of updateId True) [.enqueue] (by simp)
      (enqueuePrivateMessage_writes (by simp) _ _ _)

/-! ## Transactions -/

/-- The transaction resets the conversations of a chat. -/
def Transaction.Resets (chatId : Int) : Transaction → Prop
  | .ownerCommand _ snapshot _ _ => snapshot.command = .ok (.reset chatId)
  | _ => False

/-- **Without an event, conversations are renewed at most.** -/
theorem Transaction.renewed (h : db.NoConnectionChange) {x : Transaction}
    (hx : ∀ updateId now, x ≠ .apply updateId now) :
    Renewed (fun k => x.Resets k.chatId) db (x.after db) := by
  have hwrites := x.after_writes h
  cases x with
  | apply updateId now => exact absurd rfl (hx updateId now)
  | ownerCommand updateId snapshot occurredAt default =>
    exact (processOwnerCommand_renewed _ _ _ _).commit db
  | ownerStart updateId snapshot occurredAt default =>
    exact (processOwnerStart_renewed _ _ _ _).commit db
  | expire now => exact (expireDueState_renewed now).commit db
  | _ => exact hwrites.renewed (by simp)

end ChatHygiene
