import ChatHygiene.Footprint.Storage
import ChatHygiene.Lifecycle.View
import ChatHygiene.Processing.Service
/-!
# What preparation guarantees

The facts of a prepared event are well formed, fit the life of their
conversation at the moment of preparation, and are inert while the service is
in dry-run.
-/

namespace ChatHygiene

open Txn (bind_ok_iff pure_ok_iff throw_ok_iff read_ok_iff)

/-- Nothing is read, deleted or blocked by applying the action. -/
def PreparedAction.inert : PreparedAction → Bool
  | .blockedInbound | .inbound _ .spam _ | .inbound _ (.incorrect _ _ _ (some _)) _ => false
  | _ => true

/-- The facts are complete for their action. -/
structure LifecycleFacts.Genuine (facts : LifecycleFacts) : Prop where
  noConnectionChange : ∀ o c e r, facts.action ≠ .connectionChanged o c e r
  named : facts.action.createsConversation = true →
    facts.optionalKey.isSome = true ∧ facts.userId.isSome = true
  message : facts.action.createsConversation = true → (∀ ids, facts.action ≠ .messagesDeleted ids) →
    facts.messageId.isSome = true
  score : ∀ detection outcome dryRunSpam, facts.action = .inbound detection outcome dryRunSpam →
    detection.score ≤ 100

/-- The event is a message event with complete facts, or a connection trigger. -/
structure PreparedEvent.Genuine (event : PreparedEvent) : Prop where
  facts : event.facts.Genuine
  eventType : event.eventType = .lifecycle ∨
    event.eventType = .businessConnectionChanged ∧ event.facts.action = .ignore

/-- The event was prepared in `db`, with `default` as the configured mode. -/
structure PreparedEvent.PreparedIn (event : PreparedEvent) (db : Database) (default : Bool) :
    Prop where
  genuine : event.Genuine
  fits : ∀ key, event.facts.optionalKey = some key → event.facts.action.Fits (db.lifecycle key)
  belongs : ∀ key, event.facts.optionalKey = some key → event.facts.action.Belongs db key
  issued : ∀ challengeId, event.facts.action.challengeId = some challengeId →
    challengeId ≤ db.challengeSeq
  inert : db.destructiveMode.getD default = false → event.facts.action.inert = true

namespace EventPreparer

variable {preparer : EventPreparer} {raw : RawBusinessEvent} {db db' : Database}
  {key : ConversationKey} {action : PreparedAction} {mode : Bool}

/-- What an inbound message of a conversation is prepared as. -/
structure InboundIn (db : Database) (key : ConversationKey) (mode : Bool)
    (action : PreparedAction) : Prop where
  creates : action = .activeInbound ∨ action.createsConversation = true
  message : ∀ ids, action ≠ .messagesDeleted ids
  noConnectionChange : ∀ o c e r, action ≠ .connectionChanged o c e r
  score : ∀ detection outcome dryRunSpam, action = .inbound detection outcome dryRunSpam →
    detection.score ≤ 100
  fits : action.Fits (db.lifecycle key)
  belongs : action.Belongs db key
  issued : ∀ challengeId, action.challengeId = some challengeId → challengeId ≤ db.challengeSeq
  inert : mode = false → action.inert = true

theorem detectionFacts_score_le (preparer : EventPreparer) : preparer.detectionFacts.score ≤ 100 := by
  unfold detectionFacts
  split
  · next result h => exact result.score_le
  · exact Nat.zero_le _

/-- A message of an active or blocked conversation, which is not judged. -/
theorem inboundIn_of_unjudged
    (h : action = .activeInbound ∨ action = .blockedInbound ∨ action = .blockedFailOpen)
    (hfits : action.Fits (db.lifecycle key)) (hinert : mode = false → action.inert = true) :
    InboundIn db key mode action where
  creates := by rcases h with rfl | rfl | rfl <;> simp [PreparedAction.createsConversation]
  message := by rcases h with rfl | rfl | rfl <;> simp
  noConnectionChange := by rcases h with rfl | rfl | rfl <;> simp
  score := by rcases h with rfl | rfl | rfl <;> simp
  fits := hfits
  belongs := by
    rcases h with rfl | rfl | rfl <;> simp [PreparedAction.Belongs, PreparedAction.challengeId]
  issued := by rcases h with rfl | rfl | rfl <;> simp [PreparedAction.challengeId]
  inert := hinert

/-- An outcome about no challenge, prepared for an open state. -/
theorem inboundIn_of_none {detection : DetectionFacts} {outcome : InboundOutcome} {dryRunSpam : Bool}
    (hscore : detection.score ≤ 100)
    (hstate : (db.lifecycle key).state ≠ .active ∧ (db.lifecycle key).state.blocked = false)
    (hstart : ∀ e h v c x m, outcome = .startChallenge e h v c x m →
      (db.lifecycle key).state = .new ∧ m = 3)
    (hnone : outcome.challengeId = none)
    (hinert : mode = false → (PreparedAction.inbound detection outcome dryRunSpam).inert = true) :
    InboundIn db key mode (.inbound detection outcome dryRunSpam) where
  creates := .inr rfl
  message := nofun
  noConnectionChange := nofun
  score := by
    rintro _ _ _ ⟨⟩
    exact hscore
  fits :=
    { open_state := hstate
      start := hstart
      challenge := fun id hid => by simp [hnone] at hid
      exhausts := by
        rintro id e r b rfl
        simp [InboundOutcome.challengeId] at hnone }
  belongs id hid := by simp [PreparedAction.challengeId, hnone] at hid
  issued id hid := by simp [PreparedAction.challengeId, hnone] at hid
  inert := hinert

/-- An outcome about the open challenge. -/
theorem inboundIn_of_challenge {detection : DetectionFacts} {outcome : InboundOutcome}
    {dryRunSpam : Bool} {c : ChallengeRow} (hscore : detection.score ≤ 100)
    (hstate : (db.lifecycle key).state = .verifyPending) (hc : db.openChallenge key = some c)
    (hid : outcome.challengeId = some c.id)
    (hexhausts : ∀ id e r b, outcome = .incorrect id e r b →
      (e = true ↔ c.maxAttempts ≤ c.attemptsUsed + 1))
    (hinert : mode = false → (PreparedAction.inbound detection outcome dryRunSpam).inert = true) :
    InboundIn db key mode (.inbound detection outcome dryRunSpam) where
  creates := .inr rfl
  message := nofun
  noConnectionChange := nofun
  score := by
    rintro _ _ _ ⟨⟩
    exact hscore
  fits :=
    { open_state := by simp [hstate, ConversationState.blocked]
      start := by
        rintro e h v c x m rfl
        simp [InboundOutcome.challengeId] at hid
      challenge := fun id hid' => by
        obtain rfl := Option.some.inj (hid.symm.trans hid')
        exact ⟨hstate, c.asOpen, by simp [Database.lifecycle, Conversation.life, hc], rfl⟩
      exhausts := by
        rintro id e r b rfl c' hc'
        simp only [Database.lifecycle, Conversation.life, hc, Option.map_some,
          Option.some.injEq] at hc'
        subst hc'
        exact hexhausts id e r b rfl }
  belongs id hid' := by
    obtain rfl := Option.some.inj (hid.symm.trans hid')
    exact challengeOf_openChallenge hc
  issued id hid' := by
    obtain rfl := Option.some.inj (hid.symm.trans hid')
    exact Database.openChallenge_id_le hc
  inert := hinert

theorem state_eq (db : Database) (key : ConversationKey) :
    ((db.conversation.lookup key).map (·.state)).getD .new = (db.lifecycle key).state := by
  rw [Database.lifecycle]
  cases db.conversation.lookup key <;> rfl

theorem activeChallenge_apply (db : Database) (key : ConversationKey) :
    activeChallenge key db =
      .ok ((db.openChallenge key).map ChallengeRow.toChallengeRecord, db) := rfl

/-- An answer is judged against the open challenge. -/
theorem answerOutcome_spec (preparer : EventPreparer) (c : ChallengeRow) (answer : String)
    (mode : Bool) :
    (preparer.answerOutcome c.toChallengeRecord answer mode).challengeId = some c.id ∧
      (∀ id e r b, preparer.answerOutcome c.toChallengeRecord answer mode = .incorrect id e r b →
        (e = true ↔ c.maxAttempts ≤ c.attemptsUsed + 1) ∧ (mode = false → b = none)) := by
  unfold answerOutcome
  split
  · exact ⟨rfl, nofun⟩
  all_goals
    refine ⟨rfl, ?_⟩
    rintro id e r b h
    cases h
    simp +contextual

theorem safeOutcome_spec {rawKind : RawEventKind} {content : Option MessageContent}
    {outcome : InboundOutcome} {state : ConversationState}
    (hstate : (db.lifecycle key).state = state)
    (h : preparer.safeOutcome rawKind state key content mode db = .ok (outcome, db'))
    (dryRunSpam : Bool) :
    db' = db ∧ InboundIn db key mode (.inbound preparer.detectionFacts outcome dryRunSpam) := by
  have hscore := preparer.detectionFacts_score_le
  unfold safeOutcome at h
  cases state with
  | new =>
    obtain ⟨rfl, rfl⟩ := Prod.mk.inj (pure_ok_iff.1 h)
    refine ⟨rfl, inboundIn_of_none hscore (by simp [hstate, ConversationState.blocked]) ?_ rfl
      fun _ => rfl⟩
    rintro e a v c x m hstart
    refine ⟨hstate, ?_⟩
    -- a generated challenge allows at least one attempt
    have := (preparer.verifier.generate preparer.now).maxAttempts_eq
    simp only [generatedChallenge, InboundOutcome.startChallenge.injEq] at hstart
    omega
  | verifyPending =>
    dsimp only at h
    rw [Txn.bind_of_ok (activeChallenge_apply db key)] at h
    -- a pending verification without an open challenge is an error of the source, not an outcome
    cases hc : db.openChallenge key with
    | none =>
      rw [hc] at h
      cases h
    | some c =>
      rw [hc] at h
      simp only [Option.map_some] at h
      split at h
      · obtain ⟨rfl, rfl⟩ := Prod.mk.inj (pure_ok_iff.1 h)
        exact ⟨rfl, inboundIn_of_challenge hscore hstate hc rfl nofun fun _ => rfl⟩
      · split at h
        · obtain ⟨rfl, rfl⟩ := Prod.mk.inj (pure_ok_iff.1 h)
          exact ⟨rfl, inboundIn_of_none hscore (by simp [hstate, ConversationState.blocked]) nofun
            rfl fun _ => rfl⟩
        · split at h
          · cases h
          · obtain ⟨rfl, rfl⟩ := Prod.mk.inj (pure_ok_iff.1 h)
            have hspec := answerOutcome_spec preparer c
              ((content.bind (·.text)).getD "") mode
            refine ⟨rfl, inboundIn_of_challenge hscore hstate hc hspec.1
              (fun id e r b hout => (hspec.2 id e r b hout).1) fun hmode => ?_⟩
            cases hout : preparer.answerOutcome c.toChallengeRecord
                ((content.bind (·.text)).getD "") mode with
            | incorrect id e r b =>
              rw [(hspec.2 id e r b hout).2 hmode]
              rfl
            | spam =>
              rw [hout] at hspec
              cases hspec.1
            | _ => rfl
  | verifiedWaitingOwner =>
    obtain ⟨rfl, rfl⟩ := Prod.mk.inj (pure_ok_iff.1 h)
    exact ⟨rfl, inboundIn_of_none hscore (by simp [hstate, ConversationState.blocked]) nofun rfl
      fun _ => rfl⟩
  | active => cases h
  | tempSoftBlocked => cases h
  | spamSoftBlocked => cases h

theorem eventKey_ok (h : eventKey raw db = .ok (key, db')) :
    db' = db ∧ raw.connectionId = some key.connectionId ∧ raw.chatId = some key.chatId := by
  unfold eventKey at h
  cases hconnection : raw.connectionId with
  | none =>
    rw [hconnection] at h
    cases h
  | some connectionId =>
    cases hchat : raw.chatId with
    | none =>
      rw [hconnection, hchat] at h
      cases h
    | some chatId =>
      rw [hconnection, hchat] at h
      obtain ⟨rfl, rfl⟩ := Prod.mk.inj (pure_ok_iff.1 h)
      exact ⟨rfl, rfl, rfl⟩

theorem businessAvailability_readOnly (key : ConversationKey) :
    Txn.Respects Eq (businessAvailability key) := by
  refine (findBusinessConnection_readOnly _).bind fun connection => ?_
  cases connection with
  | none => exact .pure _
  | some connection => exact .ite (fun _ => .pure _) fun _ => .pure _

/-- **An inbound message is prepared for the conversation it finds.** -/
theorem prepareInbound_spec (h : preparer.prepareInbound raw mode db = .ok (action, db')) :
    db' = db ∧ ∃ key : ConversationKey, raw.connectionId = some key.connectionId ∧
      raw.chatId = some key.chatId ∧ InboundIn db key mode action := by
  unfold prepareInbound at h
  obtain ⟨key, s, hkey, hrest⟩ := bind_ok_iff.1 h
  clear h
  obtain ⟨rfl, hconnection, hchat⟩ := eventKey_ok hkey
  suffices db' = s ∧ InboundIn s key mode action from ⟨this.1, key, hconnection, hchat, this.2⟩
  obtain ⟨conversation, s', hread, h⟩ := bind_ok_iff.1 hrest
  obtain ⟨rfl, rfl⟩ := Prod.mk.inj (read_ok_iff.1 hread)
  dsimp only at h
  rw [state_eq] at h
  generalize hstate : (s.lifecycle key).state = state at h
  split at h
  · next hactive =>
    obtain ⟨rfl, rfl⟩ := Prod.mk.inj (pure_ok_iff.1 h)
    exact ⟨rfl, inboundIn_of_unjudged (.inl rfl) (hstate.trans hactive) fun _ => rfl⟩
  · next hactive =>
    obtain ⟨availability, s₁, havailable, hrest⟩ := bind_ok_iff.1 h
    obtain rfl := businessAvailability_readOnly key _ _ _ havailable
    clear h
    have hoff (hmode : mode = false) : (mode && availability.destructive) = false := by simp [hmode]
    generalize (mode && availability.destructive) = destructive at hrest hoff
    split at hrest
    · next hblocked =>
      obtain ⟨rfl, rfl⟩ := Prod.mk.inj (pure_ok_iff.1 hrest)
      refine ⟨rfl, ?_⟩
      have hfits : (s.lifecycle key).state.blocked = true := by rw [hstate]; exact hblocked
      cases destructive with
      | true =>
        exact inboundIn_of_unjudged (.inr (.inl rfl)) hfits fun hmode => nomatch hoff hmode
      | false => exact inboundIn_of_unjudged (.inr (.inr rfl)) hfits fun _ => rfl
    · next hblocked =>
      have hopen : (s.lifecycle key).state ≠ .active ∧ (s.lifecycle key).state.blocked = false := by
        rw [hstate]
        exact ⟨hactive, by simpa using hblocked⟩
      have hscore := preparer.detectionFacts_score_le
      split at hrest
      · next hspam =>
        obtain ⟨rfl, rfl⟩ := Prod.mk.inj (pure_ok_iff.1 hrest)
        refine ⟨rfl, inboundIn_of_none hscore hopen nofun rfl fun hmode => ?_⟩
        simp [hoff hmode] at hspam
      · split at hrest
        · obtain ⟨rfl, rfl⟩ := Prod.mk.inj (pure_ok_iff.1 hrest)
          exact ⟨rfl, inboundIn_of_none hscore hopen nofun rfl fun _ => rfl⟩
        · obtain ⟨outcome, s₂, hsafe, hpure⟩ := bind_ok_iff.1 hrest
          obtain ⟨rfl, rfl⟩ := Prod.mk.inj (pure_ok_iff.1 hpure)
          obtain ⟨rfl, hin⟩ := safeOutcome_spec hstate hsafe _
          exact ⟨rfl, { hin with inert := fun hmode => hin.inert (hoff hmode) }⟩

/-! ## Updates -/

theorem knownBusinessConnection_readOnly (raw : RawBusinessEvent) :
    Txn.Respects Eq (knownBusinessConnection raw) := by
  unfold knownBusinessConnection
  split
  · exact .pure _
  · exact (findBusinessConnection_readOnly _).bind fun _ => .pure _

/-- A prepared action, for the conversation it names if it names one. -/
structure ActionIn (db : Database) (raw : RawBusinessEvent) (mode : Bool)
    (action : PreparedAction) : Prop where
  noConnectionChange : ∀ o c e r, action ≠ .connectionChanged o c e r
  creates : action.createsConversation = true → raw.isBusinessMessage = true
  message : action.createsConversation = true → (∀ ids, action ≠ .messagesDeleted ids) →
    raw.kind ≠ .messagesDeleted
  trigger : raw.kind = .businessConnectionChanged → action = .ignore
  score : ∀ detection outcome dryRunSpam, action = .inbound detection outcome dryRunSpam →
    detection.score ≤ 100
  fits : ∀ key : ConversationKey, raw.connectionId = some key.connectionId →
    raw.chatId = some key.chatId → action.Fits (db.lifecycle key)
  belongs : ∀ key : ConversationKey, raw.connectionId = some key.connectionId →
    raw.chatId = some key.chatId → action.Belongs db key
  issued : ∀ challengeId, action.challengeId = some challengeId → challengeId ≤ db.challengeSeq
  inert : mode = false → action.inert = true

/-- The action sees nothing of a conversation. -/
def plain : PreparedAction → Bool
  | .manualOwner | .botMessage _ | .messagesDeleted _ | .ignore => true
  | _ => false

theorem actionIn_of_plain (hplain : plain action = true)
    (hcreates : action.createsConversation = true → raw.isBusinessMessage = true)
    (hmessage : action.createsConversation = true → (∀ ids, action ≠ .messagesDeleted ids) →
      raw.kind ≠ .messagesDeleted)
    (htrigger : raw.kind = .businessConnectionChanged → action = .ignore) :
    ActionIn db raw mode action where
  noConnectionChange := by
    rintro o c e r rfl
    cases hplain
  creates := hcreates
  message := hmessage
  trigger := htrigger
  score := by
    rintro d o s rfl
    cases hplain
  fits _ _ _ := by cases action <;> first | exact trivial | cases hplain
  belongs _ _ _ id hid := by cases action <;> first | cases hid | cases hplain
  issued id hid := by cases action <;> first | cases hid | cases hplain
  inert _ := by cases action <;> first | rfl | cases hplain

theorem actionIn_of_inbound (hkind : raw.kind = .inboundMessage ∨ raw.kind = .editedInboundMessage)
    (hconnection : raw.connectionId = some key.connectionId) (hchat : raw.chatId = some key.chatId)
    (h : InboundIn db key mode action) : ActionIn db raw mode action := by
  have hkey (k : ConversationKey) (hc : raw.connectionId = some k.connectionId)
      (hid : raw.chatId = some k.chatId) : k = key := by
    rw [hconnection] at hc
    rw [hchat] at hid
    cases k
    cases key
    simp_all
  exact
    { noConnectionChange := h.noConnectionChange
      creates := fun _ => by rcases hkind with hk | hk <;> simp [RawBusinessEvent.isBusinessMessage, hk]
      message := fun _ _ => by rcases hkind with hk | hk <;> simp [hk]
      trigger := fun ht => by rcases hkind with hk | hk <;> simp [hk] at ht
      score := h.score
      fits := fun k hc hid => hkey k hc hid ▸ h.fits
      belongs := fun k hc hid => hkey k hc hid ▸ h.belongs
      issued := h.issued
      inert := h.inert }

theorem prepareAction_spec (h : preparer.prepareAction raw mode db = .ok (action, db')) :
    db' = db ∧ ActionIn db raw mode action := by
  unfold prepareAction at h
  obtain ⟨known, s, hknown, hrest⟩ := bind_ok_iff.1 h
  obtain rfl := knownBusinessConnection_readOnly raw _ _ _ hknown
  clear h
  have hignore : ActionIn db raw mode .ignore :=
    actionIn_of_plain rfl nofun nofun fun _ => rfl
  split at hrest
  · obtain ⟨rfl, rfl⟩ := Prod.mk.inj (pure_ok_iff.1 hrest)
    exact ⟨rfl, hignore⟩
  · have hmessage (hplain : plain action = true) (hbusiness : raw.isBusinessMessage = true)
        (hkind : raw.kind ≠ .messagesDeleted) : ActionIn db raw mode action :=
      actionIn_of_plain hplain (fun _ => hbusiness) (fun _ _ => hkind)
        fun ht => by simp [RawBusinessEvent.isBusinessMessage, ht] at hbusiness
    cases hkind : raw.kind with
    | inboundMessage =>
      rw [hkind] at hrest
      obtain ⟨rfl, key, hconnection, hchat, hin⟩ := prepareInbound_spec hrest
      exact ⟨rfl, actionIn_of_inbound (.inl hkind) hconnection hchat hin⟩
    | editedInboundMessage =>
      rw [hkind] at hrest
      obtain ⟨rfl, key, hconnection, hchat, hin⟩ := prepareInbound_spec hrest
      exact ⟨rfl, actionIn_of_inbound (.inr hkind) hconnection hchat hin⟩
    | messagesDeleted =>
      rw [hkind] at hrest
      obtain ⟨rfl, rfl⟩ := Prod.mk.inj (pure_ok_iff.1 hrest)
      exact ⟨rfl, actionIn_of_plain rfl
        (fun _ => by simp [RawBusinessEvent.isBusinessMessage, hkind])
        (fun _ hids => absurd rfl (hids _)) fun ht => by simp [hkind] at ht⟩
    | manualOwnerMessage =>
      rw [hkind] at hrest
      obtain ⟨rfl, rfl⟩ := Prod.mk.inj (pure_ok_iff.1 hrest)
      exact ⟨rfl, hmessage rfl (by simp [RawBusinessEvent.isBusinessMessage, hkind])
        (by simp [hkind])⟩
    | botBusinessMessage =>
      rw [hkind] at hrest
      obtain ⟨rfl, rfl⟩ := Prod.mk.inj (pure_ok_iff.1 hrest)
      exact ⟨rfl, hmessage rfl (by simp [RawBusinessEvent.isBusinessMessage, hkind])
        (by simp [hkind])⟩
    | implicitOwnerMessage =>
      rw [hkind] at hrest
      obtain ⟨rfl, rfl⟩ := Prod.mk.inj (pure_ok_iff.1 hrest)
      exact ⟨rfl, hmessage rfl (by simp [RawBusinessEvent.isBusinessMessage, hkind])
        (by simp [hkind])⟩
    | _ =>
      rw [hkind] at hrest
      obtain ⟨rfl, rfl⟩ := Prod.mk.inj (pure_ok_iff.1 hrest)
      exact ⟨rfl, hignore⟩

theorem traceOwnerIdentity_readOnly (raw : RawBusinessEvent) :
    Txn.Respects Eq (traceOwnerIdentity raw) := by
  have hchat (user : Int) : Txn.Respects Eq (ownerChatForUser user) := by
    refine (Txn.Respects.read _).bind fun state => ?_
    match state with
    | .pending => exact .pure _
    | .ready (.claimed ..) => exact .pure _
    | .ready .unclaimed => exact .pure _
  have hsingle : Txn.Respects Eq singleConnectionOwner := by
    refine findSingleBusinessConnection_readOnly.bind fun connection => ?_
    cases connection with
    | none => exact .pure _
    | some connection => exact (hchat _).bind fun _ => .pure _
  unfold traceOwnerIdentity
  split
  · exact .pure _
  · split
    · exact hsingle
    · refine (findBusinessConnection_readOnly _).bind fun connection => ?_
      cases connection with
      | none => exact hsingle
      | some connection => exact (hchat _).bind fun _ => .pure _

theorem traceStateBefore_readOnly (raw : RawBusinessEvent) :
    Txn.Respects Eq (traceStateBefore raw) := by
  unfold traceStateBefore
  split
  · exact (Txn.Respects.read _).bind fun _ => .pure _
  · exact .pure _

/-- A prepared event names what the update names, and carries the action prepared for it. -/
theorem prepare_ok {updateId : Int} {event : PreparedEvent}
    (h : preparer.prepare updateId raw db = .ok (event, db')) :
    db' = db ∧ event.updateId = updateId ∧
      event.eventType = (if raw.kind = .businessConnectionChanged then .businessConnectionChanged
        else .lifecycle) ∧
      (event.facts.connectionId = raw.connectionId ∧ event.facts.chatId = raw.chatId ∧
        event.facts.userId = raw.chatId ∧ event.facts.messageId = raw.messageId) ∧
      ActionIn db raw (db.destructiveMode.getD preparer.destructiveMode) event.facts.action := by
  unfold prepare at h
  obtain ⟨mode, s₁, hread, h₁⟩ := bind_ok_iff.1 h
  obtain ⟨rfl, rfl⟩ := Prod.mk.inj (read_ok_iff.1 hread)
  obtain ⟨owner, s₂, howner, h₂⟩ := bind_ok_iff.1 h₁
  obtain rfl := traceOwnerIdentity_readOnly raw _ _ _ howner
  obtain ⟨before, s₃, hbefore, h₃⟩ := bind_ok_iff.1 h₂
  obtain rfl := traceStateBefore_readOnly raw _ _ _ hbefore
  obtain ⟨action, s₄, haction, h₄⟩ := bind_ok_iff.1 h₃
  obtain ⟨rfl, hin⟩ := prepareAction_spec haction
  obtain ⟨hevent, rfl⟩ := Prod.mk.inj (pure_ok_iff.1 h₄)
  rw [← hevent]
  exact ⟨rfl, rfl, rfl, ⟨rfl, rfl, rfl, rfl⟩, hin⟩

theorem optionalKey_eq_some_iff {facts : LifecycleFacts} :
    facts.optionalKey = some key ↔
      facts.connectionId = some key.connectionId ∧ facts.chatId = some key.chatId := by
  unfold LifecycleFacts.optionalKey
  cases facts.connectionId <;> cases facts.chatId <;> cases key <;> simp

/-- **What preparing a well-formed update guarantees.** -/
theorem prepare_spec {updateId : Int} {event : PreparedEvent} (hraw : raw.WellFormed)
    (h : preparer.prepare updateId raw db = .ok (event, db')) :
    db' = db ∧ event.updateId = updateId ∧ event.PreparedIn db preparer.destructiveMode := by
  obtain ⟨rfl, hid, htype, ⟨hconnection, hchat, huser, hmessage⟩, hin⟩ := prepare_ok h
  have hnamed (hc : event.facts.action.createsConversation = true) :=
    (And.intro (hraw.connectionId (hin.creates hc)) (hraw.chatId (hin.creates hc)))
  have hfacts : event.facts.Genuine :=
    { noConnectionChange := hin.noConnectionChange
      named := fun hc => by
        obtain ⟨c, hc'⟩ := Option.isSome_iff_exists.1 (hnamed hc).1
        obtain ⟨chat, hchat'⟩ := Option.isSome_iff_exists.1 (hnamed hc).2
        exact ⟨by simp [LifecycleFacts.optionalKey, hconnection, hchat, hc', hchat'],
          by simp [huser, hchat']⟩
      message := fun hc hids => by
        rw [hmessage]
        exact hraw.messageId (hin.creates hc) (hin.message hc hids)
      score := hin.score }
  refine ⟨rfl, hid,
    { genuine := ⟨hfacts, ?_⟩
      fits := fun key hkey => ?_
      belongs := fun key hkey => ?_
      issued := hin.issued
      inert := hin.inert }⟩
  · rw [htype]
    split
    · next hkind => exact .inr ⟨rfl, hin.trigger hkind⟩
    · exact .inl rfl
  · obtain ⟨hc, hi⟩ := optionalKey_eq_some_iff.1 hkey
    exact hin.fits key (hconnection ▸ hc) (hchat ▸ hi)
  · obtain ⟨hc, hi⟩ := optionalKey_eq_some_iff.1 hkey
    exact hin.belongs key (hconnection ▸ hc) (hchat ▸ hi)

end EventPreparer

/-- Stripping an update reads only, and leaves it as the parser builds updates. -/
theorem makePreclaimBusinessEventInert_spec {raw raw' : RawBusinessEvent} {db db' : Database}
    (hraw : raw.WellFormed) (h : makePreclaimBusinessEventInert raw db = .ok (raw', db')) :
    db' = db ∧ raw'.WellFormed := by
  unfold makePreclaimBusinessEventInert at h
  split at h
  · obtain ⟨rfl, rfl⟩ := Prod.mk.inj (pure_ok_iff.1 h)
    exact ⟨rfl, hraw⟩
  · obtain ⟨state, s, hread, hstate⟩ := bind_ok_iff.1 h
    obtain ⟨rfl, rfl⟩ := Prod.mk.inj (read_ok_iff.1 hread)
    match hs : db.ownerIdentity with
    | .ready .unclaimed =>
      rw [hs] at hstate
      obtain ⟨rfl, rfl⟩ := Prod.mk.inj (pure_ok_iff.1 hstate)
      exact ⟨rfl, by constructor <;> simp [RawBusinessEvent.isBusinessMessage]⟩
    | .ready (.claimed ..) | .pending =>
      rw [hs] at hstate
      obtain ⟨rfl, rfl⟩ := Prod.mk.inj (pure_ok_iff.1 hstate)
      exact ⟨rfl, hraw⟩

/-- An update that arrives before the Owner is claimed is prepared all the same. -/
theorem prepareUpdate_spec {preparer : EventPreparer} {updateId : Int} {raw : RawBusinessEvent}
    {db db' : Database} {event : PreparedEvent} (hraw : raw.WellFormed)
    (h : prepareUpdate preparer updateId raw db = .ok (event, db')) :
    db' = db ∧ event.updateId = updateId ∧ event.PreparedIn db preparer.destructiveMode := by
  unfold prepareUpdate at h
  obtain ⟨raw', s, hinert, hprepare⟩ := bind_ok_iff.1 h
  obtain ⟨rfl, hraw'⟩ := makePreclaimBusinessEventInert_spec hraw hinert
  exact EventPreparer.prepare_spec hraw' hprepare

end ChatHygiene
