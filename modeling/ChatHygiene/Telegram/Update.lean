import ChatHygiene.Owner.Commands
import ChatHygiene.Processing.Service
import ChatHygiene.Telegram.Parser
/-!
# Updates

The parser of an update: what Telegram sends, decoded from its JSON, becomes
one event. An event of a conversation names its connection, chat and message, a
command is one of the Owner, and nothing else is taken over from the update.
-/

namespace ChatHygiene

/-! ## What Telegram sends -/

structure User where
  id : Int
  firstName : Option String
  lastName : Option String
  username : Option String

structure Chat where
  id : Int
  firstName : Option String
  lastName : Option String
  username : Option String

structure BusinessMessage where
  messageId : Int
  businessConnectionId : String
  sender : User
  chat : Chat
  date : Int
  editDate : Option Int
  text : Option Str
  caption : Option Str
  entities : List Entity
  captionEntities : List Entity
  mediaGroupId : Option String
  /-- The message has a `sender_business_bot`. -/
  senderBusinessBot : Bool
  isFromOffline : Bool

structure DeletedBusinessMessages where
  businessConnectionId : String
  chat : Chat
  messageIds : List Int

/-- The message a command replies to, as far as it is read. -/
structure RepliedMessage where
  text : Option String
  caption : Option String

/-- A message to the bot, with the message it replies to. -/
structure BotMessageUpdate extends BotMessage where
  replyToMessage : Option RepliedMessage

/-- An update, of which the first part that is there counts. -/
structure Envelope where
  updateId : Int
  /-- The id of a changed connection. -/
  businessConnection : Option String
  businessMessage : Option BusinessMessage
  editedBusinessMessage : Option BusinessMessage
  deletedBusinessMessages : Option DeletedBusinessMessages
  message : Option BotMessageUpdate
  channelPost : Option BotMessageUpdate

/-! ## What the parser makes of it -/

inductive ParseError where
  | invalidTimestamp (seconds : Int)
  | invalidConnectionId
  deriving DecidableEq, Repr

/-- A command as it was sent, before its text is read. -/
structure OwnerCommandText where
  fromUserId : Option Int
  privateChat : Bool
  text : String
  repliedSample : Option LabeledMessageBody
  deriving DecidableEq, Repr

structure ParsedUpdate where
  updateId : Int
  event : RawBusinessEvent
  /-- What the detector reads of a message. -/
  content : Option Detection.MessageContent
  ownerClaim : Option ParsedOwnerClaim
  ownerCommand : Option OwnerCommandText

/-- What the parser uses of other crates. -/
structure ParserPrimitives where
  decodeToSlice : List UInt8 → Nat → Option (List UInt8)
  /-- `Utc.timestamp_opt` has an instant for the seconds. -/
  timestampOpt : Int → Bool

variable (p : ParserPrimitives)

def parseTimestamp (seconds : Int) : Except ParseError DateTime :=
  if p.timestampOpt seconds then .ok (DateTime.seconds seconds)
  else .error (.invalidTimestamp seconds)

def ownerUserIdOrZero : OwnerIdentity → Int
  | .unclaimed => 0
  | .claimed ownerUserId _ _ _ _ => ownerUserId

def emptyEvent (kind : RawEventKind) (occurredAt : DateTime) : RawBusinessEvent where
  kind := kind
  connectionId := none
  chatId := none
  messageId := none
  mediaGroupId := none
  content := none
  deletedMessageIds := []
  connection := none
  contactDisplayName := none
  contactUsername := none
  occurredAt := occurredAt

/-- An event that is neither a message, nor a claim, nor a command. -/
def ParsedUpdate.plain (updateId : Int) (event : RawBusinessEvent) : ParsedUpdate where
  updateId := updateId
  event := event
  content := none
  ownerClaim := none
  ownerCommand := none

def connectionEvent (connectionId : String) (now : DateTime) :
    Except ParseError RawBusinessEvent :=
  if blank connectionId then .error .invalidConnectionId
  else
    .ok { emptyEvent .businessConnectionChanged now with connectionId := some connectionId }

def ignoredEvent (occurredAt : DateTime) : RawBusinessEvent := emptyEvent .ignored occurredAt

/-! ### Names -/

def displayName (firstName lastName : Option String) : Option String :=
  let name := [' '].intercalate
    ((firstName.toList ++ lastName.toList).flatMap fun name => Text.words name.toList)
  if name = [] then none else some (String.ofList name)

def normalizedUsername (username : Option String) : Option String :=
  username.bind fun username =>
    let username := (Text.trim username.toList).dropWhile (· = '@')
    if username = [] then none else some (String.ofList username)

def chatIdentity (chat : Chat) : Option String × Option String :=
  (displayName chat.firstName chat.lastName, normalizedUsername chat.username)

/-- The names of the chat, or else those of a contact who wrote in it. -/
def messageContactIdentity (message : BusinessMessage) (kind : RawEventKind) :
    Option String × Option String :=
  let (chatDisplayName, chatUsername) := chatIdentity message.chat
  match kind with
  | .inboundMessage | .editedInboundMessage =>
    (chatDisplayName.or (displayName message.sender.firstName message.sender.lastName),
      chatUsername.or (normalizedUsername message.sender.username))
  | _ => (chatDisplayName, chatUsername)

/-! ### Messages -/

def classifyMessage (message : BusinessMessage) (ownerUserId : Int) (edited : Bool) :
    RawEventKind :=
  if message.senderBusinessBot then .botBusinessMessage
  else if message.isFromOffline then .implicitOwnerMessage
  else if message.sender.id = ownerUserId then .manualOwnerMessage
  else if edited then .editedInboundMessage
  else .inboundMessage

def messageContent (message : BusinessMessage) : Detection.MessageContent where
  text := message.text.map (·.value)
  caption := message.caption.map (·.value)
  entities := extractEntities message.text message.entities ++
    extractEntities message.caption message.captionEntities

def messageEvent (updateId : Int) (message : BusinessMessage) (ownerUserId : Int)
    (edited : Bool) : Except ParseError ParsedUpdate := do
  let kind := classifyMessage message ownerUserId edited
  let occurredAt ← parseTimestamp p (message.editDate.getD message.date)
  let identity := messageContactIdentity message kind
  pure
    { updateId := updateId
      event :=
        { kind := kind
          connectionId := some message.businessConnectionId
          chatId := some message.chat.id
          messageId := some message.messageId
          mediaGroupId := message.mediaGroupId
          content := some ⟨message.text.map (·.value)⟩
          deletedMessageIds := []
          connection := none
          contactDisplayName := identity.1
          contactUsername := identity.2
          occurredAt := occurredAt }
      content := some (messageContent message)
      ownerClaim := none
      ownerCommand := none }

def deletionEvent (deleted : DeletedBusinessMessages) (now : DateTime) : RawBusinessEvent :=
  { emptyEvent .messagesDeleted now with
    connectionId := some deleted.businessConnectionId
    chatId := some deleted.chat.id
    deletedMessageIds := deleted.messageIds
    contactDisplayName := (chatIdentity deleted.chat).1
    contactUsername := (chatIdentity deleted.chat).2 }

/-! ### Messages to the bot -/

def ownerReplySnapshot (message : RepliedMessage) : Option LabeledMessageBody :=
  match message.text with
  | some text => some ⟨text, "text"⟩
  | none => message.caption.map fun caption => ⟨caption, "caption"⟩

/-- An event of a message to the bot. -/
def botEvent (kind : RawEventKind) (message : BotMessageUpdate) (occurredAt : DateTime) :
    RawBusinessEvent :=
  { emptyEvent kind occurredAt with
    chatId := some message.chatId
    messageId := some message.messageId }

/-- `bot_message_event`: a claim has the instant it arrives at where its date is none. -/
def botMessageEvent (updateId : Int) (message : BotMessageUpdate) (ordinaryMessage : Bool)
    (owner : OwnerIdentity) (now : DateTime) : Except ParseError ParsedUpdate := do
  let commandText := message.text.getD ""
  match parseOwnerClaim p.decodeToSlice (message.toBotMessage.claimContext ordinaryMessage) with
  | .notClaim =>
    let occurredAt ← parseTimestamp p message.date
    let repliedSample := message.replyToMessage.bind ownerReplySnapshot
    match privateStartCommand commandText.toList with
    | .exact =>
      if ordinaryMessage && message.chatKind = "private" && 0 < message.chatId &&
          message.fromUserId.any (0 < ·) then
        pure { ParsedUpdate.plain updateId (botEvent .ownerStart message occurredAt) with
          ownerCommand := some ⟨message.fromUserId, true, "/start", none⟩ }
      else pure (.plain updateId (ignoredEvent occurredAt))
    | .malformed => pure (.plain updateId (ignoredEvent occurredAt))
    | .notStart =>
      if "/".toList.isPrefixOf (commandText.toList.dropWhile Text.isWhitespace) &&
          ownerCommandSourceIsAuthorized message.toBotMessage ordinaryMessage owner then
        pure { ParsedUpdate.plain updateId (botEvent .ownerCommand message occurredAt) with
          ownerCommand := some
            ⟨message.fromUserId, message.chatKind = "private", commandText, repliedSample⟩ }
      else pure (.plain updateId (ignoredEvent occurredAt))
  | claim =>
    let occurredAt :=
      match parseTimestamp p message.date with
      | .ok occurredAt => occurredAt
      | .error _ => now
    pure { ParsedUpdate.plain updateId (botEvent .ownerClaim message occurredAt) with
      ownerClaim := some claim }

/-- `parse_update`, of an update that is decoded at an instant. -/
def parseUpdate (update : Envelope) (owner : OwnerIdentity) (now : DateTime) :
    Except ParseError ParsedUpdate :=
  match update.businessConnection, update.businessMessage, update.editedBusinessMessage,
    update.deletedBusinessMessages, update.message, update.channelPost with
  | some connectionId, _, _, _, _, _ =>
    (connectionEvent connectionId now).map (.plain update.updateId)
  | none, some message, _, _, _, _ =>
    messageEvent p update.updateId message (ownerUserIdOrZero owner) false
  | none, none, some message, _, _, _ =>
    messageEvent p update.updateId message (ownerUserIdOrZero owner) true
  | none, none, none, some deleted, _, _ => .ok (.plain update.updateId (deletionEvent deleted now))
  | none, none, none, none, some message, _ =>
    botMessageEvent p update.updateId message true owner now
  | none, none, none, none, none, some message =>
    botMessageEvent p update.updateId message false owner now
  | none, none, none, none, none, none => .ok (.plain update.updateId (ignoredEvent now))

/-! ## Accepted updates -/

/-- A claim is ignored, or is of a private chat with the sender. -/
def ParsedOwnerClaim.Genuine : ParsedOwnerClaim → Prop
  | .notClaim => False
  | .ignore => True
  | .reject replyChatId => 0 < replyChatId
  | .candidate fromUserId ownerChatId messageId messageDate _ =>
    0 < fromUserId ∧ 0 < ownerChatId ∧ 0 < messageId ∧ 0 < messageDate

/-- What the parser guarantees of an update it accepts: an event of a conversation says where it
belongs, a claim is one, a start is of a private chat, and a command of the Owner it was parsed
for. -/
structure ParsedUpdate.Genuine (u : ParsedUpdate) (owner : OwnerIdentity) : Prop where
  wellFormed : u.event.WellFormed
  trigger : u.event.kind = .businessConnectionChanged →
    ∃ connectionId, u.event.connectionId = some connectionId ∧ blank connectionId = false
  claim : u.event.kind = .ownerClaim → ∃ claim, u.ownerClaim = some claim ∧ claim.Genuine
  start : u.event.kind = .ownerStart → ∃ userId chatId, u.event.chatId = some chatId ∧
    0 < userId ∧ 0 < chatId ∧ u.ownerCommand = some ⟨some userId, true, "/start", none⟩
  command : u.event.kind = .ownerCommand → ∃ userId chatId text sample,
    u.event.chatId = some chatId ∧ 0 < chatId ∧ isOwnerStart userId chatId owner = true ∧
      u.ownerCommand = some ⟨some userId, true, text, sample⟩

variable {p} {owner : OwnerIdentity} {now : DateTime} {updateId : Int}
  {parsed : ParsedUpdate}

/-- The kind of a message is one of the five of messages. -/
theorem classifyMessage_mem (message : BusinessMessage) (ownerUserId : Int) (edited : Bool) :
    classifyMessage message ownerUserId edited ∈ [RawEventKind.botBusinessMessage,
      .implicitOwnerMessage, .manualOwnerMessage, .editedInboundMessage, .inboundMessage] := by
  unfold classifyMessage
  split_ifs <;> simp

/-- **A message becomes an event of its conversation.** -/
theorem messageEvent_genuine {message : BusinessMessage} {ownerUserId : Int} {edited : Bool}
    (h : messageEvent p updateId message ownerUserId edited = .ok parsed) :
    parsed.Genuine owner := by
  have hmem := classifyMessage_mem message ownerUserId edited
  unfold messageEvent at h
  cases htime : parseTimestamp p (message.editDate.getD message.date) with
  | error e =>
    rw [htime] at h
    cases h
  | ok occurredAt =>
    rw [htime] at h
    obtain rfl := Except.ok.inj h
    have hno (kind : RawEventKind) (hkind : kind ∉ [RawEventKind.botBusinessMessage,
        .implicitOwnerMessage, .manualOwnerMessage, .editedInboundMessage, .inboundMessage]) :
        classifyMessage message ownerUserId edited ≠ kind := fun heq => hkind (heq ▸ hmem)
    exact
      { wellFormed := ⟨fun _ => rfl, fun _ => rfl, fun _ _ => rfl, fun _ => rfl, rfl⟩
        trigger := fun hkind => absurd hkind (hno _ (by simp))
        claim := fun hkind => absurd hkind (hno _ (by simp))
        start := fun hkind => absurd hkind (hno _ (by simp))
        command := fun hkind => absurd hkind (hno _ (by simp)) }

theorem ignoredEvent_genuine (occurredAt : DateTime) :
    (ParsedUpdate.plain updateId (ignoredEvent occurredAt)).Genuine owner where
  wellFormed := ⟨nofun, nofun, nofun, nofun, rfl⟩
  trigger := nofun
  claim := nofun
  start := nofun
  command := nofun

theorem connectionEvent_genuine {connectionId : String} {event : RawBusinessEvent}
    (h : connectionEvent connectionId now = .ok event) :
    (ParsedUpdate.plain updateId event).Genuine owner := by
  unfold connectionEvent at h
  split_ifs at h with hblank
  obtain rfl := Except.ok.inj h
  exact
    { wellFormed := ⟨nofun, nofun, nofun, fun _ => rfl, rfl⟩
      trigger := fun _ => ⟨connectionId, rfl, Bool.not_eq_true _ ▸ hblank⟩
      claim := nofun
      start := nofun
      command := nofun }

theorem deletionEvent_genuine (deleted : DeletedBusinessMessages) :
    (ParsedUpdate.plain updateId (deletionEvent deleted now)).Genuine owner where
  wellFormed := ⟨fun _ => rfl, fun _ => rfl, fun _ hne => absurd rfl hne, nofun, rfl⟩
  trigger := nofun
  claim := nofun
  start := nofun
  command := nofun

theorem botEvent_wellFormed {kind : RawEventKind} (message : BotMessageUpdate)
    (hkind : kind = .ownerClaim ∨ kind = .ownerStart ∨ kind = .ownerCommand) :
    (botEvent kind message now).WellFormed := by
  rcases hkind with rfl | rfl | rfl <;> exact ⟨nofun, nofun, nofun, nofun, rfl⟩

theorem parseOwnerClaim_genuine (decodeToSlice : List UInt8 → Nat → Option (List UInt8))
    (context : OwnerClaimContext) : parseOwnerClaim decodeToSlice context = .notClaim ∨
      (parseOwnerClaim decodeToSlice context).Genuine := by
  unfold parseOwnerClaim
  split
  · exact .inl rfl
  · split
    · exact .inl rfl
    right
    split
    · trivial
    · next fromUserId hfrom =>
      have hpos : 0 < fromUserId := of_decide_eq_true (Option.filter_eq_some_iff.1 hfrom).2
      split
      · trivial
      · next hsource =>
        simp only [Bool.or_eq_true, decide_eq_true_eq, not_or, not_le] at hsource
        obtain ⟨⟨⟨-, hchat⟩, hmessage⟩, hdate⟩ := hsource
        split
        · exact hchat
        · exact ⟨hpos, hchat, hmessage, hdate⟩

/-- A source that is authorised is the Owner's. -/
theorem isOwnerStart_of_authorized {message : BotMessage} {ordinaryMessage : Bool}
    (h : ownerCommandSourceIsAuthorized message ordinaryMessage owner = true) :
    message.chatKind = "private" ∧ 0 < message.chatId ∧
      ∃ userId, message.fromUserId = some userId ∧
        isOwnerStart userId message.chatId owner = true := by
  cases owner with
  | unclaimed => cases h
  | claimed ownerUserId ownerChatId source floor boundAt =>
    simp only [ownerCommandSourceIsAuthorized, Bool.and_eq_true, decide_eq_true_eq] at h
    obtain ⟨⟨⟨-, hkind⟩, hchat⟩, hfrom⟩ := h
    obtain ⟨userId, huser, hsame⟩ := (Option.any_eq_true _ _).1 hfrom
    rw [Bool.and_eq_true, decide_eq_true_eq] at hsame
    obtain ⟨rfl, hplace⟩ := hsame
    refine ⟨hkind, hchat, userId, huser, ?_⟩
    rw [Bool.or_eq_true, decide_eq_true_eq, decide_eq_true_eq] at hplace
    unfold isOwnerStart
    rw [Bool.and_eq_true, Bool.or_eq_true, decide_eq_true_eq, decide_eq_true_eq, decide_eq_true_eq]
    exact ⟨rfl, hplace.imp id Eq.symm⟩

/-- **A message to the bot becomes a claim, a start, a command of the Owner, or nothing.** -/
theorem botMessageEvent_genuine {message : BotMessageUpdate} {ordinaryMessage : Bool}
    (h : botMessageEvent p updateId message ordinaryMessage owner now = .ok parsed) :
    parsed.Genuine owner := by
  have hclaim := parseOwnerClaim_genuine p.decodeToSlice
    (message.toBotMessage.claimContext ordinaryMessage)
  unfold botMessageEvent at h
  dsimp only at h
  split at h
  · next hnot =>
    cases htime : parseTimestamp p message.date with
    | error e =>
      rw [htime] at h
      cases h
    | ok occurredAt =>
      rw [htime] at h
      have hignored (hok : ParsedUpdate.plain updateId (ignoredEvent occurredAt) = parsed) :
          parsed.Genuine owner := hok ▸ ignoredEvent_genuine occurredAt
      simp only [bind, Except.bind] at h
      split at h
      · split at h
        · next hsource =>
          obtain rfl := Except.ok.inj h
          simp only [Bool.and_eq_true, decide_eq_true_eq] at hsource
          obtain ⟨⟨-, hchat⟩, hfrom⟩ := hsource
          obtain ⟨userId, huser, hpos⟩ := (Option.any_eq_true _ _).1 hfrom
          refine
            { wellFormed := botEvent_wellFormed message (.inr (.inl rfl))
              trigger := nofun
              claim := nofun
              start := fun _ => ⟨userId, message.chatId, rfl, of_decide_eq_true hpos, hchat, ?_⟩
              command := nofun }
          rw [huser]
        · exact hignored (Except.ok.inj h)
      · exact hignored (Except.ok.inj h)
      · split at h
        · next hsource =>
          obtain rfl := Except.ok.inj h
          rw [Bool.and_eq_true] at hsource
          obtain ⟨hkind, hchat, userId, huser, howner⟩ := isOwnerStart_of_authorized hsource.2
          refine
            { wellFormed := botEvent_wellFormed message (.inr (.inr rfl))
              trigger := nofun
              claim := nofun
              start := nofun
              command := fun _ => ⟨userId, message.chatId, message.text.getD "",
                message.replyToMessage.bind ownerReplySnapshot, rfl, hchat, howner, ?_⟩ }
          dsimp only
          rw [huser, decide_eq_true hkind]
        · exact hignored (Except.ok.inj h)
  · next hnot =>
    rcases hclaim with hno | hgenuine
    · exact absurd hno hnot
    · obtain rfl := Except.ok.inj h
      exact
        { wellFormed := botEvent_wellFormed message (.inl rfl)
          trigger := nofun
          claim := fun _ => ⟨_, rfl, hgenuine⟩
          start := nofun
          command := nofun }

/-- **Whatever the parser accepts is genuine.** -/
theorem parseUpdate_genuine {update : Envelope} (h : parseUpdate p update owner now = .ok parsed) :
    parsed.Genuine owner := by
  unfold parseUpdate at h
  split at h
  · obtain ⟨event, hevent, rfl⟩ := map_eq_ok_iff.1 h
    exact connectionEvent_genuine hevent
  · exact messageEvent_genuine h
  · exact messageEvent_genuine h
  · obtain rfl := Except.ok.inj h
    exact deletionEvent_genuine _
  · exact botMessageEvent_genuine h
  · exact botMessageEvent_genuine h
  · obtain rfl := Except.ok.inj h
    exact ignoredEvent_genuine now

end ChatHygiene
