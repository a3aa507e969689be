import ChatHygiene.Processing.Handler
/-!
# Owner commands

A command is authorised against the Owner row and executed in the same
transaction. An error that the Owner is told of leaves what the transaction
wrote; a storage error abandons it.
-/

namespace ChatHygiene

open Txn (read)

inductive OwnerCommand where
  | help
  | health
  | inspect (chatId : Int)
  | reset (chatId : Int)
  | unblock (chatId : Int)
  | dryRun (enabled : Bool)
  | errors (limit : Nat)
  | markSpam
  | markHam
  deriving DecidableEq, Repr

inductive OwnerCommandParseError where
  | missingPrefix
  | unknown
  | invalidArguments
  | invalidSuffix
  deriving DecidableEq, Repr

def OwnerCommandParseError.message : OwnerCommandParseError → String
  | .missingPrefix => "command must start with /"
  | .unknown => "unknown owner command"
  | .invalidArguments => "invalid command arguments"
  | .invalidSuffix => "invalid bot username suffix"

structure LabeledMessageBody where
  body : String
  contentType : String
  deriving DecidableEq, Repr

structure OwnerCommandSource where
  fromUserId : Int
  chatId : Int
  privateChat : Bool
  repliedSample : Option LabeledMessageBody
  deriving DecidableEq, Repr

structure AuthorizedOwner where
  identity : OwnerIdentity
  ownerUserId : Int
  ownerChatId : Int
  connection : Option BusinessConnectionRecord
  deriving DecidableEq, Repr

inductive OwnerTelegramAction where
  | deleteBusinessMessages (key : ConversationKey) (messageIds : List Int)
  deriving DecidableEq, Repr

structure OwnerCommandExecution where
  response : OwnerText
  telegramActions : List OwnerTelegramAction
  deriving DecidableEq, Repr

def OwnerCommandExecution.plain (response : OwnerText) : OwnerCommandExecution where
  response := response
  telegramActions := []

/-- The errors an Owner is told of. -/
inductive OwnerCommandError where
  | missingSample
  | invalidSample
  | businessRightsUnavailable
  | targetNotFound
  | targetNotBlocked
  deriving DecidableEq, Repr

def OwnerCommandError.message : OwnerCommandError → String
  | .missingSample => "a replied text or caption sample is required"
  | .invalidSample => "sample body or content type is invalid"
  | .businessRightsUnavailable => "Business connection or required rights are unavailable"
  | .targetNotFound => "target conversation was not found"
  | .targetNotBlocked => "target conversation is not soft blocked"

/-- `HELP_MESSAGE`. -/
def helpMessage : String :=
  "owner commands:\n" ++
  "/help - list owner commands\n" ++
  "/health - show connection and dry-run status\n" ++
  "/inspect <chat_id> - show conversation state\n" ++
  "/reset <chat_id> - delete known messages and reset the conversation\n" ++
  "/unblock <chat_id> - clear a local soft block\n" ++
  "/dry_run on|off - set dry-run mode\n" ++
  "/errors [1..20] - show recent errors\n" ++
  "/mark_spam - label the replied message as spam\n" ++
  "/mark_ham - label the replied message as ham"

/-! ## Authorisation -/

def insertSecurityAudit (now : DateTime) : Uow Unit := do
  let _ ← insertAuditEvent
    (.bare none "SECURITY" (some "OWNER_COMMAND_UNAUTHORIZED")
      (some "owner command source rejected") now)

/-- The source of a command is the claimed Owner in their private chat. -/
def OwnerCommandSource.accepted (source : OwnerCommandSource) (ownerUserId ownerChatId : Int)
    (ownerChatSource : OwnerChatSource) : Bool :=
  source.privateChat && source.fromUserId = ownerUserId && 0 < source.chatId &&
    (ownerChatSource = .legacyFallback || source.chatId = ownerChatId)

/-- Authorises a source; `none` is an unauthorised one, which is audited. -/
def authorize (source : OwnerCommandSource) (now : DateTime) : Uow (Option AuthorizedOwner) := do
  match ← loadOwnerIdentity with
  | .unclaimed =>
    insertSecurityAudit now
    pure none
  | .claimed ownerUserId ownerChatId ownerChatSource floor boundAt =>
    if !source.accepted ownerUserId ownerChatId ownerChatSource then
      insertSecurityAudit now
      pure none
    else
      let identity ←
        if ownerChatSource = .legacyFallback then
          promoteOwnerChat ownerUserId source.chatId .privateMessage
        else pure (.claimed ownerUserId ownerChatId ownerChatSource floor boundAt)
      let connection ← findSingleBusinessConnection
      if connection.any (·.ownerUserId ≠ ownerUserId) then
        throw (.invalidEvent
          "owner command storage failed: Business connection belongs to another Owner")
      match identity with
      | .unclaimed => throw (.invalidEvent "authorized identity remains claimed")
      | .claimed _ ownerChatId _ _ _ =>
        pure (some ⟨identity, ownerUserId, ownerChatId, connection⟩)

/-! ## Commands -/

/-- The result of a command: an execution, or an error for the Owner. -/
abbrev CommandResult := Except OwnerCommandError OwnerCommandExecution

def CommandResult.text (text : String) : CommandResult := .ok (.plain (.plain text))

def insertRecoveryAudit (key : ConversationKey) (action : String) (now : DateTime) : Uow Unit := do
  let _ ← insertAuditEvent
    { NewAuditEvent.bare none "OWNER_RECOVERY" none (some action) now with key := some key }

def health (now : DateTime) (defaultDestructiveMode : Bool) : Uow CommandResult := do
  match ← readinessIn now with
  | none => pure (.text "status=unavailable")
  | some snapshot =>
    let destructiveMode ← runtimeDestructiveMode defaultDestructiveMode
    let dryRun := if destructiveMode then "off" else "on"
    pure (.text
      s!"status=ok owner=claimed connection={snapshot.connection.asStr} dry_run={dryRun}")

def inspect (connection : BusinessConnectionRecord) (chatId : Int) : Uow CommandResult := do
  match ← findConversation ⟨connection.connectionId, chatId⟩ with
  | none => pure (.error .targetNotFound)
  | some conversation =>
    let reason := conversation.blockReason.getD "none"
    pure (.text s!"chat_id={chatId} state={conversation.state.asStr} block_reason={reason} block_count={conversation.blockCount}")

/-- Deletes what is known of a conversation and returns it to `NEW`; the messages themselves are
deleted by the actions it returns. -/
def resetConversation (connection : BusinessConnectionRecord) (chatId : Int) (now : DateTime) :
    Uow CommandResult := do
  let key : ConversationKey := ⟨connection.connectionId, chatId⟩
  match ← findConversation key with
  | none => pure (.error .targetNotFound)
  | some _ =>
    let messageIds ← eligibleDeletionIds key
    let promptMessageIds ← read fun db =>
      (db.challenge.rows.filter (·.key = key)).filterMap (·.promptMessageId)
    let messageIds := ((messageIds ++ promptMessageIds).insertionSort (· ≤ ·)).dedup
    let _ ← Uow.deleteOutbox fun a => a.key = some key && a.status.unfinished
    let _ ← Uow.deleteChallenge fun c => c.key = key
    let _ ← Uow.deleteLedger fun m => m.key = key
    let _ ← Uow.updateConversation (fun c => c.key = key)
      (fun c => { c with
        state := .new
        blockExpiresAt := none
        blockReason := none
        blockCount := 0
        updatedAt := now
        stateVersion := c.stateVersion + 1 })
      fun _ => rfl
    insertRecoveryAudit key "reset" now
    let queued := if messageIds = [] then "none" else "queued"
    pure (.ok
      { response := .plain
          s!"reset chat_id={chatId} telegram_delete={queued} message_count={messageIds.length}"
        telegramActions :=
          if messageIds = [] then [] else [.deleteBusinessMessages key messageIds] })

def unblockConversation (connection : BusinessConnectionRecord) (chatId : Int)
    (now : DateTime) : Uow CommandResult := do
  let key : ConversationKey := ⟨connection.connectionId, chatId⟩
  let changed ← Uow.updateConversation (fun c => c.key = key && c.state.blocked)
    (fun c => { c with
      state := .new
      blockExpiresAt := none
      blockReason := none
      updatedAt := now
      stateVersion := c.stateVersion + 1 })
    fun _ => rfl
  if changed = 0 then
    match ← findConversation key with
    | none => pure (.error .targetNotFound)
    | some _ => pure (.error .targetNotBlocked)
  else
    let _ ← closeChallenges (fun c => c.key = key) now
    insertRecoveryAudit key "unblock" now
    pure (.text s!"unblocked chat_id={chatId}")

/-- Dry-run is turned off only for an enabled connection with every right. -/
def setDryRun (connection : Option BusinessConnectionRecord) (enabled : Bool) :
    Uow CommandResult := do
  if !enabled && !connection.any fun c => c.enabled && c.rights.complete then
    pure (.error .businessRightsUnavailable)
  else
    Uow.setDestructiveMode !enabled
    let dryRun := if enabled then "on" else "off"
    pure (.text s!"dry_run={dryRun}")

/-- The latest errors first. -/
def recentErrors (limit : Nat) : Uow CommandResult := do
  let rows ← read fun db =>
    ((db.auditEvent.rows.filter (·.errorCode.isSome)).insertionSort fun a b =>
      b.occurredAt < a.occurredAt ∨ (b.occurredAt = a.occurredAt ∧ b.id ≤ a.id)).take limit
  if rows = [] then pure (.text "no errors")
  else
    pure (.ok (.plain (.errors (rows.map fun row =>
      (row.occurredAt, row.errorCode.getD "unknown", row.errorMessage.getD "")))))

/-- Checks a labelled sample. The sample tables are read by nothing else and are left out. -/
def labelSample (reply : String) (sample : Option LabeledMessageBody) : Uow CommandResult :=
  match sample with
  | none => pure (.error .missingSample)
  | some sample =>
    if blank sample.body || !(sample.contentType = "text" || sample.contentType = "caption") then
      pure (.error .invalidSample)
    else pure (.text reply)

/-- A command on the connection the Owner has, if they have one. -/
def withConnection (owner : AuthorizedOwner)
    (command : BusinessConnectionRecord → Uow CommandResult) : Uow CommandResult :=
  match owner.connection with
  | none => pure (.error .businessRightsUnavailable)
  | some connection => command connection

def executeAuthorized (command : OwnerCommand) (source : OwnerCommandSource)
    (owner : AuthorizedOwner) (now : DateTime) (defaultDestructiveMode : Bool) :
    Uow CommandResult :=
  match command with
  | .help => pure (.text helpMessage)
  | .health => health now defaultDestructiveMode
  | .inspect chatId => withConnection owner fun c => inspect c chatId
  | .reset chatId => withConnection owner fun c => resetConversation c chatId now
  | .unblock chatId => withConnection owner fun c => unblockConversation c chatId now
  | .dryRun enabled => setDryRun owner.connection enabled
  | .errors limit => recentErrors limit
  | .markSpam => labelSample "sample=spam stored" source.repliedSample
  | .markHam => labelSample "sample=ham stored" source.repliedSample

end ChatHygiene
