import ChatHygiene.Health
import ChatHygiene.Telegram.Models
/-!
# The outbox dispatcher

One dispatch claims the oldest due action, checks what the action needs,
makes at most one request and finishes the action. The claim, each check and
the finish are transactions of their own, so other work can commit between
them. Every outcome of the request is turned into a `Finish`, and the finish
is one transaction.
-/

namespace ChatHygiene

open Txn (read)

/-! ## The claim -/

/-- The action is due. -/
def OutboxActionRow.due (now : DateTime) (a : OutboxActionRow) : Bool :=
  a.status.unfinished && a.nextAttemptAt.all (· ≤ now)

/-- Messages to the Owner or to a private chat leave even while Business effects do not. -/
def OutboxActionRow.unconditional (a : OutboxActionRow) : Bool :=
  a.key.isNone && (a.kind = .sendPrivateMessage || a.kind = .sendOwnerMessage)

theorem OutboxActionRow.claim_change (increment : Nat) (now : DateTime) :
    Tables.OutboxChange fun a =>
      { a with attempts := a.attempts + increment, claimedAt := some now, updatedAt := now } :=
  ⟨fun _ => rfl, fun _ => rfl, fun _ => rfl, fun _ => rfl, fun _ => rfl⟩

/-- Claims the oldest due action for the single outbox worker. -/
def claimDueOutboxAction (now : DateTime) : Uow (Option OutboxActionRecord) := do
  let businessEffectsReady := (← readinessIn now).isSome
  let row ← read fun db => db.outboxAction.rows.find? fun a =>
    a.due now && (businessEffectsReady || a.unconditional)
  match row with
  | none => pure none
  | some row =>
    let interrupted := row.claimedAt.isSome
    let increment := if interrupted then 0 else 1
    let affected ← Uow.updateOutbox
      (fun a => a.id = row.id && a.status = row.status && a.attempts = row.attempts)
      (fun a =>
        { a with attempts := a.attempts + increment, claimedAt := some now, updatedAt := now })
      (OutboxActionRow.claim_change increment now)
    if affected ≠ 1 then throw .concurrentModification
    pure (some { row.toRecord with
      attempts := row.attempts + increment
      interrupted := interrupted
      updatedAt := now })

/-! ## Failures of a request -/

def isIdempotent : OutboxActionKind → Bool
  | .editChallenge | .readBusinessMessage | .deleteBusinessMessages
  | .proposedDestructiveAction => true
  | .sendChallenge | .sendOwnerMessage | .sendPrivateMessage => false

/-- `RETRY_SECONDS`. -/
def retrySeconds : List Nat := [1, 2, 4, 8, 16, 30]

def TelegramError.retryable : TelegramError → Bool
  | .timeout | .transport | .protocol _ => true
  | .api code _ _ => code = 429 || (500 ≤ code && code ≤ 599)
  | .invalidRequest _ => false

/-- The wait before the next attempt, in seconds. -/
def retryDelay (error : TelegramError) (attempts : Nat) : Option Nat :=
  if retrySeconds.length < attempts then none
  else
    match error with
    | .api 429 _ (some seconds) => some (min seconds 60)
    | error => if attempts = 0 ∨ !error.retryable then none else retrySeconds[attempts - 1]?

/-- Whether the needle occurs in the list. -/
def occursIn (needle : List Char) : List Char → Bool
  | [] => needle.isEmpty
  | c :: cs => needle.isPrefixOf (c :: cs) || occursIn needle cs

/-- `description.to_ascii_lowercase().contains(needle)`. -/
def describes (description needle : String) : Bool :=
  occursIn needle.toList (description.toList.map Char.toLower)

def alreadyApplied (kind : OutboxActionKind) : TelegramError → Bool
  | .api 400 description _ =>
    match kind with
    | .editChallenge => describes description "message is not modified"
    | .deleteBusinessMessages => describes description "message to delete not found"
    | _ => false
  | _ => false

def invalidConnectionOrRight : TelegramError → Bool
  | .api _ description _ =>
    ["business connection not found", "business connection is not enabled", "not enough rights",
      "has no rights"].any (describes description)
  | _ => false

def TelegramError.errorCode : TelegramError → String
  | .timeout => "timeout"
  | .transport => "transport"
  | .api code _ _ =>
    if code = 429 then "api_429" else if 500 ≤ code ∧ code ≤ 599 then "api_5xx" else "api_rejected"
  | .protocol _ => "protocol"
  | .invalidRequest _ => "invalid_request"

/-! ## Texts -/

def challengePrompt (challenge : ChallengeRecord) : String :=
  s!"请在 2 分钟内完成验证：\n{challenge.expression} = ?\n最多可尝试 3 次。"

def challengeStatusText (challenge : ChallengeRecord) (status : ChallengeStatus)
    (attemptsRemaining : Option Nat) : String :=
  match status with
  | .success => "验证通过，消息已放行。"
  | .incorrect =>
    s!"答案不正确，还可尝试 {attemptsRemaining.getD 0} 次。\n\n请重新回答：\n{challenge.expression} = ?"
  | .exhaustedDryRun => "验证失败。\nDry-run：正式模式下将软屏蔽 24 小时，本次未执行屏蔽。"
  | .exhausted => "验证失败，请 24 小时后再试。"
  | .expired => "验证已过期，请重新发送消息开始验证。"

def ownerAlertText (payload : OwnerAlertPayload) : OwnerText :=
  match payload.message with
  | some message => message
  | none => .plain <|
    match payload.alert with
    | some .challengeSendUncertain =>
      let challenge := (payload.challengeId.map toString).getD "unknown"
      s!"ChatHygiene 无法确认验证提示是否已发送（challenge {challenge}）。"
    | some .businessRightsUnavailable =>
      "ChatHygiene 已暂停破坏性动作：Business 连接或权限不可用。"
    | some .detectorFailed => "ChatHygiene 检测器失败，本次消息已保留。"
    | none => "ChatHygiene 需要人工检查运行状态。"

def privateMessageText : PrivateMessageKind → String
  | .ownerSetupGuide =>
    "Owner setup is incomplete. Copy the /claim command from the claim-code file beside the ChatHygiene database. If the file is missing, restart ChatHygiene."
  | .ownerClaimRejected => "claim failed"

/-! ## How a dispatch ends -/

inductive Finish where
  | success (challengeSent : Option (Nat × Int))
  | uncertain (challengeId : Nat) (errorCode : String)
  | actionUncertain (errorCode : String)
  | permanent (errorCode : String) (disableConnection : Bool)
  | retry (nextAttemptAt : DateTime) (errorCode : String)
  deriving DecidableEq, Repr

/-- The right check failed. -/
def Finish.rightsUnavailable : Finish := .permanent "business_rights_unavailable" true

/-- The action cannot be carried out as it is. -/
def Finish.invalid (errorCode : String) : Finish := .permanent errorCode false

/-- An action whose outcome at Telegram is unknown and that must not be repeated. -/
def uncertainFinish (action : OutboxActionRecord) (errorCode : String) : Finish :=
  match action.payload with
  | .sendChallenge challengeId _ _ _ => .uncertain challengeId errorCode
  | _ => .actionUncertain errorCode

/-- `handle_telegram_failure`. -/
def handleTelegramFailure (action : OutboxActionRecord) (error : TelegramError)
    (now : DateTime) : Finish :=
  if alreadyApplied action.kind error then .success none
  else if invalidConnectionOrRight error then .permanent error.errorCode true
  else if error = .timeout ∧ !isIdempotent action.kind then uncertainFinish action error.errorCode
  else
    match retryDelay error action.attempts with
    | some delay => .retry (now + DateTime.seconds delay) error.errorCode
    | none => .permanent error.errorCode false

def enqueueOwnerAlert (action : OutboxActionRecord) (alert : OwnerAlert)
    (challengeId : Option Nat) (now : DateTime) : Uow Unit :=
  match action.key with
  | none => pure ()
  | some key => do
    let _ ← enqueueOutboxAction
      { sourceUpdateId := action.sourceUpdateId
        key := some key
        payload := .sendOwnerMessage ⟨some alert, none, challengeId, none, none⟩
        idempotencyKey := s!"outbox:{action.id}:{alert.asStr}"
        createdAt := now }

/-- `force_dry_run`. -/
def forceDryRun : Uow Unit := Uow.setDestructiveMode false

def finishSuccess (action : OutboxActionRecord) (challengeSent : Option (Nat × Int))
    (now : DateTime) : Uow Unit := do
  markOutboxSucceeded action.id now
  match challengeSent with
  | some (challengeId, messageId) => markChallengeSent challengeId messageId
  | none => pure ()

def finishUncertain (action : OutboxActionRecord) (challengeId : Nat) (errorCode : String)
    (now : DateTime) : Uow Unit := do
  markOutboxUncertain action.id errorCode now
  markChallengeUncertain challengeId
  enqueueOwnerAlert action .challengeSendUncertain (some challengeId) now

def finishActionUncertain (action : OutboxActionRecord) (errorCode : String) (now : DateTime) :
    Uow Unit :=
  markOutboxUncertain action.id errorCode now

/-- Disables the connection of an action that names one. -/
def disableConnectionOf (action : OutboxActionRecord) (now : DateTime) : Uow Unit :=
  match action.key with
  | some key => disableBusinessConnection key.connectionId now
  | none => pure ()

def finishPermanent (action : OutboxActionRecord) (errorCode : String)
    (disableConnection : Bool) (now : DateTime) : Uow Unit := do
  markOutboxPermanentFailure action.id errorCode now
  if disableConnection then
    disableConnectionOf action now
    forceDryRun
    enqueueOwnerAlert action .businessRightsUnavailable none now

/-- The transaction that ends a dispatch. -/
def finishDispatch (action : OutboxActionRecord) (now : DateTime) : Finish → Uow Unit
  | .success challengeSent => finishSuccess action challengeSent now
  | .uncertain challengeId errorCode => finishUncertain action challengeId errorCode now
  | .actionUncertain errorCode => finishActionUncertain action errorCode now
  | .permanent errorCode disableConnection =>
    finishPermanent action errorCode disableConnection now
  | .retry nextAttemptAt errorCode => markOutboxRetry action.id nextAttemptAt errorCode now

/-! ## Execution -/

inductive RequiredRight where
  | reply
  | read
  | deleteAll
  deriving DecidableEq, Repr

def RequiredRight.permitted (rights : BusinessRights) : RequiredRight → Bool
  | .reply => rights.canReply
  | .read => rights.canReadMessages
  | .deleteAll => rights.canDeleteAllMessages

/-- `ensure_right`: the connection is known, enabled, and grants the right. -/
def ensureRight (connectionId : String) (required : RequiredRight) : Uow Bool := do
  let connection ← findBusinessConnection connectionId
  pure (connection.any fun c => c.enabled && required.permitted c.rights)

/-- The chat to reach the Owner at. -/
def loadOwnerChat (connectionId : String) : Uow (Option Int) := do
  match ← loadOwnerLifecycleState with
  | .pending =>
    let connection ← findBusinessConnection connectionId
    pure (connection.map (·.ownerUserId))
  | .ready (.claimed _ ownerChatId _ _ _) => pure (some ownerChatId)
  | .ready .unclaimed => pure none

/-- A request in flight, and the challenge it sends if it sends one. -/
structure Call where
  request : TelegramRequest
  challengeId : Option Nat
  deriving DecidableEq, Repr

/-- What a dispatch does after a check: load the challenge, make a request, or finish. -/
inductive Progress where
  | loadChallenge
  | call (call : Call)
  | finish (finish : Finish)
  deriving DecidableEq, Repr

/-- Goes on with an action that names a conversation, if its connection grants the right. -/
def withRight (action : OutboxActionRecord) (required : RequiredRight)
    (next : ConversationKey → Progress) : Uow Progress :=
  match action.key with
  | none => pure (.finish (.invalid "business_identity_missing"))
  | some key => do
    if ← ensureRight key.connectionId required then pure (next key)
    else pure (.finish .rightsUnavailable)

def sendTo (chatId : Int) (text : OwnerText) : Progress :=
  .call ⟨.sendBusinessMessage none chatId text, none⟩

/-- The chat an owner message names, or the one on record for its connection. -/
def executeOwnerMessage (action : OutboxActionRecord) (payload : OwnerAlertPayload) :
    Uow Progress :=
  match payload.ownerChatId.or payload.ownerUserId with
  | some chatId => pure (sendTo chatId (ownerAlertText payload))
  | none =>
    match action.key with
    | none => pure (.finish (.invalid "business_identity_missing"))
    | some key => do
      match ← loadOwnerChat key.connectionId with
      | some chatId => pure (sendTo chatId (ownerAlertText payload))
      | none => pure (.finish .rightsUnavailable)

def executePrivateMessage (chatId : Int) (messageKind : PrivateMessageKind) : Progress :=
  if chatId ≤ 0 then .finish (.invalid "invalid_private_message_payload")
  else sendTo chatId (.plain (privateMessageText messageKind))

/-- The first transaction of `execute`, after the interruption check of `dispatch_next`. -/
def executeCheck (action : OutboxActionRecord) : Uow Progress :=
  if action.interrupted && !isIdempotent action.kind then
    pure (.finish (uncertainFinish action "interrupted_send"))
  else
    match action.payload with
    | .sendChallenge .. | .editChallenge .. =>
      withRight action .reply fun _ => .loadChallenge
    | .readBusinessMessage messageId =>
      withRight action .read fun key =>
        .call ⟨.readBusinessMessage key.connectionId key.chatId messageId, none⟩
    | .deleteBusinessMessages messageIds =>
      withRight action .deleteAll fun key =>
        .call ⟨.deleteBusinessMessages key.connectionId messageIds, none⟩
    | .sendOwnerMessage payload => executeOwnerMessage action payload
    | .sendPrivateMessage chatId messageKind => pure (executePrivateMessage chatId messageKind)
    | .proposedDestructiveAction .. => pure (.finish (.success none))

/-- The second transaction of `execute`, for an action on a challenge. -/
def executeChallenge (action : OutboxActionRecord) : Uow Progress :=
  match action.key, action.payload with
  | some key, .sendChallenge challengeId _ _ _ => do
    match ← findChallengeById challengeId with
    | none => pure (.finish (.invalid "challenge_not_found"))
    | some challenge =>
      pure (.call ⟨.sendBusinessMessage (some key.connectionId) key.chatId
        (.plain (challengePrompt challenge)), some challenge.id⟩)
  | some key, .editChallenge challengeId status attemptsRemaining => do
    match ← findChallengeById challengeId with
    | none => pure (.finish (.invalid "challenge_not_found"))
    | some challenge =>
      match challenge.promptMessageId with
      | some messageId =>
        pure (.call ⟨.editBusinessMessage key.connectionId key.chatId messageId
          (challengeStatusText challenge status attemptsRemaining), none⟩)
      | none =>
        if challenge.deliveryStatus = .uncertain then
          pure (.finish (.uncertain challenge.id "uncertain_prompt_dependency"))
        else pure (.finish (.invalid "challenge_prompt_missing"))
  | _, _ => pure (.finish (.invalid "business_identity_missing"))

/-- How an answered request ends the dispatch. -/
def finishOfResponse (action : OutboxActionRecord) (call : Call) (response : TelegramResponse)
    (now : DateTime) : Finish :=
  match response with
  | .ok messageId => .success (call.challengeId.map (·, messageId))
  | .error error => handleTelegramFailure action error now

end ChatHygiene
