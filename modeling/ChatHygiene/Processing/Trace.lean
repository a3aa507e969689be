import ChatHygiene.Lib.Lines
import ChatHygiene.Lib.Text
import ChatHygiene.Processing.Models
/-!
# The dry-run trace

In dry-run the Owner is told what became of an update: what was decided, what
was done, what is queued, and what was left out because of the mode. The list of
operations closes the text, and it can be read back from it whatever the names
and reasons before it are.
-/

namespace ChatHygiene

open Text (trim words)

def Decision.asStr : Decision → String
  | .allow => "ALLOW"
  | .suspicious => "SUSPICIOUS"
  | .spam => "SPAM"

def TraceStatus.asStr : TraceStatus → String
  | .applied => "APPLIED"
  | .queued => "QUEUED"
  | .skippedDryRun => "SKIPPED_DRY_RUN"
  | .retained => "RETAINED"
  | .ignored => "IGNORED"

/-! ## What is listed -/

/-- An operation is listed once. -/
def pushAction (name : String) (status : TraceStatus) (actions : List TraceAction) :
    List TraceAction :=
  if actions.any fun action => action.name = name ∧ action.status = status then actions
  else actions ++ [⟨name, status⟩]

def appendStateChange (stateBefore stateAfter : Option ConversationState)
    (actions : List TraceAction) : List TraceAction :=
  if stateBefore ≠ stateAfter then pushAction "UPDATE_CONVERSATION_STATE" .applied actions
  else actions

def appendInboundActions (outcome : InboundOutcome) (dryRunSpam : Bool)
    (stateBefore stateAfter : Option ConversationState) (actions : List TraceAction) :
    List TraceAction :=
  match outcome with
  | .startChallenge .. =>
    appendStateChange stateBefore stateAfter (pushAction "CREATE_CHALLENGE" .applied actions)
  | .retain => if dryRunSpam then actions else pushAction "KEEP_MESSAGE" .retained actions
  | .spam => actions
  | .correct _ | .expired _ =>
    appendStateChange stateBefore stateAfter (pushAction "CLOSE_CHALLENGE" .applied actions)
  | .incorrect _ exhausted _ blockExpiresAt =>
    let actions := pushAction "INCREMENT_CHALLENGE_ATTEMPTS" .applied actions
    if exhausted then
      let actions :=
        appendStateChange stateBefore stateAfter (pushAction "CLOSE_CHALLENGE" .applied actions)
      if blockExpiresAt.isNone then pushAction "TEMP_SOFT_BLOCK" .skippedDryRun actions else actions
    else actions

def internalActions (facts : LifecycleFacts) (stateAfter : Option ConversationState) :
    List TraceAction :=
  match facts.action with
  | .connectionChanged .. => pushAction "UPSERT_BUSINESS_CONNECTION" .applied []
  | .inbound _ outcome dryRunSpam =>
    let actions := pushAction "RECORD_MESSAGE" .applied []
    let actions :=
      if dryRunSpam then
        let actions := pushAction "SPAM_BLOCK" .skippedDryRun
          (pushAction "DELETE_MESSAGE" .skippedDryRun actions)
        if facts.stateBefore = some .verifyPending then
          pushAction "KEEP_CHALLENGE_OPEN" .applied actions
        else actions
      else actions
    appendInboundActions outcome dryRunSpam facts.stateBefore stateAfter actions
  | .activeInbound => pushAction "ACTIVE_BYPASS" .ignored []
  | .blockedInbound => pushAction "RECORD_MESSAGE" .applied []
  | .blockedFailOpen =>
    pushAction "BLOCK_ENFORCEMENT" .skippedDryRun (pushAction "RECORD_MESSAGE" .applied [])
  | .manualOwner =>
    appendStateChange facts.stateBefore stateAfter
      (pushAction "CLOSE_CHALLENGE" .applied (pushAction "RECORD_OWNER_MESSAGE" .applied []))
  | .botMessage _ => pushAction "RECORD_BOT_MESSAGE" .applied []
  | .messagesDeleted _ =>
    appendStateChange facts.stateBefore stateAfter (pushAction "MARK_MESSAGES_DELETED" .applied [])
  | .ignore => pushAction "IGNORE_EVENT" .ignored []

/-- What one action of the outbox adds to the list. -/
def appendOutboxAction (actions : List TraceAction) (payload : OutboxPayload) :
    List TraceAction :=
  match payload with
  | .proposedDestructiveAction "spam" _ _ =>
    pushAction "SPAM_BLOCK" .skippedDryRun (pushAction "DELETE_MESSAGE" .skippedDryRun actions)
  | .proposedDestructiveAction "verification_exhausted" _ _ =>
    pushAction "TEMP_SOFT_BLOCK" .skippedDryRun actions
  | .proposedDestructiveAction .. => actions
  | payload => pushAction payload.kind.asStr .queued actions

def appendOutboxActions (source : List OutboxPayload) (actions : List TraceAction) :
    List TraceAction :=
  source.foldl appendOutboxAction actions

/-! ## What is decided -/

def TraceDetection.ofFacts (detection : DetectionFacts) : TraceDetection where
  decision := detection.decision.asStr
  score := detection.score
  reasons := detection.reasons
  matchedRules := detection.matchedRules
  failed := detection.error.isSome

def traceVerification (facts : LifecycleFacts) (outcome : InboundOutcome) (dryRunSpam : Bool) :
    TraceVerification :=
  if dryRunSpam ∧ facts.stateBefore = some .verifyPending then ⟨"NOT_EVALUATED_SPAM_FIRST", none⟩
  else
    match outcome with
    | .startChallenge _ _ _ _ _ maxAttempts => ⟨"CHALLENGE_STARTED", some maxAttempts⟩
    | .retain =>
      if facts.eventKind = "EDITED_INBOUND_MESSAGE" then ⟨"NOT_EVALUATED_EDIT", none⟩
      else ⟨"RETAINED", none⟩
    | .correct _ => ⟨"CORRECT", some 0⟩
    | .incorrect _ _ attemptsRemaining _ => ⟨"INCORRECT", some attemptsRemaining⟩
    | .expired _ => ⟨"EXPIRED", none⟩
    | .spam => ⟨"NOT_EVALUATED_SPAM_FIRST", none⟩

def traceDecisions (facts : LifecycleFacts) : Option TraceDetection × TraceVerification :=
  match facts.action with
  | .inbound detection outcome dryRunSpam =>
    (some (.ofFacts detection), traceVerification facts outcome dryRunSpam)
  | _ => (none, ⟨"NOT_APPLICABLE", none⟩)

/-! ## Traces -/

namespace ProcessingTrace

def fromLifecycle (updateId : Int) (facts : LifecycleFacts)
    (stateAfter : Option ConversationState) (source : List OutboxPayload) : ProcessingTrace where
  updateId := updateId
  contactId := facts.chatId
  contactDisplayName := facts.contactDisplayName
  contactUsername := facts.contactUsername
  messageId := facts.messageId
  event := facts.eventKind
  stateBefore := facts.stateBefore
  stateAfter := stateAfter
  detection := (traceDecisions facts).1
  verification := (traceDecisions facts).2
  actions := appendOutboxActions source (internalActions facts stateAfter)

def ownerCommand (updateId ownerChatId : Int) (messageId : Option Int)
    (source : List OutboxPayload) : ProcessingTrace where
  updateId := updateId
  contactId := some ownerChatId
  contactDisplayName := none
  contactUsername := none
  messageId := messageId
  event := "OWNER_COMMAND"
  stateBefore := none
  stateAfter := none
  detection := none
  verification := ⟨"NOT_APPLICABLE", none⟩
  actions := appendOutboxActions source [⟨"EXECUTE_OWNER_COMMAND", .applied⟩]

end ProcessingTrace

/-! ## Rendering -/

def optionalNumber (value : Option Int) : String :=
  value.elim "无" toString

def joinedOrNone (values : List String) : String :=
  if values.isEmpty then "无" else ", ".intercalate values

namespace ProcessingTrace

def normalizedDisplayName (displayName : String) : Option String :=
  let displayName := [' '].intercalate (words displayName.toList)
  if displayName.isEmpty then none else some (String.ofList displayName)

def normalizedUsername (username : String) : Option String :=
  let username := (trim username.toList).dropWhile (· = '@')
  if username.isEmpty then none else some (String.ofList username)

def contactIdentity (displayName username : Option String) : String :=
  match displayName.bind normalizedDisplayName, username.bind normalizedUsername with
  | some displayName, some username => s!"{displayName} @{username}"
  | some displayName, none => displayName
  | none, some username => s!"@{username}"
  | none, none => "无"

end ProcessingTrace

def TraceDetection.lines (detection : TraceDetection) : List String :=
  [s!"- 判定：{detection.decision}", s!"- 分数：{detection.score}",
    s!"- 原因：{joinedOrNone detection.reasons}", s!"- 规则：{joinedOrNone detection.matchedRules}",
    s!"- 失败：{detection.failed}"]

def TraceVerification.lines (verification : TraceVerification) : List String :=
  s!"- 结果：{verification.result}" ::
    verification.attemptsRemaining.toList.map fun attempts => s!"- 剩余次数：{attempts}"

def TraceAction.line (action : TraceAction) : String :=
  s!"- {action.name}：{action.status.asStr}"

namespace ProcessingTrace

def stateName (state : Option ConversationState) : String := state.elim "无" (·.asStr)

/-- The lines before the list of operations. -/
def heading (trace : ProcessingTrace) : List String :=
  ["[DRY-RUN 追踪]", "", s!"更新 ID：{trace.updateId}",
    s!"联系人：{contactIdentity trace.contactDisplayName trace.contactUsername}",
    s!"用户 ID：{optionalNumber trace.contactId}", s!"消息 ID：{optionalNumber trace.messageId}",
    s!"事件：{trace.event}",
    s!"状态：{stateName trace.stateBefore} -> {stateName trace.stateAfter}",
    "", "检测："] ++
  trace.detection.elim
    ["- 判定：NOT_APPLICABLE", "- 分数：无", "- 原因：无", "- 规则：无", "- 失败：false"]
    TraceDetection.lines ++
  ["", "验证："] ++ trace.verification.lines ++ [""]

def render (trace : ProcessingTrace) : String :=
  String.join ((trace.heading ++ "操作：" :: trace.actions.map TraceAction.line).map (· ++ "\n"))

end ProcessingTrace

/-! ## What the list says -/

variable {a : TraceAction} {actions : List TraceAction} {name : String} {status : TraceStatus}
  {stateBefore stateAfter : Option ConversationState} {facts : LifecycleFacts}
  {source : List OutboxPayload} {payload : OutboxPayload}

theorem mem_pushAction : a ∈ pushAction name status actions ↔ a = ⟨name, status⟩ ∨ a ∈ actions := by
  unfold pushAction
  split
  · next hlisted =>
    obtain ⟨b, hb, hsame⟩ := List.any_eq_true.1 hlisted
    obtain ⟨hname, hstatus⟩ := of_decide_eq_true hsame
    have hmem : (⟨name, status⟩ : TraceAction) ∈ actions := by
      rw [← hname, ← hstatus]
      exact hb
    constructor
    · exact .inr
    · rintro (rfl | ha)
      · exact hmem
      · exact ha
  · rw [List.mem_append, List.mem_singleton, or_comm]

theorem mem_appendStateChange : a ∈ appendStateChange stateBefore stateAfter actions ↔
    (stateBefore ≠ stateAfter ∧ a = ⟨"UPDATE_CONVERSATION_STATE", .applied⟩) ∨ a ∈ actions := by
  unfold appendStateChange
  split
  · next hne =>
    rw [mem_pushAction]
    simp [hne]
  · next hsame => simp [hsame]

/-- What an action of the outbox adds. -/
def OutboxPayload.traceActions : OutboxPayload → List TraceAction
  | .proposedDestructiveAction "spam" _ _ =>
    [⟨"SPAM_BLOCK", .skippedDryRun⟩, ⟨"DELETE_MESSAGE", .skippedDryRun⟩]
  | .proposedDestructiveAction "verification_exhausted" _ _ =>
    [⟨"TEMP_SOFT_BLOCK", .skippedDryRun⟩]
  | .proposedDestructiveAction .. => []
  | payload => [⟨payload.kind.asStr, .queued⟩]

theorem mem_appendOutboxAction :
    a ∈ appendOutboxAction actions payload ↔ a ∈ actions ∨ a ∈ payload.traceActions := by
  unfold appendOutboxAction OutboxPayload.traceActions
  split <;> simp [mem_pushAction, or_comm, or_assoc]

theorem mem_appendOutboxActions : a ∈ appendOutboxActions source actions ↔
    a ∈ actions ∨ ∃ payload ∈ source, a ∈ payload.traceActions := by
  unfold appendOutboxActions
  induction source generalizing actions with
  | nil => simp
  | cons payload source ih =>
    rw [List.foldl_cons, ih, mem_appendOutboxAction]
    simp [or_assoc]

/-- The operations a trace lists of its own accord. -/
def internalVocabulary : List TraceAction :=
  [⟨"UPSERT_BUSINESS_CONNECTION", .applied⟩, ⟨"RECORD_MESSAGE", .applied⟩,
    ⟨"DELETE_MESSAGE", .skippedDryRun⟩, ⟨"SPAM_BLOCK", .skippedDryRun⟩,
    ⟨"KEEP_CHALLENGE_OPEN", .applied⟩, ⟨"ACTIVE_BYPASS", .ignored⟩,
    ⟨"BLOCK_ENFORCEMENT", .skippedDryRun⟩, ⟨"RECORD_OWNER_MESSAGE", .applied⟩,
    ⟨"CLOSE_CHALLENGE", .applied⟩, ⟨"RECORD_BOT_MESSAGE", .applied⟩,
    ⟨"MARK_MESSAGES_DELETED", .applied⟩, ⟨"IGNORE_EVENT", .ignored⟩,
    ⟨"CREATE_CHALLENGE", .applied⟩, ⟨"KEEP_MESSAGE", .retained⟩,
    ⟨"INCREMENT_CHALLENGE_ATTEMPTS", .applied⟩, ⟨"TEMP_SOFT_BLOCK", .skippedDryRun⟩,
    ⟨"UPDATE_CONVERSATION_STATE", .applied⟩, ⟨"EXECUTE_OWNER_COMMAND", .applied⟩]

/-- A list in which each operation has been pushed, and has the property. -/
inductive Listed (P : TraceAction → Prop) : List TraceAction → Prop
  | nil : Listed P []
  | push {actions : List TraceAction} {name : String} {status : TraceStatus}
    (h : Listed P actions) (hnew : P ⟨name, status⟩) : Listed P (pushAction name status actions)

section

variable {P : TraceAction → Prop}

theorem Listed.forall (h : Listed P actions) : ∀ a ∈ actions, P a := by
  induction h with
  | nil => exact fun a ha => absurd ha List.not_mem_nil
  | push h hnew ih =>
    intro a ha
    rcases mem_pushAction.1 ha with rfl | ha
    · exact hnew
    · exact ih a ha

/-- **Nothing is listed twice.** -/
theorem Listed.nodup (h : Listed P actions) : actions.Nodup := by
  induction h with
  | nil => exact List.nodup_nil
  | @push actions name status h hnew ih =>
    unfold pushAction
    split
    · exact ih
    · next hnot =>
      refine ih.append (List.nodup_singleton _) fun a ha hsame => hnot ?_
      rw [List.mem_singleton] at hsame
      subst hsame
      exact List.any_eq_true.2 ⟨_, ha, by simp⟩

variable (hall : ∀ a ∈ internalVocabulary, P a)
include hall

theorem Listed.stateChange (h : Listed P actions) :
    Listed P (appendStateChange stateBefore stateAfter actions) := by
  unfold appendStateChange
  split
  · exact h.push (hall _ (by simp [internalVocabulary]))
  · exact h

theorem Listed.inbound {outcome : InboundOutcome} {dryRunSpam : Bool} (h : Listed P actions) :
    Listed P (appendInboundActions outcome dryRunSpam stateBefore stateAfter actions) := by
  have hclosed {actions : List TraceAction} (h : Listed P actions) : Listed P (appendStateChange
      stateBefore stateAfter (pushAction "CLOSE_CHALLENGE" .applied actions)) :=
    (h.push (hall _ (by simp [internalVocabulary]))).stateChange hall
  cases outcome with
  | startChallenge => exact (h.push (hall _ (by simp [internalVocabulary]))).stateChange hall
  | retain =>
    unfold appendInboundActions
    dsimp only
    split
    · exact h
    · exact h.push (hall _ (by simp [internalVocabulary]))
  | spam => exact h
  | correct challengeId => exact hclosed h
  | expired challengeId => exact hclosed h
  | incorrect challengeId exhausted attemptsRemaining blockExpiresAt =>
    have hcounted : Listed P (pushAction "INCREMENT_CHALLENGE_ATTEMPTS" .applied actions) :=
      h.push (hall _ (by simp [internalVocabulary]))
    unfold appendInboundActions
    dsimp only
    split
    · split
      · exact (hclosed hcounted).push (hall _ (by simp [internalVocabulary]))
      · exact hclosed hcounted
    · exact hcounted

/-- **What is listed of the event itself is of the vocabulary.** -/
theorem listed_internalActions : Listed P (internalActions facts stateAfter) := by
  unfold internalActions
  split
  · exact Listed.nil.push (hall _ (by simp [internalVocabulary]))
  · have hrecorded : Listed P (pushAction "RECORD_MESSAGE" .applied []) :=
      Listed.nil.push (hall _ (by simp [internalVocabulary]))
    refine Listed.inbound hall ?_
    split
    · have hskipped : Listed P (pushAction "SPAM_BLOCK" .skippedDryRun
          (pushAction "DELETE_MESSAGE" .skippedDryRun (pushAction "RECORD_MESSAGE" .applied []))) :=
        (hrecorded.push (hall _ (by simp [internalVocabulary]))).push
          (hall _ (by simp [internalVocabulary]))
      dsimp only
      split
      · exact hskipped.push (hall _ (by simp [internalVocabulary]))
      · exact hskipped
    · exact hrecorded
  · exact Listed.nil.push (hall _ (by simp [internalVocabulary]))
  · exact Listed.nil.push (hall _ (by simp [internalVocabulary]))
  · exact (Listed.nil.push (hall _ (by simp [internalVocabulary]))).push
      (hall _ (by simp [internalVocabulary]))
  · exact ((Listed.nil.push (hall _ (by simp [internalVocabulary]))).push
      (hall _ (by simp [internalVocabulary]))).stateChange hall
  · exact Listed.nil.push (hall _ (by simp [internalVocabulary]))
  · exact (Listed.nil.push (hall _ (by simp [internalVocabulary]))).stateChange hall
  · exact Listed.nil.push (hall _ (by simp [internalVocabulary]))

end

theorem Listed.outbox {P : TraceAction → Prop} (h : Listed P actions)
    (hsource : ∀ payload ∈ source, ∀ a ∈ payload.traceActions, P a) :
    Listed P (appendOutboxActions source actions) := by
  unfold appendOutboxActions
  induction source generalizing actions with
  | nil => exact h
  | cons payload source ih =>
    rw [List.foldl_cons]
    refine ih ?_ fun payload hpayload => hsource payload (List.mem_cons_of_mem _ hpayload)
    have hnew := hsource payload List.mem_cons_self
    unfold appendOutboxAction
    unfold OutboxPayload.traceActions at hnew
    split at hnew
    · exact (h.push (hnew _ (by simp))).push (hnew _ (by simp))
    · exact h.push (hnew _ (by simp))
    · exact h
    · exact h.push (hnew _ (by simp))

/-- The payload is of an action that is carried out. -/
def OutboxPayload.real (payload : OutboxPayload) : Bool :=
  payload.kind ≠ .proposedDestructiveAction

theorem queued_mem_traceActions :
    ⟨name, .queued⟩ ∈ payload.traceActions ↔ payload.real = true ∧ payload.kind.asStr = name := by
  unfold OutboxPayload.traceActions OutboxPayload.real
  split
  · simp [OutboxPayload.kind]
  · simp [OutboxPayload.kind]
  · simp [OutboxPayload.kind]
  · next hspam hexhausted hproposed =>
    have hreal : payload.kind ≠ .proposedDestructiveAction := by
      intro hkind
      cases hpayload : payload with
      | proposedDestructiveAction reason score hours => exact hproposed reason score hours hpayload
      | _ =>
        rw [hpayload] at hkind
        cases hkind
    rw [List.mem_singleton, TraceAction.mk.injEq, and_iff_left rfl, decide_eq_true_eq,
      and_iff_right hreal, eq_comm]

/-- **What is said to be queued is what the outbox has.** -/
theorem queued_iff {updateId : Int} :
    ⟨name, .queued⟩ ∈ (ProcessingTrace.fromLifecycle updateId facts stateAfter source).actions ↔
      ∃ payload ∈ source, payload.real = true ∧ payload.kind.asStr = name := by
  have hno : ∀ a ∈ internalActions facts stateAfter, a.status ≠ .queued :=
    (listed_internalActions (by decide)).forall
  change _ ∈ appendOutboxActions source (internalActions facts stateAfter) ↔ _
  rw [mem_appendOutboxActions]
  simp only [queued_mem_traceActions]
  exact or_iff_right fun hmem => hno _ hmem rfl

/-- The action may move the state of its conversation in dry-run. -/
def PreparedAction.movesState : PreparedAction → Bool
  | .inbound _ (.startChallenge ..) _ | .inbound _ (.correct _) _ | .inbound _ (.expired _) _
  | .inbound _ (.incorrect _ true _ _) _ | .manualOwner | .messagesDeleted _ => true
  | _ => false

/-- The action counts the last wrong answer. -/
def PreparedAction.exhausts : PreparedAction → Bool
  | .inbound _ (.incorrect _ true _ none) _ => true
  | _ => false

/-- The detector's verdict is spam, and nothing comes of it. -/
def PreparedAction.sparesSpam : PreparedAction → Bool
  | .inbound _ _ dryRunSpam => dryRunSpam
  | _ => false

theorem mem_appendInboundActions {outcome : InboundOutcome} {dryRunSpam : Bool} :
    a ∈ appendInboundActions outcome dryRunSpam stateBefore stateAfter actions ↔
      a ∈ actions ∨ a ∈ appendInboundActions outcome dryRunSpam stateBefore stateAfter [] := by
  cases outcome with
  | incorrect challengeId exhausted attemptsRemaining blockExpiresAt =>
    cases exhausted <;> cases blockExpiresAt <;>
      simp only [appendInboundActions, mem_pushAction, mem_appendStateChange, Option.isNone_none,
        Option.isNone_some, Bool.false_eq_true, if_true, if_false, List.not_mem_nil] <;> tauto
  | retain => cases dryRunSpam <;> simp [appendInboundActions, mem_pushAction, or_comm]
  | _ => simp [appendInboundActions, mem_pushAction, mem_appendStateChange, or_comm, or_assoc]

/-- What is listed of a message that is judged. -/
theorem mem_internalActions_inbound {detection : DetectionFacts} {outcome : InboundOutcome}
    {dryRunSpam : Bool} (haction : facts.action = .inbound detection outcome dryRunSpam) :
    a ∈ internalActions facts stateAfter ↔ a = ⟨"RECORD_MESSAGE", .applied⟩ ∨
      (dryRunSpam = true ∧ (a = ⟨"SPAM_BLOCK", .skippedDryRun⟩ ∨
        a = ⟨"DELETE_MESSAGE", .skippedDryRun⟩ ∨
        facts.stateBefore = some .verifyPending ∧ a = ⟨"KEEP_CHALLENGE_OPEN", .applied⟩)) ∨
      a ∈ appendInboundActions outcome dryRunSpam facts.stateBefore stateAfter [] := by
  unfold internalActions
  rw [haction]
  dsimp only
  rw [mem_appendInboundActions, ← or_assoc]
  refine or_congr_left ?_
  cases dryRunSpam with
  | false => simp [mem_pushAction]
  | true =>
    by_cases hpending : facts.stateBefore = some .verifyPending
    · simp only [hpending, mem_pushAction, List.not_mem_nil, if_true, true_and]
      tauto
    · simp only [hpending, mem_pushAction, List.not_mem_nil, if_true, if_false, false_and, true_and]
      tauto

/-- **What is said of the state and of blocks.** A change of the state is listed if there is one and
the action may move it; a block is said to be left out if the verdict is spam, or the answers are used
up. -/
theorem internalActions_says (facts : LifecycleFacts) (stateAfter : Option ConversationState) :
    (⟨"UPDATE_CONVERSATION_STATE", .applied⟩ ∈ internalActions facts stateAfter ↔
      facts.action.movesState = true ∧ facts.stateBefore ≠ stateAfter) ∧
    (⟨"SPAM_BLOCK", .skippedDryRun⟩ ∈ internalActions facts stateAfter ↔
      facts.action.sparesSpam = true) ∧
    (⟨"TEMP_SOFT_BLOCK", .skippedDryRun⟩ ∈ internalActions facts stateAfter ↔
      facts.action.exhausts = true) := by
  cases haction : facts.action with
  | inbound detection outcome dryRunSpam =>
    simp only [mem_internalActions_inbound haction, PreparedAction.sparesSpam]
    cases outcome with
    | incorrect challengeId exhausted attemptsRemaining blockExpiresAt =>
      cases exhausted <;> cases blockExpiresAt <;>
        simp [appendInboundActions, mem_pushAction, mem_appendStateChange,
          PreparedAction.movesState, PreparedAction.exhausts]
    | retain =>
      cases dryRunSpam <;> simp [appendInboundActions, mem_pushAction, PreparedAction.movesState,
        PreparedAction.exhausts]
    | _ =>
      simp [appendInboundActions, mem_pushAction, mem_appendStateChange, PreparedAction.movesState,
        PreparedAction.exhausts]
  | _ =>
    simp [internalActions, haction, mem_pushAction, mem_appendStateChange,
      PreparedAction.movesState, PreparedAction.sparesSpam, PreparedAction.exhausts]

/-! ## Reading a trace -/

/-- The name is told from what is written around it. -/
def TraceAction.Plain (action : TraceAction) : Prop :=
  ∀ c ∈ action.name.toList, c ≠ '\n' ∧ c ≠ '：'

instance (action : TraceAction) : Decidable action.Plain :=
  List.decidableBAll (fun c => c ≠ '\n' ∧ c ≠ '：') action.name.toList

def TraceStatus.read (cs : List Char) : Option TraceStatus :=
  [TraceStatus.applied, .queued, .skippedDryRun, .retained, .ignored].find? fun status =>
    status.asStr.toList = cs

def TraceAction.read : List Char → Option TraceAction
  | '-' :: ' ' :: cs =>
    (TraceStatus.read ((cs.dropWhile (· ≠ '：')).drop 1)).map fun status =>
      ⟨String.ofList (cs.takeWhile (· ≠ '：')), status⟩
  | _ => none

/-- The operations that close a text. -/
def readOperations (text : String) : Option (List TraceAction) :=
  (Text.closing "操作：".toList text.toList).mapM TraceAction.read

theorem TraceStatus.read_asStr (status : TraceStatus) : read status.asStr.toList = some status := by
  cases status <;> decide

theorem TraceAction.toList_line (action : TraceAction) : action.line.toList =
    '-' :: ' ' :: (action.name.toList ++ '：' :: action.status.asStr.toList) := by
  have hdash : "- ".toList = ['-', ' '] := by decide
  have hcolon : "：".toList = ['：'] := by decide
  change ("- " ++ action.name ++ "：" ++ action.status.asStr).toList = _
  rw [String.toList_append, String.toList_append, String.toList_append, hdash, hcolon]
  simp

theorem TraceAction.Plain.read_line (h : a.Plain) : TraceAction.read a.line.toList = some a := by
  have hname : ∀ c ∈ a.name.toList, (decide (c ≠ '：')) = true := fun c hc => decide_eq_true (h c hc).2
  rw [a.toList_line]
  simp only [TraceAction.read]
  rw [List.dropWhile_append_of_pos hname, List.takeWhile_append_of_pos hname,
    List.dropWhile_cons_of_neg (by simp), List.takeWhile_cons_of_neg (by simp), List.drop_one,
    List.tail_cons, TraceStatus.read_asStr, List.append_nil, String.ofList_toList, Option.map_some]

/-- A line of the list is one line, and not its heading. -/
theorem TraceAction.Plain.line (h : a.Plain) :
    '\n' ∉ a.line.toList ∧ a.line.toList ≠ "操作：".toList := by
  have hstatus : '\n' ∉ a.status.asStr.toList := by cases a.status <;> decide
  have hname : '\n' ∉ a.name.toList := fun hmem => (h _ hmem).1 rfl
  rw [a.toList_line]
  refine ⟨by simp [hname, hstatus], ?_⟩
  have hheading : "操作：".toList = ['操', '作', '：'] := by decide
  rw [hheading]
  simp

theorem ProcessingTrace.toList_render (trace : ProcessingTrace) : trace.render.toList =
    Text.unlines (trace.heading.map String.toList ++
      "操作：".toList :: trace.actions.map (·.line.toList)) := by
  have hlines (lines : List String) :
      (String.join (lines.map (· ++ "\n"))).toList = Text.unlines (lines.map String.toList) := by
    induction lines with
    | nil => rfl
    | cons line lines ih =>
      rw [List.map_cons, String.join_cons, String.toList_append, String.toList_append, ih]
      simp
  unfold ProcessingTrace.render
  rw [hlines, List.map_append, List.map_cons, List.map_map]
  rfl

/-- **The operations are read back from the text**, whatever comes before them. -/
theorem ProcessingTrace.readOperations_render (trace : ProcessingTrace)
    (h : ∀ a ∈ trace.actions, a.Plain) : readOperations trace.render = some trace.actions := by
  have hheading : '\n' ∉ "操作：".toList := by decide
  have hlines : ∀ l ∈ trace.actions.map (·.line.toList), '\n' ∉ l ∧ l ≠ "操作：".toList := by
    intro l hl
    obtain ⟨a, ha, rfl⟩ := List.mem_map.1 hl
    exact (h a ha).line
  unfold readOperations
  rw [trace.toList_render, Text.closing_unlines hheading hlines, List.mapM_map]
  have hread (actions : List TraceAction) (h : ∀ a ∈ actions, a.Plain) :
      actions.mapM (fun a => TraceAction.read a.line.toList) = some actions := by
    induction actions with
    | nil => rfl
    | cons a actions ih =>
      rw [List.mapM_cons, (h a List.mem_cons_self).read_line,
        ih fun b hb => h b (List.mem_cons_of_mem _ hb)]
      rfl
  exact hread _ h

theorem plain_traceActions (ha : a ∈ payload.traceActions) : a.Plain := by
  have hkind (kind : OutboxActionKind) : (⟨kind.asStr, .queued⟩ : TraceAction).Plain := by
    cases kind <;> decide
  unfold OutboxPayload.traceActions at ha
  split at ha
  · revert a
    decide
  · revert a
    decide
  · cases ha
  · rw [List.mem_singleton] at ha
    exact ha ▸ hkind _

/-- **The trace of an event can be read**, and lists nothing twice. -/
theorem readOperations_fromLifecycle (updateId : Int) (facts : LifecycleFacts)
    (stateAfter : Option ConversationState) (source : List OutboxPayload) :
    readOperations (ProcessingTrace.fromLifecycle updateId facts stateAfter source).render =
        some (appendOutboxActions source (internalActions facts stateAfter)) ∧
      (appendOutboxActions source (internalActions facts stateAfter)).Nodup := by
  have hlisted : Listed TraceAction.Plain
      (appendOutboxActions source (internalActions facts stateAfter)) :=
    (listed_internalActions (by decide)).outbox fun _ _ _ => plain_traceActions
  exact ⟨ProcessingTrace.readOperations_render _ hlisted.forall, hlisted.nodup⟩

end ChatHygiene
