import ChatHygiene.Lib.Retry
import ChatHygiene.Telegram.Models
/-!
# The retry loops over Telegram

Startup declares the webhook in a loop of seven attempts, and authenticates the
bot and looks a connection up in loops of three. Telegram can ask for any wait
before the next attempt; each loop caps what it grants. A run ends with a
result whatever Telegram answers.
-/

namespace ChatHygiene

open Retry (calls sleeps)

/-! ## The webhook -/

namespace WebhookRegistration

/-- `RETRY_SECONDS`. -/
def retrySeconds : List Nat := [1, 2, 4, 8, 16, 30]

/-- `MAX_RETRY_AFTER_SECONDS`. -/
def maxRetryAfterSeconds : Nat := 60

inductive WebhookFailureKind where
  | timeout
  | transport
  | rateLimited
  | clientResponse
  | serverResponse
  | protocol
  | invalidRequest
  deriving DecidableEq, Repr

structure WebhookFailureSummary where
  kind : WebhookFailureKind
  statusCode : Option Nat
  deriving DecidableEq, Repr

inductive WebhookRegistrationError where
  | permanent (summary : WebhookFailureSummary)
  | exhausted (summary : WebhookFailureSummary)
  deriving DecidableEq, Repr

inductive RegistrationFailure where
  | retry (summary : WebhookFailureSummary) (retryAfter : Option Nat)
  | permanent (summary : WebhookFailureSummary)
  deriving DecidableEq, Repr

def classify : TelegramError → RegistrationFailure
  | .timeout => .retry ⟨.timeout, none⟩ none
  | .transport => .retry ⟨.transport, none⟩ none
  | .api errorCode _ retryAfter =>
    if errorCode = 429 then .retry ⟨.rateLimited, some 429⟩ retryAfter
    else if 500 ≤ errorCode ∧ errorCode ≤ 599 then .retry ⟨.serverResponse, some errorCode⟩ none
    else .permanent ⟨.clientResponse, some errorCode⟩
  | .protocol _ => .retry ⟨.protocol, none⟩ none
  | .invalidRequest _ => .permanent ⟨.invalidRequest, none⟩

/-- The arguments of `set_webhook`. -/
structure SetWebhook where
  publicUrl : String
  secret : String
  deriving DecidableEq, Repr

/-- The body of the loop. The last attempt has no scheduled wait. -/
def reconcileAttempt (scheduledSeconds : Option Nat) :
    Except TelegramError Unit → Retry.Decision Nat (Except WebhookRegistrationError Unit)
  | .ok () => .done (.ok ())
  | .error error =>
    match classify error with
    | .permanent summary => .done (.error (.permanent summary))
    | .retry summary retryAfter =>
      if scheduledSeconds.isNone then .done (.error (.exhausted summary))
      else
        match scheduledSeconds with
        | none => .panicked "every non-final attempt has a retry delay"
        | some scheduled =>
          .sleep
            (if summary.kind = .rateLimited then
              (retryAfter.map fun value => min value maxRetryAfterSeconds).elim scheduled
                fun value => max value scheduled
            else scheduled)

def reconcileWebhook (publicUrl secret : String) (answers : Nat → Except TelegramError Unit) :
    Retry.Run SetWebhook Nat (Except WebhookRegistrationError Unit) :=
  Retry.loop ⟨publicUrl, secret⟩ "webhook registration attempt loop always returns" reconcileAttempt
    answers (retrySeconds.map some ++ [none]) 0

/-- A wait is at least the scheduled one, and Telegram can stretch it to a minute. -/
theorem reconcileAttempt_disciplined :
    Retry.Disciplined (fun scheduled delay => scheduled ≤ delay ∧ delay ≤ maxRetryAfterSeconds)
      retrySeconds reconcileAttempt where
  sleeps := by
    intro scheduled hscheduled answer delay h
    have hall : ∀ wait ∈ retrySeconds, wait ≤ maxRetryAfterSeconds := by decide
    have hle := hall scheduled hscheduled
    unfold reconcileAttempt at h
    split at h
    · cases h
    · split at h
      · cases h
      · rename_i retryAfter _
        have hdelay := Retry.Decision.sleep.inj h
        rw [← hdelay]
        split
        · cases retryAfter with
          | none => exact ⟨le_rfl, hle⟩
          | some value =>
            -- the cap comes first, so the scheduled wait wins where it is the longer
            simp only [Option.map_some, Option.elim_some]
            omega
        · exact ⟨le_rfl, hle⟩
  quiet := by
    intro scheduled answer message h
    unfold reconcileAttempt at h
    split at h
    · cases h
    · split at h <;> cases h
  last := by
    intro answer
    cases answer with
    | ok result => exact ⟨_, rfl⟩
    | error error =>
      simp only [reconcileAttempt]
      cases hclass : classify error with
      | permanent summary => exact ⟨.error (.permanent summary), rfl⟩
      | retry summary retryAfter => exact ⟨.error (.exhausted summary), rfl⟩

variable (publicUrl secret : String) (answers : Nat → Except TelegramError Unit)

theorem reconcileWebhook_returns :
    ∃ result, (reconcileWebhook publicUrl secret answers).ending = .returned result :=
  reconcileAttempt_disciplined.returns 0

theorem reconcileWebhook_within :
    Retry.Within (fun scheduled delay => scheduled ≤ delay ∧ delay ≤ 60) retrySeconds
      (reconcileWebhook publicUrl secret answers).steps :=
  reconcileAttempt_disciplined.within 0

end WebhookRegistration

/-! ## The authoritative lookups -/

namespace ConnectionState

/-- `RETRY_DELAYS`, in seconds. -/
def retryDelays : List Nat := [1, 2]

/-- `MAX_RETRY_AFTER`, in seconds. -/
def maxRetryAfter : Nat := 5

def recognizedConnectionNotFound : String := "Bad Request: business connection not found"

def safeConnectionNotFound : String := "recognized business connection not found"

structure AuthenticatedBot where
  id : Int
  deriving DecidableEq, Repr

/-- The class of a failed lookup, with the status that each class carries. -/
structure AuthoritativeLookupFailure where
  kind : AuthoritativeLookupError
  status : Option Nat
  deriving DecidableEq, Repr

inductive FailureClass where
  | retry (status : Option Nat) (retryAfter : Option Nat)
  | terminal (error : AuthoritativeLookupFailure)
  deriving DecidableEq, Repr

def classify (error : TelegramError) (allowNotFound : Bool) : FailureClass :=
  match error with
  | .timeout | .transport => .retry none none
  | .api errorCode description retryAfter =>
    if errorCode = 429 ∨ (500 ≤ errorCode ∧ errorCode ≤ 599) then
      .retry (some errorCode) (retryAfter.map fun delay => min delay maxRetryAfter)
    else if errorCode = 401 ∨ errorCode = 403 then .terminal ⟨.botAuthentication, some errorCode⟩
    else if allowNotFound ∧ errorCode = 400 ∧ description = recognizedConnectionNotFound then
      .terminal ⟨.connectionNotFound, some errorCode⟩
    else .terminal ⟨.clientRejected, some errorCode⟩
  | .protocol description =>
    if allowNotFound ∧ description = safeConnectionNotFound then
      .terminal ⟨.connectionNotFound, some 400⟩
    else .terminal ⟨.invalidResponse, none⟩
  | .invalidRequest _ => .terminal ⟨.clientRejected, none⟩

variable {α : Type}

/-- The body of both loops. The last attempt has no default delay. -/
def lookupAttempt (allowNotFound : Bool) (defaultDelay : Option Nat) :
    Except TelegramError α → Retry.Decision Nat (Except AuthoritativeLookupFailure α)
  | .ok found => .done (.ok found)
  | .error error =>
    match classify error allowNotFound with
    | .retry status retryAfter =>
      if defaultDelay.isSome then
        match retryAfter, defaultDelay with
        | some delay, _ => .sleep delay
        | none, some delay => .sleep delay
        | none, none => .panicked "called `Option::unwrap()` on a `None` value"
      else .done (.error ⟨.transientExhausted, status⟩)
    | .terminal error => .done (.error error)

def lookupAuthenticatedBot (answers : Nat → Except TelegramError AuthenticatedBot) :
    Retry.Run Unit Nat (Except AuthoritativeLookupFailure AuthenticatedBot) :=
  Retry.loop () "lookup attempt loop always returns" (lookupAttempt false) answers
    (retryDelays.map some ++ [none]) 0

def lookupBusinessConnection (connectionId : String)
    (answers : Nat → Except TelegramError AuthoritativeBusinessConnection) :
    Retry.Run String Nat (Except AuthoritativeLookupFailure AuthoritativeBusinessConnection) :=
  Retry.loop connectionId "lookup attempt loop always returns" (lookupAttempt true) answers
    (retryDelays.map some ++ [none]) 0

/-- What Telegram asks for is capped where it is classified. -/
theorem classify_retryAfter_le {error : TelegramError} {allowNotFound : Bool}
    {status : Option Nat} {delay : Nat}
    (h : classify error allowNotFound = .retry status (some delay)) : delay ≤ maxRetryAfter := by
  cases error with
  | timeout => cases h
  | transport => cases h
  | protocol description =>
    simp only [classify] at h
    split at h <;> cases h
  | invalidRequest description => cases h
  | api errorCode description retryAfter =>
    simp only [classify] at h
    split at h
    · have hafter := (FailureClass.retry.inj h).2
      obtain ⟨value, -, hvalue⟩ := Option.map_eq_some_iff.1 hafter
      omega
    · split at h
      · cases h
      · split at h <;> cases h

theorem lookupAttempt_disciplined (allowNotFound : Bool) :
    Retry.Disciplined (fun _ delay => delay ≤ maxRetryAfter) retryDelays
      (lookupAttempt (α := α) allowNotFound) where
  sleeps := by
    intro defaultDelay hdefault answer delay h
    have hall : ∀ wait ∈ retryDelays, wait ≤ maxRetryAfter := by decide
    unfold lookupAttempt at h
    split at h
    · cases h
    · rename_i error
      cases hclass : classify error allowNotFound with
      | terminal failure =>
        rw [hclass] at h
        cases h
      | retry status retryAfter =>
        rw [hclass] at h
        cases retryAfter with
        | none =>
          have hdelay := Retry.Decision.sleep.inj h
          rw [← hdelay]
          exact hall defaultDelay hdefault
        | some value =>
          have hdelay := Retry.Decision.sleep.inj h
          rw [← hdelay]
          exact classify_retryAfter_le hclass
  quiet := by
    intro defaultDelay answer message h
    unfold lookupAttempt at h
    split at h
    · cases h
    · split at h
      · rename_i retryAfter _
        cases retryAfter <;> cases h
      · cases h
  last := by
    intro answer
    cases answer with
    | ok found => exact ⟨_, rfl⟩
    | error error =>
      simp only [lookupAttempt]
      cases hclass : classify error allowNotFound with
      | retry status retryAfter => exact ⟨.error ⟨.transientExhausted, status⟩, rfl⟩
      | terminal failure => exact ⟨.error failure, rfl⟩

section

variable (bots : Nat → Except TelegramError AuthenticatedBot) (connectionId : String)
  (connections : Nat → Except TelegramError AuthoritativeBusinessConnection)

theorem lookupAuthenticatedBot_returns :
    ∃ result, (lookupAuthenticatedBot bots).ending = .returned result :=
  (lookupAttempt_disciplined false).returns 0

theorem lookupAuthenticatedBot_within :
    Retry.Within (fun _ delay => delay ≤ 5) retryDelays (lookupAuthenticatedBot bots).steps :=
  (lookupAttempt_disciplined false).within 0

theorem lookupBusinessConnection_returns :
    ∃ result, (lookupBusinessConnection connectionId connections).ending = .returned result :=
  (lookupAttempt_disciplined true).returns 0

theorem lookupBusinessConnection_within :
    Retry.Within (fun _ delay => delay ≤ 5) retryDelays
      (lookupBusinessConnection connectionId connections).steps :=
  (lookupAttempt_disciplined true).within 0

end

/-! ### What a lookup answers -/

variable {connectionId : String} {connections : Nat → Except TelegramError AuthoritativeBusinessConnection}

/-- What the service goes on from: it reads the class of a failure and not its status. -/
def answerOf (result : Except AuthoritativeLookupFailure AuthoritativeBusinessConnection) :
    LookupAnswer :=
  result.mapError (·.kind)

/-- A body ends with what the client found only where the client found it. -/
theorem lookupAttempt_found {allowNotFound : Bool} {defaultDelay : Option Nat}
    {answer : Except TelegramError α} {found : α}
    (h : lookupAttempt allowNotFound defaultDelay answer = .done (.ok found)) :
    answer = .ok found := by
  unfold lookupAttempt at h
  split at h
  · have hfound := Except.ok.inj (Retry.Decision.done.inj h)
    rw [hfound]
  · split at h
    · split at h
      · split at h <;> cases h
      · cases h
    · cases h

/-- **The service goes on from a connection only as the client accepts it**: with the id it asked
for, positive ids and a positive establishment date. -/
theorem lookupBusinessConnection_validFor
    (hclient : ∀ n found, connections n = .ok found → LookupAnswer.validFor connectionId (.ok found))
    {result : Except AuthoritativeLookupFailure AuthoritativeBusinessConnection}
    (h : (lookupBusinessConnection connectionId connections).ending = .returned result) :
    (answerOf result).validFor connectionId := by
  cases result with
  | error failure => rfl
  | ok found =>
    obtain ⟨n, entry, -, hdone⟩ := Retry.loop_returned h
    exact hclient _ _ (lookupAttempt_found hdone)

/-- Only Telegram's own words for it make an error of the class that retires a connection. -/
theorem classify_notFound {error : TelegramError} {allowNotFound : Bool} {status : Option Nat}
    (h : classify error allowNotFound = .terminal ⟨.connectionNotFound, status⟩) :
    allowNotFound = true ∧ status = some 400 ∧
      ((∃ retryAfter, error = .api 400 recognizedConnectionNotFound retryAfter) ∨
        error = .protocol safeConnectionNotFound) := by
  cases error with
  | timeout => cases h
  | transport => cases h
  | invalidRequest description => cases h
  | protocol description =>
    simp only [classify] at h
    split at h
    · rename_i hrecognized
      obtain ⟨hallow, rfl⟩ := hrecognized
      cases h
      exact ⟨hallow, rfl, .inr rfl⟩
    · cases h
  | api errorCode description retryAfter =>
    simp only [classify] at h
    split at h
    · cases h
    · split at h
      · cases h
      · split at h
        · rename_i hrecognized
          obtain ⟨hallow, rfl, rfl⟩ := hrecognized
          cases h
          exact ⟨hallow, rfl, .inl ⟨retryAfter, rfl⟩⟩
        · cases h

/-- **A connection is not found only if Telegram said so** in answer to one of the calls. -/
theorem lookupBusinessConnection_notFound {status : Option Nat}
    (h : (lookupBusinessConnection connectionId connections).ending =
      .returned (.error ⟨.connectionNotFound, status⟩)) :
    ∃ n, (∃ retryAfter, connections n =
        .error (.api 400 recognizedConnectionNotFound retryAfter)) ∨
      connections n = .error (.protocol safeConnectionNotFound) := by
  obtain ⟨n, entry, -, hdone⟩ := Retry.loop_returned h
  refine ⟨0 + n, ?_⟩
  unfold lookupAttempt at hdone
  split at hdone
  · cases hdone
  · rename_i error hanswer
    rw [hanswer]
    split at hdone
    · split at hdone
      · split at hdone <;> cases hdone
      · cases hdone
    · rename_i failure hclass
      have hfailure := Except.error.inj (Retry.Decision.done.inj hdone)
      subst hfailure
      obtain ⟨-, -, ⟨retryAfter, rfl⟩ | rfl⟩ := classify_notFound hclass
      · exact .inl ⟨retryAfter, rfl⟩
      · exact .inr rfl

end ConnectionState

/-! ## The budget of startup -/

section

open ConnectionState WebhookRegistration

variable (publicUrl secret connectionId : String)
  (registrations : Nat → Except TelegramError Unit)
  (bots : Nat → Except TelegramError AuthenticatedBot)
  (connections : Nat → Except TelegramError AuthoritativeBusinessConnection)

/-- **The retry loops of startup are bounded.** Whatever Telegram answers, and however early the
process is stopped. -/
theorem startup_retries_bounded :
    ((∃ result, (reconcileWebhook publicUrl secret registrations).ending = .returned result) ∧
      ∀ steps, steps <+: (reconcileWebhook publicUrl secret registrations).steps →
        (calls steps).length ≤ 7 ∧ (sleeps steps).length ≤ 6 ∧
          List.Forall₂ (fun scheduled delay => scheduled ≤ delay ∧ delay ≤ 60)
            (WebhookRegistration.retrySeconds.take (sleeps steps).length) (sleeps steps) ∧
          (sleeps steps).sum ≤ 360) ∧
    ((∃ result, (lookupAuthenticatedBot bots).ending = .returned result) ∧
      ∀ steps, steps <+: (lookupAuthenticatedBot bots).steps →
        (calls steps).length ≤ 3 ∧ (sleeps steps).sum ≤ 10) ∧
    ((∃ result, (lookupBusinessConnection connectionId connections).ending = .returned result) ∧
      ∀ steps, steps <+: (lookupBusinessConnection connectionId connections).steps →
        (calls steps).length ≤ 3 ∧ (sleeps steps).sum ≤ 10) := by
  refine ⟨⟨reconcileWebhook_returns .., ?_⟩, ⟨lookupAuthenticatedBot_returns .., ?_⟩,
    ⟨lookupBusinessConnection_returns .., ?_⟩⟩
  · intro steps hsteps
    have h := (reconcileWebhook_within publicUrl secret registrations).of_stopped hsteps
    exact ⟨h.calls, h.sleeps_le, h.sleeps, h.total_le fun _ _ hdelay => hdelay.2⟩
  · intro steps hsteps
    have h := (lookupAuthenticatedBot_within bots).of_stopped hsteps
    exact ⟨h.calls, h.total_le fun _ _ hdelay => hdelay⟩
  · intro steps hsteps
    have h := (lookupBusinessConnection_within connectionId connections).of_stopped hsteps
    exact ⟨h.calls, h.total_le fun _ _ hdelay => hdelay⟩

/-- The bounds are met: rate limits for the longest wait there is exhaust the webhook after 360
seconds, and the lookups after 10. -/
theorem startup_retries_bounded_rateLimited :
    let limited : TelegramError := .api 429 "Too Many Requests" (some (2 ^ 64 - 1))
    let webhook := reconcileWebhook "https://chat.example.net/telegram/webhook" "secret"
      fun _ => .error limited
    let bot := lookupAuthenticatedBot fun _ => .error limited
    let connection := lookupBusinessConnection "connection" fun _ => .error limited
    ((calls webhook.steps).length = 7 ∧ sleeps webhook.steps = List.replicate 6 60 ∧
        webhook.ending = .returned (.error (.exhausted ⟨.rateLimited, some 429⟩))) ∧
      ((calls bot.steps).length = 3 ∧ sleeps bot.steps = [5, 5]) ∧
      (sleeps webhook.steps).sum ≤ 360 ∧ (sleeps bot.steps).sum ≤ 10 ∧
      (sleeps connection.steps).sum ≤ 10 := by
  intro limited webhook bot connection
  have h := startup_retries_bounded "https://chat.example.net/telegram/webhook" "secret"
    "connection" (fun _ => .error limited) (fun _ => .error limited) fun _ => .error limited
  exact ⟨by decide +kernel, by decide +kernel, (h.1.2 _ List.prefix_rfl).2.2.2,
    (h.2.1.2 _ List.prefix_rfl).2, (h.2.2.2 _ List.prefix_rfl).2⟩

/-- `AUTHORITATIVE_REQUEST_TIMEOUT`, in seconds. -/
def authoritativeRequestTimeout : Nat := 5

/-- `WEBHOOK_REQUEST_TIMEOUT`, in seconds. -/
def webhookRequestTimeout : Nat := 10

/-- **The documented worst case of startup**: 25 seconds for each lookup and 430 for the webhook. -/
theorem startup_time_le :
    Retry.time authoritativeRequestTimeout (lookupAuthenticatedBot bots).steps ≤ 25 ∧
      Retry.time authoritativeRequestTimeout
        (lookupBusinessConnection connectionId connections).steps ≤ 25 ∧
      Retry.time webhookRequestTimeout (reconcileWebhook publicUrl secret registrations).steps ≤
        430 :=
  ⟨(lookupAuthenticatedBot_within bots).time_le (fun _ _ hdelay => hdelay) _,
    (lookupBusinessConnection_within connectionId connections).time_le (fun _ _ hdelay => hdelay) _,
    (reconcileWebhook_within publicUrl secret registrations).time_le (fun _ _ hdelay => hdelay.2) _⟩

end

end ChatHygiene
