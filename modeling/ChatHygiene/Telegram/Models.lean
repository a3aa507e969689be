import ChatHygiene.Storage.Models
/-!
# What Telegram sends and answers

A raw update as the parser builds it, the answer to an authoritative
connection lookup, the requests the bot makes and how Telegram answers them.
-/

namespace ChatHygiene

inductive RawEventKind where
  | businessConnectionChanged
  | inboundMessage
  | editedInboundMessage
  | manualOwnerMessage
  | botBusinessMessage
  | implicitOwnerMessage
  | messagesDeleted
  | ownerClaim
  | ownerStart
  | ownerCommand
  | ignored
  deriving DecidableEq, Repr

structure BusinessConnectionSnapshot where
  connectionId : String
  ownerUserId : Int
  ownerChatId : Option Int
  enabled : Bool
  rights : BusinessRights
  deriving DecidableEq, Repr

/-- The transient content of a message, as far as the verifier reads it. -/
structure MessageContent where
  text : Option String
  deriving DecidableEq, Repr

structure RawBusinessEvent where
  kind : RawEventKind
  connectionId : Option String
  chatId : Option Int
  messageId : Option Int
  mediaGroupId : Option String
  content : Option MessageContent
  deletedMessageIds : List Int
  connection : Option BusinessConnectionSnapshot
  contactDisplayName : Option String
  contactUsername : Option String
  occurredAt : DateTime
  deriving DecidableEq, Repr

namespace RawBusinessEvent

/-- A message of a conversation, or its deletion. -/
def isBusinessMessage (raw : RawBusinessEvent) : Bool :=
  match raw.kind with
  | .inboundMessage | .editedInboundMessage | .manualOwnerMessage | .botBusinessMessage
  | .implicitOwnerMessage | .messagesDeleted => true
  | _ => false

/-- What the parser guarantees of the events it builds: a Business message names its connection
and chat, a message other than a deletion its message id, and a connection change a connection id
that is not blank. -/
structure WellFormed (raw : RawBusinessEvent) : Prop where
  connectionId : raw.isBusinessMessage → raw.connectionId.isSome
  chatId : raw.isBusinessMessage → raw.chatId.isSome
  messageId : raw.isBusinessMessage → raw.kind ≠ .messagesDeleted → raw.messageId.isSome
  trigger : raw.kind = .businessConnectionChanged → raw.connectionId.isSome
  connection : raw.connection = none

instance (raw : RawBusinessEvent) : Decidable raw.WellFormed :=
  decidable_of_iff
    ((raw.isBusinessMessage → raw.connectionId.isSome) ∧
      (raw.isBusinessMessage → raw.chatId.isSome) ∧
      (raw.isBusinessMessage → raw.kind ≠ .messagesDeleted → raw.messageId.isSome) ∧
      (raw.kind = .businessConnectionChanged → raw.connectionId.isSome) ∧ raw.connection = none)
    ⟨fun ⟨h₁, h₂, h₃, h₄, h₅⟩ => ⟨h₁, h₂, h₃, h₄, h₅⟩, fun ⟨h₁, h₂, h₃, h₄, h₅⟩ => ⟨h₁, h₂, h₃, h₄, h₅⟩⟩

end RawBusinessEvent

/-! ## Authoritative lookups -/

structure AuthoritativeBusinessConnection where
  connectionId : String
  businessUserId : Int
  userChatId : Option Int
  connectionEstablishedAt : Int
  rights : BusinessRights
  enabled : Bool
  deriving DecidableEq, Repr

inductive AuthoritativeLookupError where
  | connectionNotFound
  | botAuthentication
  | transientExhausted
  | invalidResponse
  | clientRejected
  deriving DecidableEq, Repr

/-- How an authoritative lookup ends. -/
abbrev LookupAnswer := Except AuthoritativeLookupError AuthoritativeBusinessConnection

/-- The client accepts a found connection only if it is the one it asked for, with positive ids and
establishment date. -/
def LookupAnswer.validFor (connectionId : String) : LookupAnswer → Bool
  | .ok c => c.connectionId = connectionId && 0 < c.businessUserId && c.userChatId.all (0 < ·) &&
      0 < c.connectionEstablishedAt
  | .error _ => true

/-! ## Requests -/

inductive TelegramRequest where
  | sendBusinessMessage (businessConnectionId : Option String) (chatId : Int) (text : OwnerText)
  | editBusinessMessage (businessConnectionId : String) (chatId messageId : Int) (text : String)
  | readBusinessMessage (businessConnectionId : String) (chatId messageId : Int)
  | deleteBusinessMessages (businessConnectionId : String) (messageIds : List Int)
  deriving DecidableEq, Repr

inductive TelegramError where
  | timeout
  | transport
  | api (errorCode : Nat) (description : String) (retryAfter : Option Nat)
  | protocol (description : String)
  | invalidRequest (description : String)
  deriving DecidableEq, Repr

/-- How Telegram answers a request: the id of a sent message (of no use to the other requests), or
an error. -/
abbrev TelegramResponse := Except TelegramError Int

/-- Consecutive batches of at most `size`; the fuel bounds their number. -/
def batchesOf (size : Nat) : Nat → List Int → List (List Int)
  | 0, _ => []
  | _ + 1, [] => []
  | fuel + 1, id :: ids =>
    (id :: ids).take size :: batchesOf size fuel ((id :: ids).drop size)

/-- Splits cleanup IDs into Telegram's inclusive 1-to-100 request limit. -/
def deleteMessageBatches (messageIds : List Int) : List (List Int) :=
  batchesOf 100 messageIds.length messageIds

end ChatHygiene
