import ChatHygiene.Binding.Claim
import ChatHygiene.Connection.Promotion
import ChatHygiene.Lib.Refinement
import ChatHygiene.Telegram.Update
/-!
# The ingress

In front of the worker stands the webhook. It checks the secret of a request,
parses the update for the Owner the process knows, and queues the event; the
worker takes the oldest one when it is idle, and the kind of the event decides
what it does with it. The queue is of the process and does not outlive it.
-/

namespace ChatHygiene

/-- How the webhook answers a request it does not queue. -/
inductive StatusCode where
  | forbidden
  | badRequest
  deriving DecidableEq, Repr

/-- What the process is set up with. -/
structure IngressConfig where
  parser : ParserPrimitives
  /-- The digest of SHA-256. -/
  digest : String → List UInt8
  secret : String
  /-- The token of a claim, as the seed of the installation gives it. -/
  derived : List UInt8
  capacity : Nat

/-- `secret_is_valid`. -/
def IngressConfig.secretIsValid (cfg : IngressConfig) (provided : Option String) : Bool :=
  provided.any fun provided => cfg.digest cfg.secret = cfg.digest provided

/-- `handle_webhook`, up to the queue. A body that is no JSON of an update is `none`. -/
def IngressConfig.handleWebhook (cfg : IngressConfig) (owner : OwnerIdentity)
    (provided : Option String) (body : Option Envelope) (now : DateTime) :
    Except StatusCode ParsedUpdate :=
  if !cfg.secretIsValid provided then .error .forbidden
  else
    match body with
    | none => .error .badRequest
    | some update =>
      match parseUpdate cfg.parser update owner now with
      | .ok parsed => .ok parsed
      | .error _ => .error .badRequest

/-- The command of a text. -/
def OwnerCommandText.snapshot (command : OwnerCommandText) (event : RawBusinessEvent) :
    OwnerCommandSnapshot where
  fromUserId := command.fromUserId
  chatId := event.chatId
  messageId := event.messageId
  privateChat := command.privateChat
  command := parseOwnerCommand command.text.toList
  repliedSample := command.repliedSample

/-- `process`: what the worker begins with an event. -/
def ParsedUpdate.process (u : ParsedUpdate) (preparer : EventPreparer) (now : DateTime) :
    Except Error (BoundOp (List UInt8)) :=
  match u.event.kind with
  | .ownerClaim =>
    match u.ownerClaim with
    | none => .error (.invalidEvent "owner claim context is missing")
    | some .notClaim => .error (.invalidEvent "owner claim event is not a claim")
    | some .ignore =>
      .ok (.service (.worker (.ownerClaimRejected u.updateId none u.event.occurredAt)))
    | some (.reject replyChatId) =>
      .ok (.service (.worker
        (.ownerClaimRejected u.updateId (some replyChatId) u.event.occurredAt)))
    | some (.candidate fromUserId ownerChatId _ messageDate token) =>
      .ok (.claim u.updateId ⟨fromUserId, ownerChatId, messageDate, u.event.occurredAt⟩ token now)
  | .ownerStart =>
    match u.ownerCommand with
    | none => .error (.invalidEvent "owner Start context is missing")
    | some command =>
      if command.text ≠ "/start" then .error (.invalidEvent "owner Start shape is invalid")
      else
        .ok (.service (.worker (.ownerStart u.updateId (command.snapshot u.event)
          u.event.occurredAt)))
  | .ownerCommand =>
    match u.ownerCommand with
    | none => .error (.invalidEvent "owner command context is missing")
    | some command =>
      .ok (.service (.worker (.ownerCommand u.updateId (command.snapshot u.event)
        u.event.occurredAt)))
  | _ => .ok (.service (.worker (.prepare u.updateId u.event preparer)))

/-! ## The machine -/

/-- The process, and the events that wait for the worker. The last two fields are history: the
events that were queued and those that were taken. -/
structure Ingress where
  bound : BoundWorld (List UInt8)
  inbox : List ParsedUpdate
  accepted : List ParsedUpdate
  taken : List ParsedUpdate

inductive IngressOp where
  /-- A request with the secret and the body it brings. -/
  | deliver (provided : Option String) (body : Option Envelope) (now : DateTime)
  /-- The worker takes the oldest event. -/
  | take (preparer : EventPreparer) (now : DateTime)
  /-- A step of the service that takes no event. -/
  | service (op : Op)

/-- The steps that begin an update. -/
def Op.takesUpdate : Op → Bool
  | .worker (.prepare ..) | .worker (.ownerCommand ..) | .worker (.ownerStart ..)
  | .worker (.ownerClaimRejected ..) | .worker (.ownerClaim ..) => true
  | _ => false

def WorkerPhase.isIdle : WorkerPhase → Bool
  | .idle => true
  | _ => false

namespace Ingress

variable (cfg : IngressConfig)

/-- A request is answered at once unless its event is queued, which waits for a free place. -/
def deliver (s : Ingress) (provided : Option String) (body : Option Envelope) (now : DateTime) :
    Option Ingress :=
  match s.bound.handle with
  | none => none
  | some owner =>
    if s.bound.world.worker.serving then
      match cfg.handleWebhook owner provided body now with
      | .error _ => some s
      | .ok u =>
        if s.inbox.length < max cfg.capacity 1 then
          some { s with inbox := s.inbox ++ [u], accepted := s.accepted ++ [u] }
        else none
    else none

/-- An event that cannot be processed is refused; another one begins a step of the service. -/
def take (s : Ingress) (preparer : EventPreparer) (now : DateTime) : Option Ingress :=
  match s.inbox with
  | [] => none
  | u :: us =>
    if s.bound.world.worker.isIdle then
      let next : Ingress := { s with inbox := us, taken := s.taken ++ [u] }
      match u.process preparer now with
      | .error _ => some next
      | .ok op => (s.bound.step cfg.derived op).map fun bound => { next with bound := bound }
    else none

def step (s : Ingress) : IngressOp → Option Ingress
  | .deliver provided body now => s.deliver cfg provided body now
  | .take preparer now => s.take cfg preparer now
  | .service op =>
    if op.takesUpdate then none
    else
      (s.bound.step cfg.derived (.service op)).map fun bound =>
        { s with
          bound := bound
          inbox := if bound.world.worker.isDown then [] else s.inbox }

end Ingress

/-- The service with its webhook. -/
def ingress (cfg : IngressConfig) : Machine Ingress IngressOp where
  init s := ∃ bound, (boundService cfg.derived).init bound ∧ s = ⟨bound, [], [], []⟩
  step := Ingress.step cfg

/-! ## Every update is processed -/

/-- What a step that begins an update may rely on. -/
def BoundOp.Sane {Token : Type} : BoundOp Token → Prop
  | .claim _ validClaim _ _ => validClaim.Parsed
  | .service (.worker (.prepare _ raw _)) => raw.WellFormed
  | .service (.worker (.ownerStart _ snapshot _)) => ∃ userId chatId,
    snapshot.fromUserId = some userId ∧ snapshot.chatId = some chatId ∧ 0 < userId ∧ 0 < chatId ∧
      snapshot.privateChat = true
  | .service (.worker (.ownerCommand _ snapshot _)) => ∃ userId chatId,
    snapshot.fromUserId = some userId ∧ snapshot.chatId = some chatId ∧ 0 < chatId ∧
      snapshot.privateChat = true
  | .service (.worker (.ownerClaimRejected _ replyChatId _)) => ∀ chatId ∈ replyChatId, 0 < chatId
  | .service _ => True

/-- The step begins an update. -/
def BoundOp.takesUpdate {Token : Type} : BoundOp Token → Bool
  | .claim .. => true
  | .service (.worker (.ownerClaim ..)) => false
  | .service op => op.takesUpdate

variable {u : ParsedUpdate} {owner : OwnerIdentity} {cfg : IngressConfig}

/-- **An update the parser has accepted can be processed.** -/
theorem ParsedUpdate.Genuine.process (h : u.Genuine owner) (preparer : EventPreparer)
    (now : DateTime) : ∃ op, u.process preparer now = .ok op ∧ op.Sane ∧ op.takesUpdate = true := by
  unfold ParsedUpdate.process
  cases hkind : u.event.kind with
  | ownerClaim =>
    obtain ⟨claim, hclaim, hgenuine⟩ := h.claim hkind
    rw [hclaim]
    cases claim with
    | notClaim => exact absurd hgenuine id
    | ignore => exact ⟨_, rfl, nofun, rfl⟩
    | reject replyChatId =>
      refine ⟨_, rfl, fun chatId hchat => ?_, rfl⟩
      obtain rfl := Option.some.inj hchat
      exact hgenuine
    | candidate fromUserId ownerChatId messageId messageDate token =>
      obtain ⟨hfrom, hchat, -, hdate⟩ := hgenuine
      exact ⟨_, rfl, ⟨hfrom, hchat, hdate⟩, rfl⟩
  | ownerStart =>
    obtain ⟨userId, chatId, hchat, huser, hpos, hcommand⟩ := h.start hkind
    rw [hcommand]
    exact ⟨_, rfl, ⟨userId, chatId, rfl, hchat, huser, hpos, rfl⟩, rfl⟩
  | ownerCommand =>
    obtain ⟨userId, chatId, text, sample, hchat, hpos, -, hcommand⟩ := h.command hkind
    rw [hcommand]
    exact ⟨_, rfl, ⟨userId, chatId, rfl, hchat, hpos, rfl⟩, rfl⟩
  | _ => exact ⟨_, rfl, h.wellFormed, rfl⟩

/-- An idle worker can begin it. -/
theorem World.takes {w : World} {op : BoundOp (List UInt8)} {token : Option (List UInt8)}
    (hidle : w.worker = .idle) (hsane : op.Sane) (htakes : op.takesUpdate = true) :
    ∃ inner w', op.inner token = some inner ∧ w.step inner = some w' := by
  have enabled (op : WorkerOp) (hop : (w.stepWorker op).isSome = true) :
      ∃ w', w.step (.worker op) = some w' := Option.isSome_iff_exists.1 hop
  cases op with
  | claim updateId claim provided now =>
    refine ⟨_, (enabled _ ?_).imp fun w' hstep => ⟨rfl, hstep⟩⟩
    unfold World.stepWorker
    rw [hidle]
    dsimp only
    split
    · rfl
    · split_ifs <;> rfl
  | service op =>
    cases op with
    | worker op =>
      cases op with
      | prepare updateId raw preparer =>
        have hraw : raw.WellFormed := hsane
        refine ⟨_, (enabled _ ?_).imp fun w' hstep => ⟨rfl, hstep⟩⟩
        unfold World.stepWorker
        rw [hidle]
        dsimp only
        rw [if_pos hraw]
        split <;> rfl
      | ownerCommand updateId snapshot occurredAt | ownerStart updateId snapshot occurredAt
      | ownerClaimRejected updateId replyChatId occurredAt =>
        refine ⟨_, (enabled _ ?_).imp fun w' hstep => ⟨rfl, hstep⟩⟩
        unfold World.stepWorker
        rw [hidle]
        rfl
      | _ => cases htakes
    | _ => cases htakes

/-! ## Refinement -/

theorem boundService_refines (derived : List UInt8) :
    (boundService derived).Refines service BoundWorld.world where
  init := by
    rintro s ⟨now, rfl⟩
    exact ⟨now, rfl⟩
  step s op s' hstep := by
    obtain ⟨inner, -, hmove⟩ := BoundWorld.step_move hstep
    obtain ⟨w', hworld, rfl⟩ := Option.map_eq_some_iff.1 hmove
    exact .inr ⟨inner, hworld⟩

namespace Ingress

variable {s s' : Ingress}

/-- What a step of the webhook or of the worker does. -/
theorem step_cases {op : IngressOp} (h : s.step cfg op = some s') :
    (∃ owner provided body now u, s.bound.handle = some owner ∧
      cfg.handleWebhook owner provided body now = .ok u ∧ s.inbox.length < max cfg.capacity 1 ∧
      s' = { s with inbox := s.inbox ++ [u], accepted := s.accepted ++ [u] }) ∨
    (∃ u us, s.inbox = u :: us ∧ s'.inbox = us ∧ s'.taken = s.taken ++ [u] ∧
      s'.accepted = s.accepted ∧
      (s'.bound = s.bound ∨ ∃ op, s.bound.step cfg.derived op = some s'.bound)) ∨
    (s'.accepted = s.accepted ∧ s'.taken = s.taken ∧ (s'.inbox = s.inbox ∨ s'.inbox = []) ∧
      (s'.bound = s.bound ∨ ∃ op, s.bound.step cfg.derived op = some s'.bound)) := by
  cases op with
  | deliver provided body now =>
    have hdeliver : s.deliver cfg provided body now = some s' := h
    unfold deliver at hdeliver
    cases howner : s.bound.handle with
    | none =>
      rw [howner] at hdeliver
      cases hdeliver
    | some owner =>
      simp only [howner] at hdeliver
      obtain ⟨-, hanswer⟩ := Option.ite_none_right_eq_some.1 hdeliver
      cases hu : cfg.handleWebhook owner provided body now with
      | error status =>
        rw [hu] at hanswer
        obtain rfl := Option.some.inj hanswer
        -- a request that is refused is answered and forgotten
        exact .inr (.inr ⟨rfl, rfl, .inl rfl, .inl rfl⟩)
      | ok u =>
        rw [hu] at hanswer
        obtain ⟨hroom, hqueued⟩ := Option.ite_none_right_eq_some.1 hanswer
        exact .inl ⟨owner, provided, body, now, u, rfl, hu, hroom, (Option.some.inj hqueued).symm⟩
  | take preparer now =>
    have htake : s.take cfg preparer now = some s' := h
    unfold take at htake
    cases hinbox : s.inbox with
    | nil =>
      rw [hinbox] at htake
      cases htake
    | cons u us =>
      simp only [hinbox] at htake
      split_ifs at htake with hidle
      right
      left
      cases hop : u.process preparer now with
      | error e =>
        rw [hop] at htake
        obtain rfl := Option.some.inj htake
        -- an update that cannot be processed is taken all the same
        exact ⟨u, us, rfl, rfl, rfl, rfl, .inl rfl⟩
      | ok op =>
        rw [hop] at htake
        obtain ⟨bound, hbound, rfl⟩ := Option.map_eq_some_iff.1 htake
        exact ⟨u, us, rfl, rfl, rfl, rfl, .inr ⟨op, hbound⟩⟩
  | service op =>
    unfold step at h
    dsimp only at h
    split_ifs at h with htakes
    obtain ⟨bound, hbound, rfl⟩ := Option.map_eq_some_iff.1 h
    refine .inr (.inr ⟨rfl, rfl, ?_, .inr ⟨_, hbound⟩⟩)
    dsimp only
    split_ifs
    · exact .inr rfl
    · exact .inl rfl

theorem refines : (ingress cfg).Refines (boundService cfg.derived) Ingress.bound where
  init := by
    rintro s ⟨bound, hinit, rfl⟩
    exact hinit
  step s op s' hstep := by
    rcases step_cases hstep with
      ⟨owner, provided, body, now, u, -, -, -, rfl⟩ | ⟨u, us, -, -, -, -, hbound⟩ | ⟨-, -, -, hbound⟩
    · exact .inl rfl
    · exact hbound
    · exact hbound

/-- What every step keeps of the queue. -/
structure Sound (s : Ingress) (cfg : IngressConfig) : Prop where
  bound : s.bound.Sound
  genuine : ∀ u ∈ s.inbox, ∃ owner ∈ s.bound.committed, u.Genuine owner
  order : (s.taken ++ s.inbox).Sublist s.accepted
  room : s.inbox.length ≤ max cfg.capacity 1

theorem committed_grows {b b' : BoundWorld (List UInt8)}
    (h : b' = b ∨ ∃ op, b.step cfg.derived op = some b') : b.committed ⊆ b'.committed := by
  rcases h with rfl | ⟨op, hstep⟩
  · exact List.Subset.refl _
  · obtain ⟨inner, -, hmove⟩ := BoundWorld.step_move hstep
    obtain ⟨w', -, rfl⟩ := Option.map_eq_some_iff.1 hmove
    exact List.subset_append_left _ _

theorem handleWebhook_genuine {provided : Option String} {body : Option Envelope} {now : DateTime}
    (h : cfg.handleWebhook owner provided body now = .ok u) : u.Genuine owner := by
  unfold IngressConfig.handleWebhook at h
  split_ifs at h
  split at h
  · cases h
  · next update =>
    cases hparse : parseUpdate cfg.parser update owner now with
    | error e =>
      rw [hparse] at h
      cases h
    | ok parsed =>
      rw [hparse] at h
      obtain rfl := Except.ok.inj h
      exact parseUpdate_genuine hparse

theorem sound (h : (ingress cfg).Reachable s) : s.Sound cfg := by
  refine h.invariant (P := fun s => s.Sound cfg) ?_ fun s op s' hs ih _ hstep => ?_
  · rintro s ⟨bound, hinit, rfl⟩
    have hreached : (boundService cfg.derived).Reachable bound := ⟨bound, hinit, .refl bound⟩
    exact
      { bound := BoundWorld.sound hreached
        genuine := fun _ hu => (List.not_mem_nil hu).elim
        order := List.Sublist.refl _
        room := Nat.zero_le _ }
  have hbound : s'.bound.Sound :=
    BoundWorld.sound (refines.reachable (hs.step trivial hstep))
  rcases step_cases hstep with
    ⟨owner, provided, body, now, u, hhandle, hu, hroom, rfl⟩ |
    ⟨u, us, hinbox, hrest, htaken, haccepted, hgrows⟩ | ⟨haccepted, htaken, hinbox, hgrows⟩
  · refine ⟨hbound, fun v hv => ?_, ?_, ?_⟩
    · rcases List.mem_append.1 hv with hold | hnew
      · exact ih.genuine v hold
      · obtain rfl := List.mem_singleton.1 hnew
        exact ⟨owner, ih.bound.published owner hhandle, handleWebhook_genuine hu⟩
    · rw [← List.append_assoc]
      exact ih.order.append (List.Sublist.refl _)
    · rw [List.length_append, List.length_singleton]
      omega
  · have hroom := ih.room
    refine ⟨hbound, fun v hv => ?_, ?_, ?_⟩
    · rw [hrest] at hv
      obtain ⟨owner, hcommitted, hgenuine⟩ := ih.genuine v (hinbox ▸ List.mem_cons_of_mem _ hv)
      exact ⟨owner, committed_grows hgrows hcommitted, hgenuine⟩
    · have horder := ih.order
      rw [hinbox] at horder
      rw [htaken, hrest, haccepted, List.append_assoc]
      exact horder
    · rw [hinbox, List.length_cons] at hroom
      rw [hrest]
      omega
  · have hsub : s'.inbox.Sublist s.inbox := by
      rcases hinbox with hsame | hempty
      · exact hsame ▸ List.Sublist.refl _
      · exact hempty ▸ List.nil_sublist _
    refine ⟨hbound, fun v hv => ?_, ?_, hsub.length_le.trans ih.room⟩
    · obtain ⟨owner, hcommitted, hgenuine⟩ := ih.genuine v (hsub.subset hv)
      exact ⟨owner, committed_grows hgrows hcommitted, hgenuine⟩
    · rw [htaken, haccepted]
      exact ((List.Sublist.refl _).append hsub).trans ih.order

/-- An idle worker takes the oldest event. -/
theorem Sound.take {us : List ParsedUpdate} (h : s.Sound cfg) (hinbox : s.inbox = u :: us)
    (hidle : s.bound.world.worker = .idle) (preparer : EventPreparer) (now : DateTime) :
    ∃ op inner s', u.process preparer now = .ok op ∧ op.Sane ∧
      op.inner s.bound.token = some inner ∧ s.step cfg (.take preparer now) = some s' ∧
      s.bound.world.step inner = some s'.bound.world ∧ s'.inbox = us ∧ s'.taken = s.taken ++ [u] := by
  obtain ⟨owner, -, hgenuine⟩ := h.genuine u (hinbox ▸ List.mem_cons_self)
  obtain ⟨op, hprocess, hsane, htakes⟩ := hgenuine.process preparer now
  obtain ⟨inner, w', hinner, hworld⟩ : ∃ inner w', op.inner s.bound.token = some inner ∧
      s.bound.world.step inner = some w' := World.takes hidle hsane htakes
  obtain ⟨bound, hbound, hstepped⟩ : ∃ bound, s.bound.step cfg.derived op = some bound ∧
      bound.world = w' := by
    unfold BoundWorld.step BoundWorld.move
    rw [hinner, Option.bind_some, hworld]
    exact ⟨_, rfl, rfl⟩
  refine ⟨op, inner, { s with inbox := us, taken := s.taken ++ [u], bound := bound }, hprocess,
    hsane, hinner, ?_, ?_, rfl, rfl⟩
  · have htake : s.take cfg preparer now =
        some { s with inbox := us, taken := s.taken ++ [u], bound := bound } := by
      have hisIdle : s.bound.world.worker.isIdle = true := by
        rw [hidle]
        rfl
      unfold Ingress.take
      simp only [hinbox, hisIdle, if_true, hprocess, hbound, Option.map_some]
    exact htake
  · rw [hstepped]
    exact hworld

end Ingress

/-- **The webhook refines the service.** The world under the webhook is one the service reaches on
its own. What waits for the worker was accepted for an identity that has been committed, waits in
the order of its arrival, and was never taken before; and when the worker is idle it takes the
oldest event and begins a step of the service, whose input is what that step relies on. -/
theorem ingress_serves {cfg : IngressConfig} {s : Ingress} (h : (ingress cfg).Reachable s) :
    service.Reachable s.bound.world ∧ s.inbox.length ≤ max cfg.capacity 1 ∧
    (∀ u ∈ s.inbox, ∃ owner ∈ s.bound.committed, u.Genuine owner) ∧
    (s.taken ++ s.inbox).Sublist s.accepted ∧
    ∀ u us, s.inbox = u :: us → s.bound.world.worker = .idle → ∀ preparer now, ∃ op inner s',
      u.process preparer now = .ok op ∧ op.Sane ∧ op.inner s.bound.token = some inner ∧
      s.step cfg (.take preparer now) = some s' ∧
      s.bound.world.step inner = some s'.bound.world ∧ s'.inbox = us ∧
      s'.taken = s.taken ++ [u] := by
  have hsound := Ingress.sound h
  have hrefines : (ingress cfg).Refines service (BoundWorld.world ∘ Ingress.bound) :=
    Ingress.refines.trans (boundService_refines cfg.derived)
  exact ⟨hrefines.reachable h, hsound.room, hsound.genuine, hsound.order,
    fun u us hinbox hidle preparer now => hsound.take hinbox hidle preparer now⟩

section

open Sample

/-- A webhook whose digest is the text itself, and whose claims bring a token of zeros. -/
def sampleIngress : IngressConfig where
  parser := ⟨Hex.decodeToSlice, fun _ => true⟩
  digest secret := secret.toUTF8.toList
  secret := "secret"
  derived := List.replicate 32 0
  capacity := 8

/-- A claim of user 7 in the private chat 70. -/
def claimUpdate : Envelope where
  updateId := 1
  businessConnection := none
  businessMessage := none
  editedBusinessMessage := none
  deletedBusinessMessages := none
  message := some
    { messageId := 1, fromUserId := some 7, chatId := 70, chatKind := "private", date := 100
      text := some (String.ofList ("/claim ".toList ++ List.replicate 64 '0'))
      replyToMessage := none }
  channelPost := none

/-- The service starts, and the claim is delivered. -/
def claimDelivered : List IngressOp :=
  (start false).map .service ++ [.deliver (some "secret") (some claimUpdate) 1]

/-- One event waits for an idle worker. -/
def Ingress.waitsIdle (s : Ingress) : Bool :=
  s.inbox.length = 1 && s.bound.world.worker.isIdle

set_option maxRecDepth 100000 in
theorem ingress_serves_claim : ∃ (s : Ingress) (u : ParsedUpdate),
    (ingress sampleIngress).Reachable s ∧ s.inbox = [u] ∧
    ∃ op inner s', u.process (preparer .allow .correct 2) 2 = .ok op ∧ op.Sane ∧
      op.inner s.bound.token = some inner ∧
      s.step sampleIngress (.take (preparer .allow .correct 2) 2) = some s' ∧
      s.bound.world.step inner = some s'.bound.world ∧ s'.inbox = [] ∧
      s'.taken = s.taken ++ [u] := by
  obtain ⟨s, hs, hwaits⟩ : ∃ s, (ingress sampleIngress).Reachable s ∧ s.waitsIdle = true :=
    Machine.reachable_of_run claimDelivered Ingress.waitsIdle
      ⟨⟨.initial 0, none, none, [], 0, 0⟩, ⟨0, rfl⟩, rfl⟩ (by decide +kernel)
  unfold Ingress.waitsIdle at hwaits
  rw [Bool.and_eq_true, decide_eq_true_eq] at hwaits
  obtain ⟨hone, hidle⟩ := hwaits
  obtain ⟨u, hinbox⟩ := List.length_eq_one_iff.1 hone
  have hworker : s.bound.world.worker = .idle := by
    cases hphase : s.bound.world.worker with
    | idle => rfl
    | _ => simp [hphase, WorkerPhase.isIdle] at hidle
  obtain ⟨-, -, -, -, htakes⟩ := ingress_serves hs
  exact ⟨s, u, hs, hinbox, htakes u [] hinbox hworker (preparer .allow .correct 2) 2⟩

end

end ChatHygiene
