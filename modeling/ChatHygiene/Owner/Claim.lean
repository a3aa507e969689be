import ChatHygiene.Lib.Hex
import ChatHygiene.Lib.Text
import ChatHygiene.Owner.ClaimFile
import ChatHygiene.Telegram.Models
/-!
# The claim command

The claim file writes a token as a command, and the parser of bot messages
reads it back. Whatever else looks like a claim is rejected or ignored; it is
never read as another command.
-/

namespace ChatHygiene

/-! ## The parser -/

structure OwnerClaimContext where
  ordinaryMessage : Bool
  privateChat : Bool
  fromUserId : Option Int
  chatId : Int
  messageId : Int
  messageDate : Int
  text : Option String

inductive ParsedOwnerClaim where
  | notClaim
  | ignore
  | reject (replyChatId : Int)
  | candidate (fromUserId ownerChatId messageId messageDate : Int) (token : List UInt8)
  deriving DecidableEq

/-- The bytes of a text. -/
def utf8Bytes (cs : List Char) : List UInt8 := cs.flatMap String.utf8EncodeChar

/-- The token of a command, unless there is anything else about it. Hexadecimal belongs to another
crate. -/
def claimToken (decodeToSlice : List UInt8 → Nat → Option (List UInt8)) (text : List Char) :
    Option (List UInt8) :=
  if text ≠ Text.trim text then none
  else
    (text.dropPrefix? "/claim ".toList).bind fun encoded =>
      if (utf8Bytes encoded).length ≠ 64 || !(utf8Bytes encoded).all Hex.isDigit then none
      else decodeToSlice (utf8Bytes encoded) 32

/-- `parse_owner_claim`. -/
def parseOwnerClaim (decodeToSlice : List UInt8 → Nat → Option (List UInt8))
    (context : OwnerClaimContext) : ParsedOwnerClaim :=
  match context.text with
  | none => .notClaim
  | some text =>
    if !"/claim".toList.isPrefixOf (Text.trim text.toList) then .notClaim
    else
      match context.fromUserId.filter (0 < ·) with
      | none => .ignore
      | some fromUserId =>
        if !context.ordinaryMessage || !context.privateChat || context.chatId ≤ 0 ||
            context.messageId ≤ 0 || context.messageDate ≤ 0 then .ignore
        else
          match claimToken decodeToSlice text.toList with
          | none => .reject context.chatId
          | some token =>
            .candidate fromUserId context.chatId context.messageId context.messageDate token

/-! ## Messages to the bot -/

/-- A message to the bot, as far as its kind depends on it. -/
structure BotMessage where
  messageId : Int
  fromUserId : Option Int
  chatId : Int
  chatKind : String
  date : Int
  text : Option String

inductive StartCommand where
  | notStart
  | exact
  | malformed
  deriving DecidableEq

/-- `is_ascii_alphanumeric`, or an underscore. -/
def isUsernameChar (c : Char) : Bool := c.isAlphanum || c = '_'

def privateStartCommand (text : List Char) : StartCommand :=
  if text = "/start".toList then .exact
  else if (text.dropPrefix? "/start@".toList).any fun username =>
      5 ≤ (utf8Bytes username).length && (utf8Bytes username).length ≤ 32 &&
        username.all isUsernameChar &&
        "bot".toList.isSuffixOf (username.map Char.toLower) then .exact
  else if ((text.dropWhile Text.isWhitespace).take 6).map Char.toLower = "/start".toList then
    .malformed
  else .notStart

def ownerCommandSourceIsAuthorized (message : BotMessage) (ordinaryMessage : Bool) :
    OwnerIdentity → Bool
  | .unclaimed => false
  | .claimed ownerUserId ownerChatId ownerChatSource _ _ =>
    ordinaryMessage && message.chatKind = "private" && 0 < message.chatId &&
      message.fromUserId.any fun userId => userId = ownerUserId &&
        (ownerChatSource = .legacyFallback || message.chatId = ownerChatId)

/-- What the parser of claims is asked of a message to the bot: one without text has an empty one. -/
def BotMessage.claimContext (message : BotMessage) (ordinaryMessage : Bool) : OwnerClaimContext where
  ordinaryMessage := ordinaryMessage
  privateChat := message.chatKind = "private"
  fromUserId := message.fromUserId
  chatId := message.chatId
  messageId := message.messageId
  messageDate := message.date
  text := some (message.text.getD "")

/-- The kind of event `bot_message_event` makes of a message. -/
def botMessageKind (decodeToSlice : List UInt8 → Nat → Option (List UInt8)) (message : BotMessage)
    (ordinaryMessage : Bool) (owner : OwnerIdentity) : RawEventKind :=
  if parseOwnerClaim decodeToSlice (message.claimContext ordinaryMessage) ≠ .notClaim then
    .ownerClaim
  else
    let text := (message.text.getD "").toList
    match privateStartCommand text with
    | .exact =>
      if ordinaryMessage && message.chatKind = "private" && 0 < message.chatId &&
          message.fromUserId.any (0 < ·) then .ownerStart
      else .ignored
    | .malformed => .ignored
    | .notStart =>
      if "/".toList.isPrefixOf (text.dropWhile Text.isWhitespace) &&
          ownerCommandSourceIsAuthorized message ordinaryMessage owner then .ownerCommand
      else .ignored

/-! ## Commands -/

/-- A lower-case hexadecimal digit. -/
def isLowerHex (c : Char) : Bool :=
  (0x30 ≤ c.toNat && c.toNat ≤ 0x39) || (0x61 ≤ c.toNat && c.toNat ≤ 0x66)

/-- The command, a blank, and 64 digits. -/
def IsClaimCommand (cs : List Char) : Prop :=
  ∃ digits, cs = "/claim ".toList ++ digits ∧ digits.length = 64 ∧
    ∀ c ∈ digits, isLowerHex c = true

/-- An ordinary message of a user in a private chat. -/
structure OwnerClaimContext.Valid (context : OwnerClaimContext) : Prop where
  ordinaryMessage : context.ordinaryMessage = true
  privateChat : context.privateChat = true
  fromUserId : ∃ userId, context.fromUserId = some userId ∧ 0 < userId
  chatId : 0 < context.chatId
  messageId : 0 < context.messageId
  messageDate : 0 < context.messageDate

/-- A digit is one byte. -/
theorem utf8EncodeChar_of_isLowerHex {c : Char} (h : isLowerHex c = true) :
    String.utf8EncodeChar c = [UInt8.ofNat c.toNat] := by
  have hcode : c.val.toNat = c.toNat := rfl
  simp only [isLowerHex, Bool.or_eq_true, Bool.and_eq_true, decide_eq_true_eq] at h
  unfold String.utf8EncodeChar
  dsimp only
  rw [hcode, if_pos (by omega)]

/-- The bytes of a character are digits if and only if it is one. -/
theorem isLowerHex_iff (c : Char) :
    isLowerHex c = true ↔ ∀ b ∈ String.utf8EncodeChar c, Hex.isDigit b = true := by
  have hbyte (n : Nat) (hn : n < 256) : Hex.isDigit (UInt8.ofNat n) = true ↔
      0x30 ≤ n ∧ n ≤ 0x39 ∨ 0x61 ≤ n ∧ n ≤ 0x66 := by
    have hvalue : (UInt8.ofNat n).toNat = n := by
      rw [UInt8.toNat_ofNat']
      omega
    simp only [Hex.isDigit, Bool.or_eq_true, Bool.and_eq_true, decide_eq_true_eq,
      UInt8.le_iff_toNat_le, hvalue]
    rfl
  constructor
  · intro h b hb
    rw [utf8EncodeChar_of_isLowerHex h, List.mem_singleton] at hb
    simp only [isLowerHex, Bool.or_eq_true, Bool.and_eq_true, decide_eq_true_eq] at h
    rw [hb, hbyte _ (by omega)]
    exact h
  · intro h
    have hcode : c.val.toNat = c.toNat := rfl
    have hvalid : c.toNat < 0xD800 ∨ 0xDFFF < c.toNat ∧ c.toNat < 0x110000 := c.valid
    unfold String.utf8EncodeChar at h
    dsimp only at h
    rw [hcode] at h
    -- the first byte of a longer character is none of the digits
    split_ifs at h
    · have hdigit := h _ List.mem_cons_self
      rw [hbyte _ (by omega)] at hdigit
      simpa [isLowerHex] using hdigit
    all_goals
      have hdigit := h _ List.mem_cons_self
      rw [hbyte _ (by omega)] at hdigit
      omega

theorem utf8Bytes_digits {cs : List Char} (h : ∀ c ∈ cs, isLowerHex c = true) :
    utf8Bytes cs = cs.map fun c => UInt8.ofNat c.toNat := by
  unfold utf8Bytes
  induction cs with
  | nil => rfl
  | cons c cs ih =>
    obtain ⟨hc, hcs⟩ := List.forall_mem_cons.1 h
    rw [List.flatMap_cons, utf8EncodeChar_of_isLowerHex hc, ih hcs]
    rfl

theorem utf8Bytes_all_digits_iff (cs : List Char) :
    (utf8Bytes cs).all Hex.isDigit = true ↔ ∀ c ∈ cs, isLowerHex c = true := by
  simp only [List.all_eq_true, utf8Bytes, List.mem_flatMap]
  constructor
  · intro h c hc
    exact (isLowerHex_iff c).2 fun b hb => h b ⟨c, hc, hb⟩
  · rintro h b ⟨c, hc, hb⟩
    exact (isLowerHex_iff c).1 (h c hc) b hb

theorem not_isWhitespace_of_isLowerHex {c : Char} (h : isLowerHex c = true) :
    Text.isWhitespace c = false := by
  simp only [isLowerHex, Bool.or_eq_true, Bool.and_eq_true, decide_eq_true_eq] at h
  have hlist : c.toNat ∉ [0x20, 0x85, 0xA0, 0x1680, 0x2028, 0x2029, 0x202F, 0x205F, 0x3000] := by
    simp only [List.mem_cons, List.not_mem_nil, or_false]
    omega
  unfold Text.isWhitespace
  simp only [Bool.or_eq_false_iff, Bool.and_eq_false_iff, decide_eq_false_iff_not,
    List.contains_eq_mem]
  exact ⟨⟨by omega, by omega⟩, hlist⟩

/-- A command has no white space around it. -/
theorem IsClaimCommand.trim {cs : List Char} (h : IsClaimCommand cs) : Text.trim cs = cs := by
  obtain ⟨digits, rfl, hlength, hdigits⟩ := h
  have hstart : ("/claim ".toList ++ digits).dropWhile Text.isWhitespace =
      "/claim ".toList ++ digits := List.dropWhile_cons_of_neg (by decide)
  unfold Text.trim
  rw [hstart, List.rdropWhile_eq_self_iff]
  intro hne
  have hdigitsNe : digits ≠ [] := by
    rintro rfl
    cases hlength
  rw [List.getLast_append_of_ne_nil _ hdigitsNe]
  simp [not_isWhitespace_of_isLowerHex (hdigits _ (List.getLast_mem hdigitsNe))]

variable {decodeToSlice : List UInt8 → Nat → Option (List UInt8)} {context : OwnerClaimContext}
  {text : String}

/-- The token of anything but a command is none, and that of a command is what its digits encode. -/
theorem claimToken_eq_some_iff {cs : List Char} {token : List UInt8} :
    claimToken decodeToSlice cs = some token ↔ ∃ digits, cs = "/claim ".toList ++ digits ∧
      digits.length = 64 ∧ (∀ c ∈ digits, isLowerHex c = true) ∧
      decodeToSlice (utf8Bytes digits) 32 = some token := by
  have hlength {digits : List Char} (h : ∀ c ∈ digits, isLowerHex c = true) :
      (utf8Bytes digits).length = digits.length := by
    rw [utf8Bytes_digits h, List.length_map]
  unfold claimToken
  constructor
  · intro h
    obtain ⟨-, h⟩ := Option.ite_none_left_eq_some.1 h
    obtain ⟨encoded, hencoded, h⟩ := Option.bind_eq_some_iff.1 h
    obtain ⟨start, hcs, hstart⟩ := List.dropPrefix?_eq_some_iff.1 hencoded
    obtain rfl : start = "/claim ".toList := eq_of_beq hstart
    obtain ⟨hdigits, h⟩ := Option.ite_none_left_eq_some.1 h
    simp only [Bool.or_eq_true, decide_eq_true_eq, Bool.not_eq_true', not_or, not_not,
      Bool.not_eq_false, utf8Bytes_all_digits_iff] at hdigits
    refine ⟨encoded, hcs, ?_, hdigits.2, h⟩
    rw [← hlength hdigits.2]
    exact hdigits.1
  · rintro ⟨digits, rfl, hcount, hdigits, hdecode⟩
    have htrim := IsClaimCommand.trim ⟨digits, rfl, hcount, hdigits⟩
    have hdropped : ("/claim ".toList ++ digits).dropPrefix? "/claim ".toList = some digits :=
      List.dropPrefix?_eq_some_iff.2 ⟨_, rfl, beq_self_eq_true _⟩
    have hbytes := (utf8Bytes_all_digits_iff digits).2 hdigits
    rw [if_neg (by rw [htrim]; exact fun hno => hno rfl), hdropped, Option.bind_some,
      if_neg (by simp [hlength hdigits, hcount, hbytes])]
    exact hdecode

/-- A claim that reaches the end of the parser is one of a private chat. -/
theorem parseOwnerClaim_of_claim (decodeToSlice : List UInt8 → Nat → Option (List UInt8))
    (context : OwnerClaimContext) (htext : context.text = some text)
    (hclaim : "/claim".toList.isPrefixOf (Text.trim text.toList) = true) :
    parseOwnerClaim decodeToSlice context = .ignore ∨
      parseOwnerClaim decodeToSlice context = .reject context.chatId ∨
      ∃ userId token, claimToken decodeToSlice text.toList = some token ∧
        parseOwnerClaim decodeToSlice context =
          .candidate userId context.chatId context.messageId context.messageDate token := by
  unfold parseOwnerClaim
  simp only [htext, hclaim, Bool.not_true, Bool.false_eq_true, if_false]
  cases context.fromUserId.filter (0 < ·) with
  | none => exact .inl rfl
  | some userId =>
    dsimp only
    split
    · exact .inl rfl
    · cases htoken : claimToken decodeToSlice text.toList with
      | none => exact .inr (.inl rfl)
      | some token => exact .inr (.inr ⟨userId, token, rfl, rfl⟩)

/-- What is read in a private chat. -/
theorem parseOwnerClaim_valid (h : context.Valid) (htext : context.text = some text)
    {token : List UInt8} (htoken : claimToken decodeToSlice text.toList = some token) :
    ∃ userId, context.fromUserId = some userId ∧ parseOwnerClaim decodeToSlice context =
      .candidate userId context.chatId context.messageId context.messageDate token := by
  obtain ⟨userId, hfrom, hpositive⟩ := h.fromUserId
  obtain ⟨digits, hcs, hcount, hdigits, -⟩ := claimToken_eq_some_iff.1 htoken
  have hclaim : "/claim".toList.isPrefixOf (Text.trim text.toList) = true := by
    rw [IsClaimCommand.trim ⟨digits, hcs, hcount, hdigits⟩, hcs, List.isPrefixOf_iff_prefix]
    exact ⟨' ' :: digits, rfl⟩
  have hchat := h.chatId
  have hmessage := h.messageId
  have hdate := h.messageDate
  refine ⟨userId, hfrom, ?_⟩
  unfold parseOwnerClaim
  simp only [htext, hfrom, hclaim, htoken, Option.filter_some, hpositive, h.ordinaryMessage,
    h.privateChat, Bool.not_true, Bool.false_or, Bool.false_eq_true, decide_true, if_true, if_false]
  rw [if_neg]
  simp only [Bool.or_eq_true, decide_eq_true_eq]
  omega

/-- The digits of a text are its bytes. -/
theorem utf8Bytes_ofDigits {bs : List UInt8} (h : ∀ b ∈ bs, Hex.isDigit b = true) :
    (∀ c ∈ bs.map fun b => Char.ofNat b.toNat, isLowerHex c = true) ∧
      utf8Bytes (bs.map fun b => Char.ofNat b.toNat) = bs := by
  have hvalue (b : UInt8) : (Char.ofNat b.toNat).toNat = b.toNat := by
    have hb := b.toNat_lt
    have hvalid : b.toNat.isValidChar := .inl (by omega)
    rw [Char.ofNat, dif_pos hvalid]
    rfl
  have hlower : ∀ c ∈ bs.map fun b => Char.ofNat b.toNat, isLowerHex c = true := by
    intro c hc
    obtain ⟨b, hb, rfl⟩ := List.mem_map.1 hc
    have hdigit := h b hb
    simp only [Hex.isDigit, Bool.or_eq_true, Bool.and_eq_true, decide_eq_true_eq,
      UInt8.le_iff_toNat_le] at hdigit
    simpa [isLowerHex, hvalue] using hdigit
  refine ⟨hlower, ?_⟩
  rw [utf8Bytes_digits hlower, List.map_map]
  refine (List.map_congr_left fun b _ => ?_).trans (List.map_id bs)
  simp only [Function.comp_apply, hvalue, UInt8.ofNat_toNat]
  rfl

/-- **The claim command is read as it is written.** The file holds a text and a newline, and the
text is read in a private chat as the token it was written for; a text is a candidate there if and
only if it is the command, a blank and 64 lower-case digits. Anywhere, another text that looks like
a claim once it is trimmed is ignored or rejected, and none that does is an event of another kind. -/
theorem claim_command_codec {hexEncode : List UInt8 → List UInt8}
    {decodeToSlice : List UInt8 → Nat → Option (List UInt8)}
    (hhex : Hex.Lawful hexEncode decodeToSlice) :
    (∀ token, token.length = 32 → ∃ text : String,
      ClaimFile.expectedCommand hexEncode token = .ok (utf8Bytes text.toList ++ [10]) ∧
      ∀ context : OwnerClaimContext, context.Valid → context.text = some text →
        ∃ userId, context.fromUserId = some userId ∧ parseOwnerClaim decodeToSlice context =
          .candidate userId context.chatId context.messageId context.messageDate token) ∧
    (∀ (context : OwnerClaimContext) (text : String), context.Valid → context.text = some text →
      ((∃ userId chatId messageId messageDate token, parseOwnerClaim decodeToSlice context =
        .candidate userId chatId messageId messageDate token) ↔ IsClaimCommand text.toList)) ∧
    (∀ (context : OwnerClaimContext) (text : String), context.text = some text →
      "/claim".toList.isPrefixOf (Text.trim text.toList) = true → ¬IsClaimCommand text.toList →
        parseOwnerClaim decodeToSlice context = .ignore ∨
          parseOwnerClaim decodeToSlice context = .reject context.chatId) ∧
    ∀ (message : BotMessage) (ordinaryMessage : Bool) (owner : OwnerIdentity),
      "/claim".toList.isPrefixOf (Text.trim (message.text.getD "").toList) = true →
        botMessageKind decodeToSlice message ordinaryMessage owner = .ownerClaim := by
  refine ⟨fun token hlength => ?_, fun context text hvalid htext => ?_,
    fun context text htext hclaim hno => ?_, fun message ordinaryMessage owner hclaim => ?_⟩
  -- what is written is read back
  · obtain ⟨hdigits, hbytes⟩ := utf8Bytes_ofDigits (hhex.digits_encode token)
    have hcount := hhex.length_encode token
    have hcommand (digits : List Char) : utf8Bytes ("/claim ".toList ++ digits) =
        "/claim ".toList.map (fun c => c.toNat.toUInt8) ++ utf8Bytes digits :=
      List.flatMap_append
    obtain ⟨text, htext⟩ : ∃ text : String, text.toList =
        "/claim ".toList ++ (hexEncode token).map fun b => Char.ofNat b.toNat :=
      ⟨String.ofList _, String.toList_ofList⟩
    refine ⟨text, ?_, fun context hvalid hcontext => parseOwnerClaim_valid hvalid hcontext ?_⟩
    · unfold ClaimFile.expectedCommand
      rw [if_neg (by omega), if_neg (by omega), htext, hcommand, hbytes]
    · refine claimToken_eq_some_iff.2 ⟨_, htext, ?_, hdigits, ?_⟩
      · rw [List.length_map]
        omega
      · rw [hbytes, ← hlength]
        exact hhex.decode_encode token
  -- a candidate is the command, and the command a candidate
  · constructor
    · rintro ⟨userId, chatId, messageId, messageDate, token, hparse⟩
      -- a text that does not look like a claim is none
      by_cases hclaim : "/claim".toList.isPrefixOf (Text.trim text.toList) = true
      · rcases parseOwnerClaim_of_claim decodeToSlice context htext hclaim with
          hignore | hreject | ⟨_, token', htoken, -⟩
        · rw [hignore] at hparse
          cases hparse
        · rw [hreject] at hparse
          cases hparse
        · obtain ⟨digits, hcs, hcount, hdigits, -⟩ := claimToken_eq_some_iff.1 htoken
          exact ⟨digits, hcs, hcount, hdigits⟩
      · unfold parseOwnerClaim at hparse
        simp only [htext, hclaim, Bool.not_false, if_true] at hparse
        cases hparse
    · rintro ⟨digits, hcs, hcount, hdigits⟩
      have hbytes := (utf8Bytes_all_digits_iff digits).2 hdigits
      have hlength : (utf8Bytes digits).length = 2 * 32 := by
        rw [utf8Bytes_digits hdigits, List.length_map, hcount]
      obtain ⟨token, hdecode⟩ := hhex.decode_digits (utf8Bytes digits) 32 hlength
        (List.all_eq_true.1 hbytes)
      obtain ⟨userId, -, hparse⟩ := parseOwnerClaim_valid hvalid htext
        (claimToken_eq_some_iff.2 ⟨digits, hcs, hcount, hdigits, hdecode⟩)
      exact ⟨_, _, _, _, _, hparse⟩
  · rcases parseOwnerClaim_of_claim decodeToSlice context htext hclaim with
      hignore | hreject | ⟨_, token, htoken, -⟩
    · exact .inl hignore
    · exact .inr hreject
    · obtain ⟨digits, hcs, hcount, hdigits, -⟩ := claimToken_eq_some_iff.1 htoken
      exact absurd ⟨digits, hcs, hcount, hdigits⟩ hno
  · have hisClaim :
        parseOwnerClaim decodeToSlice (message.claimContext ordinaryMessage) ≠ .notClaim := by
      intro hno
      rcases parseOwnerClaim_of_claim decodeToSlice (message.claimContext ordinaryMessage) rfl
        hclaim with
        hignore | hreject | ⟨_, token, -, hcandidate⟩
      · rw [hignore] at hno
        cases hno
      · rw [hreject] at hno
        cases hno
      · rw [hcandidate] at hno
        cases hno
    exact if_pos hisClaim

/-- A token of zeros is read back from the file. -/
theorem claim_command_codec_zeros : ∃ text : String,
    ClaimFile.expectedCommand Hex.encode (List.replicate 32 0) =
      .ok (utf8Bytes text.toList ++ [10]) ∧
    parseOwnerClaim Hex.decodeToSlice ⟨true, true, some 7, 7, 1, 1, some text⟩ =
      .candidate 7 7 1 1 (List.replicate 32 0) := by
  have hseven : (0 : Int) < 7 := by omega
  obtain ⟨text, hfile, hread⟩ := (claim_command_codec Hex.lawful).1 (List.replicate 32 0) rfl
  obtain ⟨userId, hfrom, hparse⟩ := hread ⟨true, true, some 7, 7, 1, 1, some text⟩
    ⟨rfl, rfl, ⟨7, rfl, by omega⟩, hseven, Int.one_pos, Int.one_pos⟩ rfl
  obtain rfl : 7 = userId := Option.some.inj hfrom
  exact ⟨text, hfile, hparse⟩

end ChatHygiene
