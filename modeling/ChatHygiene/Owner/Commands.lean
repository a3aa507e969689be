import ChatHygiene.Owner
import ChatHygiene.Owner.Claim
import ChatHygiene.Verification.Codec
/-!
# The text of a command

A command is one word, which a bot's name may follow, and its arguments. Its
reading is a relation between the words of a text and a command, and the
parser computes it.
-/

namespace ChatHygiene

open Text (IsWord words)

/-! ## The parser -/

/-- `str::parse` of a signed integer of so many bits: an optional sign and digits, within the range
of the type. -/
def parseSigned (bits : Nat) : List Char → Option Int
  | '-' :: cs => (parseDigits cs).bind fun n =>
    if n ≤ 2 ^ (bits - 1) then some (-(n : Int)) else none
  | '+' :: cs => (parseDigits cs).bind fun n => if n < 2 ^ (bits - 1) then some (n : Int) else none
  | cs => (parseDigits cs).bind fun n => if n < 2 ^ (bits - 1) then some (n : Int) else none

def normalizedErrorLimit (arguments : List (List Char)) : Except OwnerCommandParseError Nat :=
  if 1 < arguments.length then .error .invalidArguments
  else
    match arguments.head? with
    | none => .ok 10
    | some value =>
      match parseSigned 128 value with
      | none => .ok 10
      | some value => if value ≤ 0 then .ok 10 else .ok (min value 20).toNat

def onePositiveId (arguments : List (List Char)) : Except OwnerCommandParseError Int :=
  match arguments with
  | [argument] =>
    match (parseSigned 64 argument).filter (0 < ·) with
    | some chatId => .ok chatId
    | none => .error .invalidArguments
  | _ => .error .invalidArguments

/-- `split_once('@')`: the name of a command, and the bot that follows it. -/
def splitOnce (token : List Char) : List Char × Option (List Char) :=
  (token.takeWhile (· ≠ '@'), (token.dropWhile (· ≠ '@')).tail?)

/-- The command of a name in lower case and its arguments. -/
def ownerCommandNamed (name : String) (arguments : List (List Char)) :
    Except OwnerCommandParseError OwnerCommand :=
  match name, arguments with
  | "help", [] => .ok .help
  | "health", [] => .ok .health
  | "inspect", arguments => (onePositiveId arguments).map .inspect
  | "reset", arguments => (onePositiveId arguments).map .reset
  | "unblock", arguments => (onePositiveId arguments).map .unblock
  | "dry_run", [argument] =>
    if argument = "on".toList then .ok (.dryRun true)
    else if argument = "off".toList then .ok (.dryRun false)
    else .error .invalidArguments
  | "errors", arguments => (normalizedErrorLimit arguments).map .errors
  | "mark_spam", [] => .ok .markSpam
  | "mark_ham", [] => .ok .markHam
  | "help", _ | "health", _ | "dry_run", _ | "mark_spam", _ | "mark_ham", _ =>
    .error .invalidArguments
  | _, _ => .error .unknown

/-- `parse_owner_command`. -/
def parseOwnerCommand (input : List Char) : Except OwnerCommandParseError OwnerCommand :=
  match words input with
  | ('/' :: token) :: arguments =>
    let (name, suffix) := splitOnce token
    if suffix.any fun suffix => suffix = [] || !suffix.all isUsernameChar then
      .error .invalidSuffix
    else ownerCommandNamed (String.ofList (name.map Char.toLower)) arguments
  | _ => .error .missingPrefix

/-! ## What a text asks for -/

/-- A positive number within the range, with or without a sign. -/
def Positive (bits : Nat) (cs : List Char) (n : Int) : Prop :=
  ∃ digits, digits ≠ [] ∧ (∀ c ∈ digits, c.isDigit = true) ∧ (cs = digits ∨ cs = '+' :: digits) ∧
    (Nat.ofDigitChars 10 digits 0 : Int) = n ∧ 0 < n ∧ n < 2 ^ (bits - 1)

/-- How many errors are asked for: 10, or as many as an only argument says, up to 20. -/
def Limit (arguments : List (List Char)) (limit : Nat) : Prop :=
  (arguments = [] ∧ limit = 10) ∨ ∃ a, arguments = [a] ∧
    ((∃ n, Positive 128 a n ∧ limit = (min n 20).toNat) ∨
      (∀ n, ¬Positive 128 a n) ∧ limit = 10)

/-- What a keyword and its arguments ask for. -/
def Asked (name : String) (arguments : List (List Char)) : OwnerCommand → Prop
  | .help => name = "help" ∧ arguments = []
  | .health => name = "health" ∧ arguments = []
  | .inspect chatId => name = "inspect" ∧ ∃ a, arguments = [a] ∧ Positive 64 a chatId
  | .reset chatId => name = "reset" ∧ ∃ a, arguments = [a] ∧ Positive 64 a chatId
  | .unblock chatId => name = "unblock" ∧ ∃ a, arguments = [a] ∧ Positive 64 a chatId
  | .dryRun enabled =>
    name = "dry_run" ∧ arguments = [if enabled then "on".toList else "off".toList]
  | .errors limit => name = "errors" ∧ Limit arguments limit
  | .markSpam => name = "mark_spam" ∧ arguments = []
  | .markHam => name = "mark_ham" ∧ arguments = []

/-- The keywords of the commands. -/
def keywords : List String :=
  ["help", "health", "inspect", "reset", "unblock", "dry_run", "errors", "mark_spam", "mark_ham"]

/-- The bot a command may name. -/
def IsBotSuffix (cs : List Char) : Prop :=
  cs = [] ∨ ∃ bot, bot ≠ [] ∧ (∀ c ∈ bot, isUsernameChar c = true) ∧ cs = '@' :: bot

/-- The text asks for the command. -/
def Requests (input : List Char) (command : OwnerCommand) : Prop :=
  ∃ name suffix arguments, words input = ('/' :: (name ++ suffix)) :: arguments ∧ '@' ∉ name ∧
    IsBotSuffix suffix ∧ Asked (String.ofList (name.map Char.toLower)) arguments command

/-! ## Numbers -/

variable {bits : Nat} {cs : List Char}

theorem parseDigits_eq_some_iff {n : Nat} : parseDigits cs = some n ↔
    cs ≠ [] ∧ (∀ c ∈ cs, c.isDigit = true) ∧ Nat.ofDigitChars 10 cs 0 = n := by
  unfold parseDigits
  rw [Option.ite_none_right_eq_some, List.all_eq_true, Option.some.injEq, and_assoc]

/-- A number that starts with a digit has no sign. -/
theorem parseSigned_of_digits (h : ∀ c ∈ cs, c.isDigit = true) : parseSigned bits cs =
    (parseDigits cs).bind fun n => if n < 2 ^ (bits - 1) then some (n : Int) else none := by
  unfold parseSigned
  split
  · next cs =>
    have hminus := h '-' List.mem_cons_self
    cases hminus
  · next cs =>
    have hplus := h '+' List.mem_cons_self
    cases hplus
  · rfl

/-- **A positive number is one that the parser takes.** -/
theorem positive_iff {n : Int} : Positive bits cs n ↔ parseSigned bits cs = some n ∧ 0 < n := by
  have hbound (m : Nat) : (m : Int) < 2 ^ (bits - 1) ↔ m < 2 ^ (bits - 1) := by
    rw [← Int.ofNat_lt, Nat.cast_pow]
    rfl
  constructor
  · rintro ⟨digits, hne, hdigits, hcs, rfl, hpos, hlt⟩
    have hdigits' : parseDigits digits = some (Nat.ofDigitChars 10 digits 0) :=
      parseDigits_eq_some_iff.2 ⟨hne, hdigits, rfl⟩
    have hbelow := (hbound _).1 hlt
    refine ⟨?_, hpos⟩
    rcases hcs with rfl | rfl
    · rw [parseSigned_of_digits hdigits, hdigits', Option.bind_some, if_pos hbelow]
    · simp only [parseSigned, hdigits', Option.bind_some, if_pos hbelow]
  · rintro ⟨hparse, hpos⟩
    unfold parseSigned at hparse
    split at hparse
    · next digits =>
      obtain ⟨m, -, hm⟩ := Option.bind_eq_some_iff.1 hparse
      obtain ⟨-, rfl⟩ := Option.ite_none_right_eq_some.1 hm |>.imp id Option.some.inj
      omega
    · next digits =>
      obtain ⟨m, hdigits, hm⟩ := Option.bind_eq_some_iff.1 hparse
      obtain ⟨hlt, rfl⟩ := Option.ite_none_right_eq_some.1 hm |>.imp id Option.some.inj
      obtain ⟨hne, hall, rfl⟩ := parseDigits_eq_some_iff.1 hdigits
      exact ⟨digits, hne, hall, .inr rfl, rfl, hpos, (hbound _).2 hlt⟩
    · obtain ⟨m, hdigits, hm⟩ := Option.bind_eq_some_iff.1 hparse
      obtain ⟨hlt, rfl⟩ := Option.ite_none_right_eq_some.1 hm |>.imp id Option.some.inj
      obtain ⟨hne, hall, rfl⟩ := parseDigits_eq_some_iff.1 hdigits
      exact ⟨_, hne, hall, .inl rfl, rfl, hpos, (hbound _).2 hlt⟩

theorem Positive.unique {m n : Int} (hm : Positive bits cs m) (hn : Positive bits cs n) : m = n :=
  Option.some.inj ((positive_iff.1 hm).1.symm.trans (positive_iff.1 hn).1)

/-- The numeral of a number is read as it. -/
theorem positive_toDigits {n : Nat} (hpos : 0 < n) (hlt : n < 2 ^ (bits - 1)) :
    Positive bits (Nat.toDigits 10 n) n := by
  refine ⟨Nat.toDigits 10 n, Nat.toDigits_ne_nil, fun c hc => ?_, .inl rfl, ?_, by omega, ?_⟩
  · exact Nat.isDigit_of_mem_toDigits (by omega) (by omega) hc
  · rw [Nat.ofDigitChars_ten_toDigits]
  · rw [← Int.ofNat_lt, Nat.cast_pow] at hlt
    exact hlt

variable {arguments : List (List Char)} {command : OwnerCommand}

theorem onePositiveId_ok_iff {chatId : Int} : onePositiveId arguments = .ok chatId ↔
    ∃ a, arguments = [a] ∧ Positive 64 a chatId := by
  unfold onePositiveId
  split
  · next a =>
    cases hid : (parseSigned 64 a).filter (0 < ·) with
    | none =>
      constructor
      · nofun
      · rintro ⟨b, hab, hpositive⟩
        obtain rfl := List.cons.inj hab |>.1
        obtain ⟨hparse, hpos⟩ := positive_iff.1 hpositive
        rw [hparse, Option.filter_some, if_pos (decide_eq_true hpos)] at hid
        cases hid
    | some chatId' =>
      obtain ⟨hparse, hpos⟩ := Option.filter_eq_some_iff.1 hid
      have hpositive : Positive 64 a chatId' := positive_iff.2 ⟨hparse, of_decide_eq_true hpos⟩
      constructor
      · rintro h
        obtain rfl := Except.ok.inj h
        exact ⟨a, rfl, hpositive⟩
      · rintro ⟨b, hab, hb⟩
        obtain rfl := List.cons.inj hab |>.1
        rw [hb.unique hpositive]
  · next hne =>
    constructor
    · nofun
    · rintro ⟨a, rfl, -⟩
      exact absurd rfl (hne a)

theorem normalizedErrorLimit_ok_iff {limit : Nat} :
    normalizedErrorLimit arguments = .ok limit ↔ Limit arguments limit := by
  unfold normalizedErrorLimit Limit
  match arguments with
  | [] => simp [eq_comm]
  | [a] =>
    dsimp only [List.length_singleton, List.head?_cons]
    rw [if_neg (by omega)]
    simp only [List.cons_ne_nil, false_and, false_or, List.cons.injEq, and_true, exists_eq_left']
    cases hparse : parseSigned 128 a with
    | none =>
      have hno : ∀ n, ¬Positive 128 a n := by
        intro n hpositive
        rw [(positive_iff.1 hpositive).1] at hparse
        cases hparse
      simp [hno, eq_comm]
    | some value =>
      dsimp only
      by_cases hpos : 0 < value
      · have hpositive : Positive 128 a value := positive_iff.2 ⟨hparse, hpos⟩
        have hunique (n : Int) : Positive 128 a n ↔ n = value :=
          ⟨fun h => h.unique hpositive, fun h => h ▸ hpositive⟩
        rw [if_neg (by omega)]
        simp [hunique, eq_comm]
      · have hno : ∀ n, ¬Positive 128 a n := by
          intro n hpositive
          obtain ⟨hsame, hn⟩ := positive_iff.1 hpositive
          have hvalue : value = n := Option.some.inj (hparse.symm.trans hsame)
          omega
        rw [if_pos (by omega)]
        simp [hno, eq_comm]
  | _ :: _ :: _ => simp

/-! ## Commands -/

theorem map_eq_ok_iff {α β ε : Type} {x : Except ε α} {f : α → β} {b : β} :
    x.map f = .ok b ↔ ∃ a, x = .ok a ∧ f a = b := by
  cases x with
  | error e => simp [Except.map]
  | ok a => simp [Except.map]

/-- **The keyword and the arguments are read as what they ask for.** -/
theorem ownerCommandNamed_ok_iff {name : String} :
    ownerCommandNamed name arguments = .ok command ↔ Asked name arguments command := by
  unfold ownerCommandNamed
  constructor
  · intro h
    split at h
    any_goals
      obtain rfl := Except.ok.inj h
      exact ⟨rfl, rfl⟩
    · obtain ⟨chatId, hid, rfl⟩ := map_eq_ok_iff.1 h
      exact ⟨rfl, onePositiveId_ok_iff.1 hid⟩
    · obtain ⟨chatId, hid, rfl⟩ := map_eq_ok_iff.1 h
      exact ⟨rfl, onePositiveId_ok_iff.1 hid⟩
    · obtain ⟨chatId, hid, rfl⟩ := map_eq_ok_iff.1 h
      exact ⟨rfl, onePositiveId_ok_iff.1 hid⟩
    · split_ifs at h with hon hoff
      · obtain rfl := Except.ok.inj h
        exact ⟨rfl, by rw [hon]; rfl⟩
      · obtain rfl := Except.ok.inj h
        exact ⟨rfl, by rw [hoff]; rfl⟩
    · obtain ⟨limit, hlimit, rfl⟩ := map_eq_ok_iff.1 h
      exact ⟨rfl, normalizedErrorLimit_ok_iff.1 hlimit⟩
    all_goals cases h
  · intro h
    cases command with
    | help | health | markSpam | markHam =>
      obtain ⟨rfl, rfl⟩ := h
      rfl
    | inspect chatId | reset chatId | unblock chatId =>
      obtain ⟨rfl, hid⟩ := h
      exact map_eq_ok_iff.2 ⟨chatId, onePositiveId_ok_iff.2 hid, rfl⟩
    | dryRun enabled =>
      obtain ⟨rfl, rfl⟩ := h
      cases enabled <;> rfl
    | errors limit =>
      obtain ⟨rfl, hlimit⟩ := h
      exact map_eq_ok_iff.2 ⟨limit, normalizedErrorLimit_ok_iff.2 hlimit, rfl⟩

/-- A token is its name and, after the first `@`, the bot it names. -/
theorem splitOnce_eq_iff {token name : List Char} {suffix : Option (List Char)} :
    splitOnce token = (name, suffix) ↔
      '@' ∉ name ∧ token = name ++ suffix.elim [] ('@' :: ·) := by
  unfold splitOnce
  rw [Prod.mk.injEq]
  constructor
  · rintro ⟨rfl, rfl⟩
    refine ⟨fun hmem => ?_, ?_⟩
    · have hne := List.mem_takeWhile_imp hmem
      simp at hne
    · conv_lhs => rw [← List.takeWhile_append_dropWhile (p := (· ≠ '@')) (l := token)]
      congr 1
      cases hdrop : token.dropWhile (· ≠ '@') with
      | nil => rfl
      | cons c rest =>
        have hhead := List.head?_dropWhile_not (fun c : Char => decide (c ≠ '@')) token
        rw [hdrop, List.head?_cons] at hhead
        obtain rfl : c = '@' := by simpa using hhead
        rfl
  · rintro ⟨hno, rfl⟩
    have hall : ∀ c ∈ name, decide (c ≠ '@') = true := by
      intro c hc
      simp only [ne_eq, decide_not, Bool.not_eq_true', decide_eq_false_iff_not]
      rintro rfl
      exact hno hc
    rw [List.takeWhile_append_of_pos hall, List.dropWhile_append_of_pos hall]
    cases suffix <;> simp

variable {input name suffix : List Char}

/-- A text whose first word is well formed is read by its name and its arguments. -/
theorem parseOwnerCommand_of_words (hwords : words input = ('/' :: (name ++ suffix)) :: arguments)
    (hno : '@' ∉ name) (hsuffix : IsBotSuffix suffix) : parseOwnerCommand input =
      ownerCommandNamed (String.ofList (name.map Char.toLower)) arguments := by
  unfold parseOwnerCommand
  rw [hwords]
  rcases hsuffix with rfl | ⟨bot, hne, hbot, rfl⟩
  · have hsplit : splitOnce (name ++ []) = (name, none) := splitOnce_eq_iff.2 ⟨hno, rfl⟩
    simp only [hsplit, Option.any_none, Bool.false_eq_true, if_false]
  · have hsplit : splitOnce (name ++ '@' :: bot) = (name, some bot) :=
      splitOnce_eq_iff.2 ⟨hno, rfl⟩
    have hvalid : bot.all isUsernameChar = true := List.all_eq_true.2 hbot
    simp only [hsplit, Option.any_some, hne, hvalid, decide_false, Bool.not_true, Bool.or_self,
      Bool.false_eq_true, if_false]

/-- The first word of a text is well formed, or the text is refused for it. -/
theorem parseOwnerCommand_words (input : List Char) :
    (∃ name suffix arguments, words input = ('/' :: (name ++ suffix)) :: arguments ∧ '@' ∉ name ∧
      IsBotSuffix suffix) ∨
    parseOwnerCommand input = .error .invalidSuffix ∨
      parseOwnerCommand input = .error .missingPrefix := by
  unfold parseOwnerCommand
  split
  · next token arguments hwords =>
    obtain ⟨name, suffix, hsplit⟩ : ∃ name suffix, splitOnce token = (name, suffix) := ⟨_, _, rfl⟩
    obtain ⟨hno, rfl⟩ := splitOnce_eq_iff.1 hsplit
    simp only [hsplit]
    split_ifs with hsuffix
    · exact .inr (.inl rfl)
    refine .inl ⟨name, _, arguments, hwords, hno, ?_⟩
    cases suffix with
    | none => exact .inl rfl
    | some bot =>
      rw [Option.any_some, Bool.or_eq_true, not_or] at hsuffix
      exact .inr ⟨bot, by simpa using hsuffix.1, by simpa using hsuffix.2, rfl⟩
  · exact .inr (.inr rfl)

/-- **A text is read as a command if and only if it requests it.** -/
theorem parseOwnerCommand_ok_iff :
    parseOwnerCommand input = .ok command ↔ Requests input command := by
  constructor
  · intro h
    rcases parseOwnerCommand_words input with
      ⟨name, suffix, arguments, hwords, hno, hsuffix⟩ | hbad | hbad
    · rw [parseOwnerCommand_of_words hwords hno hsuffix, ownerCommandNamed_ok_iff] at h
      exact ⟨name, suffix, arguments, hwords, hno, hsuffix, h⟩
    · rw [hbad] at h
      cases h
    · rw [hbad] at h
      cases h
  · rintro ⟨name, suffix, arguments, hwords, hno, hsuffix, hasked⟩
    rw [parseOwnerCommand_of_words hwords hno hsuffix, ownerCommandNamed_ok_iff]
    exact hasked

theorem onePositiveId_ne_unknown : onePositiveId arguments ≠ .error .unknown := by
  unfold onePositiveId
  split
  · split <;> nofun
  · nofun

theorem normalizedErrorLimit_ne_unknown : normalizedErrorLimit arguments ≠ .error .unknown := by
  unfold normalizedErrorLimit
  split_ifs
  · nofun
  · split
    · nofun
    · split
      · nofun
      · split_ifs <;> nofun

/-- **A command is unknown if and only if its name is no keyword**, whatever its arguments. -/
theorem ownerCommandNamed_unknown_iff {name : String} :
    ownerCommandNamed name arguments = .error .unknown ↔ name ∉ keywords := by
  have hmap {α : Type} {x : Except OwnerCommandParseError α} {f : α → OwnerCommand}
      (hx : x ≠ .error .unknown) : x.map f ≠ .error .unknown := by
    intro h
    cases x with
    | error e => exact hx (congrArg _ (Except.error.inj h))
    | ok a => cases h
  unfold ownerCommandNamed
  split
  any_goals simp [keywords]
  · exact hmap onePositiveId_ne_unknown
  · exact hmap onePositiveId_ne_unknown
  · exact hmap onePositiveId_ne_unknown
  · split_ifs <;> nofun
  · exact hmap normalizedErrorLimit_ne_unknown
  · simp_all

/-! ## The codec -/

/-- The ids of a command are positive and fit, and it lists 1 to 20 errors. -/
def OwnerCommand.Bounded : OwnerCommand → Prop
  | .inspect chatId | .reset chatId | .unblock chatId => 0 < chatId ∧ chatId < 2 ^ 63
  | .errors limit => 1 ≤ limit ∧ limit ≤ 20
  | .help | .health | .dryRun _ | .markSpam | .markHam => True

/-- The keyword of a command. -/
def OwnerCommand.keyword : OwnerCommand → String
  | .help => "help"
  | .health => "health"
  | .inspect _ => "inspect"
  | .reset _ => "reset"
  | .unblock _ => "unblock"
  | .dryRun _ => "dry_run"
  | .errors _ => "errors"
  | .markSpam => "mark_spam"
  | .markHam => "mark_ham"

/-- The arguments of a command. -/
def OwnerCommand.operands : OwnerCommand → List (List Char)
  | .inspect chatId | .reset chatId | .unblock chatId => [Nat.toDigits 10 chatId.toNat]
  | .dryRun enabled => [if enabled then "on".toList else "off".toList]
  | .errors limit => [Nat.toDigits 10 limit]
  | .help | .health | .markSpam | .markHam => []

theorem Limit.bounded {limit : Nat} (h : Limit arguments limit) : 1 ≤ limit ∧ limit ≤ 20 := by
  rcases h with ⟨-, rfl⟩ | ⟨a, -, ⟨n, hpositive, rfl⟩ | ⟨-, rfl⟩⟩
  · omega
  · obtain ⟨-, hpos⟩ := positive_iff.1 hpositive
    omega
  · omega

theorem Positive.bounded {a : List Char} {n : Int} (h : Positive 64 a n) : 0 < n ∧ n < 2 ^ 63 := by
  obtain ⟨-, -, -, -, -, hbounds⟩ := h
  exact hbounds

theorem Asked.bounded {name : String} (h : Asked name arguments command) : command.Bounded := by
  cases command with
  | inspect chatId | reset chatId | unblock chatId =>
    obtain ⟨-, a, -, hpositive⟩ := h
    exact hpositive.bounded
  | errors limit => exact h.2.bounded
  | _ => trivial

/-- A command is asked for with its own keyword and arguments. -/
theorem OwnerCommand.Bounded.asked (h : command.Bounded) :
    Asked command.keyword command.operands command := by
  have hid {chatId : Int} (hpos : 0 < chatId) (hlt : chatId < 2 ^ 63) :
      ∃ a, [Nat.toDigits 10 chatId.toNat] = [a] ∧ Positive 64 a chatId := by
    have hpositive : Positive 64 (Nat.toDigits 10 chatId.toNat) (chatId.toNat : Int) :=
      positive_toDigits (by omega) (by omega)
    rw [Int.toNat_of_nonneg (by omega)] at hpositive
    exact ⟨_, rfl, hpositive⟩
  cases command with
  | inspect chatId | reset chatId | unblock chatId => exact ⟨rfl, hid h.1 h.2⟩
  | errors limit =>
    obtain ⟨hlow, hhigh⟩ := h
    have hpositive : Positive 128 (Nat.toDigits 10 limit) limit :=
      positive_toDigits (by omega) (by omega)
    refine ⟨rfl, .inr ⟨_, rfl, .inl ⟨limit, hpositive, ?_⟩⟩⟩
    omega
  | dryRun enabled => exact ⟨rfl, rfl⟩
  | _ => exact ⟨rfl, rfl⟩

theorem OwnerCommand.keyword_mem (command : OwnerCommand) : command.keyword ∈ keywords := by
  cases command <;> simp [keyword, keywords]

/-- A keyword names no bot, is in lower case, and is a word after a slash. -/
theorem keyword_plain : ∀ k ∈ keywords, '@' ∉ k.toList ∧
    String.ofList (k.toList.map Char.toLower) = k ∧
    ∀ c ∈ '/' :: k.toList, Text.isWhitespace c = false := by
  intro k hk
  have hname : '@' ∉ k.toList := by
    revert k
    decide
  have hlower : String.ofList (k.toList.map Char.toLower) = k := by
    revert k
    decide
  have hsolid : ∀ c ∈ '/' :: k.toList, Text.isWhitespace c = false := by
    revert k
    simp [keywords, Text.isWhitespace]
  exact ⟨hname, hlower, hsolid⟩

/-- The words of a command can be written down. -/
theorem OwnerCommand.exists_words (command : OwnerCommand) : ∃ input,
    words input = ('/' :: (command.keyword.toList ++ [])) :: command.operands := by
  have hkeyword : IsWord ('/' :: command.keyword.toList) :=
    ⟨by simp, (keyword_plain _ command.keyword_mem).2.2⟩
  have hone {a : List Char} (ha : IsWord a) (hoperands : command.operands = [a]) :
      ∃ input, words input = ('/' :: (command.keyword.toList ++ [])) :: command.operands := by
    refine ⟨('/' :: command.keyword.toList) ++ ' ' :: a, ?_⟩
    rw [Text.words_append_space hkeyword, Text.words_of_isWord ha, List.append_nil, hoperands]
  have hnone (hoperands : command.operands = []) :
      ∃ input, words input = ('/' :: (command.keyword.toList ++ [])) :: command.operands := by
    refine ⟨'/' :: command.keyword.toList, ?_⟩
    rw [Text.words_of_isWord hkeyword, List.append_nil, hoperands]
  cases command with
  | inspect chatId | reset chatId | unblock chatId | errors limit =>
    exact hone (Text.isWord_toDigits _) rfl
  | dryRun enabled =>
    refine hone ⟨?_, ?_⟩ rfl
    · cases enabled <;> simp
    · cases enabled <;> simp [Text.isWhitespace]
  | _ => exact hnone rfl

/-- **Commands are read as they are asked for.** A text is read as a command if and only if it
requests it: a slash and the keyword, in any case, with or without a bot's name, and the arguments
in numbers the type holds. What can be asked for is exactly the bounded commands, each of them in
its own words however they are spaced; and a text is of an unknown command if and only if its first
word is well formed and its name no keyword. -/
theorem owner_command_codec :
    (∀ input command, parseOwnerCommand input = .ok command ↔ Requests input command) ∧
    (∀ command : OwnerCommand, (∃ input, parseOwnerCommand input = .ok command) ↔
      command.Bounded) ∧
    (∀ (command : OwnerCommand) bot input, command.Bounded → IsBotSuffix bot →
      words input = ('/' :: (command.keyword.toList ++ bot)) :: command.operands →
        parseOwnerCommand input = .ok command) ∧
    ∀ input, parseOwnerCommand input = .error .unknown ↔
      ∃ name bot arguments, words input = ('/' :: (name ++ bot)) :: arguments ∧ '@' ∉ name ∧
        IsBotSuffix bot ∧ String.ofList (name.map Char.toLower) ∉ keywords := by
  have hread (command : OwnerCommand) (bot input : List Char) (h : command.Bounded)
      (hbot : IsBotSuffix bot)
      (hwords : words input = ('/' :: (command.keyword.toList ++ bot)) :: command.operands) :
      parseOwnerCommand input = .ok command := by
    obtain ⟨hno, hlower, -⟩ := keyword_plain _ command.keyword_mem
    refine parseOwnerCommand_ok_iff.2 ⟨_, bot, _, hwords, hno, hbot, ?_⟩
    rw [hlower]
    exact h.asked
  refine ⟨fun input command => parseOwnerCommand_ok_iff, fun command => ⟨?_, fun h => ?_⟩, hread,
    fun input => ⟨fun h => ?_, ?_⟩⟩
  · rintro ⟨input, hparse⟩
    obtain ⟨name, suffix, arguments, -, -, -, hasked⟩ := parseOwnerCommand_ok_iff.1 hparse
    exact hasked.bounded
  · obtain ⟨input, hwords⟩ := command.exists_words
    exact ⟨input, hread command [] input h (.inl rfl) hwords⟩
  · rcases parseOwnerCommand_words input with
      ⟨name, suffix, arguments, hwords, hno, hsuffix⟩ | hbad | hbad
    · rw [parseOwnerCommand_of_words hwords hno hsuffix, ownerCommandNamed_unknown_iff] at h
      exact ⟨name, suffix, arguments, hwords, hno, hsuffix, h⟩
    · rw [hbad] at h
      cases h
    · rw [hbad] at h
      cases h
  · rintro ⟨name, bot, arguments, hwords, hno, hbot, hunknown⟩
    rw [parseOwnerCommand_of_words hwords hno hbot, ownerCommandNamed_unknown_iff]
    exact hunknown

end ChatHygiene
