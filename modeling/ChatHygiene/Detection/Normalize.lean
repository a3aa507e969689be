import ChatHygiene.Lib.Text
import Mathlib.Data.Finset.Sort
import Mathlib.Data.Prod.Lex
import Mathlib.Data.String.Basic
/-!
# Normalisation of a message

What the detector compares: the text of a message, normalised, and the links
found in it and in its entities. The tables of Unicode, regular expressions,
URLs, domain names and hashes belong to other crates and are parameters.
-/

namespace ChatHygiene

namespace Detection

inductive MessageEntityKind where
  | url
  | textLink
  | mention
  | phoneNumber
  | other
  deriving DecidableEq, Repr

structure MessageEntity where
  kind : MessageEntityKind
  value : String
  deriving DecidableEq, Repr

/-- The content of a message, as far as the detector reads it. -/
structure MessageContent where
  text : Option String
  caption : Option String
  entities : List MessageEntity
  deriving DecidableEq, Repr

/-- What the detector asks of a parsed URL. -/
structure ParsedUrl where
  hostStr : Option (List Char)
  path : List Char

/-- What the detector uses of other crates and of the tables of Unicode. -/
structure TextPrimitives where
  nfkc : List Char → List Char
  toLowercase : List Char → List Char
  /-- `URL_RE.find_iter` and `MENTION_RE.find_iter`. -/
  findUrls : List Char → List (List Char)
  findMentions : List Char → List (List Char)
  /-- `is_match` of `EMAIL_RE`, `PHONE_RE`, `MENTION_RE`, `SPACED_WORD_RE` and `WALLET_RE`. -/
  isEmail : List Char → Bool
  isPhone : List Char → Bool
  isMention : List Char → Bool
  isSpacedWord : List Char → Bool
  isWallet : List Char → Bool
  graphemes : List Char → List (List Char)
  /-- `Url::parse`. -/
  parseUrl : List Char → Option ParsedUrl
  domainToAscii : List Char → Option (List Char)
  /-- The digest of SHA-256, in hexadecimal. -/
  sha256 : List UInt8 → String

structure NormalizedLink where
  canonical : String
  domain : String
  telegramInvite : Bool
  deriving DecidableEq, Repr

/-- The derived order: the canonical form first, then the domain, then the flag. -/
def NormalizedLink.key (link : NormalizedLink) : String ×ₗ String ×ₗ Bool :=
  toLex (link.canonical, toLex (link.domain, link.telegramInvite))

theorem NormalizedLink.key_injective : Function.Injective NormalizedLink.key := by
  intro a b h
  obtain ⟨canonical, domain, telegramInvite⟩ := a
  obtain ⟨canonical', domain', telegramInvite'⟩ := b
  simp only [key, toLex_inj, Prod.mk.injEq] at h
  obtain ⟨rfl, rfl, rfl⟩ := h
  rfl

instance : LinearOrder NormalizedLink := LinearOrder.lift' _ NormalizedLink.key_injective

structure NormalizedContent where
  text : List Char
  normalizedHash : String
  links : List NormalizedLink
  evasion : Bool
  contact : Bool
  mentionCount : Nat
  emojiCount : Nat

def isZeroWidth (character : Char) : Bool :=
  [0x200B, 0x200C, 0x200D, 0x2060, 0xFEFF].contains character.toNat

def isLatin (character : Char) : Bool :=
  character.isAlpha || (0x00C0 ≤ character.toNat && character.toNat ≤ 0x024F) ||
    (0x1E00 ≤ character.toNat && character.toNat ≤ 0x1EFF)

def isCyrillic (character : Char) : Bool :=
  (0x0400 ≤ character.toNat && character.toNat ≤ 0x052F) ||
    (0x2DE0 ≤ character.toNat && character.toNat ≤ 0x2DFF) ||
    (0xA640 ≤ character.toNat && character.toNat ≤ 0xA69F)

def isEmoji (character : Char) : Bool :=
  (0x1F300 ≤ character.toNat && character.toNat ≤ 0x1FAFF) ||
    (0x2600 ≤ character.toNat && character.toNat ≤ 0x26FF) ||
    (0x2700 ≤ character.toNat && character.toNat ≤ 0x27BF)

def hasMixedLatinCyrillic (token : List Char) : Bool := token.any isLatin && token.any isCyrillic

/-- `text.contains(needle)`. -/
def containsText (text needle : List Char) : Bool := text.tails.any fun rest => needle.isPrefixOf rest

/-- The text and the caption of a message, one after the other. -/
def MessageContent.source (content : MessageContent) : List Char :=
  ['\n'].intercalate (([content.text, content.caption].filterMap id).map String.toList)

namespace TextPrimitives

variable (p : TextPrimitives)

/-- White space folded into single blanks, in lower case. -/
def fold (cs : List Char) : List Char := p.toLowercase ([' '].intercalate (Text.words cs))

/-- The text that is compared. -/
def normalizedText (content : MessageContent) : List Char :=
  p.fold ((p.nfkc content.source).filter fun character => !isZeroWidth character)

def normalizeLink (raw : List Char) : Option NormalizedLink := do
  let trimmed := raw.rdropWhile ['.', ',', ';', ':', '!', '?', ')', ']', '}'].contains
  let candidate :=
    if "http://".toList.isPrefixOf trimmed || "https://".toList.isPrefixOf trimmed then trimmed
    else "https://".toList ++ trimmed
  let parsed ← p.parseUrl candidate
  let ascii ← p.domainToAscii (← parsed.hostStr)
  let domain := p.toLowercase ascii
  let domain := (domain.dropPrefix? "www.".toList).getD domain
  let path := p.toLowercase parsed.path
  let telegramInvite := domain = "t.me".toList &&
    ("/+".toList.isPrefixOf path || "/joinchat/".toList.isPrefixOf path)
  some ⟨String.ofList (domain ++ parsed.path), String.ofList domain, telegramInvite⟩

def hashContent (text : List Char) (links : List NormalizedLink) : String :=
  p.sha256 (text.flatMap String.utf8EncodeChar ++
    links.flatMap fun link => 10 :: link.canonical.toList.flatMap String.utf8EncodeChar)

/-- The links as they are written, in the text and in the entities. -/
def rawLinks (text : List Char) (entities : List MessageEntity) : List (List Char) :=
  p.findUrls text ++ (entities.filter fun entity =>
    entity.kind = .url || entity.kind = .textLink).map fun entity => entity.value.toList

/-- The links of a message, each once and in order. -/
def links (text : List Char) (entities : List MessageEntity) : List NormalizedLink :=
  ((p.rawLinks text entities).filterMap p.normalizeLink).toFinset.sort

def normalize (content : MessageContent) : NormalizedContent :=
  let text := p.normalizedText content
  let entityMentions := content.entities.countP (·.kind = .mention)
  let entityContact := content.entities.any fun entity =>
    entity.kind = .mention || entity.kind = .phoneNumber
  let links := p.links text content.entities
  { text := text
    normalizedHash := p.hashContent text links
    links := links
    evasion := content.source.any isZeroWidth || (Text.words text).any hasMixedLatinCyrillic ||
      p.isSpacedWord text
    contact := entityContact || p.isEmail text || p.isPhone ([' '] ++ text ++ [' ']) ||
      p.isMention ([' '] ++ text) || containsText text "contact me".toList ||
      containsText text "联系我".toList || containsText text "私聊我".toList
    mentionCount := (p.findMentions text).length + entityMentions
    emojiCount := (p.graphemes text).countP fun grapheme => grapheme.any isEmoji }

end TextPrimitives

end Detection

end ChatHygiene
