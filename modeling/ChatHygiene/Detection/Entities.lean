import ChatHygiene.Detection.Rules
/-!
# Redundant entities

An entity of the kind `Url` adds its value to the links that are found in the
text, as it is written: the text is in lower case and normalised, the value is
not. The entity counts for nothing if and only if its value is read as one of
the links that are there without it.
-/

namespace ChatHygiene

namespace Detection

namespace TextPrimitives

variable (p : TextPrimitives) {content content' : MessageContent} {value : String}

/-- The normal form of a piece of text. -/
def normalForm (cs : List Char) : List Char :=
  p.fold ((p.nfkc cs).filter fun character => !isZeroWidth character)

/-- The value is a piece of the message, and the extractor finds its normal form. -/
structure Matched (content : MessageContent) (value : String) : Prop where
  written : value.toList <:+: content.source
  found : p.normalForm value.toList ∈ p.findUrls (p.normalizedText content)

/-- `content'` is `content` with one more `Url` entity, of any rank. -/
structure AddsUrl (content content' : MessageContent) (value : String) : Prop where
  text : content'.text = content.text
  caption : content'.caption = content.caption
  entities : ∃ before after, content.entities = before ++ after ∧
    content'.entities = before ++ ⟨.url, value⟩ :: after

/-- The entity makes no difference to the links, to the hash and to the score. -/
structure Redundant (content content' : MessageContent) : Prop where
  links : (p.normalize content').links = (p.normalize content).links
  normalizedHash : (p.normalize content').normalizedHash = (p.normalize content).normalizedHash
  score : ∀ (detector : RuleDetector) (context : DetectionContext),
    (detector.detect p content' context).score = (detector.detect p content context).score

variable {p}

theorem mem_links {text : List Char} {entities : List MessageEntity} {link : NormalizedLink} :
    link ∈ p.links text entities ↔ ∃ raw ∈ p.rawLinks text entities, p.normalizeLink raw = some link := by
  rw [links, Finset.mem_sort, List.mem_toFinset, List.mem_filterMap]

/-- Links are a set: those of the same raw links are the same list. -/
theorem links_congr {text : List Char} {entities entities' : List MessageEntity}
    (h : ∀ link, link ∈ p.links text entities ↔ link ∈ p.links text entities') :
    p.links text entities = p.links text entities' := by
  unfold links
  congr 1
  ext link
  rw [List.mem_toFinset, List.mem_filterMap, List.mem_toFinset, List.mem_filterMap]
  have hlink := h link
  rwa [mem_links, mem_links] at hlink

theorem AddsUrl.source (h : AddsUrl content content' value) : content'.source = content.source := by
  unfold MessageContent.source
  rw [h.text, h.caption]

theorem AddsUrl.normalizedText (h : AddsUrl content content' value) :
    p.normalizedText content' = p.normalizedText content := by
  unfold TextPrimitives.normalizedText
  rw [h.source]

/-- The raw links are those there were, and the value. -/
theorem AddsUrl.mem_rawLinks (h : AddsUrl content content' value) (text raw : List Char) :
    raw ∈ p.rawLinks text content'.entities ↔
      raw ∈ p.rawLinks text content.entities ∨ raw = value.toList := by
  obtain ⟨before, after, hentities, hentities'⟩ := h.entities
  rw [rawLinks, rawLinks, hentities, hentities', List.filter_append, List.filter_append,
    List.filter_cons_of_pos (by simp)]
  simp only [List.map_append, List.map_cons, List.mem_append, List.mem_cons]
  tauto

/-- **The links with the entity**: those there were, and the one its value is read as. -/
theorem AddsUrl.mem_links (h : AddsUrl content content' value) (text : List Char)
    (link : NormalizedLink) : link ∈ p.links text content'.entities ↔
      link ∈ p.links text content.entities ∨ p.normalizeLink value.toList = some link := by
  simp only [TextPrimitives.mem_links, h.mem_rawLinks]
  constructor
  · rintro ⟨raw, hraw | rfl, hlink⟩
    · exact .inl ⟨raw, hraw, hlink⟩
    · exact .inr hlink
  · rintro (⟨raw, hraw, hlink⟩ | hlink)
    · exact ⟨raw, .inl hraw, hlink⟩
    · exact ⟨_, .inr rfl, hlink⟩

theorem AddsUrl.links_eq_iff (h : AddsUrl content content' value) (text : List Char) :
    p.links text content'.entities = p.links text content.entities ↔
      ∀ link, p.normalizeLink value.toList = some link → link ∈ p.links text content.entities := by
  constructor
  · intro heq link hlink
    rw [← heq, h.mem_links]
    exact .inr hlink
  · intro hall
    refine links_congr fun link => ?_
    rw [h.mem_links]
    exact ⟨fun hmem => hmem.elim id (hall link), .inl⟩

/-- The rest of what is compared does not depend on the entity. -/
theorem AddsUrl.normalize_eq (h : AddsUrl content content' value)
    (hlinks : p.links (p.normalizedText content) content'.entities =
      p.links (p.normalizedText content) content.entities) :
    p.normalize content' = p.normalize content := by
  obtain ⟨before, after, hentities, hentities'⟩ := h.entities
  have hmentions : content'.entities.countP (·.kind = .mention) =
      content.entities.countP (·.kind = .mention) := by
    rw [hentities, hentities', List.countP_append, List.countP_append,
      List.countP_cons_of_neg (by simp)]
  have hcontact : (content'.entities.any fun entity =>
      entity.kind = .mention || entity.kind = .phoneNumber) =
      content.entities.any fun entity => entity.kind = .mention || entity.kind = .phoneNumber := by
    rw [hentities, hentities', List.any_append, List.any_append, List.any_cons]
    simp
  unfold normalize
  simp only [h.normalizedText, h.source, hlinks, hmentions, hcontact]

/-- A message is judged by what is compared. -/
theorem detect_congr (h : p.normalize content' = p.normalize content) (detector : RuleDetector)
    (context : DetectionContext) :
    detector.detect p content' context = detector.detect p content context := by
  unfold RuleDetector.detect
  rw [h]

/-- **When the entity is redundant.** -/
theorem AddsUrl.redundant_iff (h : AddsUrl content content' value) :
    p.Redundant content content' ↔ ∀ link, p.normalizeLink value.toList = some link →
      ∃ raw ∈ p.rawLinks (p.normalizedText content) content.entities,
        p.normalizeLink raw = some link := by
  have hlinks := h.links_eq_iff (p := p) (p.normalizedText content)
  simp only [TextPrimitives.mem_links] at hlinks
  rw [← hlinks]
  constructor
  · intro hredundant
    have heq := hredundant.links
    simp only [normalize, h.normalizedText] at heq
    exact heq
  · intro heq
    have hsame := h.normalize_eq heq
    exact ⟨by rw [hsame], by rw [hsame], fun detector context => by rw [detect_congr hsame]⟩

end TextPrimitives

section

/-- The other crates on plain ASCII: a link is `https://` and what follows up to a blank, and its
host ends at the first slash. A digest tells texts apart. -/
def plainPrimitives : TextPrimitives where
  nfkc := id
  toLowercase := List.map Char.toLower
  findUrls cs := cs.tails.filterMap fun rest =>
    if "https://".toList.isPrefixOf rest then some (rest.takeWhile fun c => !Text.isWhitespace c)
    else none
  findMentions _ := []
  isEmail _ := false
  isPhone _ := false
  isMention _ := false
  isSpacedWord _ := false
  isWallet _ := false
  graphemes := List.map fun c => [c]
  parseUrl url := (url.dropPrefix? "https://".toList).map fun rest =>
    ⟨some (rest.takeWhile (· ≠ '/')), if '/' ∈ rest then rest.dropWhile (· ≠ '/') else ['/']⟩
  domainToAscii := some
  sha256 bytes := String.ofList (bytes.map fun b => Char.ofNat b.toNat)

/-- A message with a link, and with the entity of that link too. -/
def linked (text value : String) (entity : Bool) : MessageContent :=
  ⟨some text, none, if entity then [⟨.url, value⟩] else []⟩

theorem linked_addsUrl (text value : String) :
    TextPrimitives.AddsUrl (linked text value false) (linked text value true) value :=
  ⟨rfl, rfl, [], [], rfl, rfl⟩

/-- **A link with a capital letter in its path is counted twice**, once as the text has it and once
as its entity does. -/
theorem redundant_entity_capital : ¬ ∀ (p : TextPrimitives) (content content' : MessageContent)
    (value : String), TextPrimitives.AddsUrl content content' value → p.Matched content value →
      p.Redundant content content' := by
  intro hclaim
  have hadds := linked_addsUrl "https://example.com/Path" "https://example.com/Path"
  have hmatched : plainPrimitives.Matched
      (linked "https://example.com/Path" "https://example.com/Path" false)
      "https://example.com/Path" := ⟨⟨[], [], by decide +kernel⟩, by decide +kernel⟩
  have hredundant := (hadds.redundant_iff (p := plainPrimitives)).1 (hclaim _ _ _ _ hadds hmatched)
  have hlink : plainPrimitives.normalizeLink "https://example.com/Path".toList =
      some ⟨"example.com/Path", "example.com", false⟩ := by decide +kernel
  obtain ⟨raw, hraw, hread⟩ := hredundant _ hlink
  have hnone : ∀ raw ∈ plainPrimitives.rawLinks (plainPrimitives.normalizedText
      (linked "https://example.com/Path" "https://example.com/Path" false)) [],
      plainPrimitives.normalizeLink raw ≠
        some ⟨"example.com/Path", "example.com", false⟩ := by decide +kernel
  exact hnone raw hraw hread

end

/-- **When a redundant entity counts for nothing.** For every message, every entity list and every
value of a `Url` entity that is added to it: the links, the hash and the score are as before if and
only if the value is no link, or is read as one of the links that are written in the message
without it; so a value whose normal form is found in the text counts for nothing whenever it is
read as its normal form is. -/
theorem redundant_entity_iff (p : TextPrimitives) (content content' : MessageContent)
    (value : String) (h : TextPrimitives.AddsUrl content content' value) :
    (p.Redundant content content' ↔ p.normalizeLink value.toList = none ∨
      ∃ raw ∈ p.rawLinks (p.normalizedText content) content.entities,
        p.normalizeLink raw = p.normalizeLink value.toList) ∧
    (p.Matched content value →
      p.normalizeLink value.toList = p.normalizeLink (p.normalForm value.toList) →
        p.Redundant content content') := by
  have hiff : p.Redundant content content' ↔ p.normalizeLink value.toList = none ∨
      ∃ raw ∈ p.rawLinks (p.normalizedText content) content.entities,
        p.normalizeLink raw = p.normalizeLink value.toList := by
    rw [h.redundant_iff]
    cases hvalue : p.normalizeLink value.toList with
    | none => simp
    | some link => simp
  refine ⟨hiff, fun hmatched hread => hiff.2 (.inr ⟨_, ?_, hread.symm⟩)⟩
  exact List.mem_append_left _ hmatched.found

/-- The link is written in lower case, so its entity counts for nothing. -/
theorem redundant_entity_iff_lower : plainPrimitives.Redundant
    (linked "See https://example.com" "https://example.com" false)
    (linked "See https://example.com" "https://example.com" true) := by
  have hmatched : plainPrimitives.Matched
      (linked "See https://example.com" "https://example.com" false) "https://example.com" :=
    ⟨⟨"See ".toList, [], by decide +kernel⟩, by decide +kernel⟩
  exact (redundant_entity_iff plainPrimitives _ _ _
    (linked_addsUrl "See https://example.com" "https://example.com")).2 hmatched
      (by decide +kernel)

end Detection

end ChatHygiene
