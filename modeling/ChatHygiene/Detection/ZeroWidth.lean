import ChatHygiene.Detection.Entities
import ChatHygiene.Lib.Normalization
/-!
# Zero-width characters

A message is normalised before its zero-width characters are stripped, so that
one between two characters that compose keeps them apart for good. Inserting
such characters cuts the stretches of the message in pieces, and is without
effect where nothing moves or composes across a cut.
-/

namespace ChatHygiene

namespace Detection

open UnicodeData (parts AtCuts)

/-- Zero-width characters are inserted, at any positions. -/
inductive Inserted : List Char → List Char → Prop where
  | nil : Inserted [] []
  | keep {cs ds : List Char} (c : Char) (h : Inserted cs ds) : Inserted (c :: cs) (c :: ds)
  | insert {cs ds : List Char} (z : Char) (hz : isZeroWidth z = true) (h : Inserted cs ds) :
      Inserted cs (z :: ds)

theorem Inserted.append {cs cs' ds ds' : List Char} (h : Inserted cs ds) (h' : Inserted cs' ds') :
    Inserted (cs ++ cs') (ds ++ ds') := by
  induction h with
  | nil => exact h'
  | keep c _ ih => exact .keep c ih
  | insert z hz _ ih => exact .insert z hz ih

/-- The stretches of a text between its zero-width characters are cut in pieces, those of another
one. -/
structure Cuts (cs ds : List Char) (groups : List (List (List Char))) : Prop where
  whole : groups.map List.flatten = parts isZeroWidth cs
  pieces : groups.flatten = parts isZeroWidth ds

/-- **What is inserted cuts a text in pieces.** -/
theorem Inserted.cuts {cs ds : List Char} (h : Inserted cs ds) :
    ∃ piece group groups, Cuts cs ds ((piece :: group) :: groups) := by
  induction h with
  | nil => exact ⟨[], [], [], rfl, rfl⟩
  | @keep cs ds c _ ih =>
    obtain ⟨piece, group, groups, hwhole, hpieces⟩ := ih
    unfold parts at hwhole hpieces
    cases hc : isZeroWidth c with
    | true =>
      refine ⟨[], [], (piece :: group) :: groups, ?_, ?_⟩
      · rw [parts, List.splitOnP_cons_eq_if_modifyHead, if_pos hc, ← hwhole]
        rfl
      · rw [parts, List.splitOnP_cons_eq_if_modifyHead, if_pos hc, ← hpieces]
        rfl
    | false =>
      refine ⟨c :: piece, group, groups, ?_, ?_⟩
      · rw [parts, List.splitOnP_cons_eq_if_modifyHead, if_neg (by simp [hc]), ← hwhole]
        rfl
      · rw [parts, List.splitOnP_cons_eq_if_modifyHead, if_neg (by simp [hc]), ← hpieces]
        rfl
  | @insert cs ds z hz _ ih =>
    obtain ⟨piece, group, groups, hwhole, hpieces⟩ := ih
    unfold parts at hpieces
    refine ⟨[], piece :: group, groups, hwhole, ?_⟩
    rw [parts, List.splitOnP_cons_eq_if_modifyHead, if_pos hz, ← hpieces]
    rfl

/-- Zero-width characters are inserted into the text and the caption of a message. -/
structure Evades (content altered : MessageContent) : Prop where
  text : Option.Rel (fun a b : String => Inserted a.toList b.toList) content.text altered.text
  caption : Option.Rel (fun a b : String => Inserted a.toList b.toList)
    content.caption altered.caption
  entities : altered.entities = content.entities

/-- They are inserted into the source of the message. -/
theorem Evades.source {content altered : MessageContent} (h : Evades content altered) :
    Inserted content.source altered.source := by
  obtain ⟨text, caption, entities⟩ := content
  obtain ⟨text', caption', entities'⟩ := altered
  obtain ⟨htext, hcaption, -⟩ := h
  unfold MessageContent.source
  cases htext with
  | none =>
    cases hcaption with
    | none => exact .nil
    | some hcaption => simpa using hcaption
  | some htext =>
    cases hcaption with
    | none => simpa using htext
    | some hcaption =>
      have hjoined (a b : String) : ['\n'].intercalate
          (([some a, some b].filterMap id).map String.toList) = a.toList ++ ('\n' :: b.toList) := by
        simp [List.intercalate]
      rw [hjoined, hjoined]
      exact htext.append (.keep _ hcaption)

/-- The message is taken for the one it was made of. -/
structure Neutralised (p : TextPrimitives) (content altered : MessageContent) : Prop where
  text : (p.normalize altered).text = (p.normalize content).text
  links : (p.normalize altered).links = (p.normalize content).links
  normalizedHash : (p.normalize altered).normalizedHash = (p.normalize content).normalizedHash

variable {p : TextPrimitives} {u : UnicodeData} {content altered : MessageContent}

/-- The text decides. -/
theorem neutralised_of_text (hentities : altered.entities = content.entities)
    (htext : p.normalizedText altered = p.normalizedText content) :
    Neutralised p content altered := by
  constructor
  · exact htext
  · simp only [TextPrimitives.normalize, htext, hentities]
  · simp only [TextPrimitives.normalize, htext, hentities]

/-- The text of a message without its zero-width characters, before white space and case are
folded. -/
def TextPrimitives.withoutZeroWidth (p : TextPrimitives) (content : MessageContent) : List Char :=
  (p.nfkc content.source).filter fun character => !isZeroWidth character

/-- It comes of the stretches of the message. -/
theorem withoutZeroWidth_eq (hdata : u.Apart isZeroWidth) (hnfkc : p.nfkc = u.nfkc)
    (content : MessageContent) :
    p.withoutZeroWidth content = (parts isZeroWidth content.source).flatMap u.nfkc := by
  unfold TextPrimitives.withoutZeroWidth
  rw [hnfkc, hdata.filter_nfkc]

section

/-- The data of an e with an acute accent; any other character is by itself. -/
def acuteData : UnicodeData where
  decompose c := if c.toNat = 0xE9 then ['e', Char.ofNat 0x301] else [c]
  ccc c := if c.toNat = 0x301 then 230 else 0
  compose a b := if a = 'e' ∧ b.toNat = 0x301 then some (Char.ofNat 0xE9) else none

theorem acuteData_apart : acuteData.Apart isZeroWidth where
  inert z hz := by
    have hmem : z.toNat ∈ [0x200B, 0x200C, 0x200D, 0x2060, 0xFEFF] := by
      simpa [isZeroWidth] using hz
    have hacute : z.toNat ≠ 0xE9 ∧ z.toNat ≠ 0x301 ∧ z ≠ 'e' := by
      refine ⟨?_, ?_, ?_⟩
      · rintro h
        rw [h] at hmem
        revert hmem
        decide
      · rintro h
        rw [h] at hmem
        revert hmem
        decide
      · rintro rfl
        revert hmem
        decide
    refine ⟨⟨?_, fun c => ?_⟩, ?_, fun c => ?_⟩
    · exact if_neg hacute.2.1
    · exact if_neg fun h => hacute.2.1 h.2
    · exact if_neg hacute.1
    · exact if_neg fun h => hacute.2.2 h.1
  decompose c hc d hd := by
    simp only [acuteData] at hd
    split at hd
    · rcases List.mem_pair.1 hd with rfl | rfl
      · rfl
      · rfl
    · rw [List.mem_singleton.1 hd]
      exact hc
  compose a b c h := by
    obtain ⟨-, h⟩ := Option.ite_none_right_eq_some.1 h
    obtain rfl := Option.some.inj h
    decide

/-- The other crates on the letter with its accent. -/
def acutePrimitives : TextPrimitives := { plainPrimitives with nfkc := acuteData.nfkc }

/-- The letter and its accent, and a zero-width character between them. -/
def accented (zeroWidth : Bool) : MessageContent :=
  ⟨some (String.ofList (if zeroWidth then ['e', Char.ofNat 0x200B, Char.ofNat 0x301]
    else ['e', Char.ofNat 0x301])), none, []⟩

theorem accented_evades : Evades (accented false) (accented true) := by
  refine ⟨.some ?_, .none, rfl⟩
  rw [String.toList_ofList, String.toList_ofList]
  exact .keep _ (.insert _ (by decide) (.keep _ .nil))

/-- **A zero-width character before an accent keeps it from its letter**, also once it is
stripped. -/
theorem zero_width_accent : ¬ ∀ (u : UnicodeData) (p : TextPrimitives)
    (content altered : MessageContent), u.Apart isZeroWidth → p.nfkc = u.nfkc →
      Evades content altered → Neutralised p content altered := by
  intro hclaim
  have htext := (hclaim acuteData acutePrimitives _ _ acuteData_apart rfl accented_evades).text
  have hne : acutePrimitives.normalizedText (accented true) ≠
      acutePrimitives.normalizedText (accented false) := by decide +kernel
  exact hne htext

/-- A word, and a zero-width character in it. -/
def promotion (zeroWidth : Bool) : MessageContent :=
  ⟨some (String.ofList (if zeroWidth then ['p', 'r', Char.ofNat 0x200B, 'o', 'm', 'o']
    else ['p', 'r', 'o', 'm', 'o'])), none, []⟩

theorem promotion_evades : Evades (promotion false) (promotion true) := by
  refine ⟨.some ?_, .none, rfl⟩
  rw [String.toList_ofList, String.toList_ofList]
  exact .keep _ (.keep _ (.insert _ (by decide) (.keep _ (.keep _ (.keep _ .nil)))))

end

/-- **When zero-width characters are neutralised.** Every insertion of them cuts the stretches of
the message in pieces. However these are told apart, what is compared of the message is as before
if nothing moves or composes across a cut; and where no mark moves across one, the text that is left
to be folded is as before only if nothing composes across one either. -/
theorem zero_width_neutralised (u : UnicodeData) (hdata : u.Apart isZeroWidth)
    (p : TextPrimitives) (hnfkc : p.nfkc = u.nfkc) (content altered : MessageContent)
    (h : Evades content altered) :
    (∃ groups, Cuts content.source altered.source groups) ∧
    ∀ groups, Cuts content.source altered.source groups →
      ((∀ group ∈ groups, AtCuts u.Parted group) → Neutralised p content altered) ∧
      (u.Grows → (∀ group ∈ groups, AtCuts u.InOrder group) →
        (p.withoutZeroWidth altered = p.withoutZeroWidth content ↔
          ∀ group ∈ groups, AtCuts u.Parted group)) := by
  obtain ⟨piece, group, groups, hcuts⟩ := h.source.cuts
  refine ⟨⟨_, hcuts⟩, fun groups hgroups => ⟨fun hparted => ?_, fun hgrows hordered => ?_⟩⟩
  · have hsame : p.withoutZeroWidth altered = p.withoutZeroWidth content := by
      rw [withoutZeroWidth_eq hdata hnfkc, withoutZeroWidth_eq hdata hnfkc, ← hgroups.whole,
        ← hgroups.pieces]
      exact UnicodeData.flatten_flatMap_nfkc hparted
    exact neutralised_of_text h.entities (congrArg p.fold hsame)
  · rw [withoutZeroWidth_eq hdata hnfkc, withoutZeroWidth_eq hdata hnfkc, ← hgroups.whole,
      ← hgroups.pieces]
    exact hgrows.parted_iff hordered

theorem acuteData_grows : acuteData.Grows := by
  intro a b c h
  obtain ⟨⟨rfl, -⟩, hc⟩ := Option.ite_none_right_eq_some.1 h
  obtain rfl : Char.ofNat 0xE9 = c := Option.some.inj hc
  decide

/-- Between letters a zero-width character is without effect; between a letter and its accent it
is not. -/
theorem zero_width_neutralised_words :
    Neutralised acutePrimitives (promotion false) (promotion true) ∧
      acutePrimitives.withoutZeroWidth (accented true) ≠
        acutePrimitives.withoutZeroWidth (accented false) := by
  constructor
  · have hcuts : Cuts (promotion false).source (promotion true).source
        [[['p', 'r'], ['o', 'm', 'o']]] := ⟨by decide +kernel, by decide +kernel⟩
    have hleads : acuteData.Leads 'o' := by
      refine ⟨'o', [], by decide, by decide, fun c => if_neg fun h => ?_⟩
      exact absurd h.2 (by decide)
    refine ((zero_width_neutralised acuteData acuteData_apart acutePrimitives rfl _ _
      promotion_evades).2 _ hcuts).1 (List.forall_mem_singleton.2 ?_)
    exact UnicodeData.atCuts_pair_iff.2 ⟨.nil _, hleads.parted _ _⟩
  · have hcuts : Cuts (accented false).source (accented true).source
        [[['e'], [Char.ofNat 0x301]]] := ⟨by decide +kernel, by decide +kernel⟩
    have hordered : AtCuts acuteData.InOrder [['e'], [Char.ofNat 0x301]] := by
      refine UnicodeData.atCuts_pair_iff.2 ⟨(UnicodeData.Parted.nil _).ordered, ?_⟩
      intro a ha b hb hmoves
      obtain rfl : 'e' = a := Option.some.inj ha
      exact Nat.not_lt_zero _ hmoves.2
    intro hsame
    have hparted := (((zero_width_neutralised acuteData acuteData_apart acutePrimitives rfl _ _
      accented_evades).2 _ hcuts).2 acuteData_grows (List.forall_mem_singleton.2 hordered)).1 hsame
    have hquiet := (UnicodeData.atCuts_pair_iff.1 (List.forall_mem_singleton.1 hparted)).2.quiet
      ⟨'e', [], 0⟩ rfl
    exact absurd (hquiet.1 (.inl rfl)) (by decide)

end Detection

end ChatHygiene
