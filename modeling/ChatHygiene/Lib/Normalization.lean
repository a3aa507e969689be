import Mathlib.Data.List.Basic
import Mathlib.Data.List.Induction
/-!
# Unicode normalisation

Compatibility decomposition, canonical ordering and canonical composition, over
the data of the characters. A text can be parted where no mark moves before one
of the marks ahead of it and no character composes with the starter ahead of it:
what is before and what is after are then normalised apart.
-/

/-- The data of the characters: the full decomposition, the combining class, and the primary
composite of two characters. -/
structure UnicodeData where
  decompose : Char → List Char
  ccc : Char → Nat
  compose : Char → Char → Option Char

namespace UnicodeData

variable (u : UnicodeData)

/-- A character takes its place among the marks that follow it: after those of lower classes. -/
def insertMark (c : Char) : List Char → List Char
  | [] => [c]
  | d :: ds => if 0 < u.ccc d ∧ u.ccc d < u.ccc c then d :: insertMark c ds else c :: d :: ds

/-- The canonical ordering. -/
def order : List Char → List Char
  | [] => []
  | c :: cs => u.insertMark c (order cs)

/-- Composition from a starter on, with the marks that follow it so far and the class of the last of
them. A character is blocked from the starter by a mark of its class or of a higher one. -/
def composeFrom (starter : Char) (marks : List Char) (last : Nat) : List Char → List Char
  | [] => starter :: marks
  | c :: cs =>
    match if marks = [] ∨ last < u.ccc c then u.compose starter c else none with
    | some composite => composeFrom composite marks last cs
    | none =>
      if u.ccc c = 0 then starter :: marks ++ composeFrom c [] 0 cs
      else composeFrom starter (marks ++ [c]) (u.ccc c) cs

/-- The canonical composition. -/
def composeAll : List Char → List Char
  | [] => []
  | c :: cs => if u.ccc c = 0 then u.composeFrom c [] 0 cs else c :: composeAll cs

def nfkc (cs : List Char) : List Char := u.composeAll (u.order (cs.flatMap u.decompose))

/-! ## Where a text can be parted -/

/-- What a composed text ends with: its last starter and the marks after it, with the class of the
last of them. -/
structure Ending where
  starter : Char
  marks : List Char
  last : Nat

/-- What composition from a starter on ends with. -/
def endFrom (starter : Char) (marks : List Char) (last : Nat) : List Char → Ending
  | [] => ⟨starter, marks, last⟩
  | c :: cs =>
    match if marks = [] ∨ last < u.ccc c then u.compose starter c else none with
    | some composite => endFrom composite marks last cs
    | none =>
      if u.ccc c = 0 then endFrom c [] 0 cs
      else endFrom starter (marks ++ [c]) (u.ccc c) cs

/-- What the composition of a text ends with, if there is a starter in it. -/
def ending : List Char → Option Ending
  | [] => none
  | c :: cs => if u.ccc c = 0 then some (u.endFrom c [] 0 cs) else ending cs

/-- No character up to the first starter composes with what the text before ends with. -/
def Quiet (e : Ending) : List Char → Prop
  | [] => True
  | c :: cs => (e.marks = [] ∨ e.last < u.ccc c → u.compose e.starter c = none) ∧
    (u.ccc c ≠ 0 → Quiet ⟨e.starter, e.marks ++ [c], u.ccc c⟩ cs)

/-- The decomposition of a text, in canonical order. -/
def decomposed (cs : List Char) : List Char := u.order (cs.flatMap u.decompose)

/-- The first mark of what is after does not move before the last one of what is before. -/
def Ordered (before after : List Char) : Prop :=
  ∀ a ∈ before.getLast?, ∀ b ∈ after.head?, ¬(0 < u.ccc b ∧ u.ccc b < u.ccc a)

/-- No mark moves across. -/
def InOrder (before after : List Char) : Prop :=
  u.Ordered (u.decomposed before) (u.decomposed after)

/-- Nothing moves or composes across. -/
structure Parted (before after : List Char) : Prop where
  ordered : u.InOrder before after
  quiet : ∀ e ∈ u.ending (u.decomposed before), u.Quiet e (u.decomposed after)

variable {u} {z : Char}

theorem insertMark_append {c : Char} {xs ys : List Char} (h : u.Ordered (u.insertMark c xs) ys) :
    u.insertMark c (xs ++ ys) = u.insertMark c xs ++ ys := by
  induction xs with
  | nil =>
    cases ys with
    | nil => rfl
    | cons y ys => exact if_neg (h c rfl y rfl)
  | cons x xs ih =>
    rw [List.cons_append, insertMark, insertMark]
    rw [insertMark] at h
    split
    · next hlower =>
      rw [if_pos hlower] at h
      have hrest : u.Ordered (u.insertMark c xs) ys := by
        intro a ha b hb
        refine h a ?_ b hb
        cases hmarks : u.insertMark c xs with
        | nil =>
          rw [hmarks] at ha
          cases ha
        | cons d ds =>
          rw [List.getLast?_cons_cons, ← hmarks]
          exact ha
      rw [ih hrest, List.cons_append]
    · rfl

/-- The last mark of a text stays last, or one of a class as high comes after it. -/
theorem Ordered.of_insertMark {c : Char} {xs ys : List Char}
    (h : u.Ordered (u.insertMark c xs) ys) : u.Ordered xs ys := by
  induction xs with
  | nil => exact fun a ha => by cases ha
  | cons x xs ih =>
    rw [insertMark] at h
    split at h
    · next hlower =>
      cases xs with
      | nil =>
        intro a ha b hb hmoves
        obtain rfl : x = a := Option.some.inj ha
        have hno := h c rfl b hb
        omega
      | cons y ys' =>
        have hrest : u.Ordered (u.insertMark c (y :: ys')) ys := by
          intro a ha b hb
          refine h a ?_ b hb
          cases hmarks : u.insertMark c (y :: ys') with
          | nil =>
            rw [hmarks] at ha
            cases ha
          | cons d ds =>
            rw [List.getLast?_cons_cons, ← hmarks]
            exact ha
        have hlast := ih hrest
        intro a ha b hb
        rw [List.getLast?_cons_cons] at ha
        exact hlast a ha b hb
    · intro a ha b hb
      refine h a ?_ b hb
      rw [List.getLast?_cons_cons]
      exact ha

/-- **Marks are ordered apart** where none moves across. -/
theorem order_append {xs ys : List Char} (h : u.Ordered (u.order xs) (u.order ys)) :
    u.order (xs ++ ys) = u.order xs ++ u.order ys := by
  induction xs with
  | nil => rfl
  | cons x xs ih =>
    rw [order] at h
    rw [List.cons_append, order, order, ih h.of_insertMark, insertMark_append h]

/-- Composition goes on from what the text before ends with. -/
theorem composeFrom_append (starter : Char) (marks : List Char) (last : Nat) (xs : List Char) :
    ∃ front, ∀ ys, u.composeFrom starter marks last (xs ++ ys) = front ++
      u.composeFrom (u.endFrom starter marks last xs).starter (u.endFrom starter marks last xs).marks
        (u.endFrom starter marks last xs).last ys := by
  induction xs generalizing starter marks last with
  | nil => exact ⟨[], fun ys => rfl⟩
  | cons c xs ih =>
    cases hcompose : (if marks = [] ∨ last < u.ccc c then u.compose starter c else none) with
    | some composite =>
      obtain ⟨front, hfront⟩ := ih composite marks last
      refine ⟨front, fun ys => ?_⟩
      rw [List.cons_append, composeFrom, endFrom, hcompose]
      exact hfront ys
    | none =>
      by_cases hstarter : u.ccc c = 0
      · obtain ⟨front, hfront⟩ := ih c [] 0
        refine ⟨starter :: marks ++ front, fun ys => ?_⟩
        rw [List.cons_append, composeFrom, endFrom, hcompose]
        simp only [if_pos hstarter]
        rw [hfront, List.append_assoc]
      · obtain ⟨front, hfront⟩ := ih starter (marks ++ [c]) (u.ccc c)
        refine ⟨front, fun ys => ?_⟩
        rw [List.cons_append, composeFrom, endFrom, hcompose]
        simp only [if_neg hstarter]
        exact hfront ys

theorem composeAll_append_of_some {e : Ending} {xs : List Char} (h : u.ending xs = some e) :
    ∃ front, ∀ ys, u.composeAll (xs ++ ys) = front ++ u.composeFrom e.starter e.marks e.last ys := by
  induction xs with
  | nil => cases h
  | cons c xs ih =>
    rw [ending] at h
    by_cases hstarter : u.ccc c = 0
    · rw [if_pos hstarter] at h
      obtain rfl := Option.some.inj h
      obtain ⟨front, hfront⟩ := u.composeFrom_append c [] 0 xs
      refine ⟨front, fun ys => ?_⟩
      rw [List.cons_append, composeAll, if_pos hstarter]
      exact hfront ys
    · rw [if_neg hstarter] at h
      obtain ⟨front, hfront⟩ := ih h
      refine ⟨c :: front, fun ys => ?_⟩
      rw [List.cons_append, composeAll, if_neg hstarter, hfront, List.cons_append]

theorem composeAll_append_of_none {xs : List Char} (h : u.ending xs = none) (ys : List Char) :
    u.composeAll (xs ++ ys) = u.composeAll xs ++ u.composeAll ys := by
  induction xs with
  | nil => rfl
  | cons c xs ih =>
    rw [ending] at h
    by_cases hstarter : u.ccc c = 0
    · rw [if_pos hstarter] at h
      cases h
    · rw [if_neg hstarter] at h
      rw [List.cons_append, composeAll, composeAll, if_neg hstarter, if_neg hstarter, ih h,
        List.cons_append]

/-- Where nothing composes with what the text before ends with, that stands. -/
theorem Quiet.composeFrom {e : Ending} {ys : List Char} (h : u.Quiet e ys) :
    u.composeFrom e.starter e.marks e.last ys = e.starter :: e.marks ++ u.composeAll ys := by
  induction ys generalizing e with
  | nil => rw [UnicodeData.composeFrom, composeAll, List.append_nil]
  | cons c ys ih =>
    obtain ⟨hnone, hrest⟩ := h
    have hcompose : (if e.marks = [] ∨ e.last < u.ccc c then u.compose e.starter c else none) =
        none := by
      split
      · next hfree => exact hnone hfree
      · rfl
    rw [UnicodeData.composeFrom, hcompose, composeAll]
    by_cases hstarter : u.ccc c = 0
    · simp only [if_pos hstarter]
    · simp only [if_neg hstarter]
      rw [ih (hrest hstarter), List.cons_append, List.append_assoc, List.singleton_append,
        List.cons_append]

/-- **Texts are composed apart** where nothing composes across. -/
theorem composeAll_append {xs ys : List Char} (h : ∀ e ∈ u.ending xs, u.Quiet e ys) :
    u.composeAll (xs ++ ys) = u.composeAll xs ++ u.composeAll ys := by
  cases hending : u.ending xs with
  | none => exact composeAll_append_of_none hending ys
  | some e =>
    obtain ⟨front, hfront⟩ := composeAll_append_of_some hending
    have halone := hfront []
    rw [List.append_nil, UnicodeData.composeFrom] at halone
    rw [hfront, (h e hending).composeFrom, halone, List.append_assoc]

theorem decomposed_append {xs ys : List Char} (h : u.InOrder xs ys) :
    u.decomposed (xs ++ ys) = u.decomposed xs ++ u.decomposed ys := by
  unfold decomposed
  rw [List.flatMap_append, order_append h]

theorem Parted.nil (cs : List Char) : u.Parted [] cs := by
  constructor
  · intro a ha
    cases ha
  · intro e he
    cases he

/-- **A text is normalised apart where it can be parted.** -/
theorem Parted.nfkc {xs ys : List Char} (h : u.Parted xs ys) :
    u.nfkc (xs ++ ys) = u.nfkc xs ++ u.nfkc ys := by
  have hall : u.composeAll (u.decomposed (xs ++ ys)) =
      u.composeAll (u.decomposed xs) ++ u.composeAll (u.decomposed ys) := by
    rw [decomposed_append h.ordered, composeAll_append h.quiet]
  exact hall

/-! ## Texts in pieces -/

section

variable {R : List Char → List Char → Prop} {pieces before after : List (List Char)}
  {piece : List Char}

/-- What a text is up to a cut and the piece after it are related, at every cut. -/
def AtCuts (R : List Char → List Char → Prop) (pieces : List (List Char)) : Prop :=
  ∀ before piece after, pieces = before ++ piece :: after → R before.flatten piece

theorem atCuts_nil : AtCuts R [] := by
  intro before piece after h
  cases before <;> cases h

theorem AtCuts.left (h : AtCuts R (before ++ after)) : AtCuts R before := by
  intro before' piece after' hbefore
  refine h before' piece (after' ++ after) ?_
  rw [hbefore, List.append_assoc, List.cons_append]

theorem atCuts_concat_iff :
    AtCuts R (pieces ++ [piece]) ↔ AtCuts R pieces ∧ R pieces.flatten piece := by
  refine ⟨fun h => ⟨h.left, h pieces piece [] rfl⟩, ?_⟩
  rintro ⟨hpieces, hlast⟩ before piece' after hsplit
  rcases List.eq_nil_or_concat after with rfl | ⟨after, last, rfl⟩
  · obtain ⟨rfl, hpiece⟩ := List.append_inj' hsplit rfl
    obtain rfl := List.singleton_inj.1 hpiece
    exact hlast
  · refine hpieces before piece' after ?_
    rw [List.concat_eq_append, ← List.cons_append, ← List.append_assoc] at hsplit
    exact (List.append_inj' hsplit rfl).1

theorem atCuts_pair_iff {first second : List Char} :
    AtCuts R [first, second] ↔ R [] first ∧ R first second := by
  have hsingle : AtCuts R [first] ↔ R [] first :=
    (@atCuts_concat_iff R [] first).trans ⟨fun h => h.2, fun h => ⟨atCuts_nil, h⟩⟩
  have hpair := @atCuts_concat_iff R [first] second
  rw [hsingle, List.flatten_singleton] at hpair
  exact hpair

/-- **Pieces that can be parted are normalised one by one.** -/
theorem flatMap_nfkc (h : AtCuts u.Parted pieces) :
    pieces.flatMap u.nfkc = u.nfkc pieces.flatten := by
  induction pieces using List.reverseRecOn with
  | nil => rfl
  | append_singleton pieces piece ih =>
    obtain ⟨hpieces, hpiece⟩ := atCuts_concat_iff.1 h
    rw [List.flatMap_append, List.flatMap_singleton, ih hpieces, List.flatten_append,
      List.flatten_singleton, hpiece.nfkc]

theorem decomposed_flatten (h : AtCuts u.InOrder pieces) :
    u.decomposed pieces.flatten = pieces.flatMap u.decomposed := by
  induction pieces using List.reverseRecOn with
  | nil => rfl
  | append_singleton pieces piece ih =>
    obtain ⟨hpieces, hpiece⟩ := atCuts_concat_iff.1 h
    rw [List.flatten_append, List.flatten_singleton, decomposed_append hpiece, ih hpieces,
      List.flatMap_append, List.flatMap_singleton]

/-- A composite decomposes into more than what it is composed from. -/
def Grows (u : UnicodeData) : Prop :=
  ∀ a b c, u.compose a b = some c → (u.decompose a).length < (u.decompose c).length

/-- A starter stays, or grows. -/
theorem Grows.composeFrom (h : u.Grows) (starter : Char) (marks : List Char) (last : Nat)
    (cs : List Char) : ∃ s rest, u.composeFrom starter marks last cs = s :: rest ∧
      (u.decompose starter).length ≤ (u.decompose s).length := by
  induction cs generalizing starter marks last with
  | nil => exact ⟨starter, marks, rfl, Nat.le_refl _⟩
  | cons c cs ih =>
    rw [UnicodeData.composeFrom]
    split
    · next composite hcomposite =>
      have hcomposite : u.compose starter c = some composite := by
        split at hcomposite
        · exact hcomposite
        · cases hcomposite
      obtain ⟨s, rest, hs, hle⟩ := ih composite marks last
      have hlt := h _ _ _ hcomposite
      exact ⟨s, rest, hs, by omega⟩
    · split
      · exact ⟨starter, _, rfl, Nat.le_refl _⟩
      · exact ih starter _ _

/-- **A starter that something composes with grows.** -/
theorem Grows.of_not_quiet (h : u.Grows) {e : Ending} {ys : List Char} (hno : ¬u.Quiet e ys)
    (zs : List Char) : ∃ s rest, u.composeFrom e.starter e.marks e.last (ys ++ zs) = s :: rest ∧
      (u.decompose e.starter).length < (u.decompose s).length := by
  induction ys generalizing e with
  | nil => exact absurd trivial hno
  | cons c ys ih =>
    rw [List.cons_append, UnicodeData.composeFrom]
    cases hcompose : (if e.marks = [] ∨ e.last < u.ccc c then u.compose e.starter c else none) with
    | some composite =>
      have hcomposite : u.compose e.starter c = some composite := by
        split at hcompose
        · exact hcompose
        · cases hcompose
      obtain ⟨s, rest, hs, hle⟩ := h.composeFrom composite e.marks e.last (ys ++ zs)
      have hlt := h _ _ _ hcomposite
      exact ⟨s, rest, hs, by omega⟩
    | none =>
      have hquiet : e.marks = [] ∨ e.last < u.ccc c → u.compose e.starter c = none := by
        intro hfree
        rw [if_pos hfree] at hcompose
        exact hcompose
      by_cases hstarter : u.ccc c = 0
      · exact absurd ⟨hquiet, fun hmark => absurd hstarter hmark⟩ hno
      · simp only [if_neg hstarter]
        refine ih fun hrest => hno ⟨hquiet, fun _ => hrest⟩

/-- A text whose composition is that of what is up to a cut, and more, is quiet at the cut. -/
theorem Grows.quiet (h : u.Grows) {xs ys zs r r' : List Char}
    (heq : u.composeAll (xs ++ (ys ++ zs)) ++ r = u.composeAll xs ++ r') :
    ∀ e ∈ u.ending xs, u.Quiet e ys := by
  intro e he
  by_contra hno
  obtain ⟨front, hfront⟩ := composeAll_append_of_some he
  obtain ⟨s, rest, hs, hlt⟩ := h.of_not_quiet hno zs
  have halone := hfront []
  rw [List.append_nil, UnicodeData.composeFrom] at halone
  rw [hfront, hs, halone, List.append_assoc, List.append_assoc, List.append_cancel_left_eq] at heq
  obtain ⟨hsame, -⟩ := List.cons.inj heq
  rw [hsame] at hlt
  omega

/-- **Where no mark moves across a cut, a text that is normalised in pieces can be parted there.** -/
theorem Grows.parted (h : u.Grows) (hordered : AtCuts u.InOrder pieces) {r r' : List Char}
    (heq : u.nfkc pieces.flatten ++ r = pieces.flatMap u.nfkc ++ r') : AtCuts u.Parted pieces := by
  -- by induction on what is before the cut
  have hprefix (before : List (List Char)) :
      ∀ after, pieces = before ++ after → AtCuts u.Parted before := by
    induction before using List.reverseRecOn with
    | nil => exact fun _ _ => atCuts_nil
    | append_singleton before piece ih =>
      intro after hsplit
      rw [List.append_assoc, List.singleton_append] at hsplit
      have hbefore := ih (piece :: after) hsplit
      refine atCuts_concat_iff.2 ⟨hbefore, hordered before piece after hsplit, ?_⟩
      have hwhole : u.decomposed pieces.flatten = u.decomposed before.flatten ++
          (u.decomposed piece ++ after.flatMap u.decomposed) := by
        have hleft : AtCuts u.InOrder before := AtCuts.left (hsplit ▸ hordered)
        rw [decomposed_flatten hordered, decomposed_flatten hleft, hsplit, List.flatMap_append,
          List.flatMap_cons]
      have hnfkc : u.nfkc pieces.flatten = u.composeAll (u.decomposed before.flatten ++
          (u.decomposed piece ++ after.flatMap u.decomposed)) := by
        rw [← hwhole]
        rfl
      have hpieces : pieces.flatMap u.nfkc = u.composeAll (u.decomposed before.flatten) ++
          (piece :: after).flatMap u.nfkc := by
        rw [hsplit, List.flatMap_append, flatMap_nfkc hbefore]
        rfl
      rw [hnfkc, hpieces, List.append_assoc] at heq
      exact h.quiet heq
  exact hprefix pieces [] (List.append_nil _).symm

theorem flatten_flatMap_nfkc {groups : List (List (List Char))}
    (h : ∀ group ∈ groups, AtCuts u.Parted group) :
    groups.flatten.flatMap u.nfkc = (groups.map List.flatten).flatMap u.nfkc := by
  induction groups with
  | nil => rfl
  | cons group groups ih =>
    obtain ⟨hgroup, hgroups⟩ := List.forall_mem_cons.1 h
    rw [List.flatten_cons, List.flatMap_append, List.map_cons, List.flatMap_cons,
      flatMap_nfkc hgroup, ih hgroups]

/-- **Texts are normalised in pieces if and only if each can be parted at its cuts**, where no mark
moves across one. -/
theorem Grows.parted_iff (h : u.Grows) {groups : List (List (List Char))}
    (hordered : ∀ group ∈ groups, AtCuts u.InOrder group) :
    groups.flatten.flatMap u.nfkc = (groups.map List.flatten).flatMap u.nfkc ↔
      ∀ group ∈ groups, AtCuts u.Parted group := by
  refine ⟨fun heq => ?_, flatten_flatMap_nfkc⟩
  induction groups with
  | nil => exact List.forall_mem_nil _
  | cons group groups ih =>
    obtain ⟨hgroup, hgroups⟩ := List.forall_mem_cons.1 hordered
    rw [List.flatten_cons, List.flatMap_append, List.map_cons, List.flatMap_cons] at heq
    have hparted := h.parted hgroup heq.symm
    rw [flatMap_nfkc hparted, List.append_cancel_left_eq] at heq
    exact List.forall_mem_cons.2 ⟨hparted, ih hgroups heq⟩

end

/-! ## Characters that part a text -/

variable (u) in
/-- A starter that does not compose with what is before it. -/
structure Leading (z : Char) : Prop where
  ccc : u.ccc z = 0
  compose_right : ∀ c, u.compose c z = none

variable (u) in
/-- A starter that decomposes to itself and composes with nothing. -/
structure Inert (z : Char) : Prop extends Leading u z where
  decompose : u.decompose z = [z]
  compose_left : ∀ c, u.compose z c = none

variable (u) in
/-- The decomposition of the character begins with such a starter. -/
def Leads (c : Char) : Prop := ∃ d ds, u.decompose c = d :: ds ∧ u.Leading d

theorem Leading.order (h : u.Leading z) (cs : List Char) : u.order (z :: cs) = z :: u.order cs := by
  rw [UnicodeData.order]
  cases u.order cs with
  | nil => rfl
  | cons d ds =>
    refine if_neg ?_
    rw [h.ccc]
    omega

/-- **A text can be parted before a character that leads.** -/
theorem Leads.parted {c : Char} (h : u.Leads c) (xs ys : List Char) : u.Parted xs (c :: ys) := by
  obtain ⟨d, ds, hdecompose, hleading⟩ := h
  have hfirst : u.decomposed (c :: ys) = d :: u.order (ds ++ ys.flatMap u.decompose) := by
    unfold decomposed
    rw [List.flatMap_cons, hdecompose, List.cons_append, hleading.order]
  constructor
  · intro a _ b hb
    rw [hfirst] at hb
    obtain rfl : d = b := Option.some.inj hb
    rw [hleading.ccc]
    omega
  · intro e _
    rw [hfirst]
    exact ⟨fun _ => hleading.compose_right _, fun hmark => absurd hleading.ccc hmark⟩

/-- What follows an inert character is composed as if nothing came before. -/
theorem Inert.quiet (h : u.Inert z) (marks : List Char) (last : Nat) (ys : List Char) :
    u.Quiet ⟨z, marks, last⟩ ys := by
  induction ys generalizing marks last with
  | nil => trivial
  | cons y ys ih => exact ⟨fun _ => h.compose_left y, fun _ => ih _ _⟩

/-- **An inert character parts a text.** -/
theorem Inert.nfkc (h : u.Inert z) (xs ys : List Char) :
    u.nfkc (xs ++ z :: ys) = u.nfkc xs ++ z :: u.nfkc ys := by
  have hleads : u.Leads z := ⟨z, [], h.decompose, h.toLeading⟩
  have hself : u.nfkc (z :: ys) = z :: u.nfkc ys := by
    unfold UnicodeData.nfkc
    rw [List.flatMap_cons, h.decompose, List.singleton_append, h.order, composeAll, if_pos h.ccc]
    exact (h.quiet [] 0 _).composeFrom
  rw [(hleads.parted xs ys).nfkc, hself]

/-! ## Characters that do not come of others -/

/-- The characters meet inert ones, and no other character leads to them. -/
structure Apart (u : UnicodeData) (isApart : Char → Bool) : Prop where
  inert : ∀ z, isApart z = true → u.Inert z
  decompose : ∀ c, isApart c = false → ∀ d ∈ u.decompose c, isApart d = false
  compose : ∀ a b c, u.compose a b = some c → isApart c = false

section

variable {isApart : Char → Bool}

theorem forall_insertMark {P : Char → Prop} {c : Char} {ds : List Char} (hc : P c)
    (hds : ∀ d ∈ ds, P d) : ∀ d ∈ u.insertMark c ds, P d := by
  induction ds with
  | nil => simpa [insertMark] using hc
  | cons d ds ih =>
    obtain ⟨hd, hds⟩ := List.forall_mem_cons.1 hds
    rw [insertMark]
    split
    · exact List.forall_mem_cons.2 ⟨hd, ih hds⟩
    · exact List.forall_mem_cons.2 ⟨hc, List.forall_mem_cons.2 ⟨hd, hds⟩⟩

theorem forall_order {P : Char → Prop} {cs : List Char} (hcs : ∀ c ∈ cs, P c) :
    ∀ c ∈ u.order cs, P c := by
  induction cs with
  | nil => simp [order]
  | cons c cs ih =>
    obtain ⟨hc, hcs⟩ := List.forall_mem_cons.1 hcs
    exact forall_insertMark hc (ih hcs)

theorem forall_composeFrom {P : Char → Prop} (hcompose : ∀ a b c, u.compose a b = some c → P c)
    {starter : Char} {marks cs : List Char} {last : Nat} (hstarter : P starter)
    (hmarks : ∀ c ∈ marks, P c) (hcs : ∀ c ∈ cs, P c) :
    ∀ c ∈ u.composeFrom starter marks last cs, P c := by
  induction cs generalizing starter marks last with
  | nil => exact List.forall_mem_cons.2 ⟨hstarter, hmarks⟩
  | cons c cs ih =>
    obtain ⟨hc, hcs⟩ := List.forall_mem_cons.1 hcs
    rw [composeFrom]
    split
    · next composite hcomposite =>
      have hcomposite : u.compose starter c = some composite := by
        split at hcomposite
        · exact hcomposite
        · cases hcomposite
      exact ih (hcompose _ _ _ hcomposite) hmarks hcs
    · split
      · refine List.forall_mem_append.2 ⟨List.forall_mem_cons.2 ⟨hstarter, hmarks⟩, ?_⟩
        exact ih hc (List.forall_mem_nil _) hcs
      · refine ih hstarter (List.forall_mem_append.2 ⟨hmarks, ?_⟩) hcs
        exact List.forall_mem_cons.2 ⟨hc, List.forall_mem_nil _⟩

theorem forall_composeAll {P : Char → Prop} (hcompose : ∀ a b c, u.compose a b = some c → P c)
    {cs : List Char} (hcs : ∀ c ∈ cs, P c) : ∀ c ∈ u.composeAll cs, P c := by
  induction cs with
  | nil => simp [composeAll]
  | cons c cs ih =>
    obtain ⟨hc, hcs⟩ := List.forall_mem_cons.1 hcs
    rw [composeAll]
    split
    · exact forall_composeFrom hcompose hc (List.forall_mem_nil _) hcs
    · exact List.forall_mem_cons.2 ⟨hc, ih hcs⟩

/-- Normalisation does not bring such a character in. -/
theorem Apart.nfkc (h : u.Apart isApart) {cs : List Char} (hcs : ∀ c ∈ cs, isApart c = false) :
    ∀ c ∈ u.nfkc cs, isApart c = false := by
  refine forall_composeAll h.compose (forall_order fun d hd => ?_)
  obtain ⟨c, hc, hd⟩ := List.mem_flatMap.1 hd
  exact h.decompose c (hcs c hc) d hd

/-- The stretches of a text between such characters. -/
def parts (isApart : Char → Bool) (cs : List Char) : List (List Char) := cs.splitOnP isApart

/-- **A text normalised without such characters** is its parts, each normalised alone. -/
theorem Apart.filter_nfkc (h : u.Apart isApart) (cs : List Char) :
    (u.nfkc cs).filter (fun c => !isApart c) = (parts isApart cs).flatMap u.nfkc := by
  have hfree {ds : List Char} (hds : ∀ c ∈ ds, isApart c = false) :
      (u.nfkc ds).filter (fun c => !isApart c) = u.nfkc ds := by
    refine List.filter_eq_self.2 fun c hc => ?_
    rw [h.nfkc hds c hc]
    rfl
  -- by induction on the length: the text has none of them, or a first one
  obtain ⟨n, hn⟩ : ∃ n, cs.length ≤ n := ⟨_, Nat.le_refl _⟩
  induction n generalizing cs with
  | zero =>
    rw [List.length_eq_zero_iff.1 (Nat.le_zero.1 hn)]
    rfl
  | succ n ih =>
    cases hfind : cs.find? isApart with
    | none =>
      have hall : ∀ c ∈ cs, isApart c = false := by simpa using hfind
      rw [hfree hall, parts, List.splitOnP_eq_singleton hall, List.flatMap_singleton]
    | some z =>
      obtain ⟨hz, before, after, rfl, hbefore⟩ := List.find?_eq_some_iff_append.1 hfind
      replace hbefore : ∀ c ∈ before, isApart c = false := by simpa using hbefore
      have hsplit : parts isApart (before ++ z :: after) = before :: parts isApart after :=
        List.splitOnP_append_cons_of_forall_mem hbefore z hz after
      have hlength : after.length ≤ n := by
        rw [List.length_append, List.length_cons] at hn
        omega
      rw [(h.inert z hz).nfkc, List.filter_append, hfree hbefore,
        List.filter_cons_of_neg (by simp [hz]), ih after hlength, hsplit, List.flatMap_cons]

end

end UnicodeData
