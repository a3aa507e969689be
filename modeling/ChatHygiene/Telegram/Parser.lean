import ChatHygiene.Detection.Normalize
import ChatHygiene.Lib.Unicode
/-!
# Entities of a message

Telegram locates an entity of a text by its UTF-16 code units. The parser cuts
its value out of the text, and drops an entity that does not lie on characters.
-/

namespace ChatHygiene

open Detection (MessageEntity MessageEntityKind)

/-- A string, which has no more than `isize::MAX` bytes. -/
structure Str where
  value : String
  bounded : (value.toList.flatMap String.utf8EncodeChar).length < 2 ^ 63

structure Entity where
  kind : String
  offset : UInt64
  length : UInt64
  url : Option String

def Entity.messageEntityKind (entity : Entity) : MessageEntityKind :=
  match entity.kind with
  | "url" => .url
  | "text_link" => .textLink
  | "mention" => .mention
  | "phone_number" => .phoneNumber
  | _ => .other

/-- `utf16_slice`: the addition is checked, the slice is one if it ends within the text, and its
units have to be well formed. -/
def utf16Slice (text : Str) (offset length : UInt64) : Option String :=
  let units := Utf16.encode text.value.toList
  if offset.toNat + length.toNat < 2 ^ 64 then
    if offset.toNat + length.toNat ≤ units.length then
      (Utf16.decode ((units.drop offset.toNat).take length.toNat)).map String.ofList
    else none
  else none

/-- The value of an entity: the URL it carries, or its piece of the text. -/
def Entity.value (source : Option Str) (entity : Entity) : Option String :=
  entity.url.or (source.bind fun text => utf16Slice text entity.offset entity.length)

def extractEntities (source : Option Str) (entities : List Entity) : List MessageEntity :=
  entities.filterMap fun entity =>
    (entity.value source).map fun value => ⟨entity.messageEntityKind, value⟩

/-! ## Slices -/

/-- A character has no more code units than bytes. -/
theorem length_encode_le (cs : List Char) :
    (Utf16.encode cs).length ≤ (cs.flatMap String.utf8EncodeChar).length := by
  induction cs with
  | nil => exact Nat.le_refl _
  | cons c cs ih =>
    have hchar : (Utf16.encodeChar c).length ≤ (String.utf8EncodeChar c).length := by
      have hcode : c.val.toNat = c.toNat := rfl
      unfold Utf16.encodeChar String.utf8EncodeChar
      dsimp only
      rw [hcode]
      split_ifs
      all_goals
        simp only [List.length_cons, List.length_nil]
        omega
    rw [Utf16.encode_cons, List.length_append, List.flatMap_cons, List.length_append]
    omega

variable {text : Str} {offset length : UInt64} {v : String}

/-- The value of a slice of at least one unit is what lies between its ends, if they are boundaries
of characters. -/
theorem utf16Slice_eq_some_iff (h : 1 ≤ length) :
    utf16Slice text offset length = some v ↔ ∃ a c, text.value.toList = a ++ v.toList ++ c ∧
      (Utf16.encode a).length = offset.toNat ∧ (Utf16.encode v.toList).length = length.toNat := by
  have hlength : 1 ≤ length.toNat := h
  unfold utf16Slice
  constructor
  · intro hslice
    obtain ⟨-, hslice⟩ := Option.ite_none_right_eq_some.1 hslice
    obtain ⟨hend, hslice⟩ := Option.ite_none_right_eq_some.1 hslice
    obtain ⟨cs, hdecode, rfl⟩ := Option.map_eq_some_iff.1 hslice
    rw [String.toList_ofList]
    have hunits : Utf16.encode cs =
        ((Utf16.encode text.value.toList).drop offset.toNat).take length.toNat := by
      refine Utf16.encode_of_decode (fun u hu => ?_) hdecode
      exact Utf16.lt_of_mem_encode (List.mem_of_mem_drop (List.mem_of_mem_take hu))
    have hcount : (Utf16.encode cs).length = length.toNat := by
      rw [hunits, List.length_take, List.length_drop]
      omega
    have hne : cs ≠ [] := by
      rintro rfl
      simp [Utf16.encode] at hcount
      omega
    -- the text is its first units, the slice and the rest
    have hsplit : Utf16.encode text.value.toList =
        (Utf16.encode text.value.toList).take offset.toNat ++ (Utf16.encode cs ++
          ((Utf16.encode text.value.toList).drop offset.toNat).drop length.toNat) := by
      rw [hunits, List.take_append_drop, List.take_append_drop]
    obtain ⟨a, c, htext, ha, -⟩ := Utf16.encode_eq_append_append hne hsplit
    refine ⟨a, c, by rw [htext, List.append_assoc], ?_, hcount⟩
    rw [ha, List.length_take]
    omega
  · rintro ⟨a, c, htext, ha, hv⟩
    have hencode : Utf16.encode text.value.toList =
        Utf16.encode a ++ (Utf16.encode v.toList ++ Utf16.encode c) := by
      rw [htext, Utf16.encode_append, Utf16.encode_append, List.append_assoc]
    have hend : offset.toNat + length.toNat ≤ (Utf16.encode text.value.toList).length := by
      rw [hencode, List.length_append, List.length_append]
      omega
    have hfits : offset.toNat + length.toNat < 2 ^ 64 := by
      have hbytes := length_encode_le text.value.toList
      have hbounded := text.bounded
      omega
    simp only
    rw [if_pos hfits, if_pos hend, hencode, ← ha, List.drop_left, ← hv, List.take_left,
      Utf16.decode_encode, Option.map_some, String.ofList_toList]

theorem extractEntities_append (source : Option Str) (before after : List Entity) :
    extractEntities source (before ++ after) =
      extractEntities source before ++ extractEntities source after :=
  List.filterMap_append

/-- An entity counts as what its value is, or not at all. -/
theorem extractEntities_cons (source : Option Str) (entity : Entity) (entities : List Entity) :
    extractEntities source (entity :: entities) =
      ((entity.value source).map fun value => ⟨entity.messageEntityKind, value⟩).toList ++
        extractEntities source entities := by
  unfold extractEntities
  rw [List.filterMap_cons]
  cases entity.value source with
  | none => rfl
  | some value => rfl

/-- **Slices are pieces of the text.** A slice of at least one code unit is a value if and only if
the text is what comes before it, that value and what comes after it, with as many units before as
the offset and in it as the length say; and an entity without a URL of its own is kept in its place
with that value, or dropped alone. -/
theorem utf16_slice_law (text : Str) (offset length : UInt64) (h : 1 ≤ length) :
    (∀ v, utf16Slice text offset length = some v ↔
      ∃ a c, text.value.toList = a ++ v.toList ++ c ∧
        (Utf16.encode a).length = offset.toNat ∧ (Utf16.encode v.toList).length = length.toNat) ∧
    ∀ kind before after,
      extractEntities (some text) (before ++ ⟨kind, offset, length, none⟩ :: after) =
        match utf16Slice text offset length with
        | none => extractEntities (some text) before ++ extractEntities (some text) after
        | some value => extractEntities (some text) before ++
            ⟨Entity.messageEntityKind ⟨kind, offset, length, none⟩, value⟩ ::
              extractEntities (some text) after := by
  refine ⟨fun v => utf16Slice_eq_some_iff h, fun kind before after => ?_⟩
  rw [extractEntities_append, extractEntities_cons]
  have hvalue : Entity.value (some text) ⟨kind, offset, length, none⟩ =
      utf16Slice text offset length := rfl
  rw [hvalue]
  cases utf16Slice text offset length with
  | none => rfl
  | some value => rfl

/-- The offset of a link after an astral character counts two units for it. -/
theorem utf16_slice_law_astral : ∃ text : Str, text.value = "😀 t.me/a" ∧
    utf16Slice text 3 6 = some "t.me/a" := by
  refine ⟨⟨"😀 t.me/a", by decide +kernel⟩, rfl, ?_⟩
  refine ((utf16_slice_law _ 3 6 (by decide)).1 "t.me/a").2 ⟨['😀', ' '], [], ?_⟩
  exact ⟨by decide +kernel, by decide +kernel, by decide +kernel⟩

end ChatHygiene
