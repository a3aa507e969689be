import Mathlib.Data.List.Sort
/-!
# The first entries of an order

What a store of bounded capacity keeps: the first `k` entries of a total
order, all of them if there are no more. `KeepsFirst` says so of what is kept,
whatever the order it is listed in.
-/

variable {α : Type} {r : α → α → Prop} {k : Nat} {l kept : List α}

/-- `kept` are the first `k` entries of `l` by `r`. -/
structure KeepsFirst (r : α → α → Prop) (k : Nat) (l kept : List α) : Prop where
  sublist : kept.Sublist l
  length : kept.length = min k l.length
  first : ∀ a ∈ kept, ∀ b ∈ l, b ∉ kept → r a b

namespace KeepsFirst

theorem length_le (h : KeepsFirst r k l kept) : kept.length ≤ k := by
  rw [h.length]
  exact Nat.min_le_left _ _

theorem mem (h : KeepsFirst r k l kept) {a : α} (ha : a ∈ kept) : a ∈ l := h.sublist.subset ha

theorem mono {r' : α → α → Prop} (h : KeepsFirst r k l kept)
    (hr : ∀ a ∈ kept, ∀ b ∈ l, b ∉ kept → r a b → r' a b) : KeepsFirst r' k l kept :=
  ⟨h.sublist, h.length, fun a ha b hb hnot => hr a ha b hb hnot (h.first a ha b hb hnot)⟩

/-- There is room for all. -/
theorem eq_of_length_le (h : KeepsFirst r k l kept) (hl : l.length ≤ k) : kept = l := by
  refine h.sublist.eq_of_length ?_
  rw [h.length]
  exact Nat.min_eq_right hl

theorem all (h : l.length ≤ k) : KeepsFirst r k l l :=
  ⟨.refl l, (Nat.min_eq_right h).symm, fun _ _ _ hb hnot => absurd hb hnot⟩

/-- **What is not past the capacity in the sorted list is kept.** -/
theorem of_insertionSort [DecidableRel r] [Std.Total r] [IsTrans α r] (hnodup : l.Nodup)
    {p : α → Bool} (hp : ∀ a ∈ l, p a = true ↔ a ∉ (l.insertionSort r).drop k) :
    KeepsFirst r k l (l.filter p) := by
  have hperm : (l.insertionSort r).Perm l := List.perm_insertionSort r l
  have hsplit : (l.insertionSort r).take k ++ (l.insertionSort r).drop k = l.insertionSort r :=
    List.take_append_drop k _
  have hsorted : ((l.insertionSort r).take k ++ (l.insertionSort r).drop k).Pairwise r := by
    rw [hsplit]
    exact List.pairwise_insertionSort r l
  have hdisjoint : ((l.insertionSort r).take k ++ (l.insertionSort r).drop k).Nodup := by
    rw [hsplit]
    exact hperm.nodup_iff.2 hnodup
  have hcross := (List.pairwise_append.1 hsorted).2.2
  have hapart := (List.nodup_append.1 hdisjoint).2.2
  have hmem (a : α) : a ∈ l ↔ a ∈ (l.insertionSort r).take k ∨ a ∈ (l.insertionSort r).drop k := by
    rw [← List.mem_append, hsplit, hperm.mem_iff]
  have htake (a : α) : a ∈ l.filter p ↔ a ∈ (l.insertionSort r).take k := by
    rw [List.mem_filter]
    constructor
    · rintro ⟨ha, hpa⟩
      exact ((hmem a).1 ha).resolve_right ((hp a ha).1 hpa)
    · intro ha
      have hal := (hmem a).2 (.inl ha)
      exact ⟨hal, (hp a hal).2 fun hdrop => hapart a ha a hdrop rfl⟩
  refine ⟨List.filter_sublist, ?_, fun a ha b hb hnot => ?_⟩
  · have hkept : (l.filter p).Perm ((l.insertionSort r).take k) :=
      (List.perm_ext_iff_of_nodup (hnodup.filter p)
        (List.nodup_append.1 hdisjoint).1).2 htake
    rw [hkept.length_eq, List.length_take, List.length_insertionSort]
  · rw [htake] at ha hnot
    exact hcross a ha b (((hmem b).1 hb).resolve_left hnot)

end KeepsFirst
