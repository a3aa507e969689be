import Mathlib.Data.List.DropRight
/-!
# Lines

A text that is written line by line. What comes after the last line that is a
mark is read back from the text, whatever the lines before the mark are, and
even if these are not single lines.
-/

namespace Text

/-- The lines one after the other, each with its end. -/
def unlines (ls : List (List Char)) : List Char := ls.flatMap (· ++ ['\n'])

/-- The lines after the last one that is the mark. -/
def closing (mark : List Char) (cs : List Char) : List (List Char) :=
  (cs.splitOn '\n').dropLast.rtakeWhile (· ≠ mark)

variable {ls ls' : List (List Char)} {mark : List Char}

@[simp] theorem unlines_cons (l : List Char) (ls : List (List Char)) :
    unlines (l :: ls) = l ++ '\n' :: unlines ls := by
  simp [unlines]

theorem unlines_append (ls ls' : List (List Char)) :
    unlines (ls ++ ls') = unlines ls ++ unlines ls' :=
  List.flatMap_append

/-- Lines are read as they are written. -/
theorem splitOn_unlines (h : ∀ l ∈ ls, '\n' ∉ l) : (unlines ls).splitOn '\n' = ls ++ [[]] := by
  induction ls with
  | nil => rfl
  | cons l ls ih =>
    have hl : '\n' ∉ l := h l List.mem_cons_self
    have hls := ih fun l' hl' => h l' (List.mem_cons_of_mem _ hl')
    rw [unlines_cons, List.splitOn_append_cons_self_of_not_mem hl, hls, List.cons_append]

/-- What is written first is read first, if not as the lines it was written in. -/
theorem splitOn_unlines_append (ls : List (List Char)) (cs : List Char) :
    ∃ before, (unlines ls ++ cs).splitOn '\n' = before ++ cs.splitOn '\n' := by
  induction ls with
  | nil => exact ⟨[], rfl⟩
  | cons l ls ih =>
    obtain ⟨before, hbefore⟩ := ih
    refine ⟨l.splitOn '\n' ++ before, ?_⟩
    rw [unlines_cons, List.append_assoc, List.cons_append, List.splitOn_append_cons_self, hbefore,
      List.append_assoc]

theorem rtakeWhile_append_cons {α : Type} {p : α → Bool} {a : α} {as : List α} (bs : List α)
    (ha : p a = false) (has : ∀ a ∈ as, p a = true) : (bs ++ a :: as).rtakeWhile p = as := by
  have hall : ∀ a ∈ as.reverse, p a = true := fun a ha => has a (List.mem_reverse.1 ha)
  rw [List.rtakeWhile, List.reverse_append, List.reverse_cons, List.append_assoc,
    List.takeWhile_append_of_pos hall, List.singleton_append, List.takeWhile_cons_of_neg (by simp [ha]),
    List.append_nil, List.reverse_reverse]

/-- **What follows the last mark is read back**, whatever comes before it. -/
theorem closing_unlines (hmark : '\n' ∉ mark) (h : ∀ l ∈ ls', '\n' ∉ l ∧ l ≠ mark) :
    closing mark (unlines (ls ++ mark :: ls')) = ls' := by
  have hlines : ∀ l ∈ mark :: ls', '\n' ∉ l := by
    intro l hl
    rcases List.mem_cons.1 hl with rfl | hl
    · exact hmark
    · exact (h l hl).1
  obtain ⟨before, hbefore⟩ := splitOn_unlines_append ls (unlines (mark :: ls'))
  unfold closing
  rw [unlines_append, hbefore, splitOn_unlines hlines, ← List.append_assoc, List.dropLast_concat]
  refine rtakeWhile_append_cons before (by simp) fun l hl => ?_
  exact decide_eq_true (h l hl).2

end Text
