import Mathlib.Data.List.Nodup
/-!
# Keyed tables

A finite table of rows with a primary key, as a relational store keeps it:
rows in insertion order, no two with one key. The operations are the four
statements of a store (`insert`, `update`, `delete` and the queries), and
every later fact about a table is read through `lookup`, the row at a key.
-/

/-- Rows in insertion order, with pairwise distinct primary keys. -/
structure Table {Row Key : Type} (key : Row → Key) where
  rows : List Row
  nodup : (rows.map key).Nodup

namespace Table

variable {Row Key : Type} {key : Row → Key}

/-- The table with no row. -/
def empty : Table key := ⟨[], List.nodup_nil⟩

variable [DecidableEq Key]

/-- The row at a key. -/
def lookup (t : Table key) (k : Key) : Option Row := t.rows.find? (key · = k)

/-- Whether some row has the key. -/
def contains (t : Table key) (k : Key) : Bool := (t.lookup k).isSome

theorem key_of_lookup {t : Table key} {k : Key} {r : Row} (h : t.lookup k = some r) :
    key r = k := by
  simpa using List.find?_some h

theorem mem_of_lookup {t : Table key} {k : Key} {r : Row} (h : t.lookup k = some r) :
    r ∈ t.rows :=
  List.mem_of_find?_eq_some h

theorem lookup_of_mem {t : Table key} {r : Row} (h : r ∈ t.rows) :
    t.lookup (key r) = some r := by
  obtain ⟨rows, nodup⟩ := t
  simp only [lookup] at h ⊢
  induction rows with
  | nil => cases h
  | cons a rows ih =>
    rw [List.map_cons, List.nodup_cons] at nodup
    rcases List.mem_cons.1 h with rfl | h
    · simp
    · have hne : key a ≠ key r := fun e => nodup.1 (e ▸ List.mem_map_of_mem h)
      rw [List.find?_cons_of_neg (by simpa using hne)]
      exact ih nodup.2 h

theorem lookup_eq_some_iff {t : Table key} {k : Key} {r : Row} :
    t.lookup k = some r ↔ r ∈ t.rows ∧ key r = k :=
  ⟨fun h => ⟨mem_of_lookup h, key_of_lookup h⟩, fun ⟨h, e⟩ => e ▸ lookup_of_mem h⟩

/-- A key identifies a row. -/
theorem eq_of_key_eq {t : Table key} {r s : Row} (hr : r ∈ t.rows) (hs : s ∈ t.rows)
    (h : key r = key s) : r = s := by
  have hrow := lookup_of_mem hr
  rw [h, lookup_of_mem hs] at hrow
  exact (Option.some.inj hrow).symm

theorem lookup_eq_none_iff {t : Table key} {k : Key} :
    t.lookup k = none ↔ ∀ r ∈ t.rows, key r ≠ k := by
  simp [lookup]

theorem contains_iff {t : Table key} {k : Key} : t.contains k = true ↔ ∃ r ∈ t.rows, key r = k := by
  rw [contains, Option.isSome_iff_exists]
  exact ⟨fun ⟨r, h⟩ => ⟨r, mem_of_lookup h, key_of_lookup h⟩,
    fun ⟨r, h, e⟩ => ⟨r, lookup_eq_some_iff.2 ⟨h, e⟩⟩⟩

/-! ## Statements -/

/-- `INSERT` of a row whose key is new. -/
def insert (t : Table key) (r : Row) (h : t.lookup (key r) = none) : Table key where
  rows := t.rows ++ [r]
  nodup := by
    rw [List.map_append, List.nodup_append]
    refine ⟨t.nodup, by simp, ?_⟩
    rintro a ha b hb rfl
    obtain ⟨s, hs, rfl⟩ := List.mem_map.1 ha
    simp only [List.map_cons, List.map_nil, List.mem_singleton] at hb
    exact lookup_eq_none_iff.1 h s hs hb

/-- `UPDATE … WHERE p`, of columns outside the primary key. -/
def update (t : Table key) (p : Row → Bool) (f : Row → Row) (hf : ∀ r, key (f r) = key r) :
    Table key where
  rows := t.rows.map fun r => if p r then f r else r
  nodup := by
    have : (t.rows.map fun r => if p r then f r else r).map key = t.rows.map key := by
      rw [List.map_map]
      refine List.map_congr_left fun r _ => ?_
      by_cases h : p r <;> simp [h, hf]
    rw [this]
    exact t.nodup

/-- `DELETE … WHERE p`. -/
def delete (t : Table key) (p : Row → Bool) : Table key where
  rows := t.rows.filter fun r => !p r
  nodup := t.nodup.sublist (List.filter_sublist.map key)

/-- The number of rows a statement with condition `p` affects. -/
def affected (t : Table key) (p : Row → Bool) : Nat := t.rows.countP p

@[simp] theorem rows_insert (t : Table key) (r : Row) (h) : (t.insert r h).rows = t.rows ++ [r] :=
  rfl

theorem mem_insert {t : Table key} {r s : Row} {h} :
    s ∈ (t.insert r h).rows ↔ s ∈ t.rows ∨ s = r := by
  simp

omit [DecidableEq Key] in
/-- A statement whose condition no row meets changes nothing. -/
theorem update_eq_self {t : Table key} {p : Row → Bool} {f : Row → Row} {hf}
    (h : ∀ r ∈ t.rows, p r = false) : t.update p f hf = t := by
  obtain ⟨rows, hnodup⟩ := t
  have hrows : (rows.map fun r => if p r then f r else r) = rows := by
    refine (List.map_congr_left fun r hr => ?_).trans (List.map_id rows)
    simp [h r hr]
  simp only [update, hrows]

omit [DecidableEq Key] in
theorem mem_update {t : Table key} {p : Row → Bool} {f : Row → Row} {hf} {s : Row} :
    s ∈ (t.update p f hf).rows ↔ ∃ r ∈ t.rows, (if p r then f r else r) = s := by
  simp [update]

omit [DecidableEq Key] in
theorem mem_delete {t : Table key} {p : Row → Bool} {s : Row} :
    s ∈ (t.delete p).rows ↔ s ∈ t.rows ∧ p s = false := by
  simp [delete]

omit [DecidableEq Key] in
theorem ext_rows {t u : Table key} (h : t.rows = u.rows) : t = u := by
  obtain ⟨rows, hnodup⟩ := t
  obtain ⟨rows', hnodup'⟩ := u
  obtain rfl : rows = rows' := h
  rfl

omit [DecidableEq Key] in
theorem delete_eq_self {t : Table key} {p : Row → Bool} (h : ∀ r ∈ t.rows, p r = false) :
    t.delete p = t := by
  refine ext_rows (List.filter_eq_self.2 fun r hr => ?_)
  simp [h r hr]

omit [DecidableEq Key] in
theorem delete_congr {t : Table key} {p q : Row → Bool} (h : ∀ r ∈ t.rows, p r = q r) :
    t.delete p = t.delete q :=
  ext_rows (List.filter_congr fun r hr => by rw [h r hr])

omit [DecidableEq Key] in
/-- **A deletion absorbs an earlier one of fewer rows.** -/
theorem delete_delete {t : Table key} {p q : Row → Bool}
    (h : ∀ r ∈ t.rows, p r = true → q r = true) : (t.delete p).delete q = t.delete q := by
  refine ext_rows ?_
  have hrows : ((t.rows.filter fun r => !p r).filter fun r => !q r) = t.rows.filter fun r => !q r := by
    rw [List.filter_filter]
    refine List.filter_congr fun r hr => ?_
    cases hp : p r with
    | false => simp
    | true => simp [h r hr hp]
  exact hrows

@[simp] theorem lookup_insert (t : Table key) (r : Row) (h) (k : Key) :
    (t.insert r h).lookup k = if key r = k then some r else t.lookup k := by
  by_cases e : key r = k
  · subst e
    simp only [lookup, rows_insert, List.find?_append]
    have : t.rows.find? (key · = key r) = none := h
    simp [this]
  · simp [lookup, rows_insert, List.find?_append, e]

@[simp] theorem lookup_update (t : Table key) (p : Row → Bool) (f : Row → Row) (hf) (k : Key) :
    (t.update p f hf).lookup k = (t.lookup k).map fun r => if p r then f r else r := by
  simp only [lookup, update, List.find?_map]
  congr 1
  refine congrArg (fun q => List.find? q t.rows) (funext fun r => ?_)
  by_cases h : p r <;> simp [h, hf]

@[simp] theorem lookup_delete (t : Table key) (p : Row → Bool) (k : Key) :
    (t.delete p).lookup k = (t.lookup k).filter fun r => !p r := by
  cases hk : t.lookup k with
  | none =>
    rw [lookup_eq_none_iff] at hk
    rw [Option.filter_none, lookup_eq_none_iff]
    exact fun r hr => hk r (mem_delete.1 hr).1
  | some r =>
    have hmem := mem_of_lookup hk
    have hkey := key_of_lookup hk
    by_cases hp : p r
    · rw [Option.filter_some_neg (by simp [hp]), lookup_eq_none_iff]
      intro s hs e
      obtain ⟨hs, hps⟩ := mem_delete.1 hs
      have : some s = some r := by rw [← lookup_of_mem hs, e, hk]
      cases this
      simp [hps] at hp
    · rw [Option.filter_some_pos (by simp [hp]), lookup_eq_some_iff]
      exact ⟨mem_delete.2 ⟨hmem, by simpa using hp⟩, hkey⟩

@[simp] theorem contains_insert (t : Table key) (r : Row) (h) (k : Key) :
    (t.insert r h).contains k = (key r = k || t.contains k) := by
  by_cases e : key r = k <;> simp [contains, e]

@[simp] theorem contains_update (t : Table key) (p : Row → Bool) (f : Row → Row) (hf) (k : Key) :
    (t.update p f hf).contains k = t.contains k := by
  simp [contains]

theorem contains_of_mem {t : Table key} {r : Row} (h : r ∈ t.rows) : t.contains (key r) = true :=
  contains_iff.2 ⟨r, h, rfl⟩

/-! ## Rows affected -/

omit [DecidableEq Key] in
theorem affected_pos_iff {t : Table key} {p : Row → Bool} :
    0 < t.affected p ↔ ∃ r ∈ t.rows, p r = true := by
  simp [affected, List.countP_pos_iff]

omit [DecidableEq Key] in
theorem affected_eq_zero_iff {t : Table key} {p : Row → Bool} :
    t.affected p = 0 ↔ ∀ r ∈ t.rows, p r = false := by
  simp [affected, List.countP_eq_zero]

omit [DecidableEq Key] in
/-- A condition that at most one row can satisfy affects at most one row. -/
theorem affected_le_one {t : Table key} {p : Row → Bool}
    (hp : ∀ r s, r ∈ t.rows → s ∈ t.rows → p r → p s → key r = key s) : t.affected p ≤ 1 := by
  have hnodup : ((t.rows.filter p).map key).Nodup := t.nodup.sublist (List.filter_sublist.map key)
  rw [affected, List.countP_eq_length_filter]
  by_contra hlen
  rcases hl : t.rows.filter p with _ | ⟨a, _ | ⟨b, l⟩⟩
  · simp [hl] at hlen
  · simp [hl] at hlen
  · have ha := List.mem_filter.1 (show a ∈ t.rows.filter p by simp [hl])
    have hb := List.mem_filter.1 (show b ∈ t.rows.filter p by simp [hl])
    rw [hl] at hnodup
    simp only [List.map_cons, List.nodup_cons, List.mem_cons] at hnodup
    exact hnodup.1 (.inl (hp a b ha.1 hb.1 ha.2 hb.2))

/-- **A statement on one key affects its row or none.** -/
theorem affected_key (t : Table key) {p : Row → Bool} {k : Key} (hp : ∀ r, p r → key r = k) :
    t.affected p = if (t.lookup k).any p then 1 else 0 := by
  have hle : t.affected p ≤ 1 := affected_le_one fun r s _ _ hr hs => (hp r hr).trans (hp s hs).symm
  split
  · next h =>
    obtain ⟨r, hr, hpr⟩ := (Option.any_eq_true p _).1 h
    have : 0 < t.affected p := affected_pos_iff.2 ⟨r, mem_of_lookup hr, hpr⟩
    omega
  · next h =>
    refine affected_eq_zero_iff.2 fun r hr => ?_
    by_contra hpr
    have hpr : p r = true := by simpa using hpr
    have := lookup_of_mem hr
    rw [hp r hpr] at this
    simp [this, hpr] at h

end Table
