import ChatHygiene.Lib.FixedWidth
import ChatHygiene.Storage.Models
import Mathlib.Data.Prod.Lex
import Mathlib.Order.Lattice.Nat
import Mathlib.Data.Int.ConditionallyCompleteOrder
/-!
# Stored instants

An instant is stored as text, `to_rfc3339` of its calendar fields, and queries
compare the text. The widths of the fields are fixed up to the fraction, whose
digits are cut short in threes; the order of the texts is the order in time.
-/

namespace ChatHygiene

open FixedWidth (padded)

/-- A leap year of the Gregorian calendar. -/
def isLeapYear (year : Nat) : Bool := year % 4 = 0 && (year % 100 ≠ 0 || year % 400 = 0)

def daysInYear (year : Nat) : Nat := if isLeapYear year then 366 else 365

/-- A `DateTime<Utc>` of the years 0 to 9999: its year, the day of the year, the second of the day
and the nanosecond, which goes on past a second in the leap second that ends a minute. -/
structure Timestamp where
  year : Nat
  ordinal : Nat
  secs : Nat
  frac : Nat
  year_le : year ≤ 9999
  ordinal_pos : 1 ≤ ordinal
  ordinal_le : ordinal ≤ daysInYear year
  secs_lt : secs < 86400
  frac_lt : frac < 2000000000
  leap : 1000000000 ≤ frac → secs % 60 = 59

namespace Timestamp

/-- The derived order: the date first, then the time of the day. -/
def key (t : Timestamp) : Nat ×ₗ Nat ×ₗ Nat ×ₗ Nat :=
  toLex (t.year, toLex (t.ordinal, toLex (t.secs, t.frac)))

theorem key_injective : Function.Injective key := by
  intro a b h
  obtain ⟨year, ordinal, secs, frac, _, _, _, _, _, _⟩ := a
  obtain ⟨year', ordinal', secs', frac', _, _, _, _, _, _⟩ := b
  simp only [key, toLex_inj, Prod.mk.injEq] at h
  obtain ⟨rfl, rfl, rfl, rfl⟩ := h
  rfl

instance : LinearOrder Timestamp := LinearOrder.lift' key key_injective

theorem lt_iff {a b : Timestamp} : a < b ↔ a.year < b.year ∨ a.year = b.year ∧
    (a.ordinal < b.ordinal ∨ a.ordinal = b.ordinal ∧
      (a.secs < b.secs ∨ a.secs = b.secs ∧ a.frac < b.frac)) := by
  change a.key < b.key ↔ _
  simp only [key, Prod.Lex.toLex_lt_toLex]

/-! ## Rendering -/

def monthLengths (year : Nat) : List Nat :=
  [31, if isLeapYear year then 29 else 28, 31, 30, 31, 30, 31, 31, 30, 31, 30, 31]

/-- The month and the day of the month, from a month on. -/
def monthDay : List Nat → Nat → Nat → Nat × Nat
  | [], month, ordinal => (month, ordinal)
  | length :: lengths, month, ordinal =>
    if ordinal ≤ length then (month, ordinal) else monthDay lengths (month + 1) (ordinal - length)

def month (t : Timestamp) : Nat := (monthDay (monthLengths t.year) 1 t.ordinal).1

def day (t : Timestamp) : Nat := (monthDay (monthLengths t.year) 1 t.ordinal).2

/-- The second of the minute, which is the sixtieth in a leap second. -/
def second (t : Timestamp) : Nat := t.secs % 60 + if 1000000000 ≤ t.frac then 1 else 0

def nano (t : Timestamp) : Nat := t.frac % 1000000000

/-- `SecondsFormat::AutoSi`: no digits of the fraction, or as many threes as it needs. -/
def fractionText (nano : Nat) : List Char :=
  if nano = 0 then []
  else if nano % 1000000 = 0 then '.' :: padded 3 (nano / 1000000)
  else if nano % 1000 = 0 then '.' :: padded 6 (nano / 1000)
  else '.' :: padded 9 nano

/-- `to_rfc3339`. -/
def toRfc3339 (t : Timestamp) : List Char :=
  padded 4 t.year ++ '-' :: (padded 2 t.month ++ '-' :: (padded 2 t.day ++ 'T' ::
    (padded 2 (t.secs / 3600) ++ ':' :: (padded 2 (t.secs / 60 % 60) ++ ':' ::
      (padded 2 t.second ++ (fractionText t.nano ++ "+00:00".toList))))))

example : toRfc3339 ⟨2024, 60, 86399, 1500000000, by decide, by decide, by decide, by decide,
    by decide, by decide⟩ = "2024-02-29T23:59:60.500+00:00".toList := by decide +kernel

/-! ## The order of the texts -/

theorem fractionText_lt {m n : Nat} (hn : n < 1000000000) (h : m < n) :
    fractionText m ++ "+00:00".toList < fractionText n ++ "+00:00".toList := by
  have hplus : '+' < '0' := by decide
  have hdot (digits : List Char) : "+00:00".toList < '.' :: digits ++ "+00:00".toList :=
    List.cons_lt_cons_iff.2 (.inl (by decide))
  have hcons {a b : List Char} (hab : a < b) : '.' :: a < '.' :: b :=
    List.cons_lt_cons_iff.2 (.inr ⟨rfl, hab⟩)
  have hn' : fractionText n = '.' :: (if n % 1000000 = 0 then padded 3 (n / 1000000)
      else if n % 1000 = 0 then padded 6 (n / 1000) else padded 9 n) := by
    unfold fractionText
    rw [if_neg (by omega)]
    split_ifs
    all_goals rfl
  rw [hn']
  unfold fractionText
  by_cases hm : m = 0
  · rw [if_pos hm]
    exact hdot _
  · rw [if_neg hm]
    -- the widths of both fractions, each of which a digit or the sign of the offset ends
    split_ifs
    all_goals
      refine hcons (FixedWidth.fraction_lt hplus ?_ ?_)
      all_goals omega

/-- A day is in a month, and in one of two digits. -/
theorem monthDay_bounds {lengths : List Nat} (hlengths : ∀ length ∈ lengths, length ≤ 31)
    (first : Nat) {ordinal : Nat} (hpos : 1 ≤ ordinal) (hle : ordinal ≤ lengths.sum) :
    (monthDay lengths first ordinal).1 < first + lengths.length ∧
      (monthDay lengths first ordinal).2 ≤ 31 := by
  induction lengths generalizing first ordinal with
  | nil =>
    rw [List.sum_nil] at hle
    omega
  | cons length lengths ih =>
    obtain ⟨hlength, hlengths⟩ := List.forall_mem_cons.1 hlengths
    rw [List.sum_cons] at hle
    rw [monthDay, List.length_cons]
    split
    · exact ⟨by omega, by omega⟩
    · have hpos' : 1 ≤ ordinal - length := by omega
      have hnext := ih hlengths (first + 1) hpos' (by omega)
      exact ⟨by omega, hnext.2⟩

theorem first_le_monthDay (lengths : List Nat) (first ordinal : Nat) :
    first ≤ (monthDay lengths first ordinal).1 := by
  induction lengths generalizing first ordinal with
  | nil => exact Nat.le_refl _
  | cons length lengths ih =>
    rw [monthDay]
    split
    · exact Nat.le_refl _
    · exact Nat.le_trans (Nat.le_succ _) (ih _ _)

/-- A later day of the year is in a later month, or later in the month. -/
theorem monthDay_lt (lengths : List Nat) (first : Nat) {m n : Nat} (h : m < n) :
    (monthDay lengths first m).1 < (monthDay lengths first n).1 ∨
      (monthDay lengths first m).1 = (monthDay lengths first n).1 ∧
        (monthDay lengths first m).2 < (monthDay lengths first n).2 := by
  induction lengths generalizing first m n with
  | nil => exact .inr ⟨rfl, h⟩
  | cons length lengths ih =>
    rw [monthDay, monthDay]
    by_cases hn : n ≤ length
    · rw [if_pos hn, if_pos (by omega)]
      exact .inr ⟨rfl, h⟩
    · rw [if_neg hn]
      by_cases hm : m ≤ length
      · rw [if_pos hm]
        exact .inl (Nat.lt_of_succ_le (first_le_monthDay _ _ _))
      · rw [if_neg hm]
        exact ih _ (by omega)

theorem sum_monthLengths (year : Nat) : (monthLengths year).sum = daysInYear year := by
  unfold monthLengths daysInYear
  split <;> rfl

theorem date_bounds (t : Timestamp) : t.month < 100 ∧ t.day < 100 := by
  have hlengths : ∀ length ∈ monthLengths t.year, length ≤ 31 := by
    unfold monthLengths
    split <;> decide
  have hbounds := monthDay_bounds hlengths 1 t.ordinal_pos
    (by rw [sum_monthLengths]; exact t.ordinal_le)
  have hlength : (monthLengths t.year).length = 12 := rfl
  unfold month day
  omega

/-- **A later instant has a later text.** -/
theorem toRfc3339_lt {a b : Timestamp} (h : a < b) : a.toRfc3339 < b.toRfc3339 := by
  have hcons (c : Char) {xs ys : List Char} (hlt : xs < ys) : c :: xs < c :: ys :=
    List.cons_lt_cons_iff.2 (.inr ⟨rfl, hlt⟩)
  obtain ⟨hmonth, hday⟩ := b.date_bounds
  have hyear := b.year_le
  have hsecs := a.secs_lt
  have hsecs' := b.secs_lt
  have hleap := a.leap
  have hleap' := b.leap
  have hfrac := a.frac_lt
  have hfrac' := b.frac_lt
  unfold toRfc3339
  rcases lt_iff.1 h with hlt | ⟨hyears, h⟩
  · exact FixedWidth.field_lt (by omega) (.inl hlt)
  refine FixedWidth.field_lt (by omega) (.inr ⟨hyears, hcons _ ?_⟩)
  rcases h with hlt | ⟨hordinal, h⟩
  · have hdate := monthDay_lt (monthLengths a.year) 1 hlt
    rw [show (monthDay (monthLengths a.year) 1 a.ordinal) = (a.month, a.day) from rfl,
      show (monthDay (monthLengths a.year) 1 b.ordinal) = (b.month, b.day) by
        rw [hyears]; rfl] at hdate
    refine FixedWidth.field_lt (by omega) (hdate.imp_right fun hdate => ⟨hdate.1, hcons _ ?_⟩)
    exact FixedWidth.field_lt (by omega) (.inl hdate.2)
  have hsame : a.month = b.month ∧ a.day = b.day := by
    unfold month day
    rw [hyears, hordinal]
    exact ⟨rfl, rfl⟩
  refine FixedWidth.field_lt (by omega) (.inr ⟨hsame.1, hcons _ ?_⟩)
  refine FixedWidth.field_lt (by omega) (.inr ⟨hsame.2, hcons _ ?_⟩)
  -- the hour, the minute and the second, a leap second being the sixtieth
  have htime : a.secs / 3600 < b.secs / 3600 ∨ a.secs / 3600 = b.secs / 3600 ∧
      (a.secs / 60 % 60 < b.secs / 60 % 60 ∨ a.secs / 60 % 60 = b.secs / 60 % 60 ∧
        (a.second < b.second ∨ a.second = b.second ∧ a.nano < b.nano)) := by
    unfold second nano
    split_ifs
    all_goals omega
  have hsecond : b.second < 100 := by
    unfold second
    split_ifs
    all_goals omega
  refine FixedWidth.field_lt (by omega) (htime.imp_right fun htime => ⟨htime.1, hcons _ ?_⟩)
  refine FixedWidth.field_lt (by omega) (htime.2.imp_right fun htime => ⟨htime.1, hcons _ ?_⟩)
  refine FixedWidth.field_lt (by omega) (htime.2.imp_right fun htime => ⟨htime.1, ?_⟩)
  exact fractionText_lt (Nat.mod_lt _ (by omega)) htime.2

theorem toRfc3339_strictMono : StrictMono toRfc3339 := fun _ _ => toRfc3339_lt

/-! ## The comparisons of the queries

A bound is always there; a column may be NULL. -/

/-- `column <= ?`, which a NULL does not meet. -/
def sqlAtMost (column : Option (List Char)) (bound : Timestamp) : Bool :=
  column.any fun text => text ≤ bound.toRfc3339

/-- `column < ?`. -/
def sqlBefore (column : Option (List Char)) (bound : Timestamp) : Bool :=
  column.any fun text => text < bound.toRfc3339

/-- `column IS NULL OR column <= ?`. -/
def sqlNullOrAtMost (column : Option (List Char)) (bound : Timestamp) : Bool :=
  column.isNone || sqlAtMost column bound

theorem sqlAtMost_stored (stored : Option Timestamp) (bound : Timestamp) :
    sqlAtMost (stored.map toRfc3339) bound = stored.any fun t => bound ≥ t := by
  cases stored with
  | none => rfl
  | some t =>
    have horder : t.toRfc3339 ≤ bound.toRfc3339 ↔ bound ≥ t := toRfc3339_strictMono.le_iff_le
    simp [sqlAtMost, horder]

theorem sqlBefore_stored (stored : Option Timestamp) (bound : Timestamp) :
    sqlBefore (stored.map toRfc3339) bound = stored.any fun t => t < bound := by
  cases stored with
  | none => rfl
  | some t =>
    have horder : t.toRfc3339 < bound.toRfc3339 ↔ t < bound := toRfc3339_strictMono.lt_iff_lt
    simp [sqlBefore, horder]

theorem sqlNullOrAtMost_stored (stored : Option Timestamp) (bound : Timestamp) :
    sqlNullOrAtMost (stored.map toRfc3339) bound = stored.all fun t => bound ≥ t := by
  rw [sqlNullOrAtMost, sqlAtMost_stored]
  cases stored with
  | none => rfl
  | some t => rfl

/-! ## The instants of the rows

The rows of the store hold an instant as a number of nanoseconds, which does not
tell a leap second from the second after it. -/

/-- The days from the year 0 on up to a year. -/
def daysBefore (year : Nat) : Nat :=
  365 * year + (year + 3) / 4 - (year + 99) / 100 + (year + 399) / 400

theorem daysBefore_succ (year : Nat) : daysBefore (year + 1) = daysBefore year + daysInYear year := by
  -- each of the three counts goes up after a year it divides
  have hfour : (year + 1 + 3) / 4 = (year + 3) / 4 + if year % 4 = 0 then 1 else 0 := by
    split_ifs <;> omega
  have hhundred : (year + 1 + 99) / 100 = (year + 99) / 100 + if year % 100 = 0 then 1 else 0 := by
    split_ifs <;> omega
  have hcycle : (year + 1 + 399) / 400 = (year + 399) / 400 + if year % 400 = 0 then 1 else 0 := by
    split_ifs <;> omega
  have hless : (year + 99) / 100 ≤ 365 * year := by omega
  have hbound : (if year % 100 = 0 then 1 else 0) ≤ 1 := by split_ifs <;> omega
  unfold daysBefore daysInYear isLeapYear
  rw [hfour, hhundred, hcycle]
  generalize (year + 3) / 4 = fours at *
  generalize (year + 99) / 100 = hundreds at *
  generalize (year + 399) / 400 = cycles at *
  by_cases h4 : year % 4 = 0
  · by_cases h100 : year % 100 = 0
    · by_cases h400 : year % 400 = 0
      · simp only [h4, h100, h400, if_true, decide_true, Bool.true_and, Bool.or_true]
        omega
      · simp [h4, h100, h400]
        omega
    · have h400 : year % 400 ≠ 0 := by omega
      simp [h4, h100, h400]
      omega
  · have h100 : year % 100 ≠ 0 := by omega
    have h400 : year % 400 ≠ 0 := by omega
    simp [h4, h100, h400]
    omega

theorem daysBefore_mono {m n : Nat} (h : m ≤ n) : daysBefore m ≤ daysBefore n := by
  induction n, h using Nat.le_induction with
  | base => exact Nat.le_refl _
  | succ n _ ih =>
    rw [daysBefore_succ]
    exact Nat.le_trans ih (Nat.le_add_right _ _)

/-- The nanoseconds from the year 0 on. -/
def nanos (t : Timestamp) : Nat :=
  1000000000 * (86400 * (daysBefore t.year + (t.ordinal - 1)) + t.secs) + t.frac

/-- The nanoseconds from the epoch on. -/
def instant (t : Timestamp) : DateTime := t.nanos - DateTime.days (daysBefore 1970)

/-- Outside of a leap second. -/
abbrev Civil := { t : Timestamp // t.frac < 1000000000 }

theorem nanos_lt {a b : Timestamp} (ha : a.frac < 1000000000) (h : a < b) : a.nanos < b.nanos := by
  have hsecs := a.secs_lt
  have hordinal := a.ordinal_le
  have hpos := a.ordinal_pos
  have hpos' := b.ordinal_pos
  unfold nanos
  rcases lt_iff.1 h with hyear | ⟨hyear, h⟩
  · have hnext := daysBefore_succ a.year
    have hmono := daysBefore_mono (Nat.succ_le_of_lt hyear)
    rw [Nat.succ_eq_add_one] at hmono
    omega
  · rw [hyear]
    omega

theorem instant_strictMono : StrictMono fun t : Civil => t.val.instant := by
  intro a b h
  have hnanos : a.val.nanos < b.val.nanos := nanos_lt a.property h
  change a.val.instant < b.val.instant
  unfold instant
  exact Int.sub_lt_sub_right (Int.ofNat_lt.2 hnanos) _

/-- **The order of the stored texts is the order in time**, the leap seconds included, so a query
selects the rows a comparison of the instants selects. A text is read back as the one instant it is
the text of, and outside of leap seconds the comparison is the one of the rows. -/
theorem stored_timestamps_ordered :
    (∀ a b : Timestamp, (a.toRfc3339 < b.toRfc3339 ↔ a < b) ∧
      (a.toRfc3339 ≤ b.toRfc3339 ↔ a ≤ b) ∧ (a.toRfc3339 = b.toRfc3339 ↔ a = b)) ∧
    (∀ (Row : Type) (stored : Row → Option Timestamp) (rows : List Row) (bound : Timestamp),
      rows.filter (fun r => sqlAtMost ((stored r).map toRfc3339) bound) =
        rows.filter (fun r => (stored r).any fun t => bound ≥ t) ∧
      rows.filter (fun r => sqlBefore ((stored r).map toRfc3339) bound) =
        rows.filter (fun r => (stored r).any fun t => t < bound) ∧
      rows.filter (fun r => sqlNullOrAtMost ((stored r).map toRfc3339) bound) =
        rows.filter (fun r => (stored r).all fun t => bound ≥ t)) ∧
    ∀ (stored : Option Civil) (bound : Civil),
      sqlAtMost (stored.map (·.val.toRfc3339)) bound =
        (stored.map (·.val.instant)).any (· ≤ bound.val.instant) ∧
      sqlBefore (stored.map (·.val.toRfc3339)) bound =
        (stored.map (·.val.instant)).any (· < bound.val.instant) ∧
      sqlNullOrAtMost (stored.map (·.val.toRfc3339)) bound =
        (stored.map (·.val.instant)).all (· ≤ bound.val.instant) := by
  refine ⟨fun a b => ⟨toRfc3339_strictMono.lt_iff_lt, toRfc3339_strictMono.le_iff_le,
    toRfc3339_strictMono.injective.eq_iff⟩, fun Row stored rows bound => ?_, fun stored bound => ?_⟩
  · simp only [sqlAtMost_stored, sqlBefore_stored, sqlNullOrAtMost_stored, and_self]
  · have hle (t : Civil) : t.val.instant ≤ bound.val.instant ↔ t.val ≤ bound.val :=
      instant_strictMono.le_iff_le
    have hlt (t : Civil) : t.val.instant < bound.val.instant ↔ t.val < bound.val :=
      instant_strictMono.lt_iff_lt
    have hcolumn : stored.map (·.val.toRfc3339) = (stored.map (·.val)).map toRfc3339 := by
      rw [Option.map_map]
      rfl
    rw [hcolumn, sqlAtMost_stored, sqlBefore_stored, sqlNullOrAtMost_stored]
    cases stored with
    | none => exact ⟨rfl, rfl, rfl⟩
    | some t =>
      exact ⟨decide_eq_decide.2 (hle t).symm, decide_eq_decide.2 (hlt t).symm,
        decide_eq_decide.2 (hle t).symm⟩

end Timestamp

end ChatHygiene
