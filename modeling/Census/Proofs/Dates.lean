import Mathlib.Data.List.TakeWhile
import Mathlib.Order.Monotone.Basic
import Census.Calendar.Day
import Census.Relation

set_option autoImplicit false

namespace Census.Calendar

theorem daysBefore_le_of_lt {a b : Int} (earlier : a < b) : daysBefore (a + 1) ≤ daysBefore b := by
  simp only [daysBefore, daysIn]
  omega

theorem yearOf_eq {year day : Int} (lower : daysBefore year ≤ day)
    (upper : day < daysBefore (year + 1)) : yearOf day = year := by
  have ⟨own_lower, own_upper⟩ := yearOf_bounds day
  rcases Int.lt_trichotomy (yearOf day) year with before | same | after
  next =>
    have passed := daysBefore_le_of_lt before
    omega
  next => exact same
  next =>
    have passed := daysBefore_le_of_lt after
    omega

def yearLength (leap : Bool) : Nat :=
  if leap then 366 else 365

theorem daysBefore_add_yearLength (year : Int) :
    daysBefore (year + 1) = daysBefore year + yearLength (isLeap year) := by
  rw [daysBefore_succ, yearLength]
  split <;> rfl

theorem month_bounds {leap : Bool} {month : Nat} (some_day : 1 ≤ monthLength leap month) :
    1 ≤ month ∧ month ≤ 12 := by
  unfold monthLength at some_day
  split at some_day <;> omega

theorem monthLength_pos {leap : Bool} {month : Nat} (lower : 1 ≤ month) (upper : month ≤ 12) :
    0 < monthLength leap month := by
  have listed : ∀ leap, ∀ m ≤ 12, 1 ≤ m → 0 < monthLength leap m := by decide
  exact listed leap month upper lower

theorem daysBeforeMonth_succ (leap : Bool) (month : Nat) :
    daysBeforeMonth leap (month + 1) = daysBeforeMonth leap month + monthLength leap month := by
  rcases Nat.lt_or_ge 12 month with past | within
  next =>
    have all (m : Nat) (later : 12 < m) : months.takeWhile (· < m) = months := by
      refine List.takeWhile_eq_self_iff.mpr fun listed member => decide_eq_true ?_
      simp only [months, List.mem_cons, List.not_mem_nil, or_false] at member
      omega
    have none_left : monthLength leap month = 0 := by
      by_contra some_day
      have bounds := month_bounds (Nat.one_le_iff_ne_zero.mpr some_day)
      omega
    rw [daysBeforeMonth, daysBeforeMonth, all _ past, all _ (by omega), none_left, Nat.add_zero]
  next =>
    have listed : ∀ leap, ∀ m ≤ 12,
        daysBeforeMonth leap (m + 1) = daysBeforeMonth leap m + monthLength leap m := by decide
    exact listed leap month within

theorem daysBeforeMonth_mono (leap : Bool) : Monotone (daysBeforeMonth leap) :=
  monotone_nat_of_le_succ fun month => by
    rw [daysBeforeMonth_succ]
    exact Nat.le_add_right _ _

theorem daysBeforeMonth_end (leap : Bool) : daysBeforeMonth leap 13 = yearLength leap := by
  cases leap <;> rfl

theorem locate_of_split {leap : Bool} {listed passed rest : List Nat} {month offset : Nat}
    (split : listed = passed ++ month :: rest) (inside : offset < monthLength leap month) :
    locate leap listed (passed.foldr (fun m days => monthLength leap m + days) 0 + offset) =
      some (month, offset + 1) := by
  induction passed generalizing listed with
  | nil => simp [split, locate, inside]
  | cons first passed ih =>
    have later := ih rfl
    rw [split, List.cons_append, List.foldr_cons, locate, if_neg (by omega), ← later]
    congr 1
    omega

theorem locate_months {leap : Bool} {month day : Nat} (lower : 1 ≤ day)
    (upper : day ≤ monthLength leap month) :
    locate leap months (daysBeforeMonth leap month + (day - 1)) = some (month, day) := by
  have split : ∀ m ≤ 12, 1 ≤ m →
      months = months.takeWhile (· < m) ++ m :: months.dropWhile (· ≤ m) := by decide
  have ⟨first, last⟩ := month_bounds (Nat.le_trans lower upper)
  have inside : day - 1 < monthLength leap month := by omega
  have found := locate_of_split (split month last first) inside
  rwa [Nat.sub_add_cancel lower] at found

theorem exists_month {leap : Bool} {offset : Nat} (inside : offset < yearLength leap) :
    ∃ month day, (1 ≤ day ∧ day ≤ monthLength leap month) ∧
      daysBeforeMonth leap month + day = offset + 1 := by
  have reached (last : Nat) (before : offset < daysBeforeMonth leap last) :
      ∃ month day, (1 ≤ day ∧ day ≤ monthLength leap month) ∧
        daysBeforeMonth leap month + day = offset + 1 := by
    induction last with
    | zero => exact absurd before (Nat.not_lt_zero _)
    | succ month ih =>
      by_cases earlier : offset < daysBeforeMonth leap month
      next => exact ih earlier
      next =>
        rw [daysBeforeMonth_succ] at before
        exact ⟨month, offset + 1 - daysBeforeMonth leap month, by omega, by omega⟩
  exact reached 13 (daysBeforeMonth_end leap ▸ inside)

/-- A day of the calendar when it is carried on over all years. -/
structure Date where
  year : Int
  month : Nat
  day : Nat
  valid : 1 ≤ day ∧ day ≤ monthLength (isLeap year) month

namespace Date

def epoch : Date := ⟨1970, 1, 1, by decide⟩

def next (d : Date) : Date :=
  if within : d.day < monthLength (isLeap d.year) d.month then
    ⟨d.year, d.month, d.day + 1, by omega⟩
  else if earlier : d.month < 12 then
    ⟨d.year, d.month + 1, 1, Nat.le_refl 1, monthLength_pos (by omega) earlier⟩
  else ⟨d.year + 1, 1, 1, Nat.le_refl 1, monthLength_pos (by decide) (by decide)⟩

/-- The days from the first of January 1970 to a date. -/
def number (d : Date) : Int :=
  daysBefore d.year + daysBeforeMonth (isLeap d.year) d.month + d.day - 1 - daysBefore 1970

theorem number_epoch : epoch.number = 0 := by
  decide

theorem number_next (d : Date) : d.next.number = d.number + 1 := by
  have ⟨lower, upper⟩ := d.valid
  have ⟨first, last⟩ := month_bounds (Nat.le_trans lower upper)
  have month_end := daysBeforeMonth_succ (isLeap d.year) d.month
  unfold next
  split
  next => simp only [number]; omega
  next =>
    split
    next => simp only [number, month_end]; omega
    next =>
      have december : d.month + 1 = 13 := by omega
      have new_year : daysBeforeMonth (isLeap (d.year + 1)) 1 = 0 := rfl
      rw [december, daysBeforeMonth_end] at month_end
      simp only [number, daysBefore_add_yearLength, new_year]
      omega

theorem year_bounds (d : Date) :
    daysBefore d.year ≤ d.number + daysBefore 1970 ∧
      d.number + daysBefore 1970 < daysBefore (d.year + 1) := by
  have ⟨lower, upper⟩ := d.valid
  have ⟨first, last⟩ := month_bounds (Nat.le_trans lower upper)
  have month_end := daysBeforeMonth_succ (isLeap d.year) d.month
  have inside := daysBeforeMonth_mono (isLeap d.year) (show d.month + 1 ≤ 13 by omega)
  rw [daysBeforeMonth_end] at inside
  rw [daysBefore_add_yearLength, number]
  omega

theorem exists_number (n : Int) : ∃ d : Date, d.number = n := by
  have ⟨lower, upper⟩ := yearOf_bounds (n + daysBefore 1970)
  rw [daysBefore_add_yearLength] at upper
  have inside : (n + daysBefore 1970 - daysBefore (yearOf (n + daysBefore 1970))).toNat <
      yearLength (isLeap (yearOf (n + daysBefore 1970))) := by omega
  have ⟨month, day, valid, same⟩ := exists_month inside
  refine ⟨⟨_, month, day, valid⟩, ?_⟩
  simp only [number]
  omega

theorem yearOf_number (d : Date) : yearOf (d.number + daysBefore 1970) = d.year :=
  yearOf_eq d.year_bounds.1 d.year_bounds.2

theorem days_into_year (d : Date) :
    (d.number + daysBefore 1970 - daysBefore d.year).toNat =
      daysBeforeMonth (isLeap d.year) d.month + (d.day - 1) := by
  have positive := d.valid.1
  simp only [number]
  omega

theorem locate_number (d : Date) :
    locate (isLeap d.year) months (d.number + daysBefore 1970 - daysBefore d.year).toNat =
      some (d.month, d.day) := by
  rw [days_into_year, locate_months d.valid.1 d.valid.2]

theorem number_injective {a b : Date} (same : a.number = b.number) : a = b := by
  have year : a.year = b.year := by rw [← a.yearOf_number, same, b.yearOf_number]
  have placed := a.locate_number
  rw [year, same, b.locate_number, Option.some.injEq, Prod.mk.injEq] at placed
  cases a
  cases b
  simp only [mk.injEq]
  exact ⟨year, placed.1.symm, placed.2.symm⟩

theorem exists_unique_number (n : Int) : ∃! d : Date, d.number = n := by
  have ⟨d, same⟩ := exists_number n
  exact ⟨d, same, fun other equal => number_injective (equal.trans same.symm)⟩

end Date

namespace Day

def date (d : Day) : Date :=
  ⟨d.year, d.month, d.day, d.valid.2.2⟩

theorem ofNumber?_number (d : Date) : ofNumber? d.number = of? d.year d.month d.day := by
  simp only [ofNumber?, d.yearOf_number, d.locate_number, Option.bind_some]

theorem lt_iff {a b : Day} : a < b ↔ a.year < b.year ∨
    a.year = b.year ∧ (a.month < b.month ∨ a.month = b.month ∧ a.day < b.day) :=
  Iff.rfl

theorem lt_trichotomy (a b : Day) : a < b ∨ a = b ∨ b < a := by
  cases a
  cases b
  simp only [lt_iff, mk.injEq]
  omega

theorem number_lt_of_lt {a b : Day} (earlier : a < b) : a.number < b.number := by
  rcases earlier with year | ⟨year, month | ⟨month, day⟩⟩
  next =>
    have own : a.number + daysBefore 1970 < daysBefore (a.year + 1) := a.date.year_bounds.2
    have other : daysBefore b.year ≤ b.number + daysBefore 1970 := b.date.year_bounds.1
    have passed := daysBefore_le_of_lt year
    omega
  next =>
    have passed := daysBeforeMonth_mono (isLeap a.year) (show a.month + 1 ≤ b.month from month)
    have own := a.valid.2.2.2
    have other := b.valid.2.2.1
    rw [daysBeforeMonth_succ] at passed
    simp only [number, ← year]
    omega
  next =>
    simp only [number, ← year, ← month]
    omega

theorem number_lt_iff {a b : Day} : a.number < b.number ↔ a < b := by
  refine ⟨fun below => ?_, number_lt_of_lt⟩
  rcases lt_trichotomy a b with before | same | after
  next => exact before
  next => exact absurd (same ▸ below) (Int.lt_irrefl _)
  next => exact absurd (Int.lt_trans below (number_lt_of_lt after)) (Int.lt_irrefl _)

theorem number_inj {a b : Day} : a.number = b.number ↔ a = b := by
  refine ⟨fun same => ?_, congrArg number⟩
  rcases lt_trichotomy a b with before | equal | after
  next => exact absurd same (Int.ne_of_lt (number_lt_of_lt before))
  next => exact equal
  next => exact absurd same.symm (Int.ne_of_lt (number_lt_of_lt after))

theorem holds_number (relation : Relation) (a b : Day) :
    relation.holds a.number b.number = relation.holds a b := by
  have before (x y : Day) : x.number ≤ y.number ↔ x ≤ y :=
    Int.not_lt.symm.trans (not_congr number_lt_iff)
  cases relation <;> simp only [Relation.holds, number_inj, number_lt_iff, before, ne_eq]

end Day

end Census.Calendar
