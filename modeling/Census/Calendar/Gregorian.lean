set_option autoImplicit false

namespace Census.Calendar

/-- Years by the rules of the Gregorian calendar, before its introduction too. -/
def isLeap (year : Int) : Bool :=
  year % 4 = 0 && (year % 100 ≠ 0 || year % 400 = 0)

def daysIn (years : Int) : Int :=
  365 * years + years / 4 - years / 100 + years / 400

def daysBefore (year : Int) : Int :=
  daysIn (year - 1)

theorem daysBefore_succ (year : Int) :
    daysBefore (year + 1) = daysBefore year + if isLeap year then 366 else 365 := by
  simp only [daysBefore, daysIn, isLeap, Bool.and_eq_true, Bool.or_eq_true, decide_eq_true_eq]
  split <;> omega

/-- The years over before a day, which are a given number, one less or one more. -/
def settle (about day : Int) : Int :=
  if day < daysIn about then about - 1
  else if day < daysIn (about + 1) then about
  else about + 1

def yearOf (day : Int) : Int :=
  settle (400 * day / 146097) day + 1

theorem yearOf_bounds (day : Int) :
    daysBefore (yearOf day) ≤ day ∧ day < daysBefore (yearOf day + 1) := by
  unfold yearOf daysBefore
  generalize about_eq : 400 * day / 146097 = about
  simp only [Int.add_sub_cancel]
  by_cases first : day < daysIn about
  · simp only [settle, first, if_true, Int.sub_add_cancel, and_true]
    simp only [daysIn] at first ⊢
    omega
  · by_cases second : day < daysIn (about + 1)
    · simp only [settle, first, second, if_true, if_false, and_true]
      simp only [daysIn] at first second ⊢
      omega
    · simp only [settle, first, second, if_false]
      simp only [daysIn] at first second ⊢
      omega

def monthLength (leap : Bool) : Nat → Nat
  | 1 | 3 | 5 | 7 | 8 | 10 | 12 => 31
  | 4 | 6 | 9 | 11 => 30
  | 2 => if leap then 29 else 28
  | _ => 0

def months : List Nat :=
  [1, 2, 3, 4, 5, 6, 7, 8, 9, 10, 11, 12]

def daysBeforeMonth (leap : Bool) (month : Nat) : Nat :=
  (months.takeWhile (· < month)).foldr (fun m days => monthLength leap m + days) 0

/-- The month and the day in it, for a day counted from the start of the first month given. -/
def locate (leap : Bool) : List Nat → Nat → Option (Nat × Nat)
  | [], _ => none
  | month :: rest, offset =>
    if offset < monthLength leap month then some (month, offset + 1)
    else locate leap rest (offset - monthLength leap month)

end Census.Calendar
