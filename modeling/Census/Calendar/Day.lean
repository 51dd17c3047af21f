import Census.Calendar.Gregorian
import Census.Text.Blank
import Census.Text.Numeral

set_option autoImplicit false

namespace Census.Calendar

def firstYear : Int := -262143

def lastYear : Int := 262142

def Valid (year : Int) (month day : Nat) : Prop :=
  firstYear ≤ year ∧ year ≤ lastYear ∧ 1 ≤ day ∧ day ≤ monthLength (isLeap year) month

instance (year : Int) (month day : Nat) : Decidable (Valid year month day) :=
  inferInstanceAs (Decidable (_ ∧ _ ∧ _ ∧ _))

structure Day where
  year : Int
  month : Nat
  day : Nat
  valid : Valid year month day
  deriving DecidableEq

namespace Day

def of? (year : Int) (month day : Nat) : Option Day :=
  if valid : Valid year month day then some ⟨year, month, day, valid⟩ else none

theorem of?_eq_some_iff {year : Int} {month day : Nat} {d : Day} :
    of? year month day = some d ↔ d.year = year ∧ d.month = month ∧ d.day = day := by
  unfold of?
  split
  · cases d; simp [Day.mk.injEq, eq_comm]
  · rename_i invalid
    simp only [reduceCtorEq, false_iff, not_and]
    rintro rfl rfl rfl
    exact invalid d.valid

instance : LT Day where
  lt a b := a.year < b.year ∨
    a.year = b.year ∧ (a.month < b.month ∨ a.month = b.month ∧ a.day < b.day)

instance : LE Day where
  le a b := ¬ b < a

instance (a b : Day) : Decidable (a < b) :=
  inferInstanceAs (Decidable (_ ∨ _ ∧ (_ ∨ _ ∧ _)))

instance (a b : Day) : Decidable (a ≤ b) :=
  inferInstanceAs (Decidable (¬ b < a))

/-- The days from the first of January 1970 to a day. -/
def number (d : Day) : Int :=
  daysBefore d.year + daysBeforeMonth (isLeap d.year) d.month + d.day - 1 - daysBefore 1970

def ofNumber? (n : Int) : Option Day :=
  let elapsed := n + daysBefore 1970
  let year := yearOf elapsed
  (locate (isLeap year) months (elapsed - daysBefore year).toNat).bind fun (month, day) =>
    of? year month day

def millisPerDay : Int := 24 * 60 * 60 * 1000

def at? (instant : Int64) : Option Day :=
  ofNumber? (instant.toInt / millisPerDay)

/-- Four digits, and outside the years 0 to 9999 a sign before four digits or more. -/
def yearText (year : Int) : String :=
  if 0 ≤ year ∧ year ≤ 9999 then Text.padded 4 year.natAbs
  else (if year < 0 then "-" else "+") ++ Text.padded 4 year.natAbs

def hyphenated (d : Day) : String :=
  yearText d.year ++ "-" ++ Text.padded 2 d.month ++ "-" ++ Text.padded 2 d.day

def slashed (d : Day) : String :=
  Text.padded 2 d.month ++ "/" ++ Text.padded 2 d.day ++ "/" ++ yearText d.year

def number? (most : Nat) (text : List Char) : Option (Nat × List Char) :=
  match (text.take most).takeWhile Char.isDigit with
  | [] => none
  | digits => some (Nat.ofDigitChars 10 digits 0, text.drop digits.length)

def year? (text : List Char) : Option (Int × List Char) :=
  match text with
  | '-' :: rest => (number? rest.length rest).map fun (n, rest) => (-(n : Int), rest)
  | '+' :: rest => (number? rest.length rest).map fun (n, rest) => ((n : Int), rest)
  | text => (number? 4 text).map fun (n, rest) => ((n : Int), rest)

def slash? : List Char → Option (List Char)
  | '/' :: rest => some rest
  | _ => none

/--
Reads month, day and year with slashes between them. Month and day have one digit or two, the year
up to four, or any number of digits after a sign. Blanks are skipped before each number and around
the whole.
-/
def parse? (text : String) : Option Day := do
  let text := (Text.trim text).toList
  let (month, text) ← number? 2 (Text.dropBlanks text)
  let text ← slash? text
  let (day, text) ← number? 2 (Text.dropBlanks text)
  let text ← slash? text
  let (year, text) ← year? (Text.dropBlanks text)
  if text.isEmpty then of? year month day else none

/-- The day of an instant, taken through the form in which operands are written. -/
def written? (instant : Int64) : Option Day :=
  (at? instant).bind fun day => parse? day.slashed

end Day

end Census.Calendar
