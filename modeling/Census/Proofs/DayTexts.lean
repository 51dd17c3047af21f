import Mathlib.Data.Nat.Digits.Defs
import Census.Calendar.Day
import Census.Proofs.Dates
import Census.Proofs.Numerals

set_option autoImplicit false

namespace Census

namespace Text

theorem digits_padded (width n : Nat) : Digits (padded width n).toList n := by
  have ⟨nonempty, digits, value⟩ := digits_toDigits n
  have zeros (k : Nat) : Nat.ofDigitChars 10 (List.replicate k '0') 0 = 0 := by
    induction k with
    | zero => rfl
    | succ k ih => simp [List.replicate_succ, Nat.ofDigitChars_cons, ih]
  refine ⟨by simp [padded, nonempty], fun c member => ?_, ?_⟩
  next =>
    rw [padded, String.toList_ofList, List.mem_append] at member
    cases member with
    | inl zero => simp [List.eq_of_mem_replicate zero]
    | inr digit => exact digits c digit
  next => rw [padded, String.toList_ofList, Nat.ofDigitChars_append, zeros, value]

theorem length_padded_le {width n : Nat} (wide : 0 < width) (small : n < 10 ^ width) :
    (padded width n).toList.length ≤ width := by
  have fits := Nat.toDigits_length 10 n width wide small
  simp only [padded, String.toList_ofList, List.length_append, List.length_replicate]
  omega

theorem isVisible_of_isDigit {c : Char} (digit : c.isDigit = true) : isVisible c = true := by
  simp only [Char.isDigit, ge_iff_le, Bool.and_eq_true, decide_eq_true_eq] at digit
  have lower : '!' ≤ c := Char.le_trans (by decide) digit.1
  have upper : c ≤ '~' := Char.le_trans digit.2 (by decide)
  simp [isVisible, lower, upper]

theorem Digits.visible {cs : List Char} {n : Nat} (digits : Digits cs n) :
    cs.all isVisible = true :=
  List.all_eq_true.mpr fun c member => isVisible_of_isDigit (digits.2.1 c member)

end Text

namespace Calendar.Day

open Text

theorem number?_digits {most n : Nat} {cs rest : List Char} (digits : Digits cs n)
    (fits : cs.length ≤ most) (stops : ∀ c ∈ rest.head?, c.isDigit = false) :
    number? most (cs ++ rest) = some (n, rest) := by
  have ⟨nonempty, each, value⟩ := digits
  have none_after (k : Nat) : (rest.take k).takeWhile Char.isDigit = [] := by
    cases k with
    | zero => simp
    | succ k =>
      cases rest with
      | nil => rfl
      | cons c rest => simp [stops c rfl]
  have own : ((cs ++ rest).take most).takeWhile Char.isDigit = cs := by
    rw [List.take_append, List.take_of_length_le fits, List.takeWhile_append_of_pos each,
      none_after, List.append_nil]
  rw [number?, own]
  split
  next => exact absurd rfl nonempty
  next => rw [value, List.drop_left]

theorem number?_whole {most n : Nat} {cs : List Char} (digits : Digits cs n)
    (fits : cs.length ≤ most) : number? most cs = some (n, []) := by
  have read : number? most (cs ++ []) = some (n, []) := number?_digits digits fits (by simp)
  rwa [List.append_nil] at read

theorem year?_unsigned {cs : List Char} {n : Nat} (digits : Digits cs n) (fits : cs.length ≤ 4) :
    year? cs = some ((n : Int), []) := by
  unfold year?
  split
  next rest => exact absurd rfl digits.not_sign.1
  next rest => exact absurd rfl digits.not_sign.2
  next => rw [number?_whole digits fits, Option.map_some]

theorem year?_yearText (year : Int) : year? (yearText year).toList = some (year, []) := by
  have digits := digits_padded 4 year.natAbs
  unfold yearText
  split
  next within =>
    have fits : (padded 4 year.natAbs).toList.length ≤ 4 :=
      length_padded_le (by decide) (by omega)
    rw [year?_unsigned digits fits, Int.natAbs_of_nonneg within.1]
  next outside =>
    have read := number?_whole digits (Nat.le_refl _)
    by_cases negative : year < 0
    next =>
      have own : -(year.natAbs : Int) = year := by omega
      have shape : ("-" ++ padded 4 year.natAbs).toList = '-' :: (padded 4 year.natAbs).toList := by
        simp
      simp only [negative, if_true, shape, year?, read, Option.map_some, own]
    next =>
      have own : (year.natAbs : Int) = year := by omega
      have shape : ("+" ++ padded 4 year.natAbs).toList = '+' :: (padded 4 year.natAbs).toList := by
        simp
      simp only [negative, if_false, shape, year?, read, Option.map_some, own]

theorem visible_yearText (year : Int) : (yearText year).toList.all isVisible = true := by
  have digits := (digits_padded 4 year.natAbs).visible
  unfold yearText
  split
  next => exact digits
  next =>
    rw [String.toList_append, List.all_append, digits, Bool.and_true]
    split <;> decide

theorem two_places {n : Nat} (small : n < 100) : (padded 2 n).toList.length ≤ 2 :=
  length_padded_le (by decide) small

theorem monthLength_le (leap : Bool) (month : Nat) : monthLength leap month ≤ 31 := by
  unfold monthLength
  split <;> (try split) <;> decide

theorem parse?_of_reads {text : String} {month day : Nat} {year : Int} {from_day from_year : List Char}
    (read_month : number? 2 (dropBlanks (trim text).toList) = some (month, '/' :: from_day))
    (read_day : number? 2 (dropBlanks from_day) = some (day, '/' :: from_year))
    (read_year : year? (dropBlanks from_year) = some (year, [])) :
    parse? text = of? year month day := by
  simp only [parse?, read_month, slash?, read_day, read_year, bind, Option.bind_some]
  rfl

theorem parse?_slashed (d : Day) : parse? d.slashed = some d := by
  have ⟨_, _, lower, upper⟩ := d.valid
  have ⟨_, last⟩ := month_bounds (Nat.le_trans lower upper)
  have short := monthLength_le (isLeap d.year) d.month
  have month := digits_padded 2 d.month
  have day := digits_padded 2 d.day
  have text : d.slashed.toList = (padded 2 d.month).toList ++
      '/' :: ((padded 2 d.day).toList ++ '/' :: (yearText d.year).toList) := by
    simp [slashed]
  have slash : isVisible '/' = true := by decide
  have year := visible_yearText d.year
  have later : ((padded 2 d.day).toList ++ '/' :: (yearText d.year).toList).all isVisible =
      true := by
    simp only [List.all_append, List.all_cons, day.visible, slash, year, Bool.and_true]
  have whole : d.slashed.toList.all isVisible = true := by
    rw [text, List.all_append, List.all_cons, month.visible, slash, later]
    rfl
  have read : parse? d.slashed = of? d.year d.month d.day := by
    apply parse?_of_reads
    next =>
      rw [trim_of_visible whole, dropBlanks_of_visible whole, text]
      exact number?_digits month (two_places (by omega)) (by simp)
    next =>
      rw [dropBlanks_of_visible later]
      exact number?_digits day (two_places (by omega)) (by simp)
    next => rw [dropBlanks_of_visible year, year?_yearText]
  exact read.trans (of?_eq_some_iff.mpr ⟨rfl, rfl, rfl⟩)

theorem written?_eq (instant : Int64) : written? instant = at? instant := by
  rw [written?]
  cases at? instant with
  | none => rfl
  | some d => rw [Option.bind_some, parse?_slashed]

end Calendar.Day

end Census
