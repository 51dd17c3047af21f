import Census.Saturating
import Census.Text.Numeral

set_option autoImplicit false

namespace Census.Text

theorem digit?_of_isDigit {c : Char} (digit : c.isDigit = true) :
    digit? c = some (c.toNat - '0'.toNat) := by
  simp only [Char.isDigit, ge_iff_le, Bool.and_eq_true, decide_eq_true_eq] at digit
  exact if_pos digit

theorem le_ofDigitChars (cs : List Char) (value : Nat) : value ≤ Nat.ofDigitChars 10 cs value := by
  rw [Nat.ofDigitChars_eq_ofDigitChars_zero]
  have grown : value ≤ 10 ^ cs.length * value :=
    Nat.le_mul_of_pos_left value (Nat.pow_pos (by decide))
  exact Nat.le_trans grown (Nat.le_add_right _ _)

theorem magnitude_of_isDigit {limit value : Nat} {past : NumeralFault} {cs : List Char}
    (digits : ∀ c ∈ cs, c.isDigit = true) (bound : Nat.ofDigitChars 10 cs value ≤ limit) :
    magnitude limit past value cs = .ok (Nat.ofDigitChars 10 cs value) := by
  induction cs generalizing value with
  | nil => simp [magnitude]
  | cons c cs ih =>
    rw [Nat.ofDigitChars_cons] at bound ⊢
    have within := Nat.le_trans (le_ofDigitChars cs _) bound
    rw [magnitude, digit?_of_isDigit (digits c (by simp))]
    simp only [Nat.not_lt.mpr within, if_false]
    exact ih (fun d member => digits d (by simp [member])) bound

theorem isDigit_of_digit? {c : Char} {d : Nat} (read : digit? c = some d) :
    c.isDigit = true ∧ d = c.toNat - '0'.toNat := by
  unfold digit? at read
  split at read
  next inside =>
    refine ⟨?_, (Option.some.inj read).symm⟩
    simp only [Char.isDigit, ge_iff_le, Bool.and_eq_true, decide_eq_true_eq]
    exact inside
  next => cases read

theorem magnitude_eq_ok {limit value n : Nat} {past : NumeralFault} {cs : List Char}
    (read : magnitude limit past value cs = .ok n) :
    (∀ c ∈ cs, c.isDigit = true) ∧ Nat.ofDigitChars 10 cs value = n := by
  induction cs generalizing value with
  | nil => simpa [magnitude] using read
  | cons c cs ih =>
    simp only [magnitude] at read
    split at read
    next => cases read
    next d first =>
      split at read
      next => cases read
      next =>
        obtain ⟨digit, rfl⟩ := isDigit_of_digit? first
        obtain ⟨others, whole⟩ := ih read
        exact ⟨List.forall_mem_cons.mpr ⟨digit, others⟩, by rw [Nat.ofDigitChars_cons]; exact whole⟩

def Digits (cs : List Char) (n : Nat) : Prop :=
  cs ≠ [] ∧ (∀ c ∈ cs, c.isDigit = true) ∧ Nat.ofDigitChars 10 cs 0 = n

theorem Digits.not_sign {c : Char} {cs : List Char} {n : Nat} (digits : Digits (c :: cs) n) :
    c ≠ '-' ∧ c ≠ '+' := by
  have first := digits.2.1 c (by simp)
  constructor <;> (rintro rfl; exact absurd first (by decide))

theorem digits_toDigits (n : Nat) : Digits (Nat.toDigits 10 n) n :=
  ⟨Nat.toDigits_ne_nil, fun _ member => Nat.isDigit_of_mem_toDigits (by decide) (by decide) member,
    Nat.ofDigitChars_ten_toDigits⟩

theorem unsigned_eq_ok_iff {limit n : Nat} {past : NumeralFault} {cs : List Char} :
    unsigned limit past cs = .ok n ↔ Digits cs n ∧ n ≤ limit := by
  cases cs with
  | nil => simp [unsigned, Digits]
  | cons c cs =>
    rw [unsigned]
    constructor
    · intro read
      obtain ⟨digits, whole⟩ := magnitude_eq_ok read
      exact ⟨⟨by simp, digits, whole⟩, magnitude_le (Nat.zero_le limit) read⟩
    · rintro ⟨⟨-, digits, rfl⟩, within⟩
      exact magnitude_of_isDigit digits within

inductive Numeral : List Char → Int → Prop where
  | plain {cs : List Char} {n : Nat} (digits : Digits cs n) : Numeral cs n
  | plus {cs : List Char} {n : Nat} (digits : Digits cs n) : Numeral ('+' :: cs) n
  | minus {cs : List Char} {n : Nat} (digits : Digits cs n) : Numeral ('-' :: cs) (-n)

theorem numeral_minus_iff {cs : List Char} {z : Int} :
    Numeral ('-' :: cs) z ↔ ∃ n : Nat, Digits cs n ∧ z = -n := by
  constructor
  · intro numeral
    cases numeral with
    | plain digits => exact absurd rfl digits.not_sign.1
    | minus digits => exact ⟨_, digits, rfl⟩
  · rintro ⟨n, digits, rfl⟩
    exact .minus digits

theorem numeral_plus_iff {cs : List Char} {z : Int} :
    Numeral ('+' :: cs) z ↔ ∃ n : Nat, Digits cs n ∧ z = n := by
  constructor
  · intro numeral
    cases numeral with
    | plain digits => exact absurd rfl digits.not_sign.2
    | plus digits => exact ⟨_, digits, rfl⟩
  · rintro ⟨n, digits, rfl⟩
    exact .plus digits

theorem numeral_iff_of_no_sign {cs : List Char} (no_minus : ∀ rest, cs ≠ '-' :: rest)
    (no_plus : ∀ rest, cs ≠ '+' :: rest) {z : Int} :
    Numeral cs z ↔ ∃ n : Nat, Digits cs n ∧ z = n := by
  constructor
  · intro numeral
    cases numeral with
    | plain digits => exact ⟨_, digits, rfl⟩
    | plus => exact absurd rfl (no_plus _)
    | minus => exact absurd rfl (no_minus _)
  · rintro ⟨n, digits, rfl⟩
    exact .plain digits

theorem toList_decimal (n : Nat) : (decimal n).toList = Nat.toDigits 10 n := by
  simp [decimal, padded]

theorem numeral_decimal (z : Int) : Numeral (decimal z).toList z := by
  cases z with
  | ofNat n =>
    have shape : (decimal (.ofNat n)).toList = Nat.toDigits 10 n := toList_decimal n
    rw [shape]
    exact .plain (digits_toDigits n)
  | negSucc n =>
    have shape : (decimal (.negSucc n)).toList = '-' :: Nat.toDigits 10 (n + 1) := by
      simp [decimal, padded]
    rw [shape]
    exact .minus (digits_toDigits (n + 1))

theorem ofInt_eq_iff (w : Int64) (z : Int) :
    (Int64.minValue.toInt ≤ z ∧ z ≤ Int64.maxValue.toInt) ∧ Int64.ofInt z = w ↔ w.toInt = z := by
  constructor
  · rintro ⟨⟨lower, upper⟩, rfl⟩
    rw [toInt_minValue] at lower
    rw [toInt_maxValue] at upper
    exact Int64.toInt_ofInt_of_le (by omega) (by omega)
  · rintro rfl
    exact ⟨toInt_bounds w, Int64.ofInt_toInt w⟩

theorem toInt_ofInt_natCast {n : Nat} (within : n ≤ greatestInt64) :
    (Int64.ofInt n).toInt = n := by
  rw [greatestInt64] at within
  exact Int64.toInt_ofInt_of_le (by omega) (by omega)

theorem read_digits_iff {α : Type} {limit : Nat} {past : NumeralFault} {cs : List Char}
    {value : Nat → α} {a : α} :
    (do let n ← unsigned limit past cs; return value n) = Except.ok a ↔
      ∃ n, (Digits cs n ∧ n ≤ limit) ∧ value n = a := by
  have read (n : Nat) : unsigned limit past cs = .ok n ↔ Digits cs n ∧ n ≤ limit :=
    unsigned_eq_ok_iff
  simp only [← read]
  cases unsigned limit past cs <;> simp [bind, Except.bind, pure, Except.pure]

theorem read_unsigned_iff {limit : Nat} {past : NumeralFault} {cs : List Char} {w : Int64}
    (value : Nat → Int)
    (fits : ∀ n, n ≤ limit ↔ Int64.minValue.toInt ≤ value n ∧ value n ≤ Int64.maxValue.toInt) :
    (do let n ← unsigned limit past cs; return Int64.ofInt (value n)) = Except.ok w ↔
      ∃ n, Digits cs n ∧ w.toInt = value n := by
  simp only [read_digits_iff, fits, and_assoc, ← ofInt_eq_iff]

theorem int64_eq_ok_iff {text : String} {w : Int64} :
    int64 text = .ok w ↔ Numeral text.toList w.toInt := by
  have upward (n : Nat) : n ≤ greatestInt64 ↔
      Int64.minValue.toInt ≤ (n : Int) ∧ (n : Int) ≤ Int64.maxValue.toInt := by
    rw [toInt_minValue, toInt_maxValue, greatestInt64]
    omega
  -- The least word has no positive counterpart, so the bound behind a minus sign is one higher.
  have downward (n : Nat) : n ≤ greatestInt64 + 1 ↔
      Int64.minValue.toInt ≤ -(n : Int) ∧ -(n : Int) ≤ Int64.maxValue.toInt := by
    rw [toInt_minValue, toInt_maxValue, greatestInt64]
    omega
  unfold int64
  split
  next shape =>
    rw [shape, numeral_iff_of_no_sign (by simp) (by simp)]
    simp [Digits]
  next cs shape =>
    rw [shape, numeral_minus_iff]
    exact read_unsigned_iff _ downward
  next cs shape =>
    rw [shape, numeral_plus_iff]
    exact read_unsigned_iff _ upward
  next no_minus no_plus =>
    rw [numeral_iff_of_no_sign no_minus no_plus]
    exact read_unsigned_iff _ upward

inductive UnsignedNumeral : List Char → Nat → Prop where
  | plain {cs : List Char} {n : Nat} (digits : Digits cs n) : UnsignedNumeral cs n
  | plus {cs : List Char} {n : Nat} (digits : Digits cs n) : UnsignedNumeral ('+' :: cs) n

theorem read_word_iff {past : NumeralFault} {cs : List Char} {w : UInt64} :
    (do let n ← unsigned (UInt64.size - 1) past cs; return UInt64.ofNat n) = Except.ok w ↔
      Digits cs w.toNat := by
  rw [read_digits_iff]
  constructor
  · rintro ⟨n, ⟨digits, within⟩, rfl⟩
    have fits : n < UInt64.size := Nat.lt_of_le_pred (by decide) within
    rwa [UInt64.toNat_ofNat_of_lt' fits]
  · intro digits
    exact ⟨w.toNat, ⟨digits, Nat.le_pred_of_lt w.toNat_lt_size⟩, UInt64.ofNat_toNat⟩

theorem word64_eq_ok_iff {text : String} {w : UInt64} :
    word64 text = .ok w ↔ UnsignedNumeral text.toList w.toNat := by
  unfold word64
  split
  next shape =>
    rw [shape]
    constructor
    · intro read
      cases read
    · intro numeral
      cases numeral with
      | plain digits => exact absurd rfl digits.1
  next cs shape =>
    rw [shape]
    refine read_word_iff.trans ⟨.plus, fun numeral => ?_⟩
    cases numeral with
    | plain digits => exact absurd rfl digits.not_sign.2
    | plus digits => exact digits
  next no_plus =>
    refine read_word_iff.trans ⟨.plain, fun numeral => ?_⟩
    generalize text.toList = cs at no_plus numeral
    cases numeral with
    | plain digits => exact digits
    | plus => exact absurd rfl (no_plus _)

theorem int64_decimal (n : Int64) : int64 (decimal n.toInt) = .ok n :=
  int64_eq_ok_iff.mpr (numeral_decimal n.toInt)

theorem decimal_injective {m n : Int64} (same : decimal m.toInt = decimal n.toInt) : m = n := by
  have read := int64_decimal m
  rw [same, int64_decimal n] at read
  exact (Except.ok.inj read).symm

theorem decimal_eq_iff {m n : Int64} : decimal m.toInt = decimal n.toInt ↔ m = n :=
  ⟨decimal_injective, fun same => by rw [same]⟩

end Census.Text
