set_option autoImplicit false

namespace Census.Text

inductive NumeralFault where
  | empty
  | invalidDigit
  | tooLarge
  | tooSmall
  deriving DecidableEq, Repr

def NumeralFault.message : NumeralFault → String
  | .empty => "cannot parse integer from empty string"
  | .invalidDigit => "invalid digit found in string"
  | .tooLarge => "number too large to fit in target type"
  | .tooSmall => "number too small to fit in target type"

def digit? (c : Char) : Option Nat :=
  if '0' ≤ c ∧ c ≤ '9' then some (c.toNat - '0'.toNat) else none

/-- Reads digits from the left and stops at the first that is none or that passes the limit. -/
def magnitude (limit : Nat) (past : NumeralFault) : Nat → List Char → Except NumeralFault Nat
  | value, [] => .ok value
  | value, c :: cs =>
    match digit? c with
    | none => .error .invalidDigit
    | some d =>
      if limit < 10 * value + d then .error past
      else magnitude limit past (10 * value + d) cs

def unsigned (limit : Nat) (past : NumeralFault) : List Char → Except NumeralFault Nat
  | [] => .error .invalidDigit
  | c :: cs => magnitude limit past 0 (c :: cs)

def greatestInt64 : Nat := 9223372036854775807

def int64 (text : String) : Except NumeralFault Int64 :=
  match text.toList with
  | [] => .error .empty
  | '-' :: cs => do
    let value ← unsigned (greatestInt64 + 1) .tooSmall cs
    return Int64.ofInt (-value)
  | '+' :: cs => do
    let value ← unsigned greatestInt64 .tooLarge cs
    return Int64.ofInt value
  | cs => do
    let value ← unsigned greatestInt64 .tooLarge cs
    return Int64.ofInt value

def word64 (text : String) : Except NumeralFault UInt64 :=
  match text.toList with
  | [] => .error .empty
  | '+' :: cs => do
    let value ← unsigned (UInt64.size - 1) .tooLarge cs
    return UInt64.ofNat value
  | cs => do
    let value ← unsigned (UInt64.size - 1) .tooLarge cs
    return UInt64.ofNat value

theorem magnitude_le {limit value result : Nat} {past : NumeralFault} {cs : List Char}
    (bound : value ≤ limit) (h : magnitude limit past value cs = .ok result) : result ≤ limit := by
  induction cs generalizing value with
  | nil => simp only [magnitude, Except.ok.injEq] at h; omega
  | cons c cs ih =>
    simp only [magnitude] at h
    split at h
    · simp at h
    · split at h
      · simp at h
      · exact ih (by omega) h

def padded (width n : Nat) : String :=
  let digits := Nat.toDigits 10 n
  String.ofList (List.replicate (width - digits.length) '0' ++ digits)

def decimal (n : Int) : String :=
  match n with
  | .ofNat n => padded 0 n
  | .negSucc n => "-" ++ padded 0 (n + 1)

end Census.Text
