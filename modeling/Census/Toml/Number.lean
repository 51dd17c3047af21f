import Census.Calendar.Gregorian
import Census.Text.Numeral
import Census.Toml.Decimal
import Census.Toml.Text

set_option autoImplicit false

namespace Census.Toml

def isGroupedBy (isDigit : Char → Bool) (digits : List Char) : Bool :=
  (digits.splitOn '_').all fun group => group ≠ [] && group.all isDigit

def isGrouped (digits : List Char) : Bool :=
  isGroupedBy Char.isDigit digits

def isWhole (digits : List Char) : Bool :=
  -- There is no needless zero in front.
  isGrouped digits && (digits = ['0'] || digits.head? ≠ some '0')

def unsigned : List Char → List Char
  | '+' :: rest => rest
  | '-' :: rest => rest
  | text => text

def isNegative (text : List Char) : Bool :=
  text.head? = some '-'

def ungrouped (text : List Char) : List Char :=
  text.filter (· ≠ '_')

def magnitude (digits : List Char) : Nat :=
  Nat.ofDigitChars 10 (ungrouped digits) 0

def radix? : List Char → Option (Nat × List Char)
  | '0' :: 'x' :: digits => some (16, digits)
  | '0' :: 'o' :: digits => some (8, digits)
  | '0' :: 'b' :: digits => some (2, digits)
  | _ => none

def magnitudeIn? (radix : Nat) (digits : List Char) : Option Nat :=
  let digit? (c : Char) : Option Nat := (hex? c).filter (· < radix)
  if isGroupedBy (digit? · |>.isSome) digits then
    (ungrouped digits).foldlM (fun n c => (digit? c).map (radix * n + ·)) 0
  else none

def integer? (token : List Char) : Option Int64 :=
  match radix? token with
  | some (radix, digits) =>
    -- Only decimal integers have a sign.
    ((magnitudeIn? radix digits).filter (· ≤ Text.greatestInt64)).map (Int64.ofInt ·)
  | none =>
    if isWhole (unsigned token) then
      (Text.int64 (String.ofList (ungrouped token))).toOption
    else none

def exponent? : List Char → Option Int
  | c :: text =>
    if (c = 'e' || c = 'E') && isGrouped (unsigned text) then
      let size := magnitude (unsigned text)
      some (if isNegative text then -size else size)
    else none
  | [] => none

def isGroupChar (c : Char) : Bool :=
  c.isDigit || c = '_'

def decimal? (text : List Char) : Option Decimal := do
  let (whole, text) := text.span isGroupChar
  guard (isWhole whole)
  match text with
  | '.' :: text =>
    let (fraction, text) := text.span isGroupChar
    guard (isGrouped fraction)
    let exponent ← if text.isEmpty then some 0 else exponent? text
    return ⟨magnitude (whole ++ fraction), exponent - (ungrouped fraction).length⟩
  | text => return ⟨magnitude whole, ← exponent? text⟩

def isFloat (token : List Char) : Bool :=
  -- Infinity has to be spelled out, but for what a minus sign begins.
  let body := unsigned token
  body = ['i', 'n', 'f'] || body = ['n', 'a', 'n'] ||
    (decimal? body).any fun number => isNegative token || !number.overflows

def digits? (places : Nat) (text : List Char) : Option (Nat × List Char) :=
  let digits := text.take places
  if digits.length = places ∧ digits.all Char.isDigit then
    some (Nat.ofDigitChars 10 digits 0, text.drop places)
  else none

def mark? (mark : Char) : List Char → Option (List Char)
  | c :: rest => if c = mark then some rest else none
  | [] => none

def date? (text : List Char) : Option (List Char) := do
  let (year, text) ← digits? 4 text
  let (month, text) ← digits? 2 (← mark? '-' text)
  let (day, text) ← digits? 2 (← mark? '-' text)
  guard (1 ≤ day ∧ day ≤ Calendar.monthLength (Calendar.isLeap year) month)
  return text

def time? (text : List Char) : Option (List Char) := do
  let (hour, text) ← digits? 2 text
  let (minute, text) ← digits? 2 (← mark? ':' text)
  let (second, text) ← digits? 2 (← mark? ':' text)
  -- A minute may have a second more.
  guard (hour ≤ 23 ∧ minute ≤ 59 ∧ second ≤ 60)
  match text with
  | '.' :: fraction =>
    guard (fraction.head?.any Char.isDigit)
    return fraction.dropWhile Char.isDigit
  | text => return text

def offset? : List Char → Option (List Char)
  | 'Z' :: rest => some rest
  | 'z' :: rest => some rest
  | '+' :: rest => hours rest
  | '-' :: rest => hours rest
  | text => some text
where
  hours (text : List Char) : Option (List Char) := do
    let (hour, text) ← digits? 2 text
    let (minute, text) ← digits? 2 (← mark? ':' text)
    guard (hour ≤ 23 ∧ minute ≤ 59)
    return text

/-- Goes past a date, a time of day, or a date with a time behind it. -/
def moment? (text : List Char) : Option (List Char) :=
  match date? text with
  | none => time? text
  | some rest =>
    match rest with
    | [] => some []
    | c :: more =>
      if c = 'T' || c = 't' || c = ' ' then
        match time? more with
        | some rest => offset? rest
        | none => some (c :: more)
      else some (c :: more)

end Census.Toml
