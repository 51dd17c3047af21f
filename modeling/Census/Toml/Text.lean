import Census.Text.Quoted

set_option autoImplicit false

namespace Census.Toml

def isControl (c : Char) : Bool :=
  c.toNat < 0x20 || c.toNat = 0x7f

def isPlain (c : Char) : Bool :=
  c = '\t' || !isControl c

def hex? (c : Char) : Option Nat :=
  if '0' ≤ c ∧ c ≤ '9' then some (c.toNat - '0'.toNat)
  else if 'a' ≤ c ∧ c ≤ 'f' then some (c.toNat - 'a'.toNat + 10)
  else if 'A' ≤ c ∧ c ≤ 'F' then some (c.toNat - 'A'.toNat + 10)
  else none

def scalar? (digits : List Char) : Option Char := do
  let n ← digits.foldlM (fun n c => (hex? c).map (16 * n + ·)) 0
  if n.isValidChar then some (Char.ofNat n) else none

def escape? : Char → Option Char
  | 'b' => some '\x08'
  | 't' => some '\t'
  | 'n' => some '\n'
  | 'f' => some '\x0c'
  | 'r' => some '\r'
  | '"' => some '"'
  | '\\' => some '\\'
  | _ => none

def push (c : Char) : List Char × List Char → List Char × List Char
  | (text, rest) => (c :: text, rest)

def basic? : List Char → Option (List Char × List Char)
  | [] => none
  | '"' :: rest => some ([], rest)
  | '\\' :: 'u' :: a :: b :: c :: d :: rest => do
    let scalar ← scalar? [a, b, c, d]
    return push scalar (← basic? rest)
  | '\\' :: 'U' :: a :: b :: c :: d :: e :: f :: g :: h :: rest => do
    let scalar ← scalar? [a, b, c, d, e, f, g, h]
    return push scalar (← basic? rest)
  | '\\' :: c :: rest => do
    let escaped ← escape? c
    return push escaped (← basic? rest)
  | c :: rest => if isPlain c then (basic? rest).map (push c) else none

def literal? : List Char → Option (List Char × List Char)
  | [] => none
  | '\'' :: rest => some ([], rest)
  | c :: rest => if isPlain c then (literal? rest).map (push c) else none

def endsLine (text : List Char) : Bool :=
  match text.dropWhile (fun c => c = ' ' || c = '\t') with
  | '\n' :: _ => true
  | '\r' :: '\n' :: _ => true
  | _ => false

def isLineBlank (c : Char) : Bool :=
  c = ' ' || c = '\t' || c = '\n' || c = '\r'

/--
Reads a text with escapes over several lines. A backslash at the end of a line drops the blanks
up to the next other character, and up to two double quotes may stand before the three at the end.
-/
def manyBasic? : Bool → List Char → Option (List Char × List Char)
  | _, [] => none
  | _, '"' :: '"' :: '"' :: '"' :: '"' :: '"' :: _ => none
  | _, '"' :: '"' :: '"' :: '"' :: '"' :: rest => some (['"', '"'], rest)
  | _, '"' :: '"' :: '"' :: '"' :: rest => some (['"'], rest)
  | _, '"' :: '"' :: '"' :: rest => some ([], rest)
  | _, '"' :: rest => (manyBasic? false rest).map (push '"')
  | _, '\\' :: 'u' :: a :: b :: c :: d :: rest => do
    let scalar ← scalar? [a, b, c, d]
    return push scalar (← manyBasic? false rest)
  | _, '\\' :: 'U' :: a :: b :: c :: d :: e :: f :: g :: h :: rest => do
    let scalar ← scalar? [a, b, c, d, e, f, g, h]
    return push scalar (← manyBasic? false rest)
  | _, '\\' :: c :: rest =>
    match escape? c with
    | some escaped => (manyBasic? false rest).map (push escaped)
    | none => if endsLine (c :: rest) then manyBasic? true rest else none
  | skipping, '\r' :: '\n' :: rest =>
    if skipping then manyBasic? true rest else (manyBasic? false rest).map (push '\n')
  | skipping, c :: rest =>
    if skipping && isLineBlank c then manyBasic? true rest
    else if isPlain c || c = '\n' then (manyBasic? false rest).map (push c)
    else none

def manyLiteral? : List Char → Option (List Char × List Char)
  | [] => none
  | '\'' :: '\'' :: '\'' :: '\'' :: '\'' :: '\'' :: _ => none
  | '\'' :: '\'' :: '\'' :: '\'' :: '\'' :: rest => some (['\'', '\''], rest)
  | '\'' :: '\'' :: '\'' :: '\'' :: rest => some (['\''], rest)
  | '\'' :: '\'' :: '\'' :: rest => some ([], rest)
  | '\r' :: '\n' :: rest => (manyLiteral? rest).map (push '\n')
  | c :: rest =>
    if isPlain c || c = '\n' then (manyLiteral? rest).map (push c) else none

def afterOpening : List Char → List Char
  -- A line break right after the opening quotes is not part of the text.
  | '\n' :: rest => rest
  | '\r' :: '\n' :: rest => rest
  | text => text

def text? : List Char → Option (List Char × List Char)
  | '"' :: '"' :: '"' :: rest => manyBasic? false (afterOpening rest)
  | '"' :: rest => basic? rest
  | '\'' :: '\'' :: '\'' :: rest => manyLiteral? (afterOpening rest)
  | '\'' :: rest => literal? rest
  | _ => none

def longestRun (mark : Char) (text : List Char) : Nat :=
  (text.foldl (fun (current, longest) c =>
    if c = mark then (current + 1, max longest (current + 1)) else (0, longest)) (0, 0)).2

def escaped (c : Char) : List Char :=
  match c with
  | '\x08' => ['\\', 'b']
  | '\t' => ['\\', 't']
  | '\n' => ['\\', 'n']
  | '\x0c' => ['\\', 'f']
  | '\r' => ['\\', 'r']
  | '"' => ['\\', '"']
  | '\\' => ['\\', '\\']
  | c =>
    if isControl c then ['\\', 'u'] ++ (Text.hexDigits 4 c.toNat).map Char.toUpper else [c]

/--
Writes the inside of a text over several lines, in which every third double quote of a run is
escaped; the number is that of the quotes just written.
-/
def manyEscaped : Nat → List Char → List Char
  | _, [] => []
  | quotes, c :: rest =>
    if c = '"' then
      if quotes < 2 then c :: manyEscaped (quotes + 1) rest
      else escaped c ++ manyEscaped 0 rest
    else if c = '\n' then c :: manyEscaped 0 rest
    else escaped c ++ manyEscaped 0 rest

inductive Form where
  | basic
  | literal
  | manyBasic
  | manyLiteral
  deriving DecidableEq

def formOf (text : List Char) : Form :=
  -- The form with escapes that keeps line breaks comes only where no plainer one will do.
  let codes := text.any fun c => isControl c && c != '\t' && c != '\n'
  let slashes := text.contains '\\'
  let lines := text.contains '\n'
  let singles := longestRun '\'' text
  let doubles := longestRun '"' text
  if !codes && !slashes && doubles = 0 && !lines then .basic
  else if !codes && singles = 0 && !lines then .literal
  else if !codes && !slashes && doubles ≤ 2 then .manyBasic
  else if !codes && singles ≤ 2 then .manyLiteral
  else if lines then .manyBasic
  else .basic

def opening (text : List Char) : List Char :=
  if text.contains '\n' then ['\n'] else []

def write (text : List Char) : List Char :=
  match formOf text with
  | .basic => ['"'] ++ text.flatMap escaped ++ ['"']
  | .literal => ['\''] ++ text ++ ['\'']
  | .manyBasic => ['"', '"', '"'] ++ opening text ++ manyEscaped 0 text ++ ['"', '"', '"']
  | .manyLiteral => ['\'', '\'', '\''] ++ opening text ++ text ++ ['\'', '\'', '\'']

end Census.Toml
