import Census.Toml.Document
import Census.Toml.Number
import Census.Toml.Text

set_option autoImplicit false

namespace Census.Toml

def isGap (c : Char) : Bool :=
  c = ' ' || c = '\t'

def skipGaps (text : List Char) : List Char :=
  text.dropWhile isGap

def break? : List Char → Option (List Char)
  | [] => some []
  | '\n' :: rest => some rest
  | '\r' :: '\n' :: rest => some rest
  | _ => none

def lineEnd? (text : List Char) : Option (List Char) :=
  match skipGaps text with
  | '#' :: rest => break? (rest.dropWhile isPlain)
  | text => break? text

def isBare (c : Char) : Bool :=
  c.isAlphanum || c = '-' || c = '_'

def key? (text : List Char) : Option (String × List Char) :=
  match text with
  | '"' :: rest => (basic? rest).map fun (key, rest) => (String.ofList key, rest)
  | '\'' :: rest => (literal? rest).map fun (key, rest) => (String.ofList key, rest)
  | text =>
    match text.takeWhile isBare with
    | [] => none
    | key => some (String.ofList key, text.drop key.length)

def isTokenChar (c : Char) : Bool :=
  c.isAlphanum || c = '+' || c = '-' || c = '_' || c = '.'

def token? (token : List Char) : Option Value :=
  if token = ['t', 'r', 'u', 'e'] then some (.boolean true)
  else if token = ['f', 'a', 'l', 's', 'e'] then some (.boolean false)
  else
    match integer? token with
    | some n => some (.integer n)
    | none => if isFloat token then some .float else none

/-- How deep a value may lie, and how many parts a key may have. -/
def deepest : Nat := 79

/-- Reads keys with dots between them, no more than so many, and gives the last one apart. -/
def keys? : Nat → List Char → Option ((List String × String) × List Char)
  | 0, _ => none
  | most + 1, text => do
    let (key, rest) ← key? (skipGaps text)
    match skipGaps rest with
    | '.' :: rest =>
      let ((path, last), rest) ← keys? most rest
      return ((key :: path, last), rest)
    | rest => return (([], key), rest)

/-- Goes past blanks, line breaks and comments, the first of which may have begun before. -/
def skipLines : Bool → List Char → List Char
  | _, [] => []
  | _, '\n' :: rest => skipLines false rest
  | _, '\r' :: '\n' :: rest => skipLines false rest
  | true, c :: rest => if isPlain c then skipLines true rest else c :: rest
  | false, '#' :: rest => skipLines true rest
  | false, c :: rest => if isGap c then skipLines false rest else c :: rest

section Nested

variable (read? : List Char → Option (Value × List Char))

def items? (text : List Char) : Option (List Char) :=
  match skipLines false text with
  | ']' :: rest => some rest
  | first =>
    match read? first with
    | none => none
    | some (_, rest) =>
      match skipLines false rest with
      | ']' :: rest => some rest
      | ',' :: rest => if rest.length < text.length then items? rest else none
      | _ => none
termination_by text.length

def entry? (table : Table) (text : List Char) : Option (Table × List Char) := do
  let ((path, key), rest) ← keys? deepest text
  let (value, rest) ← read? (skipGaps (← mark? '=' rest))
  return (← table.assign? path key value, rest)

/-- Reads the entries of a table between braces, of which there is one at least, and its end. -/
def entries? (table : Table) (text : List Char) : Option (Table × List Char) :=
  match entry? read? table text with
  | none => none
  | some (table, rest) =>
    match skipGaps rest with
    | '}' :: rest => some (table, rest)
    | ',' :: rest => if rest.length < text.length then entries? table rest else none
    | _ => none
termination_by text.length

end Nested

def value? : Nat → List Char → Option (Value × List Char)
  | _, '"' :: rest => (text? ('"' :: rest)).map fun (s, rest) => (.text (String.ofList s), rest)
  | _, '\'' :: rest => (text? ('\'' :: rest)).map fun (s, rest) => (.text (String.ofList s), rest)
  | 0, '[' :: _ => none
  | depth + 1, '[' :: rest => (items? (value? depth) rest).map (.array, ·)
  | 0, '{' :: _ => none
  | depth + 1, '{' :: rest =>
    match skipGaps rest with
    | '}' :: rest => some (.table .inline [], rest)
    | _ => (entries? (value? depth) [] rest).map fun (table, rest) => (.table .inline table, rest)
  | _, text =>
    match moment? text with
    | some rest => some (.moment, rest)
    | none =>
      let token := text.takeWhile isTokenChar
      (token? token).map fun value => (value, text.drop token.length)

structure Draft where
  table : Table
  header : List String

namespace Draft

def empty : Draft where
  table := []
  header := []

def openTable? (draft : Draft) (path : List String) (key : String) : Option Draft := do
  return ⟨← draft.table.openTable? path key, path ++ [key]⟩

def openTables? (draft : Draft) (path : List String) (key : String) : Option Draft := do
  return ⟨← draft.table.openTables? path key, path ++ [key]⟩

def assign? (draft : Draft) (path : List String) (key : String) (value : Value) : Option Draft := do
  let within (_ : Origin) (entries : Table) : Option Table := entries.assign? path key value
  return { draft with table := ← draft.table.change? false within draft.header .headed }

end Draft

def line? (draft : Draft) (text : List Char) : Option (Draft × List Char) :=
  match skipGaps text with
  | '[' :: '[' :: rest => do
    let ((path, key), rest) ← keys? deepest rest
    let rest ← mark? ']' (← mark? ']' rest)
    return (← draft.openTables? path key, ← lineEnd? rest)
  | '[' :: rest => do
    let ((path, key), rest) ← keys? deepest rest
    let rest ← mark? ']' rest
    return (← draft.openTable? path key, ← lineEnd? rest)
  | text =>
    match keys? deepest text with
    | none => (lineEnd? text).map (draft, ·)
    | some ((path, key), rest) => do
      let (value, rest) ← value? deepest (skipGaps (← mark? '=' rest))
      return (← draft.assign? path key value, ← lineEnd? rest)

def lines? (draft : Draft) (text : List Char) : Option Draft :=
  match line? draft text with
  | none => none
  | some (draft, rest) => if rest.length < text.length then lines? draft rest else some draft
termination_by text.length

def unmarked : List Char → List Char
  | '\ufeff' :: text => text
  | text => text

def read? (text : String) : Option Document :=
  (lines? .empty (unmarked text.toList)).map fun draft => .ofTable draft.table

end Census.Toml
