set_option autoImplicit false

namespace Census.Path

def components (path : String) : List (List Char) :=
  (path.toList.splitOn '/').filter (· ≠ [])

def depth (path : String) : Nat :=
  (components path).length

def name (path : String) : String :=
  -- Trailing slashes do not count, and the root is its own name.
  match path.toList.reverse.dropWhile (· = '/') with
  | [] => "/"
  | trimmed => String.ofList (trimmed.takeWhile (· ≠ '/')).reverse

def parent? (path : String) : Option String :=
  if path = "/" ∨ path = "" then none
  else
    match path.toList.reverse.dropWhile (· ≠ '/') with
    | [] => none
    | ['/'] => some "/"
    | _ :: before => some (String.ofList before.reverse)

/-- The characters before the slash that has `skipped` slashes in front of it. -/
def beforeSlash : Nat → List Char → Option (List Char)
  | _, [] => none
  | 0, c :: cs =>
    if c = '/' then some [] else (beforeSlash 0 cs).map (c :: ·)
  | skipped + 1, c :: cs =>
    (beforeSlash (if c = '/' then skipped else skipped + 1) cs).map (c :: ·)

/-- The directory at a depth among those that hold the path, the root being at depth 0. -/
def ancestor? (path : String) (level : Nat) : Option String :=
  if depth path ≤ level then none
  else
    match level with
    | 0 => some "/"
    | level => (beforeSlash level path.toList).map String.ofList

end Census.Path
