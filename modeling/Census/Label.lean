import Census.Attribute
import Census.FileType

set_option autoImplicit false

namespace Census

-- Measures and labels for callers that pick them by name: the modelled system takes any function of
-- a record for either, and nothing else here refers to these.

def affine (release : Release) (field : LongAttr) (factor offset : Int64) (r : Record) : Int64 :=
  satAdd (satMul (field.value release r) factor) offset

inductive Label where
  | text (a : TextAttr)
  | long (a : LongAttr)
  | parent
  | fileType
  | missing
  deriving DecidableEq

namespace Label

def table : List (String × Label) :=
  [("user", .text .user), ("group", .text .group), ("name", .text .localName),
   ("path", .text .path), ("parent", .parent), ("type", .fileType), ("none", .missing)]

def resolve (name : String) : Except QueryError Label :=
  match table.lookup name with
  | some label => .ok label
  | none => do return .long (← Attribute.resolveLong name "label")

def of? (release : Release) (r : Record) : Label → Option String
  | .text a => some (a.value r)
  | .long a => some (Text.decimal (a.value release r).toInt)
  | .parent => r.parent?
  | .fileType => FileType.of? r
  | .missing => none

def without (skip : List String) (label : Option String) : Option String :=
  label.filter fun l => !skip.contains l

end Label

end Census
