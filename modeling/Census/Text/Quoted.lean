import Census.Text.Extender
import Census.Text.Unprintable

set_option autoImplicit false

namespace Census.Text

def quotedBy (rule : Char → List Char) (text : String) : String :=
  String.ofList ('"' :: text.toList.flatMap rule ++ ['"'])

def hexDigits (width n : Nat) : List Char :=
  let digits := Nat.toDigits 16 n
  List.replicate (width - digits.length) '0' ++ digits

def traced (c : Char) : List Char :=
  match c with
  | '"' => ['\\', '"']
  | '\\' => ['\\', '\\']
  | '\n' => ['\\', 'n']
  | '\t' => ['\\', 't']
  | '\r' => ['\\', 'r']
  | '\x00' => ['\\', '0']
  | c =>
    if isExtender c || !isPrintable c then ['\\', 'u', '\x7b'] ++ hexDigits 1 c.toNat ++ ['\x7d']
    else [c]

def quoted (text : String) : String :=
  quotedBy traced text

/-- How a character of a string is written in JSON, with the shortest escape there is. -/
def inJson (c : Char) : List Char :=
  match c with
  | '"' => ['\\', '"']
  | '\\' => ['\\', '\\']
  | '\n' => ['\\', 'n']
  | '\t' => ['\\', 't']
  | '\r' => ['\\', 'r']
  | '\x08' => ['\\', 'b']
  | '\x0c' => ['\\', 'f']
  | c => if c.toNat < 0x20 then ['\\', 'u'] ++ hexDigits 4 c.toNat else [c]

def json (text : String) : String :=
  quotedBy inJson text

end Census.Text
