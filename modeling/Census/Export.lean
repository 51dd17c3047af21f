import Census.Subset

set_option autoImplicit false

namespace Census.Export

/-- The paths of the first records, in the order of their UTF-8 bytes. -/
def chosen (s : Subset) (limit : Option Nat) : List String :=
  let take := limit.elim s.size (min · s.size)
  (s.paths.take take).mergeSort (· ≤ ·)

def lines (paths : List String) : String :=
  paths.foldl (fun text path => text ++ path ++ "\n") ""

structure Sink where
  capacity : Option Nat
  complaint : String

def Sink.accepts (sink : Sink) (text : String) : Bool :=
  sink.capacity.elim true (text.utf8ByteSize ≤ ·)

structure Written where
  lines : Nat
  text : String
  deriving DecidableEq

def write (s : Subset) (limit : Option Nat) (sink : Sink) : Except QueryError Written :=
  let paths := chosen s limit
  let text := lines paths
  if sink.accepts text then .ok ⟨paths.length, text⟩
  else .error (.sink sink.complaint)

end Census.Export
