import Census.Cut
import Census.Text.Blank
import Census.Text.Field
import Census.Text.Numeral
import Census.QueryError

set_option autoImplicit false

namespace Census

inductive SettingsError where
  | unreadable
  | malformed
  | unwritable (what : String)
  | outOfRange (field : String) (value least greatest : Nat)
  | invalidFormat (field reason : String)
  deriving DecidableEq

namespace SettingsError

def message : SettingsError → String
  | .unreadable => "Failed to access config file"
  | .malformed => "Failed to parse config file"
  | .unwritable what => "Failed to serialize config: " ++ what
  | .outOfRange field value least greatest =>
    field ++ " value " ++ Text.decimal value ++ " is out of range [" ++ Text.decimal least ++ ", "
      ++ Text.decimal greatest ++ "]"
  | .invalidFormat field reason => "Invalid format for " ++ field ++ ": " ++ reason

def wrapped (e : SettingsError) : String :=
  "Configuration error: " ++ e.message

end SettingsError

structure Settings where
  fanout : Fanout := {}
  /-- The number of paths that an export writes if it is not told another; zero stands for all. -/
  dumpLimit : UInt64 := 0
  metrics : Bool := true
  logLevel : String := "info"
  jsonLogs : Bool := false
  deriving DecidableEq

namespace Settings

def dumpLimit? (s : Settings) : Option Nat :=
  if s.dumpLimit = 0 then none else some s.dumpLimit.toNat

def logLevels : List String :=
  ["error", "warn", "info", "debug", "trace"]

/-- Whether a log level is a list of directives, which is not looked into further. -/
def isDirective (level : String) : Bool :=
  level.toList.any fun c => c = '=' || c = ','

def validate (s : Settings) : Except SettingsError Unit :=
  let morsel := s.fanout.morsel.toNat
  let level := Text.trim s.logLevel
  if morsel < Fanout.leastMorsel ∨ Fanout.greatestMorsel < morsel then
    .error (.outOfRange "parallel.morsel_size" morsel Fanout.leastMorsel Fanout.greatestMorsel)
  else if level = "" then
    .error (.invalidFormat "monitoring.log_level" "log level cannot be empty")
  else if isDirective level || logLevels.contains (Text.lowered level) then .ok ()
  else
    .error (.invalidFormat "monitoring.log_level"
      ("'" ++ level ++ "' is not one of " ++ QueryError.listed logLevels))

end Settings

end Census
