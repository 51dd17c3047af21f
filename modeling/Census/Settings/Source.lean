import Census.Settings
import Census.Toml.Reader

set_option autoImplicit false

namespace Census.Settings

def word? : Toml.Value → Option UInt64
  | .integer n => if 0 ≤ n then some (UInt64.ofNat n.toInt.toNat) else none
  | _ => none

def boolean? : Toml.Value → Option Bool
  | .boolean b => some b
  | _ => none

def text? : Toml.Value → Option String
  | .text s => some s
  | _ => none

def entry? {α : Type} (table : Toml.Table) (key : String) (as : Toml.Value → Option α)
    (default : α) : Option α :=
  match table.lookup key with
  | none => some default
  | some value => as value

def ofDocument? (doc : Toml.Document) : Option Settings := do
  let standard : Settings := {}
  let parallel ← doc.table? "parallel"
  let dump ← doc.table? "export"
  let monitoring ← doc.table? "monitoring"
  return {
    fanout := {
      threshold := ← entry? parallel "parallel_threshold" word? standard.fanout.threshold
      morsel := ← entry? parallel "morsel_size" word? standard.fanout.morsel }
    dumpLimit := ← entry? dump "default_dump_limit" word? standard.dumpLimit
    metrics := ← entry? monitoring "metrics_enabled" boolean? standard.metrics
    logLevel := ← entry? monitoring "log_level" text? standard.logLevel
    jsonLogs := ← entry? monitoring "json_logs" boolean? standard.jsonLogs }

def ofFile (text : Option String) : Except SettingsError Settings :=
  match text with
  | none => .error .unreadable
  | some text =>
    match (Toml.read? text).bind ofDocument? with
    | some settings => .ok settings
    | none => .error .malformed

def word (assigned : Option String) (otherwise : UInt64) : UInt64 :=
  match assigned.map Text.word64 with
  | some (.ok n) => n
  | _ => otherwise

def override (s : Settings) (environment : String → Option String) : Settings :=
  -- A number that cannot be read changes nothing.
  { s with
    fanout := {
      threshold := word (environment "NSQ_PARALLEL_THRESHOLD") s.fanout.threshold
      morsel := word (environment "NSQ_MORSEL_SIZE") s.fanout.morsel }
    dumpLimit := word (environment "NSQ_DUMP_LIMIT") s.dumpLimit
    logLevel := (environment "RUST_LOG").getD s.logLevel }

def ofFileAndEnvironment (text : Option String) (environment : String → Option String) :
    Except SettingsError Settings := do
  let settings := (← ofFile text).override environment
  settings.validate
  return settings

def ofEnvironment (environment : String → Option String) : Settings :=
  override {} environment

def written (n : UInt64) : Except SettingsError String :=
  -- Numbers in a settings file are signed, so the upper half of the words cannot be written.
  if n.toNat ≤ Text.greatestInt64 then .ok (Text.decimal n.toNat)
  else .error (.unwritable "out-of-range value for u64 type")

def writtenFlag (b : Bool) : String :=
  if b then "true" else "false"

def line (key value : String) : String :=
  key ++ " = " ++ value ++ "\n"

def toFile (s : Settings) : Except SettingsError String := do
  let threshold ← written s.fanout.threshold
  let morsel ← written s.fanout.morsel
  let limit ← written s.dumpLimit
  return "[parallel]\n" ++ line "parallel_threshold" threshold ++ line "morsel_size" morsel
    ++ "\n[export]\n" ++ line "default_dump_limit" limit
    ++ "\n[monitoring]\n" ++ line "metrics_enabled" (writtenFlag s.metrics)
    ++ line "log_level" (String.ofList (Toml.write s.logLevel.toList))
    ++ line "json_logs" (writtenFlag s.jsonLogs)

end Census.Settings
