import Census.Proofs.Documents
import Census.Settings.Source

set_option autoImplicit false

namespace Census.Settings

variable {s : Settings}

structure Writable (s : Settings) : Prop where
  threshold : s.fanout.threshold.toNat ≤ Text.greatestInt64
  morsel : s.fanout.morsel.toNat ≤ Text.greatestInt64
  dumpLimit : s.dumpLimit.toNat ≤ Text.greatestInt64

theorem written_of_le {n : UInt64} (within : n.toNat ≤ Text.greatestInt64) :
    written n = .ok (Text.decimal n.toNat) :=
  if_pos within

theorem written_of_lt {n : UInt64} (past : Text.greatestInt64 < n.toNat) :
    written n = .error (.unwritable "out-of-range value for u64 type") :=
  if_neg (Nat.not_le.mpr past)

theorem word?_ofInt {n : UInt64} (within : n.toNat ≤ Text.greatestInt64) :
    word? (.integer (Int64.ofInt n.toNat)) = some n := by
  have value := Text.toInt_ofInt_natCast within
  have positive : 0 ≤ Int64.ofInt n.toNat := by
    rw [Int64.le_iff_toInt_le, value]
    exact Int.natCast_nonneg _
  rw [word?, if_pos positive, value]
  simp

theorem stands_flag (b : Bool) : Toml.Stands (writtenFlag b).toList (.boolean b) := by
  cases b with
  | true => exact Toml.stands_true
  | false => exact Toml.stands_false

def numberLine (key : String) (bare : Toml.IsBareKey key) {n : Nat}
    (within : n ≤ Text.greatestInt64) : Toml.Line :=
  .entry key (Nat.toDigits 10 n) (.integer (Int64.ofInt n)) bare (Toml.stands_number within)

def flagLine (key : String) (bare : Toml.IsBareKey key) (b : Bool) : Toml.Line :=
  .entry key (writtenFlag b).toList (.boolean b) bare (stands_flag b)

def fileLines (s : Settings) (writable : Writable s) : List Toml.Line :=
  [.header "parallel" (by decide),
    numberLine "parallel_threshold" (by decide) writable.threshold,
    numberLine "morsel_size" (by decide) writable.morsel,
    .blank,
    .header "export" (by decide),
    numberLine "default_dump_limit" (by decide) writable.dumpLimit,
    .blank,
    .header "monitoring" (by decide),
    flagLine "metrics_enabled" (by decide) s.metrics,
    .entry "log_level" (Toml.write s.logLevel.toList) (.text s.logLevel) (by decide)
      (Toml.stands_text s.logLevel),
    flagLine "json_logs" (by decide) s.jsonLogs]

def document (s : Settings) : Toml.Document where
  root := []
  tables :=
    [("parallel",
      [("parallel_threshold", .integer (Int64.ofInt s.fanout.threshold.toNat)),
        ("morsel_size", .integer (Int64.ofInt s.fanout.morsel.toNat))]),
    ("export", [("default_dump_limit", .integer (Int64.ofInt s.dumpLimit.toNat))]),
    ("monitoring",
      [("metrics_enabled", .boolean s.metrics), ("log_level", .text s.logLevel),
        ("json_logs", .boolean s.jsonLogs)])]

theorem toFile_of_writable (writable : Writable s) :
    s.toFile = .ok (String.ofList ((fileLines s writable).flatMap Toml.Line.text)) := by
  simp only [toFile, written_of_le writable.threshold, written_of_le writable.morsel,
    written_of_le writable.dumpLimit]
  refine congrArg Except.ok (String.toList_injective ?_)
  simp [fileLines, numberLine, flagLine, line, Toml.Line.text, Text.toList_decimal]

theorem toFile_of_not_writable (past : ¬Writable s) :
    s.toFile = .error (.unwritable "out-of-range value for u64 type") := by
  by_cases threshold : s.fanout.threshold.toNat ≤ Text.greatestInt64
  · by_cases morsel : s.fanout.morsel.toNat ≤ Text.greatestInt64
    · have dumpLimit : Text.greatestInt64 < s.dumpLimit.toNat :=
        Nat.not_le.mp fun dumpLimit => past ⟨threshold, morsel, dumpLimit⟩
      rw [toFile, written_of_le threshold, written_of_le morsel, written_of_lt dumpLimit]
      rfl
    · rw [toFile, written_of_le threshold, written_of_lt (Nat.not_le.mp morsel)]
      rfl
  · rw [toFile, written_of_lt (Nat.not_le.mp threshold)]
    rfl

theorem toFile_succeeds_iff : (∃ text, s.toFile = .ok text) ↔ Writable s := by
  constructor
  · rintro ⟨text, saved⟩
    by_contra past
    rw [toFile_of_not_writable past] at saved
    cases saved
  · intro writable
    exact ⟨_, toFile_of_writable writable⟩

theorem toFile_eq_error_iff {fault : SettingsError} :
    s.toFile = .error fault ↔
      ¬Writable s ∧ fault = .unwritable "out-of-range value for u64 type" := by
  constructor
  · intro refused
    have past : ¬Writable s := by
      intro writable
      rw [toFile_of_writable writable] at refused
      cases refused
    exact ⟨past, (Except.error.inj ((toFile_of_not_writable past).symm.trans refused)).symm⟩
  · rintro ⟨past, rfl⟩
    exact toFile_of_not_writable past

theorem enter_fileLines (writable : Writable s) :
    ((fileLines s writable).foldlM Toml.Line.enter? .empty).map (.ofTable ·.table) =
      some s.document :=
  rfl

theorem read?_fileLines (writable : Writable s) :
    Toml.read? (String.ofList ((fileLines s writable).flatMap Toml.Line.text)) =
      some s.document := by
  have unmarked : Toml.unmarked ((fileLines s writable).flatMap Toml.Line.text) =
      (fileLines s writable).flatMap Toml.Line.text := rfl
  rw [Toml.read?, String.toList_ofList, unmarked, Toml.lines?_text, enter_fileLines]

theorem ofDocument?_document (writable : Writable s) : ofDocument? s.document = some s := by
  have threshold := word?_ofInt writable.threshold
  have morsel := word?_ofInt writable.morsel
  have dumpLimit := word?_ofInt writable.dumpLimit
  calc ofDocument? s.document
      = (do
          return {
            fanout := {
              threshold := ← word? (.integer (Int64.ofInt s.fanout.threshold.toNat))
              morsel := ← word? (.integer (Int64.ofInt s.fanout.morsel.toNat)) }
            dumpLimit := ← word? (.integer (Int64.ofInt s.dumpLimit.toNat))
            metrics := s.metrics
            logLevel := s.logLevel
            jsonLogs := s.jsonLogs }) := rfl
    _ = some s := by
      rw [threshold, morsel, dumpLimit]
      rfl

theorem ofFile_of_toFile {text : String} (saved : s.toFile = .ok text) :
    ofFile (some text) = .ok s := by
  have writable : Writable s := toFile_succeeds_iff.mp ⟨text, saved⟩
  obtain rfl := Except.ok.inj ((toFile_of_writable writable).symm.trans saved)
  simp only [ofFile, read?_fileLines, Option.bind_some, ofDocument?_document writable]

theorem greatestMorsel_of_valid (valid : s.validate = .ok ()) :
    s.fanout.morsel.toNat ≤ Fanout.greatestMorsel := by
  by_contra large
  simp only [validate] at valid
  rw [if_pos (.inr (Nat.not_le.mp large))] at valid
  cases valid

theorem writable_iff_of_valid (valid : s.validate = .ok ()) :
    Writable s ↔
      s.fanout.threshold.toNat ≤ Text.greatestInt64 ∧ s.dumpLimit.toNat ≤ Text.greatestInt64 := by
  constructor
  · intro writable
    exact ⟨writable.threshold, writable.dumpLimit⟩
  · rintro ⟨threshold, dumpLimit⟩
    exact ⟨threshold, Nat.le_trans (greatestMorsel_of_valid valid) (by decide), dumpLimit⟩

theorem saved_and_reloaded_iff (s : Settings) (valid : s.validate = .ok ()) :
    ((∃ text, s.toFile = .ok text ∧ ofFile (some text) = .ok s) ↔
      s.fanout.threshold.toNat ≤ Text.greatestInt64 ∧ s.dumpLimit.toNat ≤ Text.greatestInt64) ∧
    (∀ text, s.toFile = .ok text → ofFile (some text) = .ok s) ∧
    (∀ fault, s.toFile = .error fault ↔
      fault = .unwritable "out-of-range value for u64 type" ∧
        (Text.greatestInt64 < s.fanout.threshold.toNat ∨
          Text.greatestInt64 < s.dumpLimit.toNat)) := by
  have fits := writable_iff_of_valid valid
  refine ⟨?_, fun _ saved => ofFile_of_toFile saved, fun fault => ?_⟩
  · rw [← fits, ← toFile_succeeds_iff]
    constructor
    · rintro ⟨text, saved, -⟩
      exact ⟨text, saved⟩
    · rintro ⟨text, saved⟩
      exact ⟨text, saved, ofFile_of_toFile saved⟩
  · rw [toFile_eq_error_iff, fits, and_comm, not_and_or, Nat.not_le, Nat.not_le]

theorem saved_and_reloaded_with_quotes_and_breaks :
    ∃ text,
      toFile { dumpLimit := 250, logLevel := "census=\"it''' s\"\n\\ \t" } = .ok text ∧
        ofFile (some text) = .ok { dumpLimit := 250, logLevel := "census=\"it''' s\"\n\\ \t" } :=
  (saved_and_reloaded_iff { dumpLimit := 250, logLevel := "census=\"it''' s\"\n\\ \t" } rfl).1.mpr
    (by decide)

/-- The threshold of settings that never spread the work is one of those that are refused. -/
theorem sequential_not_saved :
    validate { fanout := Fanout.sequential } = .ok () ∧
      toFile { fanout := Fanout.sequential } =
        .error (.unwritable "out-of-range value for u64 type") :=
  ⟨rfl, rfl⟩

end Census.Settings
