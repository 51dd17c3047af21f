import Census.Proofs.Language
import Census.Proofs.Reload

set_option autoImplicit false

namespace Census.Settings

/-- What one source of settings sets, where it leaves the others to the sources behind it. -/
structure Layer where
  threshold : Option UInt64 := none
  morsel : Option UInt64 := none
  dumpLimit : Option UInt64 := none
  metrics : Option Bool := none
  logLevel : Option String := none
  jsonLogs : Option Bool := none

def layered (front back : Layer) : Settings where
  fanout := {
    threshold := (front.threshold.or back.threshold).getD 10000
    morsel := (front.morsel.or back.morsel).getD 4096 }
  dumpLimit := (front.dumpLimit.or back.dumpLimit).getD 0
  metrics := (front.metrics.or back.metrics).getD true
  logLevel := (front.logLevel.or back.logLevel).getD "info"
  jsonLogs := (front.jsonLogs.or back.jsonLogs).getD false

def Assigns (assigned : Option String) (field : Option UInt64) : Prop :=
  ∀ n, field = some n ↔ ∃ text, assigned = some text ∧ Text.UnsignedNumeral text.toList n.toNat

structure OfVariables (environment : String → Option String) (layer : Layer) : Prop where
  threshold : Assigns (environment "NSQ_PARALLEL_THRESHOLD") layer.threshold
  morsel : Assigns (environment "NSQ_MORSEL_SIZE") layer.morsel
  dumpLimit : Assigns (environment "NSQ_DUMP_LIMIT") layer.dumpLimit
  metrics : layer.metrics = none
  logLevel : layer.logLevel = environment "RUST_LOG"
  jsonLogs : layer.jsonLogs = none

def IsWord (value : Toml.Value) (n : UInt64) : Prop :=
  ∃ m : Int64, value = .integer m ∧ m.toInt = n.toNat

def IsFlag (value : Toml.Value) (b : Bool) : Prop :=
  value = .boolean b

def IsText (value : Toml.Value) (s : String) : Prop :=
  value = .text s

def value? (doc : Toml.Document) (name key : String) : Option Toml.Value :=
  (doc.tables.lookup name).bind (·.lookup key)

/-- Nothing stands where a section could, and every key that is there has a value of its type. -/
structure OfDocument (doc : Toml.Document) (layer : Layer) : Prop where
  sections : ∀ name ∈ ["parallel", "export", "monitoring"], doc.root.lookup name = none
  threshold : Option.Rel IsWord (value? doc "parallel" "parallel_threshold") layer.threshold
  morsel : Option.Rel IsWord (value? doc "parallel" "morsel_size") layer.morsel
  dumpLimit : Option.Rel IsWord (value? doc "export" "default_dump_limit") layer.dumpLimit
  metrics : Option.Rel IsFlag (value? doc "monitoring" "metrics_enabled") layer.metrics
  logLevel : Option.Rel IsText (value? doc "monitoring" "log_level") layer.logLevel
  jsonLogs : Option.Rel IsFlag (value? doc "monitoring" "json_logs") layer.jsonLogs

def OfText (read? : String → Option Toml.Document) (text : Option String) (layer : Layer) : Prop :=
  ∃ found doc, text = some found ∧ read? found = some doc ∧ OfDocument doc layer

structure Acceptable (s : Settings) : Prop where
  morsel : 64 ≤ s.fanout.morsel.toNat ∧ s.fanout.morsel.toNat ≤ 16777216
  given : Text.trim s.logLevel ≠ ""
  level : '=' ∈ (Text.trim s.logLevel).toList ∨ ',' ∈ (Text.trim s.logLevel).toList ∨
    ∃ level ∈ ["error", "warn", "info", "debug", "trace"],
      Text.AnyCase level (Text.trim s.logLevel)

def ofFileBy (read? : String → Option Toml.Document) (text : Option String) :
    Except SettingsError Settings :=
  match text with
  | none => .error .unreadable
  | some text =>
    match (read? text).bind ofDocument? with
    | some settings => .ok settings
    | none => .error .malformed

def ofFileAndEnvironmentBy (read? : String → Option Toml.Document) (text : Option String)
    (environment : String → Option String) : Except SettingsError Settings := do
  let settings := (← ofFileBy read? text).override environment
  settings.validate
  return settings

def Reads {α : Type} (as : Toml.Value → Option α) (Is : Toml.Value → α → Prop) : Prop :=
  ∀ value a, as value = some a ↔ Is value a

theorem word?_reads : Reads word? IsWord := by
  intro value n
  cases value with
  | integer m =>
    have nonneg : 0 ≤ m ↔ 0 ≤ m.toInt := Int64.le_iff_toInt_le
    have upper : m.toInt < 2 ^ 63 := m.toInt_lt
    simp only [word?, IsWord, Toml.Value.integer.injEq, exists_eq_left', nonneg,
      Option.ite_none_right_eq_some, Option.some.injEq]
    constructor
    · rintro ⟨natural, rfl⟩
      have small : m.toInt.toNat < UInt64.size := by rw [UInt64.size]; omega
      rw [UInt64.toNat_ofNat_of_lt' small, Int.toNat_of_nonneg natural]
    · intro same
      rw [same]
      exact ⟨Int.natCast_nonneg _, UInt64.ofNat_toNat⟩
  | _ => simp [word?, IsWord]

theorem boolean?_reads : Reads boolean? IsFlag := by
  intro value b
  cases value <;> simp [boolean?, IsFlag]

theorem text?_reads : Reads text? IsText := by
  intro value s
  cases value <;> simp [text?, IsText]

section Documents

variable {doc : Toml.Document} {name : String}

theorem table?_eq_some_iff {table : Toml.Table} :
    doc.table? name = some table ↔
      doc.root.lookup name = none ∧ (doc.tables.lookup name).getD [] = table := by
  rw [Toml.Document.table?]
  cases doc.root.lookup name <;> simp

theorem lookup_getD (key : String) :
    ((doc.tables.lookup name).getD []).lookup key = value? doc name key := by
  rw [value?]
  cases doc.tables.lookup name <;> rfl

theorem entry?_eq_some_iff {α : Type} {as : Toml.Value → Option α} {Is : Toml.Value → α → Prop}
    (reads : Reads as Is) {key : String} {default a : α} :
    entry? ((doc.tables.lookup name).getD []) key as default = some a ↔
      ∃ field, Option.Rel Is (value? doc name key) field ∧ field.getD default = a := by
  unfold entry?
  rw [lookup_getD]
  cases value? doc name key with
  | none =>
    -- A key that is missing is not a value of the wrong type.
    constructor
    · rintro ⟨⟩
      exact ⟨none, .none, rfl⟩
    · rintro ⟨field, related, rfl⟩
      cases related
      rfl
  | some value =>
    constructor
    · intro read
      exact ⟨some a, .some ((reads value a).mp read), rfl⟩
    · rintro ⟨field, related, rfl⟩
      cases related with
      | some is => exact (reads _ _).mpr is

theorem ofDocument?_eq_some_iff {s : Settings} :
    ofDocument? doc = some s ↔ ∃ layer, OfDocument doc layer ∧ layered {} layer = s := by
  simp only [ofDocument?, Option.bind_eq_bind, Option.bind_eq_some_iff, table?_eq_some_iff,
    and_assoc, exists_and_left, exists_eq_left', entry?_eq_some_iff word?_reads,
    entry?_eq_some_iff boolean?_reads, entry?_eq_some_iff text?_reads, Option.pure_def,
    Option.some.injEq]
  constructor
  · rintro ⟨noParallel, noExport, noMonitoring, _, ⟨threshold, thresholds, rfl⟩,
      _, ⟨morsel, morsels, rfl⟩, _, ⟨dumpLimit, dumpLimits, rfl⟩, _, ⟨metrics, switches, rfl⟩,
      _, ⟨logLevel, levels, rfl⟩, _, ⟨jsonLogs, formats, rfl⟩, rfl⟩
    have sections : ∀ name ∈ ["parallel", "export", "monitoring"], doc.root.lookup name = none := by
      simp only [List.forall_mem_cons]
      exact ⟨noParallel, noExport, noMonitoring, List.forall_mem_nil _⟩
    refine ⟨{ threshold, morsel, dumpLimit, metrics, logLevel, jsonLogs }, ?_, rfl⟩
    exact {
      sections := sections
      threshold := thresholds
      morsel := morsels
      dumpLimit := dumpLimits
      metrics := switches
      logLevel := levels
      jsonLogs := formats }
  · rintro ⟨layer, fits, rfl⟩
    exact ⟨fits.sections _ (by simp), fits.sections _ (by simp), fits.sections _ (by simp),
      _, ⟨_, fits.threshold, rfl⟩, _, ⟨_, fits.morsel, rfl⟩, _, ⟨_, fits.dumpLimit, rfl⟩,
      _, ⟨_, fits.metrics, rfl⟩, _, ⟨_, fits.logLevel, rfl⟩, _, ⟨_, fits.jsonLogs, rfl⟩, rfl⟩

end Documents

section Variables

variable {environment : String → Option String} {assigned : Option String} {front : Layer}

theorem word_eq_getD {field : Option UInt64}
    (assigns : Assigns assigned field) (otherwise : UInt64) :
    word assigned otherwise = field.getD otherwise := by
  cases assigned with
  | none =>
    have unset : field = none := Option.eq_none_iff_forall_ne_some.mpr fun n set => by
      obtain ⟨text, ⟨⟩, -⟩ := (assigns n).mp set
    rw [unset]
    rfl
  | some text =>
    cases read : Text.word64 text with
    | ok n =>
      rw [(assigns n).mpr ⟨text, rfl, Text.word64_eq_ok_iff.mp read⟩]
      simp [word, read]
    | error fault =>
      -- A text that is no number leaves the field to the sources behind, without a complaint.
      have unset : field = none := Option.eq_none_iff_forall_ne_some.mpr fun n set => by
        obtain ⟨_, ⟨⟩, numeral⟩ := (assigns n).mp set
        rw [Text.word64_eq_ok_iff.mpr numeral] at read
        cases read
      rw [unset]
      simp [word, read]

theorem exists_assigns (assigned : Option String) : ∃ field, Assigns assigned field := by
  refine ⟨assigned.bind fun text => (Text.word64 text).toOption, fun n => ?_⟩
  simp only [Option.bind_eq_some_iff, ← Text.word64_eq_ok_iff]
  refine exists_congr fun text => and_congr_right fun _ => ?_
  cases Text.word64 text <;> simp [Except.toOption]

theorem exists_ofVariables (environment : String → Option String) :
    ∃ layer, OfVariables environment layer := by
  obtain ⟨threshold, thresholds⟩ := exists_assigns (environment "NSQ_PARALLEL_THRESHOLD")
  obtain ⟨morsel, morsels⟩ := exists_assigns (environment "NSQ_MORSEL_SIZE")
  obtain ⟨dumpLimit, limits⟩ := exists_assigns (environment "NSQ_DUMP_LIMIT")
  exact ⟨{ threshold, morsel, dumpLimit, logLevel := environment "RUST_LOG" },
    { threshold := thresholds
      morsel := morsels
      dumpLimit := limits
      metrics := rfl
      logLevel := rfl
      jsonLogs := rfl }⟩

theorem override_layered (given : OfVariables environment front) (back : Layer) :
    (layered {} back).override environment = layered front back := by
  simp only [override, layered, word_eq_getD given.threshold, word_eq_getD given.morsel,
    word_eq_getD given.dumpLimit, given.metrics, ← given.logLevel, given.jsonLogs,
    Option.getD_or, Option.none_or]

end Variables

theorem isDirective_iff {level : String} :
    isDirective level = true ↔ '=' ∈ level.toList ∨ ',' ∈ level.toList := by
  simp only [isDirective, List.any_eq_true, Bool.or_eq_true, decide_eq_true_eq]
  constructor
  · rintro ⟨c, member, rfl | rfl⟩
    · exact .inl member
    · exact .inr member
  · rintro (member | member)
    · exact ⟨_, member, .inl rfl⟩
    · exact ⟨_, member, .inr rfl⟩

theorem contains_logLevels_iff {level : String} :
    logLevels.contains (Text.lowered level) = true ↔
      ∃ word ∈ ["error", "warn", "info", "debug", "trace"], Text.AnyCase word level := by
  have small : ∀ word ∈ logLevels, word.toList.all Char.isLower = true := by decide
  rw [List.contains_iff_mem]
  constructor
  · intro listed
    exact ⟨_, listed, (Text.lowered_eq_iff (small _ listed)).mp rfl⟩
  · rintro ⟨word, listed, spelled⟩
    rwa [(Text.lowered_eq_iff (small word listed)).mpr spelled]

theorem validate_eq_ok_iff {s : Settings} : s.validate = .ok () ↔ Acceptable s := by
  have levels : (isDirective (Text.trim s.logLevel) ||
      logLevels.contains (Text.lowered (Text.trim s.logLevel))) = true ↔
      _ := Bool.or_eq_true_iff.trans (or_congr isDirective_iff contains_logLevels_iff)
  simp only [validate]
  -- The checks in the order they are made: the morsel, a level at all, and one that is known.
  split
  next outside =>
    refine iff_of_false (by simp) fun acceptable => ?_
    obtain ⟨least, greatest⟩ := acceptable.morsel
    simp only [Fanout.leastMorsel, Fanout.greatestMorsel] at outside
    omega
  next inside =>
    have morsel : 64 ≤ s.fanout.morsel.toNat ∧ s.fanout.morsel.toNat ≤ 16777216 := by
      simp only [Fanout.leastMorsel, Fanout.greatestMorsel] at inside
      omega
    split
    next none_given => exact iff_of_false (by simp) fun acceptable => acceptable.given none_given
    next some_given =>
      split
      next known =>
        have acceptable : Acceptable s := ⟨morsel, some_given, or_assoc.mp (levels.mp known)⟩
        exact iff_of_true rfl acceptable
      next unknown =>
        refine iff_of_false (by simp) fun acceptable => unknown ?_
        exact levels.mpr (or_assoc.mpr acceptable.level)

theorem ofFileAndEnvironmentBy_of_ok {read? : String → Option Toml.Document}
    {text : Option String} {file : Settings} (loaded : ofFileBy read? text = .ok file)
    (environment : String → Option String) (s : Settings) :
    ofFileAndEnvironmentBy read? text environment = .ok s ↔
      s = file.override environment ∧ Acceptable s := by
  rw [ofFileAndEnvironmentBy, loaded]
  cases valid : (file.override environment).validate with
  | ok _ =>
    have acceptable : Acceptable (file.override environment) := validate_eq_ok_iff.mp valid
    simp only [bind, Except.bind, valid, pure, Except.pure, Except.ok.injEq]
    constructor
    · rintro rfl
      exact ⟨rfl, acceptable⟩
    · rintro ⟨rfl, -⟩
      rfl
  | error fault =>
    simp only [bind, Except.bind, valid]
    refine iff_of_false (by simp) ?_
    rintro ⟨rfl, acceptable⟩
    rw [validate_eq_ok_iff.mpr acceptable] at valid
    cases valid

inductive Resolves (read? : String → Option Toml.Document) (text : Option String)
    (environment : String → Option String) : Prop where
  | unread (fault : SettingsError) (no_settings : ∀ back, ¬OfText read? text back)
    (unreadable : fault = .unreadable ↔ text = none) (malformed : fault = .malformed ↔ text ≠ none)
    (file : ofFileBy read? text = .error fault)
    (both : ofFileAndEnvironmentBy read? text environment = .error fault)
  | read (front back : Layer) (given : OfVariables environment front)
    (entries : OfText read? text back)
    (file : ofFileBy read? text = .ok (layered {} back))
    (both : ∀ s, ofFileAndEnvironmentBy read? text environment = .ok s ↔
      s = layered front back ∧ Acceptable s)

section Resolution

variable {read? : String → Option Toml.Document} {text : Option String}

theorem ofFileAndEnvironmentBy_of_error {fault : SettingsError}
    (failed : ofFileBy read? text = .error fault) (environment : String → Option String) :
    ofFileAndEnvironmentBy read? text environment = .error fault := by
  rw [ofFileAndEnvironmentBy, failed]
  rfl

theorem ofFileBy_eq_ok_iff {s : Settings} :
    ofFileBy read? text = .ok s ↔ ∃ back, OfText read? text back ∧ layered {} back = s := by
  cases text with
  | none =>
    refine iff_of_false (by simp [ofFileBy]) ?_
    rintro ⟨back, ⟨found, doc, ⟨⟩, -⟩, -⟩
  | some text =>
    have found : ofFileBy read? (some text) = .ok s ↔ (read? text).bind ofDocument? = some s := by
      rw [ofFileBy]
      cases (read? text).bind ofDocument? <;> simp
    simp only [found, Option.bind_eq_some_iff, ofDocument?_eq_some_iff, OfText, Option.some.injEq]
    constructor
    · rintro ⟨doc, reads, back, fits, same⟩
      exact ⟨back, ⟨text, doc, rfl, reads, fits⟩, same⟩
    · rintro ⟨back, ⟨_, doc, rfl, reads, fits⟩, same⟩
      exact ⟨doc, reads, back, fits, same⟩

theorem ofFileBy_fault {fault : SettingsError} (failed : ofFileBy read? text = .error fault) :
    (fault = .unreadable ↔ text = none) ∧ (fault = .malformed ↔ text ≠ none) := by
  cases text with
  | none =>
    obtain rfl := Except.error.inj failed
    simp
  | some text =>
    rw [ofFileBy] at failed
    cases found : (read? text).bind ofDocument? with
    | some s => simp [found] at failed
    | none =>
      simp only [found, Except.error.injEq] at failed
      subst failed
      simp

theorem resolves (read? : String → Option Toml.Document) (text : Option String)
    (environment : String → Option String) : Resolves read? text environment := by
  cases file : ofFileBy read? text with
  | error fault =>
    obtain ⟨unreadable, malformed⟩ := ofFileBy_fault file
    have no_settings : ∀ back, ¬OfText read? text back := fun back entries => by
      rw [ofFileBy_eq_ok_iff.mpr ⟨back, entries, rfl⟩] at file
      cases file
    exact .unread fault no_settings unreadable malformed file
      (ofFileAndEnvironmentBy_of_error file environment)
  | ok s =>
    obtain ⟨back, entries, rfl⟩ := ofFileBy_eq_ok_iff.mp file
    obtain ⟨front, given⟩ := exists_ofVariables environment
    refine .read front back given entries file fun s => ?_
    rw [ofFileAndEnvironmentBy_of_ok file, override_layered given]

def repairing : String → Option String
  | "NSQ_MORSEL_SIZE" => some "64"
  | "RUST_LOG" => some "info"
  | _ => none

def breaking : String → Option String
  | "NSQ_MORSEL_SIZE" => some "63"
  | _ => none

theorem repaired {file : Settings} (loaded : ofFileBy read? text = .ok file) :
    ofFileAndEnvironmentBy read? text repairing = .ok (file.override repairing) := by
  have morsel : (file.override repairing).fanout.morsel = 64 := rfl
  have level : (file.override repairing).logLevel = "info" := rfl
  have valid : (file.override repairing).validate = validate { fanout := { morsel := 64 } } := by
    rw [validate, validate, morsel, level]
  exact (ofFileAndEnvironmentBy_of_ok loaded _ _).mpr ⟨rfl, validate_eq_ok_iff.mp valid⟩

theorem broken {file : Settings} (loaded : ofFileBy read? text = .ok file) :
    ∃ fault, ofFileAndEnvironmentBy read? text breaking = .error fault := by
  cases both : ofFileAndEnvironmentBy read? text breaking with
  | error fault => exact ⟨fault, rfl⟩
  | ok s =>
    obtain ⟨rfl, acceptable⟩ := (ofFileAndEnvironmentBy_of_ok loaded _ _).mp both
    have morsel : (file.override breaking).fanout.morsel = 63 := rfl
    have least := acceptable.morsel.1
    rw [morsel] at least
    exact absurd least (by decide)

end Resolution

theorem settings_resolve_by_layer :
    (ofFile = ofFileBy Toml.read? ∧ ofFileAndEnvironment = ofFileAndEnvironmentBy Toml.read?) ∧
    ∀ (read? : String → Option Toml.Document) (text : Option String),
      (∀ environment, Resolves read? text environment) ∧
      ∀ file, ofFileBy read? text = .ok file →
        (∃ environment s, ofFileAndEnvironmentBy read? text environment = .ok s) ∧
        ∃ environment fault, ofFileAndEnvironmentBy read? text environment = .error fault := by
  refine ⟨⟨rfl, rfl⟩, fun read? text => ⟨resolves read? text, fun file loaded => ?_⟩⟩
  exact ⟨⟨repairing, _, repaired loaded⟩, breaking, broken loaded⟩

theorem settings_resolve_by_layer_of_small_morsel :
    ∃ small valid : String,
      ofFile (some small) = .ok { fanout := { morsel := 1 } } ∧
      ¬Acceptable { fanout := { morsel := 1 } } ∧
      (∃ environment s, ofFileAndEnvironment (some small) environment = .ok s) ∧
      ofFile (some valid) = .ok {} ∧ Acceptable {} ∧
      ∃ environment fault, ofFileAndEnvironment (some valid) environment = .error fault := by
  obtain ⟨⟨file, both⟩, layers⟩ := settings_resolve_by_layer
  obtain ⟨small, saved⟩ := toFile_succeeds_iff (s := { fanout := { morsel := 1 } }).mpr
    ⟨by decide, by decide, by decide⟩
  obtain ⟨valid, standard⟩ := toFile_succeeds_iff (s := {}).mpr ⟨by decide, by decide, by decide⟩
  have loaded := ofFile_of_toFile saved
  have plain := ofFile_of_toFile standard
  refine ⟨small, valid, loaded, fun acceptable => absurd acceptable.morsel.1 (by decide), ?_, plain,
    validate_eq_ok_iff.mp rfl, ?_⟩
  · rw [both]
    exact ((layers Toml.read? (some small)).2 _ (file ▸ loaded)).1
  · rw [both]
    exact ((layers Toml.read? (some valid)).2 _ (file ▸ plain)).2

end Census.Settings
