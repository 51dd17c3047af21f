import Census.Proofs.Selection

set_option autoImplicit false

namespace Census

namespace ValueKind

def operators : ValueKind → List String
  | .long => LongOp.names
  | .text => TextOp.names
  | .flag => FlagOp.names
  | .date => DateOp.names

def Operand : ValueKind → String → Prop
  | .long, operand => ∃ n : Int64, Text.Numeral operand.toList n.toInt
  | .text, _ => True
  | .flag, operand => Text.AnyCase "true" operand ∨ Text.AnyCase "false" operand
  | .date, operand => ∃ day, Calendar.Day.parse? operand = some day

def complaints : ValueKind → List String
  | .long => [.empty, .invalidDigit, .tooLarge, .tooSmall].map Text.NumeralFault.message
  | .text => []
  | .flag => ["expected 'true' or 'false'"]
  | .date => ["expected MM/dd/yyyy"]

end ValueKind

theorem Attribute.name_mem_names (a : Attribute) : a.name ∈ names :=
  List.mem_map_of_mem (mem_catalog a)

theorem Attribute.resolve_eq_error {field : String} {e : QueryError}
    (failed : resolve field = .error e) : field ∉ names ∧ e = .unresolvedFilter field names := by
  have unknown : field ∉ names := by
    intro known
    obtain ⟨a, -, rfl⟩ := List.mem_map.mp known
    rw [resolve_name] at failed
    cases failed
  unfold resolve at failed
  split at failed
  next => cases failed
  next => exact ⟨unknown, (Except.error.inj failed).symm⟩

theorem splitSpec_eq_error {context spec : String} {e : QueryError}
    (failed : splitSpec context spec = .error e) :
    ':' ∉ spec.toList ∧ e = .malformedOperand context spec "expected 'operator:operand'" := by
  unfold splitSpec at failed
  split at failed
  next => cases failed
  next missing =>
    exact ⟨Text.cutFirst_eq_none_iff.mp missing, (Except.error.inj failed).symm⟩

namespace Filter

theorem flag?_eq_none_iff {operand : String} :
    flag? operand = none ↔ ¬ValueKind.flag.Operand operand := by
  rw [flag?, ValueKind.Operand, ← Text.lowered_eq_iff (by decide),
    ← Text.lowered_eq_iff (by decide)]
  by_cases yes : Text.lowered operand = "true"
  · simp [yes]
  · by_cases no : Text.lowered operand = "false" <;> simp [yes, no]

def Accepted (field spec : String) : Prop :=
  ∃ a operator operand, field = Attribute.name a ∧ Spelled spec operator operand ∧
    operator ∈ a.kind.operators ∧ a.kind.Operand operand

inductive Refused (field spec : String) : QueryError → Prop where
  | field (unknown : field ∉ Attribute.names) :
    Refused field spec (.unresolvedFilter field Attribute.names)
  | mark (known : field ∈ Attribute.names) (unmarked : ':' ∉ spec.toList) :
    Refused field spec (.malformedOperand field spec "expected 'operator:operand'")
  | operator {a : Attribute} {operator operand : String} (named : field = a.name)
    (spelled : Spelled spec operator operand) (foreign : operator ∉ a.kind.operators) :
    Refused field spec (.unsupportedOperator field operator a.kind a.kind.operators)
  | operand {a : Attribute} {operator operand reason : String} (named : field = a.name)
    (spelled : Spelled spec operator operand) (known : operator ∈ a.kind.operators)
    (unread : ¬a.kind.Operand operand) (complaint : reason ∈ a.kind.complaints) :
    Refused field spec (.malformedOperand (field ++ ":" ++ operator) operand reason)

def Judged (field spec : String) : Except QueryError Predicate → Prop
  | .ok _ => Accepted field spec
  | .error e => Refused field spec e

section Condition

variable {spec operator operand : String} {now : Int64}

theorem condition_judged (a : Attribute) (spelled : Spelled spec operator operand) :
    Judged a.name spec (condition a operator operand now) := by
  cases a with
  | long a =>
    simp only [condition, LongComparison.compile]
    cases known : LongOp.named? operator with
    | none => exact .operator (a := .long a) rfl spelled (not_mem_names_of_lookup known)
    | some op =>
      have listed := mem_names_of_lookup known
      cases read : Text.int64 operand with
      | error fault =>
        have unread : ¬ValueKind.long.Operand operand := by
          rintro ⟨n, numeral⟩
          rw [Text.int64_eq_ok_iff.mpr numeral] at read
          cases read
        have complaint : fault.message ∈ ValueKind.long.complaints := by
          cases fault <;> simp [ValueKind.complaints]
        exact .operand (a := .long a) rfl spelled listed unread complaint
      | ok n =>
        exact ⟨.long a, operator, operand, rfl, spelled, listed, n, Text.int64_eq_ok_iff.mp read⟩
  | text a =>
    simp only [condition]
    cases known : TextOp.named? operator with
    | none => exact .operator (a := .text a) rfl spelled (not_mem_names_of_lookup known)
    | some op =>
      exact ⟨.text a, operator, operand, rfl, spelled, mem_names_of_lookup known, .intro⟩
  | flag a =>
    simp only [condition]
    cases known : FlagOp.named? operator with
    | none => exact .operator (a := .flag a) rfl spelled (not_mem_names_of_lookup known)
    | some op =>
      have listed := mem_names_of_lookup known
      cases read : flag? operand with
      | none =>
        exact .operand (a := .flag a) rfl spelled listed (flag?_eq_none_iff.mp read)
          (List.mem_singleton_self _)
      | some value =>
        have fits : ValueKind.flag.Operand operand := by
          by_contra unread
          rw [flag?_eq_none_iff.mpr unread] at read
          cases read
        exact ⟨.flag a, operator, operand, rfl, spelled, listed, fits⟩
  | date a =>
    simp only [condition]
    cases known : DateOp.named? operator with
    | none => exact .operator (a := .date a) rfl spelled (not_mem_names_of_lookup known)
    | some relation =>
      have listed := mem_names_of_lookup known
      cases read : Calendar.Day.parse? operand with
      | none =>
        have unread : ¬ValueKind.date.Operand operand := by
          rintro ⟨day, found⟩
          rw [read] at found
          cases found
        exact .operand (a := .date a) rfl spelled listed unread (List.mem_singleton_self _)
      | some day => exact ⟨.date a, operator, operand, rfl, spelled, listed, day, read⟩

theorem compile_judged (now : Int64) (field spec : String) :
    Judged field spec (compile now field spec) := by
  unfold compile
  cases resolved : Attribute.resolve field with
  | error e =>
    obtain ⟨unknown, rfl⟩ := Attribute.resolve_eq_error resolved
    exact .field unknown
  | ok a =>
    obtain rfl := Attribute.resolve_eq_ok_iff.mp resolved
    cases split : splitSpec a.name spec with
    | error e =>
      obtain ⟨unmarked, rfl⟩ := splitSpec_eq_error split
      exact .mark (Attribute.name_mem_names a) unmarked
    | ok parts => exact condition_judged a (splitSpec_eq_ok_iff.mp split)

theorem Refused.not_accepted {field : String} {e : QueryError} (refused : Refused field spec e) :
    ¬Accepted field spec := by
  rintro ⟨a, operator, operand, named, spelled, known, fits⟩
  cases refused with
  | field unknown => exact unknown (named ▸ Attribute.name_mem_names a)
  | mark _ unmarked => exact unmarked (by simp [spelled.1])
  | operator other again foreign =>
    obtain rfl := Attribute.name_injective (other.symm.trans named)
    obtain ⟨rfl, -⟩ := spelled.unique again
    exact foreign known
  | operand other again _ unread =>
    obtain rfl := Attribute.name_injective (other.symm.trans named)
    obtain ⟨-, rfl⟩ := spelled.unique again
    exact unread fits

theorem compile_succeeds_iff {field : String} :
    (∃ p, compile now field spec = .ok p) ↔ Accepted field spec := by
  have judged := compile_judged now field spec
  cases answer : compile now field spec with
  | ok p =>
    rw [answer] at judged
    exact ⟨fun _ => judged, fun _ => ⟨p, rfl⟩⟩
  | error e =>
    rw [answer] at judged
    simp [judged.not_accepted]

theorem compile_refuses {field : String} {e : QueryError}
    (failed : compile now field spec = .error e) : Refused field spec e := by
  have judged := compile_judged now field spec
  rwa [failed] at judged

end Condition

section Lists

variable {now : Int64}

theorem compileEach_eq_ok {pairs : List (String × String)} {ps : List Predicate}
    (compiled : compileEach now pairs = .ok ps) :
    List.Forall₂ (fun pair p => compile now pair.1 pair.2 = .ok p) pairs ps := by
  induction pairs generalizing ps with
  | nil =>
    obtain rfl : [] = ps := by simpa [compileEach] using compiled
    exact .nil
  | cons pair rest ih =>
    obtain ⟨p, qs, one, others, rfl⟩ := compileEach_cons_eq_ok compiled
    exact .cons one (ih others)

theorem compileEach_eq_error_iff {pairs : List (String × String)} {e : QueryError} :
    compileEach now pairs = .error e ↔
      Reaches (fun pair => ∃ p, compile now pair.1 pair.2 = .ok p)
        (fun pair => compile now pair.1 pair.2 = .error e) pairs := by
  induction pairs with
  | nil => simp [compileEach, not_reaches_nil]
  | cons pair rest ih =>
    rw [reaches_cons_iff, ← ih]
    obtain ⟨field, spec⟩ := pair
    cases one : compile now field spec with
    | error f => simp [compileEach, one, bind, Except.bind]
    | ok p =>
      cases others : compileEach now rest <;>
        simp [compileEach, one, others, bind, Except.bind, pure, Except.pure]

end Lists

end Filter

namespace Predicate

variable {release : Release} {r : Record}

theorem acceptsAll_eq_true_iff {ps : List Predicate} :
    acceptsAll release r ps = .ok true ↔ ∀ p ∈ ps, p.accepts release r = .ok true := by
  induction ps with
  | nil => simp [acceptsAll]
  | cons p rest ih =>
    rw [List.forall_mem_cons, ← ih, acceptsAll]
    cases p.accepts release r with
    | error e => simp
    | ok b => cases b <;> simp

theorem acceptsAll_eq_iff {answer : Except QueryError Bool} (stops : answer ≠ .ok true)
    {ps : List Predicate} :
    acceptsAll release r ps = answer ↔
      Reaches (fun p => p.accepts release r = .ok true) (fun p => p.accepts release r = answer)
        ps := by
  induction ps with
  | nil => simp [acceptsAll, not_reaches_nil, stops.symm]
  | cons p rest ih =>
    rw [reaches_cons_iff, ← ih, acceptsAll]
    cases p.accepts release r with
    | error e => simp
    | ok b => cases b <;> simp [stops.symm]

/-- The answer is that of the conditions looked at in turn, up to the first that does not hold. -/
def InTurn (p : Predicate) (conditions : List Predicate) : Prop :=
  ∀ release r,
    (p.accepts release r = .ok true ↔ ∀ q ∈ conditions, q.accepts release r = .ok true) ∧
    ∀ answer ≠ .ok true, (p.accepts release r = answer ↔
      Reaches (fun q => q.accepts release r = .ok true) (fun q => q.accepts release r = answer)
        conditions)

theorem all_inTurn (ps : List Predicate) : (all ps).InTurn ps := by
  intro release r
  rw [accepts_all]
  exact ⟨acceptsAll_eq_true_iff, fun answer stops => acceptsAll_eq_iff stops⟩

end Predicate

namespace Filter

variable {now : Int64} {fields specs : List String}

theorem compileAll_eq_error_iff (paired : fields.length = specs.length) {e : QueryError} :
    compileAll now fields specs = .error e ↔
      Reaches (fun pair => ∃ p, compile now pair.1 pair.2 = .ok p)
        (fun pair => compile now pair.1 pair.2 = .error e) (fields.zip specs) := by
  rw [compileAll, if_pos paired, ← compileEach_eq_error_iff]
  cases compileEach now (fields.zip specs) <;> simp [bind, Except.bind, pure, Except.pure]

theorem compiled_or_refused (now : Int64) (pair : String × String) :
    (∃ p, compile now pair.1 pair.2 = .ok p) ∨ ∃ e, compile now pair.1 pair.2 = .error e := by
  cases compile now pair.1 pair.2 <;> simp

theorem compile_language (now : Int64) :
    (∀ field spec, ((∃ p, compile now field spec = .ok p) ↔ Accepted field spec) ∧
      ∀ e, compile now field spec = .error e → Refused field spec e) ∧
    ∀ fields specs : List String,
      (fields.length ≠ specs.length → compileAll now fields specs =
        .error (.malformedOperand "filters"
          (Text.decimal fields.length ++ " fields, " ++ Text.decimal specs.length ++ " specs")
          "every field needs exactly one 'operator:operand' spec")) ∧
      (fields.length = specs.length →
        ((∃ e, compileAll now fields specs = .error e) ↔
          ∃ pair ∈ fields.zip specs, ∃ e, compile now pair.1 pair.2 = .error e) ∧
        (∀ e, compileAll now fields specs = .error e ↔
          Reaches (fun pair => ∃ p, compile now pair.1 pair.2 = .ok p)
            (fun pair => compile now pair.1 pair.2 = .error e) (fields.zip specs)) ∧
        ∀ p, compileAll now fields specs = .ok p → ∃ ps,
          List.Forall₂ (fun pair q => compile now pair.1 pair.2 = .ok q) (fields.zip specs) ps ∧
          p.InTurn ps) := by
  refine ⟨fun field spec => ⟨compile_succeeds_iff, fun e => compile_refuses⟩, ?_⟩
  intro fields specs
  refine ⟨fun unpaired => if_neg unpaired, fun paired => ?_⟩
  refine ⟨?_, fun e => compileAll_eq_error_iff paired, ?_⟩
  · rw [exists_congr fun e => compileAll_eq_error_iff paired,
      exists_reaches_iff (compiled_or_refused now)]
  · intro p compiled
    obtain ⟨-, ps, each, rfl⟩ := compileAll_eq_ok_iff.mp compiled
    exact ⟨ps, compileEach_eq_ok each, Predicate.all_inTurn ps⟩

theorem compile_language_of_mixed_kinds :
    (∃ p, compile 0 "user" "eq:a:b" = .ok p) ∧
    (∃ e, compileAll 0 ["user", "fileSize"] ["eq:a:b", "gt:1x"] = .error e) ∧
    ∃ p ps, compileAll 0 ["user", "hasAcl"] ["eq:a:b", "notEq:FALSE"] = .ok p ∧
      ps.length = 2 ∧ p.InTurn ps := by
  obtain ⟨each, lists⟩ := compile_language 0
  refine ⟨?_, ?_, ?_⟩
  · exact (each "user" "eq:a:b").1.mpr
      ⟨.text .user, "eq", "a:b", rfl, ⟨rfl, by decide⟩, by decide, trivial⟩
  · exact ((lists ["user", "fileSize"] ["eq:a:b", "gt:1x"]).2 rfl).1.mpr
      ⟨("fileSize", "gt:1x"), by decide, _, rfl⟩
  · obtain ⟨ps, compiled, inTurn⟩ :=
      ((lists ["user", "hasAcl"] ["eq:a:b", "notEq:FALSE"]).2 rfl).2.2 _ rfl
    exact ⟨_, ps, rfl, compiled.length_eq.symm, inTurn⟩

end Filter

end Census
