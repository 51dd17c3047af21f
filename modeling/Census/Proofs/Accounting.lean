import Census.Proofs.Selection
import Census.Session

set_option autoImplicit false

namespace Census

namespace Counter

variable {κ : Type} [DecidableEq κ]

def total (c : Counter κ) (counted : κ → Bool) : Nat :=
  (c.entries.filter fun (key, _) => counted key).foldr (fun (_, n) rest => n + rest) 0

@[simp] theorem total_add (c : Counter κ) (key : κ) (amount : Nat) (counted : κ → Bool) :
    (c.add key amount).total counted = c.total counted + if counted key then amount else 0 := by
  obtain ⟨entries⟩ := c
  unfold total add
  induction entries with
  | nil => cases kept : counted key <;> simp [addTo, kept]
  | cons entry rest ih =>
    obtain ⟨k, n⟩ := entry
    by_cases same : k = key
    · subst same
      cases kept : counted k <;> simp [addTo, kept, Nat.add_right_comm]
    · cases kept : counted k <;> simp [addTo, same, kept, ih, Nat.add_assoc]

end Counter

theorem Operation.name_injective : Function.Injective name := by
  intro a b same
  have letters := congrArg (fun text => text.toList.reverse) same
  cases a with
  | histogram axis =>
    cases b with
    | histogram other =>
      exact congrArg histogram (String.toList_inj.mp (by simpa [name] using letters))
    | _ => simp [name] at letters
  | _ =>
    cases b with
    | histogram other => simp [name] at letters
    | _ => first | rfl | exact absurd same (by decide)

inductive Call where
  | combinedFilter (v : View) (fields specs : List String)
  | findFilter (v : View) (spec : String)
  | sum (v : View) (aggregation : String)
  | histogram (v : View) (axis : Axis) (aggregation : String) (find : Option String)
  | prune (h : Histogram Int64) (spec : String)
  | pruneVectors (h : Histogram (List Int64)) (spec : String)
  | dumpPaths (v : View) (limit : Option Nat) (sink : Export.Sink)
  | refresh (records : List Record)

abbrev Trace := List (Call × Option QueryError)

namespace Call

def operation? : Call → Option Operation
  | .combinedFilter .. => some .combinedFilter
  | .findFilter .. => some .findFilter
  | .sum .. => some .sum
  | .histogram _ axis _ _ => some (.histogram axis.name)
  | .prune .. => some .prune
  | .pruneVectors .. => some .pruneVectors
  | .dumpPaths .. => some .dumpPaths
  | .refresh _ => none

def items : Call → Nat
  | .combinedFilter v _ _ | .findFilter v _ | .sum v _ | .histogram v _ _ _ | .dumpPaths v _ _ =>
    v.subset.size
  | .prune h _ => h.size
  | .pruneVectors h _ => h.size
  | .refresh _ => 0

def outcome {α : Type} (step : Session.Step α) (s : Session) : Option QueryError × Session :=
  let (result, s) := step s
  (Session.failure? result, s)

def perform : Call → Session → Option QueryError × Session
  | .combinedFilter v fields specs => outcome (Session.combinedFilter v fields specs)
  | .findFilter v spec => outcome (Session.findFilter v spec)
  | .sum v aggregation => outcome (Session.sum v aggregation)
  | .histogram v axis aggregation find => outcome (Session.histogram v axis aggregation find)
  | .prune h spec => outcome (Session.prune h spec)
  | .pruneVectors h spec => outcome (Session.pruneVectors h spec)
  | .dumpPaths v limit sink => outcome (Session.dumpPaths v limit sink)
  | .refresh records => fun s => (none, s.refresh records)

end Call

namespace Session

def run (s : Session) : List Call → Trace × Session
  | [] => ([], s)
  | call :: rest =>
    let (failure, next) := call.perform s
    let (trace, last) := next.run rest
    ((call, failure) :: trace, last)

theorem calls_of_run (s : Session) (calls : List Call) : (s.run calls).1.map Prod.fst = calls := by
  induction calls generalizing s with
  | nil => rfl
  | cons call rest ih => exact congrArg (call :: ·) (ih _)

structure Counts (s last : Session) (operation : Operation) (items : Nat)
    (failure : Option QueryError) : Prop where
  engine : last.engine = s.engine
  metrics : last.metrics =
    if s.engine.settings.metrics then s.metrics.record operation items failure else s.metrics

theorem counts_count {α : Type} (s : Session) (operation : Operation) (items : Nat)
    (result : Except QueryError α) :
    s.Counts (s.count operation items result) operation items (failure? result) := by
  unfold count
  split
  next enabled => exact ⟨rfl, (if_pos enabled).symm⟩
  next disabled => exact ⟨rfl, (if_neg disabled).symm⟩

theorem Counts.index {s last : Session} {operation : Operation} {items : Nat}
    {failure : Option QueryError} (counts : s.Counts last operation items failure) (v : View) :
    s.Counts (last.index v) operation items failure := by
  unfold Session.index
  split
  next => exact counts
  next =>
    split
    next => exact counts
    next => exact ⟨counts.engine, counts.metrics⟩

theorem Counts.hand {s last : Session} {operation : Operation} {items : Nat}
    {result : Except QueryError Subset} (counts : s.Counts last operation items (failure? result))
    (v : View) (same : Bool) :
    s.Counts (last.hand v same result).2 operation items
      (failure? (last.hand v same result).1) := by
  cases result with
  | error e => exact counts
  | ok subset =>
    cases same with
    | true => exact counts
    | false => exact ⟨counts.engine, counts.metrics⟩

end Session

theorem Call.perform_counts (call : Call) (s : Session) {operation : Operation}
    (observed : call.operation? = some operation) :
    s.Counts (call.perform s).2 operation call.items (call.perform s).1 := by
  cases call with
  | refresh => cases observed
  | combinedFilter v fields specs =>
    obtain rfl := Option.some.inj observed
    have counted := s.counts_count .combinedFilter v.subset.size
      (s.engine.combinedFilter v.subset fields specs)
    simp only [perform, outcome, Session.combinedFilter]
    split
    next => exact counted.hand v _
    next => exact (counted.index v).hand v _
  | findFilter v spec =>
    obtain rfl := Option.some.inj observed
    have counted := s.counts_count .findFilter v.subset.size (s.engine.findFilter v.subset spec)
    simp only [perform, outcome, Session.findFilter]
    exact counted.hand v (Text.trim spec = "")
  | sum | histogram | prune | pruneVectors | dumpPaths =>
    obtain rfl := Option.some.inj observed
    exact s.counts_count _ _ _

def Trace.itemsOf (operation : Operation) (trace : Trace) : Nat :=
  trace.foldr (fun (call, _) rest =>
    (if call.operation? = some operation then call.items else 0) + rest) 0

theorem Trace.itemsOf_snoc (operation : Operation) (trace : Trace)
    (last : Call × Option QueryError) :
    itemsOf operation (trace ++ [last]) = itemsOf operation trace +
      if last.1.operation? = some operation then last.1.items else 0 := by
  induction trace with
  | nil => simp [itemsOf]
  | cons first rest ih =>
    simp only [itemsOf, List.cons_append, List.foldr_cons] at ih ⊢
    rw [ih, Nat.add_assoc]

namespace Metrics

structure Accounts (m : Metrics) (trace : Trace) : Prop where
  calls : ∀ operation, m.succeeded.count operation + m.failed.count operation =
    trace.countP fun (call, _) => call.operation? = some operation
  failures : ∀ operation, m.failed.count operation =
    m.errors.total fun (_, failed) => failed = operation
  kinds : ∀ kind operation, m.errors.count (kind, operation) =
    trace.countP fun (call, failure) =>
      call.operation? = some operation ∧ failure.map QueryError.label = some kind
  scanned : ∀ operation, m.scanned.count operation = trace.itemsOf operation

theorem observe_zero_accounts (snapshot : Snapshot) : (zero.observe snapshot).Accounts [] :=
  ⟨fun _ => rfl, fun _ => rfl, fun _ _ => rfl, fun _ => rfl⟩

variable {m : Metrics} {trace : Trace} {call : Call}

@[simp] theorem snapshotRecords_record (m : Metrics) (operation : Operation) (items : Nat)
    (failure : Option QueryError) :
    (m.record operation items failure).snapshotRecords = m.snapshotRecords := by
  cases failure <;> rfl

@[simp] theorem snapshotGeneration_record (m : Metrics) (operation : Operation) (items : Nat)
    (failure : Option QueryError) :
    (m.record operation items failure).snapshotGeneration = m.snapshotGeneration := by
  cases failure <;> rfl

theorem Accounts.observe (accounts : m.Accounts trace) (unobserved : call.operation? = none)
    (failure : Option QueryError) (snapshot : Snapshot) :
    (m.observe snapshot).Accounts (trace ++ [(call, failure)]) where
  calls operation := (accounts.calls operation).trans (by simp [unobserved])
  failures := accounts.failures
  kinds kind operation := (accounts.kinds kind operation).trans (by simp [unobserved])
  scanned operation := (accounts.scanned operation).trans (by
    simp [Trace.itemsOf_snoc, unobserved])

theorem Accounts.record (accounts : m.Accounts trace) {operation : Operation}
    (observed : call.operation? = some operation) (failure : Option QueryError) :
    (m.record operation call.items failure).Accounts (trace ++ [(call, failure)]) where
  calls other := by
    rw [List.countP_append, ← accounts.calls other]
    cases failure <;> simp [Metrics.record, observed, eq_comm (a := operation)] <;> omega
  failures other := by
    cases failure <;>
      simp [Metrics.record, accounts.failures other, eq_comm (a := operation)]
  kinds kind other := by
    rw [List.countP_append, ← accounts.kinds kind other]
    cases failure <;>
      simp [Metrics.record, observed, eq_comm (a := operation), eq_comm (a := kind), and_comm]
  scanned other := by
    rw [Trace.itemsOf_snoc, ← accounts.scanned other]
    cases failure <;> simp [Metrics.record, observed, eq_comm (a := operation)]

end Metrics

theorem Call.refresh_of_unobserved {call : Call} (unobserved : call.operation? = none) :
    ∃ records, call = .refresh records := by
  cases call with
  | refresh records => exact ⟨records, rfl⟩
  | _ => cases unobserved

theorem Call.settings_perform (call : Call) (s : Session) :
    (call.perform s).2.engine.settings = s.engine.settings := by
  cases observed : call.operation? with
  | none =>
    obtain ⟨records, rfl⟩ := refresh_of_unobserved observed
    rfl
  | some operation => rw [(call.perform_counts s observed).engine]

namespace Session

structure Accounts (s : Session) (trace : Trace) : Prop where
  counters : s.metrics.Accounts trace
  records : s.metrics.snapshotRecords = s.engine.snapshot.size
  generation : s.metrics.snapshotGeneration = s.engine.snapshot.generation

theorem Accounts.perform {s : Session} {trace : Trace} (accounts : s.Accounts trace)
    (enabled : s.engine.settings.metrics = true) (call : Call) :
    (call.perform s).2.Accounts (trace ++ [(call, (call.perform s).1)]) := by
  cases observed : call.operation? with
  | none =>
    obtain ⟨given, rfl⟩ := Call.refresh_of_unobserved observed
    have shown : (s.refresh given).metrics = s.metrics.observe (s.refresh given).engine.snapshot :=
      if_pos enabled
    refine ⟨?_, congrArg Metrics.snapshotRecords shown, congrArg Metrics.snapshotGeneration shown⟩
    rw [Call.perform, shown]
    exact accounts.counters.observe observed _ _
  | some operation =>
    obtain ⟨engine, metrics⟩ := call.perform_counts s observed
    rw [if_pos enabled] at metrics
    -- What a call adds are counts, so the records stay those that are there.
    refine ⟨?_, ?_, ?_⟩
    · rw [metrics]
      exact accounts.counters.record observed _
    · rw [metrics, engine, Metrics.snapshotRecords_record, accounts.records]
    · rw [metrics, engine, Metrics.snapshotGeneration_record, accounts.generation]

theorem Accounts.run {s : Session} {trace : Trace} (accounts : s.Accounts trace)
    (enabled : s.engine.settings.metrics = true) (calls : List Call) :
    (s.run calls).2.Accounts (trace ++ (s.run calls).1) := by
  -- The calls before are part of the trace, so that the next call has its place at the end of it.
  induction calls generalizing s trace with
  | nil => simpa [Session.run] using accounts
  | cons call rest ih =>
    have next := ih (accounts.perform enabled call)
      ((congrArg Settings.metrics (call.settings_perform s)).trans enabled)
    rwa [List.append_assoc] at next

theorem metrics_perform {s : Session} (disabled : s.engine.settings.metrics = false)
    (call : Call) : (call.perform s).2.metrics = s.metrics := by
  cases observed : call.operation? with
  | none =>
    obtain ⟨given, rfl⟩ := Call.refresh_of_unobserved observed
    exact if_neg (by simp [Engine.refresh, Engine.replace, disabled])
  | some operation =>
    rw [(call.perform_counts s observed).metrics, if_neg (by simp [disabled])]

theorem metrics_run {s : Session} (disabled : s.engine.settings.metrics = false)
    (calls : List Call) : (s.run calls).2.metrics = s.metrics := by
  induction calls generalizing s with
  | nil => rfl
  | cons call rest ih =>
    have next := ih ((congrArg Settings.metrics (call.settings_perform s)).trans disabled)
    exact next.trans (metrics_perform disabled call)

theorem accounts_of_build {settings : Settings} {release : Release} {now : Int64}
    {records : List Record} {s : Session} (built : build settings release now records = .ok s) :
    s.engine.settings = settings ∧ (settings.metrics = true → s.Accounts []) := by
  unfold build Engine.build at built
  cases validated : settings.validate with
  | error e => simp [validated, bind, Except.bind] at built
  | ok =>
    simp only [validated, bind, Except.bind, pure, Except.pure, Except.ok.injEq] at built
    subst built
    refine ⟨rfl, fun enabled => ?_⟩
    simp only [enabled, if_true]
    exact ⟨Metrics.observe_zero_accounts _, rfl, rfl⟩

theorem metrics_account (settings : Settings) (release : Release) (now : Int64)
    (records : List Record) (s : Session) (built : build settings release now records = .ok s)
    (calls : List Call) :
    (s.run calls).1.map Prod.fst = calls ∧ Function.Injective Operation.name ∧
      (settings.metrics = true → (s.run calls).2.Accounts (s.run calls).1) ∧
      ∀ other : Session, other.engine.settings.metrics = false →
        (other.run calls).2.metrics = other.metrics := by
  obtain ⟨same, start⟩ := accounts_of_build built
  refine ⟨s.calls_of_run calls, Operation.name_injective, fun enabled => ?_,
    fun other disabled => metrics_run disabled calls⟩
  exact (start enabled).run (same ▸ enabled) calls

theorem metrics_account_of_failed_sum :
    ∃ s, build {} .standard 0 [.file 1 "/a" (.of 5 1 1)] = .ok s ∧
      let v : View := ⟨.made 0, ⟨[.file 1 "/a" (.of 5 1 1), .file 1 "/a" (.of 5 1 1)]⟩⟩
      let last := (s.run [.sum v "size", .refresh [], .findFilter v "", .sum v "count"]).2.metrics
      last.succeeded.count .sum + last.failed.count .sum = 2 ∧ last.failed.count .sum = 1 ∧
        last.errors.count ("unknown_aggregation", .sum) = 1 ∧ last.scanned.count .sum = 4 ∧
        last.snapshotRecords = 0 ∧ last.snapshotGeneration = 1 := by
  have built : build {} .standard 0 [.file 1 "/a" (.of 5 1 1)] = .ok _ := rfl
  refine ⟨_, built, ?_⟩
  intro v last
  obtain ⟨-, -, accounts, -⟩ := metrics_account {} .standard 0 [.file 1 "/a" (.of 5 1 1)] _ built
    [.sum v "size", .refresh [], .findFilter v "", .sum v "count"]
  obtain ⟨⟨calls, failures, kinds, scanned⟩, records, generation⟩ := accounts rfl
  exact ⟨(calls .sum).trans rfl, (failures .sum).trans rfl, (kinds _ .sum).trans rfl,
    (scanned .sum).trans rfl, records.trans rfl, generation.trans rfl⟩

end Session

end Census
