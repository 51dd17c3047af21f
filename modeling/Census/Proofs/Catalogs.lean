import Census.Proofs.Gaps
import Census.Proofs.Language

set_option autoImplicit false

namespace Census

theorem lookup_eq_none_iff {α : Type} {table : List (String × α)} {name : String} :
    table.lookup name = none ↔ name ∉ table.map Prod.fst := by
  refine ⟨not_mem_names_of_lookup, fun unlisted => ?_⟩
  cases found : table.lookup name with
  | none => rfl
  | some value => exact absurd (mem_names_of_lookup found) unlisted

theorem find?_eq_lookup {α : Type} (name : α → String) (all : List α) (sought : String) :
    all.find? (name · = sought) = (all.map fun a => (name a, a)).lookup sought := by
  induction all with
  | nil => rfl
  | cons a rest ih =>
    rw [List.map_cons, List.lookup_cons, List.find?_cons]
    by_cases same : name a = sought
    · simp [same]
    · simp [same, beq_eq_false_iff_ne.mpr (Ne.symm same), ih]

structure InStep {α : Type} (byName? : String → Option α) (written : List String)
    (table : List (String × α)) : Prop where
  reads : ∀ name, byName? name = table.lookup name
  lists : written = table.map Prod.fst

theorem InStep.of_rows {α : Type} {byName? : String → Option α} {written : List String}
    {table : List (String × α)} (rows : ∀ row ∈ table, byName? row.1 = some row.2)
    (others : ∀ name, name ∉ written → byName? name = none)
    (lists : written = table.map Prod.fst) : InStep byName? written table where
  reads name := by
    cases found : table.lookup name with
    | some value =>
      obtain ⟨before, after, shape, -⟩ := List.lookup_eq_some_iff.mp found
      exact rows (name, value) (by simp [shape])
    | none => exact others name (lists ▸ lookup_eq_none_iff.mp found)
  lists := lists

namespace NamedSet

def byName? : String → Option NamedSet
  | "all" => some .all
  | "files" => some .files
  | "dirs" => some .dirs
  | _ => none

def written : List String :=
  ["all", "files", "dirs"]

theorem inStep : InStep byName? written table := by
  refine .of_rows (by decide) (fun name unlisted => ?_) rfl
  unfold byName?
  split <;> simp_all [written]

end NamedSet

namespace LongOp

def byName? : String → Option LongOp
  | "eq" => some (.compare .eq)
  | "notEq" => some (.compare .notEq)
  | "gt" => some (.compare .gt)
  | "gte" => some (.compare .gte)
  | "lt" => some (.compare .lt)
  | "lte" => some (.compare .lte)
  | "minutesAgo" => some (.within .minutes)
  | "hoursAgo" => some (.within .hours)
  | "daysAgo" => some (.within .days)
  | "monthsAgo" => some (.within .months)
  | "yearsAgo" => some (.within .years)
  | "olderThanMinutes" => some (.olderThan .minutes)
  | "olderThanHours" => some (.olderThan .hours)
  | "olderThanDays" => some (.olderThan .days)
  | "olderThanMonths" => some (.olderThan .months)
  | "olderThanYears" => some (.olderThan .years)
  | _ => none

def written : List String :=
  ["eq", "notEq", "gt", "gte", "lt", "lte", "minutesAgo", "hoursAgo", "daysAgo", "monthsAgo",
    "yearsAgo", "olderThanMinutes", "olderThanHours", "olderThanDays", "olderThanMonths",
    "olderThanYears"]

theorem inStep : InStep byName? written table := by
  refine .of_rows (by decide) (fun name unlisted => ?_) rfl
  unfold byName?
  split <;> simp_all [written]

end LongOp

namespace TextOp

def byName? : String → Option TextOp
  | "eq" => some ⟨.eq, false⟩
  | "notEq" => some ⟨.eq, true⟩
  | "startsWith" => some ⟨.startsWith, false⟩
  | "notStartsWith" => some ⟨.startsWith, true⟩
  | "endsWith" => some ⟨.endsWith, false⟩
  | "notEndsWith" => some ⟨.endsWith, true⟩
  | "contains" => some ⟨.contains, false⟩
  | "notContains" => some ⟨.contains, true⟩
  | _ => none

def written : List String :=
  ["eq", "notEq", "startsWith", "notStartsWith", "endsWith", "notEndsWith", "contains",
    "notContains"]

theorem inStep : InStep byName? written table := by
  refine .of_rows (by decide) (fun name unlisted => ?_) rfl
  unfold byName?
  split <;> simp_all [written]

end TextOp

namespace FlagOp

def byName? : String → Option FlagOp
  | "eq" => some ⟨false⟩
  | "notEq" => some ⟨true⟩
  | _ => none

def written : List String :=
  ["eq", "notEq"]

theorem inStep : InStep byName? written table := by
  refine .of_rows (by decide) (fun name unlisted => ?_) rfl
  unfold byName?
  split <;> simp_all [written]

end FlagOp

namespace DateOp

def byName? : String → Option Relation
  | "dateEq" => some .eq
  | "dateNotEq" => some .notEq
  | "dateLt" => some .lt
  | "dateLte" | "dateStart" => some .lte
  | "dateGt" => some .gt
  | "dateGte" | "dateEnd" => some .gte
  | _ => none

def written : List String :=
  ["dateEq", "dateNotEq", "dateLt", "dateLte", "dateStart", "dateGt", "dateGte", "dateEnd"]

theorem inStep : InStep byName? written table := by
  refine .of_rows (by decide) (fun name unlisted => ?_) rfl
  unfold byName?
  split <;> simp_all [written]

end DateOp

namespace Aggregation

def all : List Aggregation :=
  [.count, .fileSize, .diskspace, .blockSize, .numBlocks, .numReplicas, .memory]

def name : Aggregation → String
  | .count => "count"
  | .fileSize => "fileSize"
  | .diskspace => "diskspaceConsumed"
  | .blockSize => "blockSize"
  | .numBlocks => "numBlocks"
  | .numReplicas => "numReplicas"
  | .memory => "memoryConsumed"

def byName? (name : String) : Option Aggregation :=
  all.find? (·.name = name)

theorem inStep : InStep byName? (all.map name) table where
  reads sought := find?_eq_lookup name all sought
  lists := rfl

end Aggregation

namespace FindMode

def byName? : String → Option FindMode
  | "min" => some .min
  | "max" => some .max
  | "avg" => some .avg
  | _ => none

def written : List String :=
  ["min", "max", "avg"]

theorem inStep : InStep byName? written table := by
  refine .of_rows (by decide) (fun name unlisted => ?_) rfl
  unfold byName?
  split <;> simp_all [written]

end FindMode

namespace Extreme

def byName? : String → Option Extreme
  | "max" => some .greatest
  | "min" => some .least
  | _ => none

def written : List String :=
  ["min", "max"]

theorem inStep : InStep byName? written table := by
  refine .of_rows (by decide) (fun name unlisted => ?_) rfl
  unfold byName?
  split <;> simp_all [written]

end Extreme

namespace Attribute

structure Registry where
  byName? : String → Option Attribute
  order : List String

namespace Registry

def empty : Registry where
  byName? _ := none
  order := []

def insert (registry : Registry) (a : Attribute) : Registry where
  byName? := Function.update registry.byName? a.name (some a)
  order := registry.order ++ [a.name]

def ofAttributes (all : List Attribute) : Registry :=
  all.foldl insert empty

theorem insert_inStep {registry : Registry} {table : List (String × Attribute)} {a : Attribute}
    (inStep : InStep registry.byName? registry.order table) (fresh : a.name ∉ table.map Prod.fst) :
    InStep (registry.insert a).byName? (registry.insert a).order (table ++ [(a.name, a)]) where
  reads name := by
    rw [List.lookup_append]
    by_cases same : name = a.name
    · simp [insert, same, lookup_eq_none_iff.mpr fresh]
    · simp [insert, same, inStep.reads name, beq_eq_false_iff_ne.mpr same, List.lookup_cons]
  lists := by simp [insert, inStep.lists]

theorem ofAttributes_inStep {all : List Attribute} (distinct : (all.map name).Nodup) :
    InStep (ofAttributes all).byName? (ofAttributes all).order (all.map fun a => (a.name, a)) := by
  induction all using List.reverseRecOn with
  | nil => exact ⟨fun _ => rfl, rfl⟩
  | append_singleton before a ih =>
    -- The last one registered is not among those before it.
    rw [List.map_append, List.nodup_append] at distinct
    obtain ⟨distinct, -, apart⟩ := distinct
    have fresh : a.name ∉ (before.map fun b => (b.name, b)).map Prod.fst := by
      rw [List.map_map]
      exact fun earlier => apart _ earlier _ (List.mem_singleton.mpr rfl) rfl
    rw [ofAttributes, List.foldl_append, List.map_append]
    exact insert_inStep (ih distinct) fresh

end Registry

end Attribute

/-- Whatever is read by name, the list shown to those who ask for another is that of the names read. -/
structure NamesInStep : Prop where
  sets : InStep NamedSet.byName? NamedSet.written NamedSet.table
  attributes : InStep (Attribute.Registry.ofAttributes Attribute.catalog).byName?
    (Attribute.Registry.ofAttributes Attribute.catalog).order
    (Attribute.catalog.map fun a => (a.name, a))
  long : InStep LongOp.byName? LongOp.written LongOp.table
  text : InStep TextOp.byName? TextOp.written TextOp.table
  flag : InStep FlagOp.byName? FlagOp.written FlagOp.table
  date : InStep DateOp.byName? DateOp.written DateOp.table
  aggregations : InStep Aggregation.byName? (Aggregation.all.map Aggregation.name) Aggregation.table
  modes : InStep FindMode.byName? FindMode.written FindMode.table
  extremes : InStep Extreme.byName? Extreme.written Extreme.table

theorem namesInStep : NamesInStep where
  sets := NamedSet.inStep
  attributes := Attribute.Registry.ofAttributes_inStep Attribute.nodup_names
  long := LongOp.inStep
  text := TextOp.inStep
  flag := FlagOp.inStep
  date := DateOp.inStep
  aggregations := Aggregation.inStep
  modes := FindMode.inStep
  extremes := Extreme.inStep

def catalogs : List (List String) :=
  [NamedSet.names, Attribute.names, LongOp.names, TextOp.names, FlagOp.names, DateOp.names,
    Aggregation.names, FindMode.names, Extreme.names]

theorem segments_catalog {valid : List String} (catalog : valid ∈ catalogs) :
    segments ',' (QueryError.listed valid) = valid := by
  -- No name has a comma or an end to be trimmed, so cutting the list at commas gives it back.
  have visible : ∀ names ∈ catalogs, ∀ name ∈ names,
      name ≠ "" ∧ ',' ∉ name.toList ∧ name.toList.all Text.isVisible = true := by decide +kernel
  refine segments_listed fun name member => ?_
  obtain ⟨given, unmarked, shown⟩ := visible valid catalog name member
  exact ⟨given, Text.trim_of_visible shown, unmarked⟩

theorem ValueKind.operators_mem (kind : ValueKind) : kind.operators ∈ catalogs := by
  cases kind <;> simp [ValueKind.operators, catalogs]

structure Foreign (name : String) (valid : List String) : Prop where
  unlisted : name ∉ valid
  catalog : valid ∈ catalogs

def Catalogued {α : Type} (resolve : String → Except QueryError α) (said : String → QueryError)
    (valid : List String) : Prop :=
  ∀ name fault, resolve name = .error fault ↔ name ∉ valid ∧ fault = said name

theorem catalogued_of_lookup {α : Type} {table : List (String × α)}
    {resolve : String → Except QueryError α} {said : String → QueryError}
    (looks_up : ∀ name, resolve name = (table.lookup name).elim (.error (said name)) .ok) :
    Catalogued resolve said (table.map Prod.fst) := by
  intro name fault
  rw [looks_up]
  cases found : table.lookup name with
  | none => simp [lookup_eq_none_iff.mp found, eq_comm]
  | some a => simp [mem_names_of_lookup found]

theorem NamedSet.catalogued : Catalogued resolve (.unknownSet · names) names :=
  catalogued_of_lookup fun name => by
    unfold resolve
    cases table.lookup name <;> rfl

theorem Aggregation.catalogued : Catalogued resolve (.unknownAggregation · names) names :=
  catalogued_of_lookup fun name => by
    unfold resolve
    cases table.lookup name <;> rfl

theorem FindMode.catalogued : Catalogued resolve (.unknownFindMode · names) names :=
  catalogued_of_lookup fun name => by
    unfold resolve
    cases table.lookup name <;> rfl

theorem Extreme.catalogued : Catalogued resolve (.unknownFindMode · names) names :=
  catalogued_of_lookup fun name => by
    unfold resolve
    cases table.lookup name <;> rfl

theorem Attribute.catalogued : Catalogued resolve (.unresolvedFilter · names) names := by
  intro name fault
  constructor
  · exact resolve_eq_error
  · rintro ⟨unknown, rfl⟩
    cases resolved : resolve name with
    | error e => rw [(resolve_eq_error resolved).2]
    | ok a => exact absurd (resolve_eq_ok_iff.mp resolved ▸ name_mem_names a) unknown

end Census
