import Mathlib.Data.List.Perm.Basic
import Census.Proofs.Entries
import Census.Proofs.Figures

set_option autoImplicit false

namespace Census

section Shares

variable (label : Record → Option String)

theorem filter_left_out_cons {key : String} {keys : List String} (records : List Record) :
    (records.filter fun r => (label r).all (· ∉ keys)).filter (fun r => !decide (label r = some key)) =
      records.filter fun r => (label r).all (· ∉ key :: keys) := by
  rw [List.filter_filter]
  apply List.filter_congr
  intro r _
  cases label r with
  | none => rfl
  | some l => simp [Option.all_some]

theorem filter_left_out_of_fresh {key : String} {keys : List String} (fresh : key ∉ keys)
    (records : List Record) :
    (records.filter fun r => (label r).all (· ∉ keys)).filter (fun r => decide (label r = some key)) =
      records.filter fun r => label r = some key := by
  rw [List.filter_filter]
  apply List.filter_congr
  intro r _
  cases here : label r with
  | none => simp
  | some l =>
    by_cases same : l = key
    · simp [same, fresh]
    · simp [same]

theorem shares_perm {keys : List String} (distinct : keys.Nodup) (records : List Record) :
    ((keys.flatMap fun key => records.filter fun r => label r = some key) ++
      records.filter fun r => (label r).all (· ∉ keys)).Perm records := by
  induction keys with
  | nil => simp
  | cons key rest ih =>
    obtain ⟨fresh, later⟩ := List.nodup_cons.mp distinct
    -- What the other labels leave is what this one takes and what is left after it.
    have parted := List.filter_append_perm (fun r => decide (label r = some key))
      (records.filter fun r => (label r).all (· ∉ rest))
    rw [filter_left_out_of_fresh label fresh, filter_left_out_cons] at parted
    rw [List.flatMap_cons, List.append_assoc]
    have moved := List.perm_append_comm_assoc
      (records.filter fun r => label r = some key)
      (rest.flatMap fun key => records.filter fun r => label r = some key)
      (records.filter fun r => (label r).all (· ∉ key :: rest))
    exact moved.trans ((parted.append_left _).trans (ih later))

theorem length_shares {keys : List String} (distinct : keys.Nodup) (records : List Record) :
    (keys.map fun key => records.countP fun r => label r = some key).foldr (· + ·) 0 +
      records.countP (fun r => (label r).all (· ∉ keys)) = records.length := by
  have whole := (shares_perm label distinct records).length_eq
  rw [List.length_append, List.length_flatMap, List.sum_eq_foldr] at whole
  simpa only [List.countP_eq_length_filter] using whole

end Shares

namespace Bucketing

structure Discrete.Places (d : Discrete) (keys : List String) (label : Record → Option String)
    (reduction : Reduction) (records : List Record) : Prop where
  labels : d.histogram.labels = keys
  distinct : keys.Nodup
  values : ∀ key ∈ keys, d.histogram.get? key =
    some (figure reduction.mode ((records.filter fun r => label r = some key).map reduction.value))
  unmapped : d.unmappedRecords = records.countP fun r => (label r).all (· ∉ keys)
  unmapped_value : d.unmappedValue =
    figure reduction.mode ((records.filter fun r => (label r).all (· ∉ keys)).map reduction.value)
  sizes : (keys.map fun key => records.countP fun r => label r = some key).foldr (· + ·) 0 +
    d.unmappedRecords = records.length

variable {keys : List String} {label : Record → Option String} {reduction : Reduction}
  {records : List Record}

theorem Discrete.under_places (distinct : keys.Nodup) :
    (Discrete.under keys label reduction records).Places keys label reduction records where
  labels := Histogram.labels_keyed keys _
  distinct := distinct
  values key member := by
    rw [Discrete.under, Histogram.get?_keyed, if_pos member]
  unmapped := rfl
  unmapped_value := rfl
  sizes := length_shares label distinct records

theorem Discrete.Places.value_of_none_unmapped {d : Discrete}
    (places : d.Places keys label reduction records) (none_unmapped : d.unmappedRecords = 0) :
    d.unmappedValue = 0 := by
  rw [places.unmapped, List.countP_eq_length_filter, List.length_eq_zero_iff] at none_unmapped
  rw [places.unmapped_value, none_unmapped, List.map_nil, figure_nil]

theorem discrete_places_each_record (fanout : Fanout) (s : Subset)
    (label : Record → Option String) (reduction : Reduction) (order : KeyOrder)
    (sequential : fanout.spreads s.size = false) :
    ∃ d, discrete fanout s label reduction order = .ok d ∧
      d.Places (KeyTable.discover (s.records.map label) order).keys.toList label reduction
        s.records ∧
      (∀ key, key ∈ d.histogram.labels ↔
        (∃ r ∈ s.records, label r = some key) ∧ ∀ list, order = .canonical list → key ∈ list) ∧
      (d.unmappedRecords = 0 → d.unmappedValue = 0) ∧
      (s.records = [] → d = ⟨.empty, 0, 0⟩) := by
  have whole : fanout.halves s.records = .run s.records := Fanout.halves_of_sequential sequential
  have found := discreteOver_under (reducesInOrder_run s.records reduction) label order
  have places : (Discrete.under _ label reduction s.records).Places _ label reduction s.records :=
    Discrete.under_places (KeyTable.discover_consistent (s.records.map label) order).distinct
  refine ⟨_, by rw [discrete, whole]; exact found, places, ?_, places.value_of_none_unmapped, ?_⟩
  · intro key
    rw [places.labels, KeyTable.mem_discover, List.mem_map]
  · intro none_given
    rw [discreteOver, if_pos (by simpa [Cut.toList] using none_given)] at found
    exact (Except.ok.inj found).symm

/-- Two files and a directory, of which one has the name of what has no name. -/
def unnamed : Subset where
  records :=
    [{ Record.file 1 "/a" (.of 7 1 1) with user := "NO_MAPPING" },
      .directory 2 "/b" {},
      .file 3 "/c" (.of (-5) 1 1)]

theorem discrete_places_each_record_of_unnamed :
    Fanout.sequential.spreads unnamed.size = false ∧
      ∃ d, discrete .sequential unnamed (fun r => r.file?.map fun _ => r.user)
          ⟨some .max, Record.fileSize⟩ .discovery = .ok d ∧
        d.histogram.labels = ["NO_MAPPING", ""] ∧ d.histogram.get? "" = some (-5) ∧
        d.unmappedRecords = 1 ∧ d.unmappedValue = 0 := by
  have sequential : Fanout.sequential.spreads unnamed.size = false := by decide
  obtain ⟨d, found, places, -⟩ := discrete_places_each_record .sequential unnamed
    (fun r => r.file?.map fun _ => r.user) ⟨some .max, Record.fileSize⟩ .discovery sequential
  have keys : (KeyTable.discover (unnamed.records.map fun r => r.file?.map fun _ => r.user)
      .discovery).keys.toList = ["NO_MAPPING", ""] := by
    rw [KeyTable.keys_discover]
    decide
  rw [keys] at places
  refine ⟨sequential, d, found, places.labels, ?_, ?_, ?_⟩
  · exact (places.values "" (by decide)).trans (by decide)
  · exact places.unmapped.trans (by decide)
  · exact places.unmapped_value.trans (by decide)

end Bucketing

end Census
