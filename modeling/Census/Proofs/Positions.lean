import Mathlib.Data.Finset.Card
import Census.Proofs.Selection

set_option autoImplicit false

namespace Census

theorem FirstAt.exists_iff {records : List Record} {id : Int64} {i : Nat} :
    (∃ r, r.id = id ∧ FirstAt records i r) ↔
      (records.map (·.id))[i]? = some id ∧ ∀ j < i, (records.map (·.id))[j]? ≠ some id := by
  simp only [List.getElem?_map]
  constructor
  · rintro ⟨r, rfl, here, fresh⟩
    refine ⟨by rw [here, Option.map_some], ?_⟩
    intro j lower there
    obtain ⟨q, found, same⟩ := Option.map_eq_some_iff.mp there
    exact fresh j lower q found same
  · rintro ⟨here, fresh⟩
    obtain ⟨r, found, rfl⟩ := Option.map_eq_some_iff.mp here
    refine ⟨r, rfl, found, ?_⟩
    intro j lower q there same
    exact fresh j lower (by rw [there, Option.map_some, same])

namespace KeyIndex

/-- What an index tells of a list of ids: the places where one stands that was not there before,
in their order, and for each id the first place of all that it has. -/
structure Locates (index : KeyIndex) (ids : List Int64) : Prop where
  ascending : index.unique.toList.Pairwise (· < ·)
  inside : ∀ i ∈ index.unique.toList, i < ids.length
  distinct : index.unique.toList.Pairwise fun i j => ids[i]? ≠ ids[j]?
  covering : ∀ id ∈ ids, ∃ i ∈ index.unique.toList, ids[i]? = some id
  smallest : ∀ id i, index.position? id = some i ↔ ids[i]? = some id ∧ ∀ j < i, ids[j]? ≠ some id
  absent : ∀ id, index.position? id = none ↔ id ∉ ids
  inStep : ∀ i, i ∈ index.unique.toList ↔ ∃ id, index.position? id = some i

variable {index : KeyIndex} {records : List Record}

theorem Exact.position?_eq_some_iff (exact : index.Exact records) {id : Int64} {i : Nat} :
    index.position? id = some i ↔
      (records.map (·.id))[i]? = some id ∧ ∀ j < i, (records.map (·.id))[j]? ≠ some id :=
  (exact.positions id i).trans FirstAt.exists_iff

theorem Exact.position?_isSome_iff (exact : index.Exact records) {id : Int64} :
    (index.position? id).isSome = true ↔ id ∈ records.map (·.id) := by
  rw [position?, ← Std.HashMap.contains_eq_isSome_getElem?, exact.contains_iff, List.mem_map]
  rfl

theorem Exact.mem_unique_iff (exact : index.Exact records) {i : Nat} :
    i ∈ index.unique.toList ↔ ∃ id, index.position? id = some i := by
  rw [exact.unique i]
  constructor
  · intro ⟨r, first⟩
    exact ⟨r.id, (exact.positions r.id i).mpr ⟨r, rfl, first⟩⟩
  · intro ⟨id, found⟩
    obtain ⟨r, -, first⟩ := (exact.positions id i).mp found
    exact ⟨r, first⟩

theorem Exact.locates (exact : index.Exact records) : index.Locates (records.map (·.id)) where
  ascending := exact.ascending
  inside i member := by
    obtain ⟨r, first⟩ := (exact.unique i).mp member
    rw [List.length_map]
    exact first.lt
  distinct := by
    -- A later place has an id that stands nowhere before, so not at an earlier place either.
    refine exact.ascending.imp_of_mem ?_
    intro i j _ later lower same
    obtain ⟨id, found⟩ := exact.mem_unique_iff.mp later
    obtain ⟨here, fresh⟩ := exact.position?_eq_some_iff.mp found
    exact fresh i lower (same.trans here)
  covering id listed := by
    obtain ⟨i, found⟩ := Option.isSome_iff_exists.mp (exact.position?_isSome_iff.mpr listed)
    exact ⟨i, exact.mem_unique_iff.mpr ⟨id, found⟩, (exact.position?_eq_some_iff.mp found).1⟩
  smallest _ _ := exact.position?_eq_some_iff
  absent id := by
    rw [← exact.position?_isSome_iff, Option.not_isSome_iff_eq_none]
  inStep _ := exact.mem_unique_iff

end KeyIndex

namespace Subset

variable (s : Subset)

theorem get?_eq_find? (id : Int64) : s.get? id = s.records.find? fun r => r.id = id := by
  have exact := s.index_exact
  rw [get?]
  cases found : s.index.position? id with
  | none =>
    have missing : ¬(s.index.position? id).isSome = true := by simp [found]
    rw [exact.position?_isSome_iff, List.mem_map] at missing
    refine (List.find?_eq_none.mpr ?_).symm
    intro r member same
    exact missing ⟨r, member, of_decide_eq_true same⟩
  | some i =>
    obtain ⟨r, same, first⟩ := (exact.positions id i).mp found
    rw [Option.bind_some, first.1, eq_comm, List.find?_eq_some_iff_getElem]
    refine ⟨decide_eq_true same, i, first.lt, (List.getElem?_eq_some_iff.mp first.1).2, ?_⟩
    intro j lower
    have inside := Nat.lt_trans lower first.lt
    have other := first.2 j lower _ (List.getElem?_eq_getElem inside)
    simpa [same] using other

theorem contains_iff (id : Int64) : s.contains id = true ↔ id ∈ s.ids :=
  s.index_exact.position?_isSome_iff

theorem toFinset_ids_firsts : (s.firsts.map (·.id)).toFinset = s.ids.toFinset := by
  ext id
  rw [List.mem_toFinset, List.mem_toFinset]
  constructor
  · exact fun listed => (s.firsts_sublist.map (·.id)).subset listed
  · intro listed
    exact List.mem_map.mpr (exists_first listed)

theorem size_index_eq_card : s.index.size = s.ids.toFinset.card :=
  calc s.index.size
      = (s.firsts.map (·.id)).length := by rw [List.length_map, length_firsts]
    _ = (s.firsts.map (·.id)).toFinset.card :=
      (List.toFinset_card_of_nodup s.nodup_ids_firsts).symm
    _ = s.ids.toFinset.card := by rw [toFinset_ids_firsts]

theorem firsts_eq_records_iff : s.firsts = s.records ↔ s.ids.Nodup := by
  constructor
  · intro whole
    rw [ids, ← whole]
    exact s.nodup_ids_firsts
  · exact firsts_of_nodup

theorem size_index_eq_size_iff : s.index.size = s.size ↔ s.ids.Nodup := by
  rw [← firsts_eq_records_iff]
  constructor
  · exact firsts_of_size_eq
  · intro whole
    rw [← length_firsts, whole, size]

theorem isWhole_iff (p : Predicate) :
    s.isWhole p = true ↔ p.isAlways = true ∧ s.ids.Nodup := by
  rw [isWhole, Bool.and_eq_true, decide_eq_true_iff, ← size_index_eq_size_iff, size]

theorem retrieve_always (release : Release) (fanout : Fanout) :
    s.retrieve release .always fanout = .ok ⟨s.firsts⟩ := by
  rw [retrieve_eq_selected, selected, select_always, Except.map]

theorem retrieve_always_eq_self_iff (release : Release) (fanout : Fanout) :
    s.retrieve release .always fanout = .ok s ↔ s.ids.Nodup := by
  rw [retrieve_always, ← firsts_eq_records_iff, Except.ok.injEq, mk.injEq]

theorem index_locates_ids :
    s.index.Locates s.ids ∧
      (∀ id, s.get? id = s.records.find? fun r => r.id = id) ∧
      (∀ id, s.contains id = true ↔ id ∈ s.ids) ∧
      s.index.size = s.ids.toFinset.card ∧
      (s.index.size = s.size ↔ s.ids.Nodup) ∧
      (∀ p, s.isWhole p = true ↔ p.isAlways = true ∧ s.ids.Nodup) ∧
      ∀ release fanout, s.retrieve release .always fanout = .ok s ↔ s.ids.Nodup :=
  ⟨s.index_exact.locates, s.get?_eq_find?, s.contains_iff, s.size_index_eq_card,
    s.size_index_eq_size_iff, s.isWhole_iff, s.retrieve_always_eq_self_iff⟩

end Subset

end Census
