import Mathlib.Data.List.Basic
import Mathlib.Data.List.Induction
import Census.Subset

set_option autoImplicit false

namespace Census

def FirstAt (records : List Record) (i : Nat) (r : Record) : Prop :=
  records[i]? = some r ∧ ∀ j < i, ∀ q, records[j]? = some q → q.id ≠ r.id

def Seen (records : List Record) (id : Int64) : Prop :=
  ∃ q ∈ records, q.id = id

theorem FirstAt.lt {records : List Record} {i : Nat} {r : Record} (h : FirstAt records i r) :
    i < records.length :=
  (List.getElem?_eq_some_iff.mp h.1).1

theorem FirstAt.snoc_iff_of_lt {records : List Record} {last r : Record} {i : Nat}
    (before : i < records.length) :
    FirstAt (records ++ [last]) i r ↔ FirstAt records i r := by
  have earlier : ∀ j ≤ i, (records ++ [last])[j]? = records[j]? := fun j _ =>
    List.getElem?_append_left (by omega)
  rw [FirstAt, FirstAt, earlier i (Nat.le_refl i)]
  constructor
  · intro ⟨here, fresh⟩
    exact ⟨here, fun j lower q found => fresh j lower q (by rwa [earlier j (by omega)])⟩
  · intro ⟨here, fresh⟩
    exact ⟨here, fun j lower q found => fresh j lower q (by rwa [← earlier j (by omega)])⟩

theorem FirstAt.snoc_last_iff {records : List Record} {last r : Record} :
    FirstAt (records ++ [last]) records.length r ↔ r = last ∧ ¬ Seen records last.id := by
  constructor
  · intro ⟨here, fresh⟩
    have same_record : last = r := by simpa using here
    subst same_record
    refine ⟨rfl, ?_⟩
    intro ⟨q, member, same⟩
    obtain ⟨j, lower, rfl⟩ := List.mem_iff_getElem.mp member
    exact fresh j lower _ (by rw [List.getElem?_append_left lower]; simp) same
  · intro ⟨same_record, unseen⟩
    subst same_record
    refine ⟨by simp, ?_⟩
    intro j lower q found same
    rw [List.getElem?_append_left lower] at found
    exact unseen ⟨q, List.mem_of_getElem? found, same⟩

theorem FirstAt.snoc_iff {records : List Record} {last r : Record} {i : Nat} :
    FirstAt (records ++ [last]) i r ↔
      FirstAt records i r ∨ (i = records.length ∧ r = last ∧ ¬ Seen records last.id) := by
  rcases Nat.lt_trichotomy i records.length with before | here | after
  · rw [FirstAt.snoc_iff_of_lt before]
    have apart : i ≠ records.length := by omega
    simp [apart]
  · subst here
    have none_there : ¬ FirstAt records records.length r := fun h => absurd h.lt (by omega)
    simp [FirstAt.snoc_last_iff, none_there]
  · have outside : ∀ xs : List Record, xs.length ≤ i → ¬ FirstAt xs i r := fun xs short h =>
      absurd h.lt (by omega)
    have past : i ≠ records.length := by omega
    simp [outside records (by omega), outside (records ++ [last]) (by simp; omega), past]

theorem FirstAt.exists_of_seen {records : List Record} {id : Int64} (seen : Seen records id) :
    ∃ i r, r.id = id ∧ FirstAt records i r := by
  obtain ⟨q, member, rfl⟩ := seen
  have holds : records.any (fun r => decide (r.id = q.id)) = true :=
    List.any_eq_true.mpr ⟨q, member, by simp⟩
  obtain ⟨i, found⟩ : ∃ i, records.findIdx? (fun r => decide (r.id = q.id)) = some i := by
    rw [← Option.isSome_iff_exists, List.findIdx?_isSome, holds]
  obtain ⟨lower, same, fresh⟩ := List.findIdx?_eq_some_iff_getElem.mp found
  refine ⟨i, records[i], by simpa using same, List.getElem?_eq_getElem lower, ?_⟩
  intro j earlier p here equal
  obtain ⟨_, rfl⟩ := List.getElem?_eq_some_iff.mp here
  exact fresh j earlier (by simpa [equal] using same)

theorem FirstAt.iff_of_nodup {records : List Record} (distinct : (records.map (·.id)).Nodup)
    {i : Nat} {r : Record} : FirstAt records i r ↔ records[i]? = some r := by
  constructor
  · intro first
    exact first.1
  · intro here
    refine ⟨here, ?_⟩
    intro j earlier q there same
    have ids : (records.map (·.id))[j]? = (records.map (·.id))[i]? := by
      rw [List.getElem?_map, List.getElem?_map, here, there, Option.map_some, same, Option.map_some]
    have placed : j < (records.map (·.id)).length := by
      rw [List.length_map]
      exact (List.getElem?_eq_some_iff.mp there).1
    have equal := (List.getElem?_inj placed distinct).mp ids
    omega

namespace KeyIndex

structure Exact (index : KeyIndex) (records : List Record) : Prop where
  positions : ∀ id i, index.positions[id]? = some i ↔ ∃ r, r.id = id ∧ FirstAt records i r
  ascending : index.unique.toList.Pairwise (· < ·)
  unique : ∀ i, i ∈ index.unique.toList ↔ ∃ r, FirstAt records i r

theorem Exact.contains_iff {index : KeyIndex} {records : List Record} (exact : index.Exact records)
    (id : Int64) : index.positions.contains id = true ↔ Seen records id := by
  rw [Std.HashMap.contains_eq_isSome_getElem?, Option.isSome_iff_exists]
  constructor
  · intro ⟨i, found⟩
    obtain ⟨r, same, first⟩ := (exact.positions id i).mp found
    exact ⟨r, List.mem_of_getElem? first.1, same⟩
  · intro seen
    obtain ⟨i, r, same, first⟩ := FirstAt.exists_of_seen seen
    exact ⟨i, (exact.positions id i).mpr ⟨r, same, first⟩⟩

theorem empty_exact : empty.Exact [] where
  positions := by simp [empty, FirstAt]
  ascending := by simp [empty]
  unique := by simp [empty, FirstAt]

theorem Exact.enter_of_seen {index : KeyIndex} {records : List Record}
    (exact : index.Exact records) {id : Int64} (seen : Seen records id) (i : Nat) :
    index.enter i id = index :=
  if_pos ((exact.contains_iff id).mpr seen)

theorem Exact.enter_of_not_seen {index : KeyIndex} {records : List Record}
    (exact : index.Exact records) {id : Int64} (unseen : ¬ Seen records id) (i : Nat) :
    index.enter i id = ⟨index.positions.insert id i, index.unique.push i⟩ :=
  if_neg (mt (exact.contains_iff id).mp unseen)

theorem Exact.positions_insert {index : KeyIndex} {records : List Record}
    (exact : index.Exact records) {last : Record} (unseen : ¬ Seen records last.id) (id : Int64)
    (i : Nat) :
    (index.positions.insert last.id records.length)[id]? = some i ↔
      ∃ r, r.id = id ∧ FirstAt (records ++ [last]) i r := by
  simp only [Std.HashMap.getElem?_insert, FirstAt.snoc_iff, beq_iff_eq]
  by_cases same : last.id = id
  · subst same
    have nowhere : ∀ r, r.id = last.id → ¬ FirstAt records i r := fun r equal first =>
      unseen ⟨r, List.mem_of_getElem? first.1, equal⟩
    rw [if_pos rfl, Option.some.injEq]
    constructor
    · intro here
      exact ⟨last, rfl, .inr ⟨here.symm, rfl, unseen⟩⟩
    · intro ⟨r, equal, place⟩
      rcases place with first | ⟨here, -, -⟩
      · exact absurd first (nowhere r equal)
      · exact here.symm
  · rw [if_neg same, exact.positions id i]
    constructor
    · intro ⟨r, equal, first⟩
      exact ⟨r, equal, .inl first⟩
    · intro ⟨r, equal, place⟩
      rcases place with first | ⟨-, rfl, -⟩
      · exact ⟨r, equal, first⟩
      · exact absurd equal same

theorem enter_exact {index : KeyIndex} {records : List Record} (exact : index.Exact records)
    (last : Record) : (index.enter records.length last.id).Exact (records ++ [last]) := by
  by_cases seen : Seen records last.id
  · rw [exact.enter_of_seen seen]
    constructor
    · intro id i
      simp [exact.positions id i, FirstAt.snoc_iff, seen]
    · exact exact.ascending
    · intro i
      simp [exact.unique i, FirstAt.snoc_iff, seen]
  · rw [exact.enter_of_not_seen seen]
    constructor
    · exact exact.positions_insert seen
    · -- The new position is above all others, since those lie within the records before.
      simp only [Array.toList_push, List.pairwise_append]
      refine ⟨exact.ascending, by simp, ?_⟩
      intro i member j last_one
      obtain ⟨r, first⟩ := (exact.unique i).mp member
      rw [List.mem_singleton.mp last_one]
      exact first.lt
    · intro i
      simp only [Array.toList_push, List.mem_append, exact.unique i, List.mem_singleton,
        FirstAt.snoc_iff]
      constructor
      · intro place
        rcases place with ⟨r, first⟩ | here
        · exact ⟨r, .inl first⟩
        · exact ⟨last, .inr ⟨here, rfl, seen⟩⟩
      · intro ⟨r, place⟩
        rcases place with first | ⟨here, -, -⟩
        · exact .inl ⟨r, first⟩
        · exact .inr here

theorem build_snoc (records : List Record) (last : Record) :
    build (records ++ [last]) = (build records).enter records.length last.id := by
  simp [build, List.zipIdx_append, List.foldl_append]

theorem build_exact (records : List Record) : (build records).Exact records := by
  induction records using List.reverseRecOn with
  | nil => exact empty_exact
  | append_singleton records last ih =>
    rw [build_snoc]
    exact enter_exact ih last

end KeyIndex

namespace Subset

theorem index_exact (s : Subset) : s.index.Exact s.records :=
  KeyIndex.build_exact s.records

theorem position?_eq_some_iff_of_nodup {s : Subset} (distinct : s.ids.Nodup) {id : Int64}
    {i : Nat} : s.index.position? id = some i ↔ s.ids[i]? = some id := by
  rw [KeyIndex.position?, s.index_exact.positions id i, ids, List.getElem?_map,
    Option.map_eq_some_iff]
  constructor
  · rintro ⟨r, same, first⟩
    exact ⟨r, first.1, same⟩
  · rintro ⟨r, here, same⟩
    exact ⟨r, same, (FirstAt.iff_of_nodup distinct).mpr here⟩

theorem firsts_eq (s : Subset) :
    s.firsts = s.index.unique.toList.filterMap (s.records[·]?) := by
  simp [firsts]

theorem mem_firsts {s : Subset} {r : Record} :
    r ∈ s.firsts ↔ ∃ i, FirstAt s.records i r := by
  have exact := s.index_exact
  rw [firsts_eq, List.mem_filterMap]
  constructor
  · intro ⟨i, member, here⟩
    obtain ⟨q, first⟩ := (exact.unique i).mp member
    have same : q = r := Option.some.inj (first.1.symm.trans here)
    exact ⟨i, same ▸ first⟩
  · intro ⟨i, first⟩
    exact ⟨i, (exact.unique i).mpr ⟨r, first⟩, first.1⟩

theorem exists_first {s : Subset} {id : Int64} (listed : id ∈ s.ids) :
    ∃ r ∈ s.firsts, r.id = id := by
  have ⟨i, r, same, first⟩ := FirstAt.exists_of_seen (List.mem_map.mp listed)
  exact ⟨r, mem_firsts.mpr ⟨i, first⟩, same⟩

theorem firsts_nil : (mk []).firsts = [] := rfl

theorem standing_snoc (records : List Record) (last : Record) :
    (KeyIndex.build records).unique.toList.filterMap ((records ++ [last])[·]?) =
      (mk records).firsts := by
  rw [firsts_eq]
  apply List.filterMap_congr
  intro i member
  obtain ⟨r, first⟩ := ((KeyIndex.build_exact records).unique i).mp member
  exact List.getElem?_append_left first.lt

theorem firsts_snoc_of_seen {records : List Record} {last : Record}
    (seen : Seen records last.id) : (mk (records ++ [last])).firsts = (mk records).firsts := by
  rw [firsts_eq, index, KeyIndex.build_snoc,
    (KeyIndex.build_exact records).enter_of_seen seen, standing_snoc]

theorem firsts_snoc_of_not_seen {records : List Record} {last : Record}
    (unseen : ¬ Seen records last.id) :
    (mk (records ++ [last])).firsts = (mk records).firsts ++ [last] := by
  rw [firsts_eq, index, KeyIndex.build_snoc,
    (KeyIndex.build_exact records).enter_of_not_seen unseen, Array.toList_push,
    List.filterMap_append, standing_snoc]
  simp

theorem firsts_sublist (s : Subset) : s.firsts.Sublist s.records := by
  obtain ⟨records⟩ := s
  induction records using List.reverseRecOn with
  | nil => simp [firsts_nil]
  | append_singleton records last ih =>
    by_cases seen : Seen records last.id
    · rw [firsts_snoc_of_seen seen]
      exact ih.trans (List.sublist_append_left _ _)
    · rw [firsts_snoc_of_not_seen seen]
      exact List.Sublist.append_right ih [last]

theorem nodup_ids_firsts (s : Subset) : (s.firsts.map (·.id)).Nodup := by
  obtain ⟨records⟩ := s
  induction records using List.reverseRecOn with
  | nil => simp [firsts_nil]
  | append_singleton records last ih =>
    by_cases seen : Seen records last.id
    · rwa [firsts_snoc_of_seen seen]
    · rw [firsts_snoc_of_not_seen seen, List.map_append, List.nodup_append]
      refine ⟨ih, by simp, ?_⟩
      intro id earlier other last_one both
      obtain ⟨r, member, same⟩ := List.mem_map.mp earlier
      have equal : id = last.id := both.trans (by simpa using last_one)
      exact seen ⟨r, (firsts_sublist ⟨records⟩).subset member, same.trans equal⟩

theorem firsts_of_nodup {s : Subset} (distinct : s.ids.Nodup) : s.firsts = s.records := by
  obtain ⟨records⟩ := s
  induction records using List.reverseRecOn with
  | nil => exact firsts_nil
  | append_singleton records last ih =>
    simp only [ids, List.map_append, List.nodup_append] at distinct ih
    have unseen : ¬ Seen records last.id := by
      intro ⟨q, member, same⟩
      exact distinct.2.2 q.id (List.mem_map_of_mem member) last.id (by simp) same
    rw [firsts_snoc_of_not_seen unseen, ih distinct.1]

theorem length_firsts (s : Subset) : s.firsts.length = s.index.size := by
  have exact := s.index_exact
  rw [firsts_eq, List.filterMap_length_eq_length.mpr, KeyIndex.size, Array.length_toList]
  intro i member
  obtain ⟨r, first⟩ := (exact.unique i).mp member
  simp [first.1]

theorem firsts_of_size_eq {s : Subset} (full : s.index.size = s.records.length) :
    s.firsts = s.records :=
  s.firsts_sublist.eq_of_length (by rw [length_firsts, full])

end Subset

end Census
