import Mathlib.Data.List.Nodup
import Census.Engine
import Census.Proofs.Selection

set_option autoImplicit false

namespace Census

namespace Subset

theorem firsts_standing (s : Subset) :
    ∃ places, s.firsts = s.standingAt places ∧ places.Pairwise (· < ·) ∧
      ∀ i, i ∈ places ↔ ∃ r, FirstAt s.records i r :=
  ⟨s.index.unique.toList, s.firsts_eq, s.index_exact.ascending, s.index_exact.unique⟩

end Subset

namespace Snapshot

structure Views (snapshot : Snapshot) (records : List Record) : Prop where
  all : ∃ places, snapshot.all.records = (Subset.mk records).standingAt places ∧
    places.Pairwise (· < ·) ∧ ∀ i, i ∈ places ↔ ∃ r, FirstAt records i r
  files : snapshot.files.records = snapshot.all.records.filter Record.isFile
  dirs : snapshot.dirs.records = snapshot.all.records.filter Record.isDir
  distinct : ∀ set, (snapshot.member set).ids.Nodup
  disjoint : snapshot.files.ids.Disjoint snapshot.dirs.ids
  exhaustive : ∀ r, r ∈ snapshot.all.records ↔
    r ∈ snapshot.files.records ∨ r ∈ snapshot.dirs.records
  sizes : snapshot.files.size + snapshot.dirs.size = snapshot.size
  positions : ∀ set id i, (snapshot.member set).index.position? id = some i ↔
    (snapshot.member set).ids[i]? = some id

section Halves

variable {records : List Record}

theorem length_files_add_dirs (records : List Record) :
    (records.filter Record.isFile).length + (records.filter Record.isDir).length =
      records.length := by
  have others : Record.isDir = fun r => !r.isFile := funext Record.isDir_eq_not_isFile
  rw [others]
  exact (List.length_eq_length_filter_add Record.isFile).symm

theorem files_disjoint_dirs (distinct : (records.map (·.id)).Nodup) :
    ((records.filter Record.isFile).map (·.id)).Disjoint
      ((records.filter Record.isDir).map (·.id)) := by
  intro id file dir
  obtain ⟨r, kept, rfl⟩ := List.mem_map.mp file
  obtain ⟨q, kept', same⟩ := List.mem_map.mp dir
  obtain ⟨member, isFile⟩ := List.mem_filter.mp kept
  obtain ⟨member', isDir⟩ := List.mem_filter.mp kept'
  have equal : q = r := List.inj_on_of_nodup_map distinct member' member same
  rw [equal, Record.isDir_eq_not_isFile, isFile] at isDir
  exact absurd isDir (by simp)

theorem mem_iff_mem_files_or_dirs (r : Record) :
    r ∈ records ↔ r ∈ records.filter Record.isFile ∨ r ∈ records.filter Record.isDir := by
  rw [List.mem_filter, List.mem_filter, ← and_or_left, Record.isDir_eq_not_isFile]
  cases r.isFile <;> simp

end Halves

theorem member_ofRecords_sublist (generation : Nat) (records : List Record) (set : NamedSet) :
    ((ofRecords generation records).member set).records.Sublist (Subset.mk records).firsts := by
  cases set with
  | all => exact List.Sublist.refl _
  | files => exact List.filter_sublist
  | dirs => exact List.filter_sublist

theorem nodup_ids_member_ofRecords (generation : Nat) (records : List Record) (set : NamedSet) :
    ((ofRecords generation records).member set).ids.Nodup :=
  (Subset.mk records).nodup_ids_firsts.sublist
    ((member_ofRecords_sublist generation records set).map _)

theorem ofRecords_views (generation : Nat) (records : List Record) :
    (ofRecords generation records).Views records where
  all := (Subset.mk records).firsts_standing
  files := rfl
  dirs := rfl
  distinct := nodup_ids_member_ofRecords generation records
  disjoint := files_disjoint_dirs (Subset.mk records).nodup_ids_firsts
  exhaustive := mem_iff_mem_files_or_dirs
  sizes := length_files_add_dirs _
  positions set _ _ :=
    Subset.position?_eq_some_iff_of_nodup (nodup_ids_member_ofRecords generation records set)

end Snapshot

structure Store.Holds (store : Store) (generation : Nat) (records : List Record) : Prop where
  issued : store.issued = generation
  current : store.current = .ofRecords generation records

namespace Store

theorem ofRecords_holds (records : List Record) : (ofRecords records).Holds 0 records where
  issued := rfl
  current := rfl

variable {store : Store} {generation : Nat} {records : List Record}

theorem Holds.not_stale (holds : store.Holds generation records) :
    ¬ store.issued + 1 < store.current.generation := by
  rw [holds.issued, holds.current]
  exact Nat.not_lt_of_le (Nat.le_succ generation)

theorem Holds.replace (holds : store.Holds generation records) (others : List Record) :
    (store.replace others).1 = generation + 1 ∧
      (store.replace others).2.Holds (generation + 1) others := by
  have given : (store.replace others).1 = generation + 1 := by
    rw [Store.replace, holds.issued]
  refine ⟨given, given, ?_⟩
  rw [Store.replace, if_neg holds.not_stale, holds.issued]

end Store

namespace Engine

def refreshes (e : Engine) : List (List Record) → List Nat × Engine
  | [] => ([], e)
  | records :: rest =>
    let (generation, next) := e.replace records
    let (generations, last) := next.refreshes rest
    (generation :: generations, last)

theorem replace_holds {e : Engine} {generation : Nat} {records : List Record}
    (holds : e.store.Holds generation records) (others : List Record) :
    (e.replace others).1 = generation + 1 ∧
      (e.replace others).2.store.Holds (generation + 1) others :=
  holds.replace others

theorem refreshes_holds {e : Engine} {generation : Nat} {records : List Record}
    (holds : e.store.Holds generation records) (batches : List (List Record)) :
    (e.refreshes batches).1 = List.range' (generation + 1) batches.length ∧
      (e.refreshes batches).2.store.Holds (generation + batches.length)
        ((records :: batches).getLast (List.cons_ne_nil _ _)) := by
  -- Any engine that holds a generation is a start, since each refresh leaves one that holds the next.
  induction batches generalizing e generation records with
  | nil => exact ⟨rfl, holds⟩
  | cons batch rest ih =>
    obtain ⟨given, next⟩ := replace_holds holds batch
    obtain ⟨later, last⟩ := ih next
    have counted : generation + 1 + rest.length = generation + (batch :: rest).length := by
      simp only [List.length_cons]
      omega
    rw [counted] at last
    refine ⟨?_, by rwa [List.getLast_cons (List.cons_ne_nil _ _)]⟩
    calc (e.refreshes (batch :: rest)).1
        = (e.replace batch).1 :: ((e.replace batch).2.refreshes rest).1 := rfl
      _ = List.range' (generation + 1) (batch :: rest).length := by
        rw [given, later, List.length_cons, List.range'_succ]

theorem refreshes_within_words {e : Engine} {generation : Nat} {records : List Record}
    (holds : e.store.Holds generation records) (batches : List (List Record))
    (short : generation + batches.length < UInt64.size) :
    (∀ n ∈ (e.refreshes batches).1, n < UInt64.size) ∧
      (e.refreshes batches).2.store.issued < UInt64.size := by
  obtain ⟨given, last⟩ := refreshes_holds holds batches
  constructor
  · intro n among
    rw [given, List.mem_range'_1] at among
    omega
  · rwa [last.issued]

theorem holds_of_build {settings : Settings} {release : Release} {now : Int64}
    {records : List Record} {e : Engine} (built : build settings release now records = .ok e) :
    e.store.Holds 0 records := by
  unfold build at built
  cases valid : settings.validate with
  | error fault => simp [valid, bind, Except.bind] at built
  | ok _ =>
    obtain rfl : ⟨settings, release, now, .ofRecords records⟩ = e := by
      simpa [valid, bind, Except.bind, pure, Except.pure] using built
    exact Store.ofRecords_holds records

theorem refreshes_partition (settings : Settings) (release : Release) (now : Int64)
    (initial : List Record) (batches : List (List Record)) (e : Engine)
    (built : build settings release now initial = .ok e) :
    let (generations, last) := e.refreshes batches
    last.snapshot.Views ((initial :: batches).getLast (List.cons_ne_nil _ _)) ∧
      generations = List.range' 1 batches.length ∧
      last.snapshot.generation = batches.length ∧
      last.stats.generation = batches.length ∧
      last.stats.records = last.snapshot.size ∧
      last.stats.files = last.snapshot.files.size ∧
      last.stats.dirs = last.snapshot.dirs.size ∧
      ∀ records, (last.replace records).1 = batches.length + 1 ∧
        (last.replace records).2.snapshot = .ofRecords (batches.length + 1) records := by
  obtain ⟨given, holds⟩ := refreshes_holds (holds_of_build built) batches
  rw [Nat.zero_add] at given holds
  have views := Snapshot.ofRecords_views batches.length
    ((initial :: batches).getLast (List.cons_ne_nil _ _))
  rw [← holds.current] at views
  have generation : (e.refreshes batches).2.snapshot.generation = batches.length := by
    rw [snapshot, holds.current]
    rfl
  refine ⟨views, given, generation, generation, rfl, rfl, rfl, ?_⟩
  intro records
  obtain ⟨next, after⟩ := replace_holds holds records
  exact ⟨next, after.current⟩

/-- Here an id is a directory's before it is a file's. -/
def mixed : List Record :=
  [.file 8 "/a" (.of 1 1 1), .directory 7 "/b" {}, .file 7 "/c" (.of 2 1 1)]

theorem refreshes_partition_of_mixed_kinds :
    build {} .standard 0 [] = .ok bare ∧
      let (generations, last) := bare.refreshes [mixed.reverse, mixed]
      last.snapshot.Views mixed ∧ generations = [1, 2] ∧ last.snapshot.generation = 2 := by
  have built : build {} .standard 0 [] = .ok bare := rfl
  obtain ⟨views, generations, generation, -⟩ :=
    refreshes_partition {} .standard 0 [] [mixed.reverse, mixed] bare built
  exact ⟨built, views, generations, generation⟩

end Engine

end Census
