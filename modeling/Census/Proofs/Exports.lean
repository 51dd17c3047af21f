import Census.Proofs.ByteOrder
import Census.Proofs.Selection

set_option autoImplicit false

namespace Census

namespace Export

structure Lists (records : List Record) (paths : List String) : Prop where
  same : paths.Perm (records.map (·.path))
  ordered : paths.Pairwise fun a b => Text.Lexical UInt8.toNat (Text.bytes a) (Text.bytes b)

theorem Lists.unique {records : List Record} {paths others : List String}
    (one : Lists records paths) (other : Lists records others) : paths = others := by
  refine List.Perm.eq_of_pairwise ?_ one.ordered other.ordered (one.same.trans other.same.symm)
  intro a b _ _ before after
  exact String.le_antisymm (Text.le_iff_bytes.mpr before) (Text.le_iff_bytes.mpr after)

theorem Lists.of_perm {records records' : List Record} {paths : List String}
    (lists : Lists records paths) (reordered : records.Perm records') : Lists records' paths :=
  ⟨lists.same.trans (reordered.map _), lists.ordered⟩

theorem chosen_lists (s : Subset) (limit : Option Nat) :
    Lists (s.records.take (limit.elim s.size (min · s.size))) (chosen s limit) := by
  constructor
  next =>
    rw [List.map_take]
    exact List.mergeSort_perm _ _
  next =>
    refine (List.pairwise_mergeSort (fun a b c => ?_) (fun a b => ?_) _).imp fun before => ?_
    next => simpa using String.le_trans
    next => simpa using String.le_total a b
    next => exact Text.le_iff_bytes.mp (of_decide_eq_true before)

theorem bytes_lines (paths : List String) :
    Text.bytes (lines paths) = paths.flatMap fun path => Text.bytes path ++ [10] := by
  have entered (before : String) :
      Text.bytes (paths.foldl (fun text path => text ++ path ++ "\n") before) =
        Text.bytes before ++ paths.flatMap fun path => Text.bytes path ++ [10] := by
    induction paths generalizing before with
    | nil => simp
    | cons path rest ih =>
      have newline : Text.bytes "\n" = [10] := rfl
      rw [List.foldl_cons, ih, Text.bytes_append, Text.bytes_append, newline, List.flatMap_cons]
      simp
  exact entered ""

end Export

namespace Engine

/-- How many paths an export writes: no more than are asked for or, where no number is, than the
settings allow, and there zero allows all. -/
def exportSize (e : Engine) (s : Subset) : Option Nat → Nat
  | some limit => min limit s.size
  | none => if e.settings.dumpLimit = 0 then s.size else min e.settings.dumpLimit.toNat s.size

variable {e : Engine} {s : Subset} {limit : Option Nat} {sink : Export.Sink}

theorem exportSize_eq (e : Engine) (s : Subset) (limit : Option Nat) :
    (limit.or e.settings.dumpLimit?).elim s.size (min · s.size) = e.exportSize s limit := by
  cases limit with
  | some limit => rfl
  | none =>
    rw [Option.none_or, Settings.dumpLimit?, exportSize]
    split <;> rfl

def exported (e : Engine) (s : Subset) (limit : Option Nat) : List Record :=
  s.records.take (e.exportSize s limit)

theorem length_exported : (e.exported s limit).length = e.exportSize s limit := by
  rw [exported, List.length_take]
  have within : e.exportSize s limit ≤ s.records.length := by
    cases limit with
    | some limit => exact Nat.min_le_right _ _
    | none =>
      rw [exportSize]
      split
      next => exact Nat.le_refl _
      next => exact Nat.min_le_right _ _
  exact Nat.min_eq_left within

theorem chosen_lists (e : Engine) (s : Subset) (limit : Option Nat) :
    Export.Lists (e.exported s limit) (Export.chosen s (limit.or e.settings.dumpLimit?)) := by
  have own := Export.chosen_lists s (limit.or e.settings.dumpLimit?)
  rwa [exportSize_eq] at own

theorem dumpPaths_eq (takes : ∀ text, sink.accepts text = true) {paths : List String}
    (lists : Export.Lists (e.exported s limit) paths) :
    e.dumpPaths s limit sink = .ok ⟨e.exportSize s limit, Export.lines paths⟩ := by
  have count : paths.length = e.exportSize s limit := by
    rw [lists.same.length_eq, List.length_map, length_exported]
  rw [dumpPaths, Export.write, (e.chosen_lists s limit).unique lists, count]
  exact if_pos (takes _)

theorem dumpPaths_writes_sorted (e : Engine) (s : Subset) (limit : Option Nat) (sink : Export.Sink)
    (takes : ∀ text, sink.accepts text = true) :
    ∃ written, e.dumpPaths s limit sink = .ok written ∧
      written.lines = e.exportSize s limit ∧
      (∃ paths, Export.Lists (e.exported s limit) paths) ∧
      (∀ paths, Export.Lists (e.exported s limit) paths →
        Text.bytes written.text = paths.flatMap fun path => Text.bytes path ++ [10]) ∧
      (∀ fanout, (e.withFanout fanout).dumpPaths s limit sink = .ok written) ∧
      ∀ s' limit', (e.exported s' limit').Perm (e.exported s limit) →
        e.dumpPaths s' limit' sink = .ok written := by
  have lists := e.chosen_lists s limit
  refine ⟨_, dumpPaths_eq takes lists, rfl, ⟨_, lists⟩, ?_, ?_, ?_⟩
  next =>
    intro others again
    rw [lists.unique again]
    exact Export.bytes_lines others
  next => exact fun fanout => dumpPaths_eq takes lists
  next =>
    intro s' limit' reordered
    have size : e.exportSize s' limit' = e.exportSize s limit := by
      rw [← length_exported, ← length_exported, reordered.length_eq]
    rw [← size]
    exact dumpPaths_eq takes (lists.of_perm reordered.symm)

def pathTwice : Subset where
  records :=
    [.file 1 "/é" (.of 1 1 1), .file 1 "/z" (.of 1 1 1), .directory 2 "/é" {},
      .file 3 "/a" (.of 1 1 1)]

theorem dumpPaths_writes_sorted_path_twice :
    (∀ text, (Export.Sink.mk none "").accepts text = true) ∧
    ∃ written, bare.dumpPaths pathTwice (some 3) ⟨none, ""⟩ = .ok written ∧ written.lines = 3 ∧
      Text.bytes written.text =
        [47, 122, 10, 47, 195, 169, 10, 47, 195, 169, 10] := by
  have takes : ∀ text, (Export.Sink.mk none "").accepts text = true := fun _ => rfl
  have ⟨written, dumped, lines, _, text, _⟩ :=
    dumpPaths_writes_sorted bare pathTwice (some 3) ⟨none, ""⟩ takes
  have lists : Export.Lists (bare.exported pathTwice (some 3)) ["/z", "/é", "/é"] := by
    constructor
    next => decide
    next => decide
  exact ⟨takes, written, dumped, lines, (text _ lists).trans rfl⟩

end Engine

end Census
