import Census.Proofs.Extremes

set_option autoImplicit false

namespace Census

namespace Extreme

variable {extreme : Extreme}

def of? : Extreme → List Int64 → Option Int64
  | .least, values => values.min?
  | .greatest, values => values.max?

theorem of?_eq_some_iff {values : List Int64} {v : Int64} :
    extreme.of? values = some v ↔ v ∈ values ∧ ∀ w ∈ values, extreme.beats w v = false := by
  cases extreme with
  | least => simp [of?, List.min?_eq_some_iff, beats]
  | greatest => simp [of?, List.max?_eq_some_iff, beats]

theorem eq_of_not_before {a b : Int64 × Nat} (first : extreme.before a b = false)
    (second : extreme.before b a = false) : a = b := by
  rw [not_before_iff] at first second
  have ranks : extreme.rank a.1 = extreme.rank b.1 := by omega
  exact Prod.ext (rank_injective ranks) (by omega)

theorem Best.perm {xs ys : List (Int64 × Nat)} (same : xs.Perm ys) {best : Option (Int64 × Nat)}
    (h : extreme.Best xs best) : extreme.Best ys best := by
  cases best with
  | none =>
    have nothing : xs = [] := h
    exact List.nil_perm.mp (nothing ▸ same)
  | some best => exact ⟨same.mem_iff.mp h.member, fun c member => h.first c (same.mem_iff.mpr member)⟩

theorem Best.unique {xs : List (Int64 × Nat)} {a b : Option (Int64 × Nat)}
    (left : extreme.Best xs a) (right : extreme.Best xs b) : a = b := by
  cases a with
  | none =>
    have nothing : xs = [] := left
    subst nothing
    cases b with
    | none => rfl
    | some b => exact absurd right.member List.not_mem_nil
  | some a =>
    cases b with
    | none =>
      have nothing : xs = [] := right
      subst nothing
      exact absurd left.member List.not_mem_nil
    | some b =>
      exact congrArg some (eq_of_not_before (right.first a left.member) (left.first b right.member))

theorem reduce_of_perm (extreme : Extreme) {cut other : Cut (Int64 × Nat)}
    (same : cut.toList.Perm other.toList) :
    cut.reduce extreme.best? extreme.pick? = other.reduce extreme.best? extreme.pick? :=
  ((extreme.best_reduce cut).perm same).unique (extreme.best_reduce other)

end Extreme

namespace FindFilter

/-- The record at the position that is left when candidates are compared in pairs, in any order. -/
def through (f : FindFilter) (s : Subset) (order : Cut (Int64 × Nat)) : Subset :=
  ⟨((order.reduce f.extreme.best? f.extreme.pick?).bind fun (_, position) =>
    s.records[position]?).toList⟩

theorem candidates_eq (f : FindFilter) (release : Release) (s : Subset) :
    f.candidates release s = (s.records.map (f.field.value release)).zipIdx := by
  rw [candidates, List.zipIdx_map]
  rfl

theorem apply_eq_through (f : FindFilter) (release : Release) (s : Subset) (fanout : Fanout)
    {order : Cut (Int64 × Nat)}
    (all : order.toList.Perm (s.records.map (f.field.value release)).zipIdx) :
    f.apply release s fanout = f.through s order := by
  apply f.apply_of_best release
  apply f.extreme.reduce_of_perm
  rw [Fanout.toList_halves, candidates_eq]
  exact all.symm

structure FirstAtEnd (f : FindFilter) (release : Release) (s : Subset) (i : Nat) (r : Record) :
    Prop where
  here : s.records[i]? = some r
  at_end : f.extreme.of? (s.records.map (f.field.value release)) = some (f.field.value release r)
  first : ∀ j < i, ∀ q, s.records[j]? = some q → f.field.value release q ≠ f.field.value release r

theorem apply_firstAtEnd (f : FindFilter) (release : Release) {s : Subset} (fanout : Fanout)
    (some_given : s.records ≠ []) :
    ∃ i r, f.FirstAtEnd release s i r ∧ f.apply release s fanout = ⟨[r]⟩ := by
  have ⟨i, r, here, found, unpreceded⟩ := f.apply_first release fanout some_given
  refine ⟨i, r, ⟨here, Extreme.of?_eq_some_iff.mpr ⟨?_, fun w member => ?_⟩, ?_⟩, found⟩
  next => exact List.mem_map_of_mem (List.mem_of_getElem? here)
  next =>
    have ⟨q, inside, own⟩ := List.mem_map.mp member
    have ⟨j, there⟩ := List.mem_iff_getElem?.mp inside
    exact own ▸ (Bool.or_eq_false_iff.mp (unpreceded j q there)).1
  next =>
    intro j earlier q there same
    have tie := (Bool.or_eq_false_iff.mp (unpreceded j q there)).2
    simp [same, earlier] at tie

end FindFilter

namespace Engine

theorem findFilter_first_in_any_order (e : Engine) (s : Subset) (field : LongAttr) {mode : String}
    {extreme : Extreme} (listed : (mode, extreme) ∈ Extreme.table) :
    (∀ order : Cut (Int64 × Nat),
      order.toList.Perm (s.records.map (field.value e.release)).zipIdx →
        e.findFilter s (mode ++ ":" ++ field.name) =
          .ok (FindFilter.through ⟨extreme, field⟩ s order)) ∧
      (s.records = [] → e.findFilter s (mode ++ ":" ++ field.name) = .ok .empty) ∧
      (s.records ≠ [] → ∃ i r, FindFilter.FirstAtEnd ⟨extreme, field⟩ e.release s i r ∧
        e.findFilter s (mode ++ ":" ++ field.name) = .ok ⟨[r]⟩) := by
  have spec : mode ++ ":" ++ field.name = FindSpec.describe ⟨extreme.mode, field⟩ := by
    simp only [Extreme.table, List.mem_cons, Prod.mk.injEq, List.not_mem_nil, or_false] at listed
    obtain ⟨rfl, rfl⟩ | ⟨rfl, rfl⟩ := listed <;> rfl
  rw [spec, e.findFilter_describe]
  refine ⟨fun order all => ?_, fun none_given => ?_, fun some_given => ?_⟩
  next => exact congrArg Except.ok (FindFilter.apply_eq_through _ e.release s e.fanout all)
  next =>
    -- With no records there is one order, and nothing is left of it.
    have nothing : (Cut.run []).toList.Perm (s.records.map (field.value e.release)).zipIdx := by
      simp [Cut.toList, none_given]
    exact congrArg Except.ok (FindFilter.apply_eq_through ⟨extreme, field⟩ _ _ e.fanout nothing)
  next =>
    obtain ⟨i, r, first, found⟩ :=
      FindFilter.apply_firstAtEnd ⟨extreme, field⟩ e.release e.fanout some_given
    exact ⟨i, r, first, congrArg Except.ok found⟩

def tied : Subset where
  records :=
    [.file 1 "/a" (.of 3 1 1), .file 2 "/b" (.of 9 1 1), .file 3 "/c" (.of 9 1 1),
      .file 2 "/b" (.of 9 1 1)]

def backwards : Cut (Int64 × Nat) :=
  .join (.join (.run [(9, 3)]) (.run [(9, 2)])) (.run [(9, 1), (3, 0)])

theorem findFilter_first_in_any_order_of_tied :
    ("max", Extreme.greatest) ∈ Extreme.table ∧ tied.records ≠ [] ∧
      backwards.toList.Perm (tied.records.map Record.fileSize).zipIdx ∧
      FindFilter.through ⟨.greatest, .fileSize⟩ tied backwards = ⟨[.file 2 "/b" (.of 9 1 1)]⟩ ∧
      bare.findFilter tied "max:fileSize" = .ok ⟨[.file 2 "/b" (.of 9 1 1)]⟩ := by
  have listed : ("max", Extreme.greatest) ∈ Extreme.table := by decide
  have all : backwards.toList.Perm (tied.records.map Record.fileSize).zipIdx := by decide
  have left : FindFilter.through ⟨.greatest, .fileSize⟩ tied backwards =
      ⟨[.file 2 "/b" (.of 9 1 1)]⟩ := rfl
  have ⟨any_order, _⟩ := findFilter_first_in_any_order bare tied .fileSize listed
  have found : bare.findFilter tied "max:fileSize" = _ := any_order backwards all
  exact ⟨listed, by decide, all, left, found.trans (congrArg Except.ok left)⟩

end Engine

end Census
