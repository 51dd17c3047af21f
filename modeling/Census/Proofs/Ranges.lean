import Census.Layout.Ranged
import Census.Relation

set_option autoImplicit false

namespace Census

theorem pairwise_of_ascends {values : List Int64} (ascending : ascends values = true) :
    values.Pairwise (· < ·) := by
  fun_induction ascends values with
  | case1 a b rest ih =>
    obtain ⟨first, later⟩ := (Bool.and_eq_true _ _).mp ascending
    have others := ih later
    refine List.pairwise_cons.mpr ⟨fun c member => ?_, others⟩
    rcases List.mem_cons.mp member with rfl | member
    · exact of_decide_eq_true first
    · exact Int64.lt_trans (of_decide_eq_true first) ((List.pairwise_cons.mp others).1 c member)
  | case2 values short =>
    match values, short with
    | [], _ => exact .nil
    | [a], _ => exact List.pairwise_singleton _ a
    | a :: b :: rest, short => exact absurd rfl (short a b rest)

theorem length_takeWhile_eq_iff (thresholds : List Int64) (v : Int64) {k : Nat}
    (inside : k ≤ thresholds.length) :
    (thresholds.takeWhile (· < v)).length = k ↔
      (∀ t ∈ thresholds.take k, t < v) ∧ ∀ t, thresholds[k]? = some t → v ≤ t := by
  induction thresholds generalizing k with
  | nil =>
    obtain rfl : k = 0 := by simpa using inside
    simp
  | cons first rest ih =>
    by_cases below : first < v
    · rw [List.takeWhile_cons_of_pos (by simpa using below), List.length_cons]
      cases k with
      | zero =>
        have not_here : ¬v ≤ first := Int64.not_le.mpr below
        simp [not_here]
      | succ k =>
        rw [Nat.add_right_cancel_iff, ih (by simpa using inside)]
        simp [below]
    · rw [List.takeWhile_cons_of_neg (by simpa using below), List.length_nil]
      cases k with
      | zero => simpa using Int64.not_lt.mp below
      | succ k => simp [below]

theorem forall_take_lt_iff {thresholds : List Int64} (ascending : thresholds.Pairwise (· < ·))
    (v : Int64) {k : Nat} (inside : k < thresholds.length) :
    (∀ t ∈ thresholds.take (k + 1), t < v) ↔ thresholds[k] < v := by
  have split : thresholds.take (k + 1) = thresholds.take k ++ [thresholds[k]] :=
    List.take_succ_eq_append_getElem inside
  have earlier : ∀ t ∈ thresholds.take k, t < thresholds[k] := by
    have head := ascending.sublist (List.take_sublist (k + 1) thresholds)
    rw [split] at head
    intro t member
    exact (List.pairwise_append.mp head).2.2 t member _ (List.mem_singleton_self _)
  rw [split]
  constructor
  · intro all
    exact all _ (List.mem_append_right _ (List.mem_singleton_self _))
  · intro last t member
    rcases List.mem_append.mp member with before | here
    · exact Int64.lt_trans (earlier t before) last
    · exact List.mem_singleton.mp here ▸ last

namespace RangedLayout

def limits (layout : RangedLayout) : Nat → List (Relation × Int64)
  | 0 => layout.thresholds[0]?.toList.map (.lte, ·)
  | k + 1 =>
    layout.thresholds[k]?.toList.map (.gt, ·) ++ layout.thresholds[k + 1]?.toList.map (.lte, ·)

theorem bucketOf_eq_iff (layout : RangedLayout) (v : Int64) {k : Nat} (inside : k < layout.size) :
    layout.bucketOf v = k ↔ ∀ limit ∈ layout.limits k, limit.1.holds v limit.2 = true := by
  have bound : k ≤ layout.thresholds.length := by
    rw [size, layout.labelled] at inside
    omega
  -- The threshold before a bucket stands for all earlier ones, as thresholds ascend.
  rw [bucketOf, length_takeWhile_eq_iff layout.thresholds v bound]
  cases k with
  | zero => simp [limits, Relation.holds]
  | succ k =>
    rw [forall_take_lt_iff (pairwise_of_ascends layout.ascending) v bound]
    simp [limits, Relation.holds, or_imp, forall_and, List.getElem?_eq_getElem bound]

theorem bucketOf_lt_iff (layout : RangedLayout) (v : Int64) {k : Nat}
    (inside : k < layout.thresholds.length) :
    layout.bucketOf v < k + 1 ↔ v ≤ layout.thresholds[k] := by
  obtain ⟨earlier, own⟩ := (length_takeWhile_eq_iff layout.thresholds v
    (List.takeWhile_sublist _).length_le).mp rfl
  rw [← bucketOf] at earlier own
  -- The value's own threshold is not below it, and all before that one are.
  constructor
  · intro before
    have last := (List.pairwise_iff_getElem.mp (pairwise_of_ascends layout.ascending))
      (layout.bucketOf v) k (by omega) inside
    have here := own _ (List.getElem?_eq_getElem (by omega))
    rcases Nat.lt_or_eq_of_le (Nat.le_of_lt_succ before) with below | same
    · exact Int64.le_trans here (Int64.le_of_lt (last below))
    · simpa only [same] using here
  · intro within
    refine Nat.lt_of_not_le fun after => ?_
    have passed : layout.thresholds[k] ∈ layout.thresholds.take (layout.bucketOf v) :=
      List.mem_take_iff_getElem.mpr ⟨k, by omega, rfl⟩
    exact Int64.not_lt.mpr within (earlier _ passed)

end RangedLayout

end Census
