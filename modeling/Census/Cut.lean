set_option autoImplicit false

namespace Census

/-- A list in contiguous runs, with the order in which results for the runs are merged. -/
inductive Cut (α : Type) where
  | run (items : List α)
  | join (left right : Cut α)

namespace Cut

variable {α σ : Type}

def toList : Cut α → List α
  | .run items => items
  | .join left right => left.toList ++ right.toList

def map {β : Type} (f : α → β) : Cut α → Cut β
  | .run items => .run (items.map f)
  | .join left right => .join (left.map f) (right.map f)

@[simp] theorem toList_map {β : Type} (f : α → β) (cut : Cut α) :
    (cut.map f).toList = cut.toList.map f := by
  induction cut with
  | run items => rfl
  | join left right hl hr => simp [map, toList, hl, hr]

theorem map_map {β γ : Type} (f : α → β) (g : β → γ) (cut : Cut α) :
    (cut.map f).map g = cut.map fun item => g (f item) := by
  induction cut with
  | run items => simp [map]
  | join left right hl hr => simp [map, hl, hr]

def reduce (work : List α → σ) (merge : σ → σ → σ) : Cut α → σ
  | .run items => work items
  | .join left right => merge (left.reduce work merge) (right.reduce work merge)

theorem reduce_map {β : Type} (f : α → β) (work : List β → σ) (merge : σ → σ → σ) (cut : Cut α) :
    (cut.map f).reduce work merge = cut.reduce (fun items => work (items.map f)) merge := by
  induction cut with
  | run items => rfl
  | join left right hl hr => simp only [map, reduce, hl, hr]

theorem reduce_eq_of_parts {work : List α → σ} {merge : σ → σ → σ} {P : List α → Prop}
    (parts : ∀ xs ys, P (xs ++ ys) → P xs ∧ P ys)
    (law : ∀ xs ys, P (xs ++ ys) → merge (work xs) (work ys) = work (xs ++ ys))
    (cut : Cut α) (whole : P cut.toList) : cut.reduce work merge = work cut.toList := by
  induction cut with
  | run items => rfl
  | join left right hl hr =>
    have ⟨lefts, rights⟩ := parts _ _ whole
    simp only [reduce, toList, hl lefts, hr rights, law _ _ whole]

theorem reduce_eq {work : List α → σ} {merge : σ → σ → σ}
    (law : ∀ xs ys, merge (work xs) (work ys) = work (xs ++ ys)) (cut : Cut α) :
    cut.reduce work merge = work cut.toList :=
  reduce_eq_of_parts (P := fun _ => True) (fun _ _ _ => ⟨trivial, trivial⟩)
    (fun xs ys _ => law xs ys) cut trivial

/-- Halves a list, and its halves in turn, for as long as both halves have a least length. -/
def halves (least : Nat) (items : List α) : Cut α :=
  if 1 ≤ items.length / 2 ∧ least ≤ items.length / 2 then
    .join (halves least (items.take (items.length / 2)))
      (halves least (items.drop (items.length / 2)))
  else .run items
termination_by items.length
decreasing_by
  · simp only [List.length_take]; omega
  · simp only [List.length_drop]; omega

@[simp] theorem toList_halves (least : Nat) (items : List α) :
    (halves least items).toList = items := by
  fun_induction halves least items with
  | case1 items _ left right => simp [toList, left, right]
  | case2 items _ => rfl

def ofRuns (runs : List (List α)) : Cut α :=
  if 1 ≤ runs.length / 2 then
    .join (ofRuns (runs.take (runs.length / 2))) (ofRuns (runs.drop (runs.length / 2)))
  else .run runs.flatten
termination_by runs.length
decreasing_by
  · simp only [List.length_take]; omega
  · simp only [List.length_drop]; omega

@[simp] theorem toList_ofRuns (runs : List (List α)) : (ofRuns runs).toList = runs.flatten := by
  fun_induction ofRuns runs with
  | case1 runs _ left right =>
    simp only [toList, left, right]
    rw [← List.flatten_append, List.take_append_drop]
  | case2 runs _ => rfl

def pieces (size : Nat) (items : List α) : List (List α) :=
  -- The last run is shorter where it has to be; a size of zero cuts nothing.
  if 0 < size ∧ 0 < items.length then
    items.take size :: pieces size (items.drop size)
  else if items.isEmpty then []
  else [items]
termination_by items.length
decreasing_by simp only [List.length_drop]; omega

@[simp] theorem flatten_pieces (size : Nat) (items : List α) :
    (pieces size items).flatten = items := by
  fun_induction pieces size items with
  | case1 items _ ih => simp [ih]
  | case2 items _ empty => simpa using (List.isEmpty_iff.mp empty).symm
  | case3 items _ _ => simp

end Cut

structure Fanout where
  threshold : UInt64 := 10000
  morsel : UInt64 := 4096
  deriving DecidableEq

namespace Fanout

def leastMorsel : Nat := 64

def greatestMorsel : Nat := 16777216

def withThreshold (f : Fanout) (records : UInt64) : Fanout :=
  { f with threshold := records }

def withMorsel (f : Fanout) (size : UInt64) : Fanout :=
  { f with morsel := max size (UInt64.ofNat leastMorsel) }

def sequential : Fanout :=
  -- No list is longer than a word can count.
  withThreshold {} (UInt64.ofNat (UInt64.size - 1))

def spreads (f : Fanout) (length : Nat) : Bool :=
  f.threshold.toNat ≤ length && f.morsel.toNat < length

def morsels {α : Type} (f : Fanout) (items : List α) : Cut α :=
  if f.spreads items.length then .ofRuns (Cut.pieces f.morsel.toNat items) else .run items

@[simp] theorem toList_morsels {α : Type} (f : Fanout) (items : List α) :
    (f.morsels items).toList = items := by
  unfold morsels
  split
  · simp
  · rfl

theorem morsels_of_sequential {α : Type} {f : Fanout} {items : List α}
    (sequential : f.spreads items.length = false) : f.morsels items = .run items :=
  if_neg (by simp [sequential])

def halves {α : Type} (f : Fanout) (items : List α) : Cut α :=
  if f.spreads items.length then .halves f.morsel.toNat items else .run items

theorem halves_of_sequential {α : Type} {f : Fanout} {items : List α}
    (sequential : f.spreads items.length = false) : f.halves items = .run items :=
  if_neg (by simp [sequential])

@[simp] theorem toList_halves {α : Type} (f : Fanout) (items : List α) :
    (f.halves items).toList = items := by
  unfold halves
  split
  · simp
  · rfl

end Fanout

end Census
