import Census.Proofs.Keys

set_option autoImplicit false

namespace Census

section Sorting

variable {α : Type}

theorem filter_mergeSort_of_level {le : α → α → Bool}
    (transitive : ∀ a b c, le a b = true → le b c = true → le a c = true)
    (total : ∀ a b, (le a b || le b a) = true) (alike : α → Bool) (xs : List α)
    (level : ∀ a b, alike a = true → alike b = true → le a b = true) :
    (xs.mergeSort le).filter alike = xs.filter alike := by
  have sorted : (xs.filter alike).Pairwise fun a b => le a b = true :=
    List.pairwise_filter.mpr (List.pairwise_of_forall fun a b left right => level a b left right)
  have kept := (List.sublist_mergeSort transitive total sorted List.filter_sublist).filter alike
  simp only [List.filter_filter, Bool.and_self] at kept
  exact (kept.eq_of_length ((List.mergeSort_perm xs le).filter alike).length_eq.symm).symm

theorem filter_append_filter_not_of_pairwise {first : α → Bool} {xs : List α}
    (parted : xs.Pairwise fun a b => first b = true → first a = true) :
    xs.filter first ++ xs.filter (fun x => !first x) = xs := by
  induction xs with
  | nil => rfl
  | cons x rest ih =>
    obtain ⟨here, later⟩ := List.pairwise_cons.mp parted
    cases among : first x with
    | true => simpa [among] using ih later
    | false =>
      -- After one that is not among the first there are only others.
      have others : ∀ y ∈ rest, first y = false := fun y member =>
        Bool.eq_false_iff.mpr fun found => by simp [here y member found] at among
      have none_left : rest.filter first = [] :=
        List.filter_eq_nil_iff.mpr fun y member => by simp [others y member]
      have all_left : rest.filter (fun y => !first y) = rest :=
        List.filter_eq_self.mpr fun y member => by simp [others y member]
      simp [among, none_left, all_left]

theorem sublist_of_places {list keys : List α} {place : α → Nat} (from_here : Nat)
    (here : ∀ key ∈ keys, list[place key]? = some key ∧ from_here ≤ place key)
    (ascending : keys.Pairwise fun a b => place a < place b) :
    keys.Sublist (list.drop from_here) := by
  induction keys generalizing from_here with
  | nil => exact List.nil_sublist _
  | cons key rest ih =>
    obtain ⟨before, later⟩ := List.pairwise_cons.mp ascending
    obtain ⟨found, inside⟩ := here key (by simp)
    obtain ⟨bound, same⟩ := List.getElem?_eq_some_iff.mp found
    have after := ih (place key + 1)
      (fun other member => ⟨(here other (by simp [member])).1, before other member⟩) later
    have whole : (key :: rest).Sublist (list.drop (place key)) := by
      rw [List.drop_eq_getElem_cons bound, same]
      exact after.cons_cons key
    exact whole.trans (List.drop_sublist_drop_left list inside)

end Sorting

namespace KeyOrder

def value? (label : String) : Option Int64 :=
  (Text.int64 label).toOption

structure ByValue (labels sorted : List String) : Prop where
  perm : sorted.Perm labels
  first : sorted =
    sorted.filter (fun label => (value? label).isSome) ++
      labels.filter (fun label => !(value? label).isSome)
  ascending : sorted.Pairwise fun a b => ∀ m n, value? a = some m → value? b = some n → m ≤ n
  ties : ∀ n, sorted.filter (value? · = some n) = labels.filter (value? · = some n)

theorem numericBefore_iff (a b : String) :
    numericBefore a b = true ↔ ∀ n, value? b = some n → ∃ m, value? a = some m ∧ m ≤ n := by
  unfold numericBefore value?
  cases Text.int64 a <;> cases Text.int64 b <;> simp [Except.toOption]

theorem arrange_numeric_byValue (labels : List String) :
    ByValue labels (numeric.arrange labels) := by
  have sorted := List.pairwise_mergeSort numericBefore_trans numericBefore_total labels
  constructor
  case perm => exact List.mergeSort_perm labels numericBefore
  case first =>
    have others := filter_mergeSort_of_level numericBefore_trans numericBefore_total
      (fun label => !(value? label).isSome) labels fun a b _ right =>
        (numericBefore_iff a b).mpr fun n found => by simp [found] at right
    rw [← others]
    refine (filter_append_filter_not_of_pairwise (sorted.imp fun {a b} before found => ?_)).symm
    obtain ⟨n, value⟩ := Option.isSome_iff_exists.mp found
    obtain ⟨m, least, -⟩ := (numericBefore_iff a b).mp before n value
    simp [least]
  case ascending =>
    refine sorted.imp fun {a b} before m n left right => ?_
    obtain ⟨k, found, below⟩ := (numericBefore_iff a b).mp before n right
    obtain rfl := Option.some.inj (left.symm.trans found)
    exact below
  case ties =>
    intro n
    refine filter_mergeSort_of_level numericBefore_trans numericBefore_total _ labels
      fun a b left right => (numericBefore_iff a b).mpr fun k found => ?_
    obtain rfl := Option.some.inj ((of_decide_eq_true right).symm.trans found)
    exact ⟨n, of_decide_eq_true left, Int64.le_refl n⟩

theorem arrange_canonical_sublist (list : List String) {labels : List String}
    (distinct : labels.Nodup) : ((canonical list).arrange labels).Sublist list := by
  have listed : ∀ key ∈ (canonical list).arrange labels, key ∈ list := fun key member =>
    (KeyTable.mem_arrange.mp member).2 list rfl
  have sorted := List.pairwise_mergeSort (canonicalBefore_trans list) (canonicalBefore_total list)
    (labels.filter list.contains)
  have different := KeyTable.nodup_arrange distinct (canonical list)
  refine sublist_of_places 0
    (fun key member => ⟨getElem?_place (listed key member), Nat.zero_le _⟩) ?_
  refine (sorted.and different).imp_of_mem fun {a b} left right before => ?_
  -- Of distinct labels the first has the lower place.
  exact Nat.lt_of_le_of_ne ((canonicalBefore_iff (listed a left) (listed b right)).mp before.1)
    (mt (place_injective (listed a left) (listed b right)) before.2)

def Arranges (order : KeyOrder) (labels keys : List String) : Prop :=
  match order with
  | .discovery => keys = labels
  | .numeric => ByValue labels keys
  | .canonical list => keys.Sublist list ∧ ∀ key, key ∈ keys ↔ key ∈ labels ∧ key ∈ list

theorem arrange_arranges (order : KeyOrder) {labels : List String} (distinct : labels.Nodup) :
    order.Arranges labels (order.arrange labels) := by
  cases order with
  | discovery => rfl
  | numeric => exact arrange_numeric_byValue labels
  | canonical list =>
    refine ⟨arrange_canonical_sublist list distinct, fun key => ?_⟩
    simp [KeyTable.mem_arrange]

end KeyOrder

namespace KeyTable

structure Numbers (table : KeyTable) (keys : List String) : Prop where
  listed : table.keys.toList = keys
  distinct : keys.Nodup
  of_key : ∀ i key, keys[i]? = some key → table.idOf (some key) = i
  of_other : ∀ label, (∀ key ∈ keys, label ≠ some key) → table.idOf label = table.sentinel
  sentinel : table.sentinel = keys.length
  cardinality : table.cardinality = table.sentinel + 1

theorem Consistent.numbers {table : KeyTable} (consistent : table.Consistent) :
    table.Numbers table.keys.toList where
  listed := rfl
  distinct := consistent.distinct
  of_key i key here := by
    obtain ⟨inside, same⟩ := List.getElem?_eq_some_iff.mp here
    have bound : i < table.keys.size := by simpa using inside
    exact (idOf_eq_iff consistent bound).mpr (congrArg some (by simpa using same.symm))
  of_other _ fresh := (idOf_eq_sentinel_iff consistent).mpr fresh
  sentinel := by simp [KeyTable.sentinel]
  cardinality := rfl

theorem discover_numbers_in_order (labels : List (Option String)) (order : KeyOrder) :
    ∃ keys, (discover labels order).Numbers keys ∧
      order.Arranges (labels.filterMap id).eraseDups keys := by
  refine ⟨_, (discover_consistent labels order).numbers, ?_⟩
  rw [keys_discover]
  exact order.arrange_arranges (nodup_eraseDups _)

/-- Of three texts of one value the one that came first is listed first. -/
theorem discover_numbers_in_order_of_one_value :
    let labels := [some "x", some "05", none, some "-3", some "5", some "x", some "+5"]
    ∃ keys, (discover labels .numeric).Numbers keys ∧ keys.length = 5 ∧
      keys.filter (fun label => KeyOrder.value? label = some 5) = ["05", "5", "+5"] ∧
      (discover labels .numeric).idOf none = 5 := by
  intro labels
  obtain ⟨keys, numbers, byValue⟩ := discover_numbers_in_order labels .numeric
  have length : keys.length = 5 := byValue.perm.length_eq.trans (by decide)
  have ties := (byValue.ties 5).trans (b := _) (c := ["05", "5", "+5"]) (by decide)
  refine ⟨keys, numbers, length, ties, ?_⟩
  rw [numbers.of_other none (by simp), numbers.sentinel, length]

end KeyTable

end Census
