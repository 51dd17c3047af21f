import Mathlib.Data.List.Basic
import Mathlib.Data.List.Induction
import Census.Layout.KeyTable

set_option autoImplicit false

namespace Census.KeyTable

structure Consistent (table : KeyTable) : Prop where
  distinct : table.keys.toList.Nodup
  numbered : ∀ label (i : Nat), table.ids[label]? = some i ↔ table.keys[i]? = some label

theorem empty_consistent : empty.Consistent where
  distinct := by simp [empty]
  numbered := by simp [empty]

theorem Consistent.contains_iff {table : KeyTable} (consistent : table.Consistent) (key : String) :
    table.ids.contains key = true ↔ key ∈ table.keys.toList := by
  rw [Std.HashMap.contains_eq_isSome_getElem?, Option.isSome_iff_exists]
  simp only [consistent.numbered, List.mem_iff_getElem?, Array.getElem?_toList]

theorem enter_of_mem {table : KeyTable} (consistent : table.Consistent) {key : String}
    (known : key ∈ table.keys.toList) : table.enter key = table :=
  if_pos ((consistent.contains_iff key).mpr known)

theorem keys_enter_of_not_mem {table : KeyTable} (consistent : table.Consistent) {key : String}
    (unknown : key ∉ table.keys.toList) :
    (table.enter key).keys.toList = table.keys.toList ++ [key] := by
  rw [enter, if_neg (mt (consistent.contains_iff key).mp unknown), Array.toList_push]

theorem enter_consistent {table : KeyTable} (consistent : table.Consistent) (key : String) :
    (table.enter key).Consistent := by
  by_cases known : key ∈ table.keys.toList
  · rwa [enter_of_mem consistent known]
  · constructor
    · rw [keys_enter_of_not_mem consistent known]
      exact List.nodup_append.mpr ⟨consistent.distinct, by simp, fun a member b last => by
        intro same
        exact known (List.mem_singleton.mp last ▸ same ▸ member)⟩
    · intro label i
      -- The new key takes the number after the last, which until then stood for no key.
      have outside : ∀ i, table.keys[i]? ≠ some key := fun i found =>
        known (List.mem_of_getElem? (by rwa [Array.getElem?_toList]))
      rw [enter, if_neg (mt (consistent.contains_iff key).mp known)]
      simp only [Std.HashMap.getElem?_insert, Array.getElem?_push, beq_iff_eq]
      by_cases same : key = label
      · subst same
        by_cases last : i = table.keys.size <;> simp [last, outside i, eq_comm]
      · by_cases last : i = table.keys.size <;> simp [same, last, consistent.numbered]

theorem ofKeys_snoc (keys : List String) (key : String) :
    ofKeys (keys ++ [key]) = (ofKeys keys).enter key := by
  simp [ofKeys, List.foldl_append]

theorem ofKeys_consistent (keys : List String) : (ofKeys keys).Consistent := by
  induction keys using List.reverseRecOn with
  | nil => exact empty_consistent
  | append_singleton keys key ih =>
    rw [ofKeys_snoc]
    exact enter_consistent ih key

theorem mem_ofKeys {keys : List String} {label : String} :
    label ∈ (ofKeys keys).keys.toList ↔ label ∈ keys := by
  induction keys using List.reverseRecOn with
  | nil => simp [ofKeys, empty]
  | append_singleton keys key ih =>
    rw [ofKeys_snoc, List.mem_append, List.mem_singleton, ← ih]
    by_cases known : key ∈ (ofKeys keys).keys.toList
    · rw [enter_of_mem (ofKeys_consistent keys) known]
      constructor
      · exact .inl
      · intro entered
        rcases entered with member | rfl
        · exact member
        · exact known
    · rw [keys_enter_of_not_mem (ofKeys_consistent keys) known, List.mem_append,
        List.mem_singleton]

theorem eraseDups_snoc (keys : List String) (key : String) :
    (keys ++ [key]).eraseDups =
      if key ∈ keys.eraseDups then keys.eraseDups else keys.eraseDups ++ [key] := by
  rw [List.eraseDups_append]
  by_cases known : key ∈ keys <;> simp [List.removeAll, known, List.eraseDups_cons]

theorem keys_ofKeys (keys : List String) : (ofKeys keys).keys.toList = keys.eraseDups := by
  induction keys using List.reverseRecOn with
  | nil => rfl
  | append_singleton keys key ih =>
    rw [ofKeys_snoc, eraseDups_snoc, ← ih]
    split
    next known => rw [enter_of_mem (ofKeys_consistent keys) known]
    next unknown => rw [keys_enter_of_not_mem (ofKeys_consistent keys) unknown]

theorem nodup_eraseDups (keys : List String) : keys.eraseDups.Nodup :=
  keys_ofKeys keys ▸ (ofKeys_consistent keys).distinct

theorem eraseDups_of_nodup {keys : List String} (distinct : keys.Nodup) :
    keys.eraseDups = keys := by
  induction keys with
  | nil => rfl
  | cons key rest ih =>
    obtain ⟨fresh, later⟩ := List.nodup_cons.mp distinct
    have others : rest.filter (fun other => !other == key) = rest :=
      List.filter_eq_self.mpr fun other member => by
        simpa using ne_of_mem_of_not_mem member fresh
    rw [List.eraseDups_cons, others, ih later]

theorem idOf_eq_iff {table : KeyTable} (consistent : table.Consistent) {label : Option String}
    {i : Nat} (inside : i < table.keys.size) :
    table.idOf label = i ↔ label = some table.keys[i] := by
  cases label with
  | none => simp [idOf, sentinel, Nat.ne_of_gt inside]
  | some l =>
    have here : table.ids[l]? = some i ↔ l = table.keys[i] := by
      simp [consistent.numbered, Array.getElem?_eq_getElem inside, eq_comm]
    cases found : table.ids[l]? with
    | none =>
      have other : l ≠ table.keys[i] := by simpa [found] using here
      simp [idOf, found, sentinel, other, Nat.ne_of_gt inside]
    | some j => simpa [idOf, found] using here

theorem idOf_eq_sentinel_iff {table : KeyTable} (consistent : table.Consistent)
    {label : Option String} :
    table.idOf label = table.sentinel ↔ ∀ key ∈ table.keys.toList, label ≠ some key := by
  constructor
  · intro last key member same
    obtain ⟨i, inside, rfl⟩ := List.mem_iff_getElem.mp member
    have bound : i < table.keys.size := by simpa using inside
    have here := (idOf_eq_iff consistent bound).mpr (same.trans (by simp))
    rw [last, sentinel] at here
    omega
  · intro fresh
    cases label with
    | none => rfl
    | some l =>
      have missing : table.ids[l]? = none := by
        apply Option.eq_none_iff_forall_ne_some.mpr
        intro i found
        have here := (consistent.numbered l i).mp found
        exact fresh l (List.mem_of_getElem? (by rwa [Array.getElem?_toList])) rfl
      simp [idOf, missing]

theorem mem_arrange {labels : List String} {order : KeyOrder} {label : String} :
    label ∈ order.arrange labels ↔
      label ∈ labels ∧ (∀ list, order = .canonical list → label ∈ list) := by
  cases order <;> simp [KeyOrder.arrange]

theorem nodup_arrange {labels : List String} (distinct : labels.Nodup) (order : KeyOrder) :
    (order.arrange labels).Nodup := by
  cases order with
  | discovery => exact distinct
  | numeric => exact (List.mergeSort_perm _ _).nodup_iff.mpr distinct
  | canonical list => exact (List.mergeSort_perm _ _).nodup_iff.mpr (distinct.filter _)

theorem discover_consistent (labels : List (Option String)) (order : KeyOrder) :
    (discover labels order).Consistent :=
  ofKeys_consistent _

theorem keys_discover (labels : List (Option String)) (order : KeyOrder) :
    (discover labels order).keys.toList = order.arrange (labels.filterMap id).eraseDups := by
  rw [discover, keys_ofKeys, keys_ofKeys]
  exact eraseDups_of_nodup (nodup_arrange (nodup_eraseDups _) order)

theorem mem_discover {labels : List (Option String)} {order : KeyOrder} {label : String} :
    label ∈ (discover labels order).keys.toList ↔
      some label ∈ labels ∧ (∀ list, order = .canonical list → label ∈ list) := by
  rw [discover, mem_ofKeys, mem_arrange, mem_ofKeys]
  simp

theorem exists_key_iff {labels : List (Option String)} {order : KeyOrder} {label : Option String}
    (occurs : label ∈ labels) :
    (∃ key ∈ (discover labels order).keys.toList, label = some key) ↔
      ∃ key, label = some key ∧ ∀ list, order = .canonical list → key ∈ list := by
  constructor
  · intro ⟨key, known, here⟩
    exact ⟨key, here, (mem_discover.mp known).2⟩
  · intro ⟨key, here, listed⟩
    exact ⟨key, mem_discover.mpr ⟨here ▸ occurs, listed⟩, here⟩

end Census.KeyTable

namespace Census

theorem mergeSort_eq_of_perm {α : Type} {le : α → α → Bool}
    (transitive : ∀ a b c, le a b = true → le b c = true → le a c = true)
    (total : ∀ a b, (le a b || le b a) = true) {xs ys : List α} (same : xs.Perm ys)
    (settled : ∀ a ∈ xs, ∀ b ∈ xs, le a b = true → le b a = true → a = b) :
    xs.mergeSort le = ys.mergeSort le := by
  apply @List.Perm.eq_of_pairwise α fun a b => le a b = true
  · intro a b left right
    exact settled a (List.mem_mergeSort.mp left) b (same.mem_iff.mpr (List.mem_mergeSort.mp right))
  · exact List.pairwise_mergeSort transitive total xs
  · exact List.pairwise_mergeSort transitive total ys
  · exact (List.mergeSort_perm xs le).trans (same.trans (List.mergeSort_perm ys le).symm)

namespace KeyOrder

theorem numericBefore_trans (a b c : String) (first : numericBefore a b = true)
    (second : numericBefore b c = true) : numericBefore a c = true := by
  unfold numericBefore at *
  generalize Text.int64 a = m at *
  generalize Text.int64 b = n at *
  generalize Text.int64 c = k at *
  cases m <;> cases n <;> cases k <;> simp_all [Int64.le_iff_toInt_le]
  omega

theorem numericBefore_total (a b : String) : (numericBefore a b || numericBefore b a) = true := by
  unfold numericBefore
  cases Text.int64 a <;> cases Text.int64 b <;> simp [Int64.le_iff_toInt_le]
  omega

theorem canonicalBefore_trans (list : List String) (a b c : String)
    (first : canonicalBefore list a b = true) (second : canonicalBefore list b c = true) :
    canonicalBefore list a c = true := by
  unfold canonicalBefore at *
  generalize rank? list a = m at *
  generalize rank? list b = n at *
  generalize rank? list c = k at *
  cases m <;> cases n <;> cases k <;> simp_all
  omega

theorem canonicalBefore_total (list : List String) (a b : String) :
    (canonicalBefore list a b || canonicalBefore list b a) = true := by
  unfold canonicalBefore
  cases rank? list a <;> cases rank? list b <;> simp
  omega

theorem getElem?_of_rank? {list : List String} {label : String} {i : Nat}
    (ranked : rank? list label = some i) : list[i]? = some label := by
  obtain ⟨before, after, shape, -⟩ := List.lookup_eq_some_iff.mp ranked
  have member : (label, i) ∈ list.zipIdx := by
    rw [← List.mem_reverse, shape]
    simp
  exact List.mem_zipIdx_iff_getElem?.mp member

theorem rank?_isSome_of_mem {list : List String} {label : String} (member : label ∈ list) :
    (rank? list label).isSome = true := by
  obtain ⟨i, found⟩ := List.mem_iff_getElem?.mp member
  rw [rank?, List.lookup_isSome_iff]
  exact ⟨(label, i), List.mem_reverse.mpr (List.mem_zipIdx_iff_getElem?.mpr found), by simp⟩

def place (list : List String) (label : String) : Nat :=
  (rank? list label).getD 0

theorem getElem?_place {list : List String} {label : String} (listed : label ∈ list) :
    list[place list label]? = some label := by
  obtain ⟨i, ranked⟩ := Option.isSome_iff_exists.mp (rank?_isSome_of_mem listed)
  rw [place, ranked]
  exact getElem?_of_rank? ranked

theorem place_injective {list : List String} {a b : String} (left : a ∈ list) (right : b ∈ list)
    (same : place list a = place list b) : a = b := by
  have here := getElem?_place left
  rw [same, getElem?_place right] at here
  exact (Option.some.inj here).symm

theorem canonicalBefore_iff {list : List String} {a b : String} (left : a ∈ list)
    (right : b ∈ list) : canonicalBefore list a b = true ↔ place list a ≤ place list b := by
  obtain ⟨i, first⟩ := Option.isSome_iff_exists.mp (rank?_isSome_of_mem left)
  obtain ⟨j, second⟩ := Option.isSome_iff_exists.mp (rank?_isSome_of_mem right)
  simp [canonicalBefore, place, first, second]

theorem canonicalBefore_antisymm {list : List String} {a b : String} (left : a ∈ list)
    (right : b ∈ list) (first : canonicalBefore list a b = true)
    (second : canonicalBefore list b a = true) : a = b :=
  place_injective left right <| Nat.le_antisymm ((canonicalBefore_iff left right).mp first)
    ((canonicalBefore_iff right left).mp second)

theorem arrange_canonical_of_perm (list : List String) {xs ys : List String} (same : xs.Perm ys) :
    (canonical list).arrange xs = (canonical list).arrange ys := by
  apply mergeSort_eq_of_perm (canonicalBefore_trans list) (canonicalBefore_total list)
    (same.filter _)
  intro a left b right
  exact canonicalBefore_antisymm (by simpa using (List.mem_filter.mp left).2)
    (by simpa using (List.mem_filter.mp right).2)

end KeyOrder

end Census
