import Census.Proofs.Entries
import Census.Proofs.Keys

set_option autoImplicit false

namespace Census

inductive Edit (β : Type) where
  | insert (label : String) (value : β)
  | remove (label : String)
  | retain (keep : String → β → Bool)

def Edit.run {σ β : Type} (edit : σ → Edit β → Option β × σ) :
    σ → List (Edit β) → List (Option β) × σ
  | s, [] => ([], s)
  | s, change :: changes =>
    let (answer, next) := edit s change
    let (answers, last) := run edit next changes
    (answer :: answers, last)

abbrev Entries (β : Type) := List (String × β)

namespace Entries

variable {β : Type}

def labels (entries : Entries β) : List String :=
  entries.map Prod.fst

def put (label : String) (value : β) : Entries β → Entries β
  | [] => [(label, value)]
  | (l, v) :: rest =>
    if l = label then (l, value) :: rest else (l, v) :: put label value rest

def without (label : String) (entries : Entries β) : Entries β :=
  entries.filter (·.1 ≠ label)

def edit (entries : Entries β) : Edit β → Option β × Entries β
  | .insert label value => (none, put label value entries)
  | .remove label => (entries.lookup label, without label entries)
  | .retain keep => (none, entries.filter fun (label, value) => keep label value)

theorem labels_append (xs ys : Entries β) : labels (xs ++ ys) = labels xs ++ labels ys :=
  List.map_append

theorem put_of_not_mem {label : String} (value : β) {entries : Entries β}
    (fresh : label ∉ labels entries) : put label value entries = entries ++ [(label, value)] := by
  induction entries with
  | nil => rfl
  | cons entry rest ih =>
    simp only [labels, List.map_cons, List.mem_cons, not_or] at fresh
    rw [put, if_neg (Ne.symm fresh.1), ih fresh.2]
    rfl

theorem put_append_cons {label : String} (value v : β) {before : Entries β}
    (fresh : label ∉ labels before) (after : Entries β) :
    put label value (before ++ (label, v) :: after) = before ++ (label, value) :: after := by
  induction before with
  | nil => simp [put]
  | cons entry rest ih =>
    simp only [labels, List.map_cons, List.mem_cons, not_or] at fresh
    rw [List.cons_append, put, if_neg (Ne.symm fresh.1), ih fresh.2]
    rfl

theorem lookup_of_not_mem {label : String} {entries : Entries β}
    (fresh : label ∉ labels entries) : entries.lookup label = none := by
  rw [List.lookup_eq_none_iff]
  intro entry member
  exact bne_iff_ne.mpr fun same => fresh (same ▸ List.mem_map_of_mem member)

theorem without_of_not_mem {label : String} {entries : Entries β}
    (fresh : label ∉ labels entries) : without label entries = entries := by
  apply List.filter_eq_self.mpr
  intro entry member
  exact decide_eq_true fun same => fresh (same ▸ List.mem_map_of_mem member)

section Place

variable {label : String} {entries : Entries β} {i : Nat}

theorem exists_split (distinct : (labels entries).Nodup)
    (here : (labels entries)[i]? = some label) :
    ∃ before value after, entries = before ++ (label, value) :: after ∧ before.length = i ∧
      label ∉ labels before ∧ label ∉ labels after := by
  rw [labels, List.getElem?_map, Option.map_eq_some_iff] at here
  obtain ⟨⟨l, value⟩, found, rfl⟩ := here
  obtain ⟨inside, entry⟩ := List.getElem?_eq_some_iff.mp found
  have shape : entries = entries.take i ++ (l, value) :: entries.drop (i + 1) := by
    rw [← entry, List.getElem_cons_drop, List.take_append_drop]
  refine ⟨_, value, _, shape, List.length_take_of_le (by omega), ?_⟩
  rw [shape, labels, List.map_append, List.nodup_append, List.map_cons, List.nodup_cons] at distinct
  exact ⟨fun member => distinct.2.2 l member l (by simp) rfl, distinct.2.1.1⟩

theorem put_eq_modify (distinct : (labels entries).Nodup)
    (here : (labels entries)[i]? = some label) (value : β) :
    put label value entries = entries.modify i fun (l, _) => (l, value) := by
  obtain ⟨before, v, after, rfl, rfl, fresh, -⟩ := exists_split distinct here
  rw [put_append_cons value v fresh, List.modify_eq_take_cons_drop (by simp)]
  simp

theorem labels_put (distinct : (labels entries).Nodup) (here : (labels entries)[i]? = some label)
    (value : β) : labels (put label value entries) = labels entries := by
  obtain ⟨before, v, after, rfl, -, fresh, -⟩ := exists_split distinct here
  rw [put_append_cons value v fresh]
  simp [labels]

theorem without_eq_eraseIdx (distinct : (labels entries).Nodup)
    (here : (labels entries)[i]? = some label) : without label entries = entries.eraseIdx i := by
  obtain ⟨before, v, after, rfl, rfl, fresh, later⟩ := exists_split distinct here
  rw [without, List.filter_append, List.filter_cons_of_neg (by simp),
    List.eraseIdx_append_of_length_le (Nat.le_refl _), Nat.sub_self]
  exact congrArg₂ _ (without_of_not_mem fresh) (without_of_not_mem later)

theorem labels_without (distinct : (labels entries).Nodup)
    (here : (labels entries)[i]? = some label) :
    labels (without label entries) = (labels entries).eraseIdx i := by
  obtain ⟨before, v, after, rfl, rfl, fresh, later⟩ := exists_split distinct here
  have length : (labels before).length = before.length := by simp [labels]
  rw [without_eq_eraseIdx distinct here, List.eraseIdx_append_of_length_le (Nat.le_refl _),
    labels_append, labels_append, List.eraseIdx_append_of_length_le (by omega), length, Nat.sub_self]
  rfl

theorem lookup_eq_at (distinct : (labels entries).Nodup)
    (here : (labels entries)[i]? = some label) :
    entries.lookup label = (entries[i]?).map Prod.snd := by
  obtain ⟨before, v, after, rfl, rfl, fresh, -⟩ := exists_split distinct here
  simp [List.lookup_append, lookup_of_not_mem fresh]

end Place

end Entries

namespace Histogram

variable {β : Type}

def edit (h : Histogram β) : Edit β → Option β × Histogram β
  | .insert label value => (none, h.insert label value)
  | .remove label => h.remove label
  | .retain keep => (none, h.filter keep)

def Locates (positions : Std.HashMap String Nat) (labels : List String) : Prop :=
  ∀ label (i : Nat), positions[label]? = some i ↔ labels[i]? = some label

theorem Locates.insert {positions : Std.HashMap String Nat} {labels : List String}
    (locates : Locates positions labels) {label : String} (fresh : label ∉ labels) :
    Locates (positions.insert label labels.length) (labels ++ [label]) := by
  intro l i
  have outside : labels[i]? ≠ some label := fun here => fresh (List.mem_of_getElem? here)
  rw [Std.HashMap.getElem?_insert]
  by_cases same : label = l <;> by_cases inside : i < labels.length
  · subst same
    have apart : labels.length ≠ i := by omega
    simp [List.getElem?_append_left inside, outside, apart]
  · subst same
    have last : i - labels.length = 0 ↔ labels.length = i := by omega
    simp [List.getElem?_append_right (Nat.le_of_not_lt inside), List.getElem?_singleton, last]
  · simp [same, List.getElem?_append_left inside, locates l i]
  · have nowhere : labels[i]? ≠ some l := by simp [Nat.le_of_not_lt inside]
    simp [same, locates l i, nowhere, List.getElem?_append_right (Nat.le_of_not_lt inside),
      List.getElem?_singleton]

theorem Locates.eraseIdx {positions : Std.HashMap String Nat} {labels : List String}
    (locates : Locates positions labels) (distinct : labels.Nodup) {label : String}
    {position : Nat} (here : labels[position]? = some label) :
    Locates ((positions.erase label).map fun _ p => if position < p then p - 1 else p)
      (labels.eraseIdx position) := by
  intro l i
  have unique : ∀ p, labels[p]? = some label → p = position := by
    intro p there
    obtain ⟨inside, _⟩ := List.getElem?_eq_some_iff.mp there
    exact (List.getElem?_inj inside distinct).mp (there.trans here.symm)
  rw [Std.HashMap.getElem?_map, Std.HashMap.getElem?_erase, List.getElem?_eraseIdx]
  by_cases same : label = l
  · subst same
    rw [if_pos (beq_self_eq_true label)]
    constructor
    · intro found
      cases found
    · intro there
      split at there
      next before => exact absurd (unique i there) (Nat.ne_of_lt before)
      next after => exact absurd (unique (i + 1) there) (by omega)
  · rw [beq_false_of_ne same, if_neg Bool.false_ne_true, Option.map_eq_some_iff]
    simp only [locates l]
    -- Places before the one that goes stay, and those behind it move up.
    constructor
    · intro ⟨p, there, moved⟩
      have apart : p ≠ position := by
        intro equal
        exact same (Option.some.inj (here.symm.trans (equal ▸ there)))
      by_cases after : position < p
      · obtain rfl : p = i + 1 := by rw [if_pos after] at moved; omega
        rwa [if_neg (by omega)]
      · obtain rfl : p = i := by rwa [if_neg after] at moved
        rwa [if_pos (by omega)]
    · intro there
      split at there
      next before => exact ⟨i, there, if_neg (by omega)⟩
      next after => exact ⟨i + 1, there, by rw [if_pos (by omega)]; omega⟩

structure Follows (h : Histogram β) (entries : Entries β) : Prop where
  same : h.entries = entries
  distinct : entries.labels.Nodup
  located : Locates h.positions entries.labels

theorem empty_follows : (empty : Histogram β).Follows [] where
  same := rfl
  distinct := List.nodup_nil
  located := by simp [Locates, empty, Entries.labels]

theorem ofEntries_follows {entries : Entries β} (distinct : entries.labels.Nodup) :
    (ofEntries entries).Follows entries where
  same := rfl
  distinct := distinct
  located := by
    intro label i
    rw [ofEntries, getElem?_locate]
    constructor
    · intro found
      obtain ⟨inside, here, -⟩ := List.findIdx?_eq_some_iff_getElem.mp found
      simp [Entries.labels, inside, eq_of_beq here]
    · intro here
      obtain ⟨before, v, after, rfl, rfl, fresh, -⟩ := Entries.exists_split distinct here
      have none_before : before.findIdx? (·.1 == label) = none := by
        rw [List.findIdx?_eq_none_iff]
        intro entry member
        exact beq_false_of_ne fun same => fresh (same ▸ List.mem_map_of_mem member)
      simp [List.findIdx?_append, none_before, List.findIdx?_cons]

namespace Follows

variable {h : Histogram β} {entries : Entries β}

theorem positions_eq_none (follows : h.Follows entries) {label : String} :
    h.positions[label]? = none ↔ label ∉ entries.labels := by
  rw [Option.eq_none_iff_forall_ne_some, List.mem_iff_getElem?, not_exists]
  simp only [ne_eq, follows.located label]

theorem insert (follows : h.Follows entries) (label : String) (value : β) :
    (h.insert label value).Follows (entries.put label value) := by
  unfold Histogram.insert
  cases found : h.positions[label]? with
  | some position =>
    have here := (follows.located label position).mp found
    have labels := Entries.labels_put follows.distinct here value
    constructor
    · rw [Entries.put_eq_modify follows.distinct here, ← follows.same]
    · rw [labels]
      exact follows.distinct
    · rw [labels]
      exact follows.located
  | none =>
    have fresh := follows.positions_eq_none.mp found
    rw [Entries.put_of_not_mem value fresh]
    constructor
    · simp only [follows.same]
    · rw [Entries.labels_append, List.nodup_append]
      refine ⟨follows.distinct, by simp [Entries.labels], fun l member other last same => ?_⟩
      obtain rfl : other = label := by simpa [Entries.labels] using last
      exact fresh (same ▸ member)
    · have length : h.entries.length = entries.labels.length := by
        simp [follows.same, Entries.labels]
      rw [Entries.labels_append, length]
      exact follows.located.insert fresh

theorem erase (follows : h.Follows entries) (label : String) :
    (h.erase label).Follows (entries.without label) := by
  unfold Histogram.erase
  cases found : h.positions[label]? with
  | none =>
    rw [Entries.without_of_not_mem (follows.positions_eq_none.mp found)]
    exact follows
  | some position =>
    have here := (follows.located label position).mp found
    constructor
    · rw [Entries.without_eq_eraseIdx follows.distinct here, ← follows.same]
    · exact follows.distinct.sublist (List.filter_sublist.map _)
    · rw [Entries.labels_without follows.distinct here]
      exact follows.located.eraseIdx follows.distinct here

theorem filter (follows : h.Follows entries) (keep : String → β → Bool) :
    (h.filter keep).Follows (List.filter (fun (label, value) => keep label value) entries) := by
  unfold Histogram.filter restrict
  rw [follows.same]
  split
  next full =>
    rw [List.filter_sublist.eq_of_length full]
    exact ⟨rfl, follows.distinct, follows.located⟩
  next => exact ofEntries_follows (follows.distinct.sublist (List.filter_sublist.map _))

theorem get? (follows : h.Follows entries) (label : String) :
    h.get? label = entries.lookup label := by
  unfold Histogram.get?
  cases found : h.positions[label]? with
  | none =>
    rw [Entries.lookup_of_not_mem (follows.positions_eq_none.mp found)]
    rfl
  | some position =>
    have here := (follows.located label position).mp found
    rw [Entries.lookup_eq_at follows.distinct here, ← follows.same]
    rfl

theorem contains_iff (follows : h.Follows entries) (label : String) :
    h.contains label = true ↔ label ∈ entries.labels := by
  rw [contains, follows.get?, List.lookup_isSome_iff, Entries.labels, List.mem_map]
  simp only [beq_iff_eq, eq_comm (a := label)]

theorem edit (follows : h.Follows entries) (change : Edit β) :
    (h.edit change).1 = (entries.edit change).1 ∧
      (h.edit change).2.Follows (entries.edit change).2 := by
  cases change with
  | insert label value => exact ⟨rfl, follows.insert label value⟩
  | remove label => exact ⟨follows.get? label, follows.erase label⟩
  | retain keep => exact ⟨rfl, follows.filter keep⟩

theorem run (follows : h.Follows entries) (changes : List (Edit β)) :
    (Edit.run Histogram.edit h changes).1 = (Edit.run Entries.edit entries changes).1 ∧
      (Edit.run Histogram.edit h changes).2.Follows (Edit.run Entries.edit entries changes).2 := by
  induction changes generalizing h entries with
  | nil => exact ⟨rfl, follows⟩
  | cons change changes ih =>
    have ⟨answer, next⟩ := follows.edit change
    have ⟨answers, last⟩ := ih next
    exact ⟨congrArg₂ _ answer answers, last⟩

end Follows

theorem insertAll_follows (pairs : List (String × β)) :
    (insertAll pairs).Follows
      (pairs.foldl (fun entries (label, value) => Entries.put label value entries) []) := by
  induction pairs using List.reverseRecOn with
  | nil => exact empty_follows
  | append_singleton pairs pair ih =>
    rw [insertAll, List.foldl_append, List.foldl_append]
    exact ih.insert pair.1 pair.2

theorem zipColumns_follows (columns : List (Histogram Int64)) :
    (zipColumns columns).Follows (zipColumns columns).entries := by
  apply ofEntries_follows
  have distinct := (KeyTable.ofKeys_consistent (columns.flatMap labels)).distinct
  simpa [Entries.labels, Function.comp_def] using distinct

structure Tells (h : Histogram β) (entries : Entries β) : Prop where
  get : ∀ label, h.get? label = entries.lookup label
  contains : ∀ label, h.contains label = true ↔ label ∈ entries.labels
  size : h.size = entries.length
  labels : h.labels = entries.labels
  values : h.values = entries.map Prod.snd

theorem Follows.tells {h : Histogram β} {entries : Entries β} (follows : h.Follows entries) :
    h.Tells entries where
  get := follows.get?
  contains := follows.contains_iff
  size := congrArg List.length follows.same
  labels := congrArg Entries.labels follows.same
  values := congrArg (List.map Prod.snd) follows.same

theorem Follows.same_iff [DecidableEq β] {a b : Histogram β} {xs ys : Entries β}
    (left : a.Follows xs) (right : b.Follows ys) : a.same b = true ↔ xs = ys := by
  rw [Histogram.same, decide_eq_true_eq, left.same, right.same]

theorem Follows.total {h : Histogram Int64} {entries : Entries Int64} (follows : h.Follows entries) :
    h.total = satSum (entries.map Prod.snd) :=
  congrArg satSum follows.tells.values

inductive Begins : {β : Type} → Histogram β → Entries β → Prop where
  | empty {β : Type} : Begins (.empty : Histogram β) []
  | insertAll {β : Type} (pairs : List (String × β)) :
    Begins (.insertAll pairs)
      (pairs.foldl (fun entries (label, value) => Entries.put label value entries) [])
  | zipColumns (columns : List (Histogram Int64)) :
    Begins (.zipColumns columns) (zipColumns columns).entries

theorem Begins.follows {h : Histogram β} {entries : Entries β} (begins : Begins h entries) :
    h.Follows entries := by
  cases begins with
  | empty => exact empty_follows
  | insertAll pairs => exact insertAll_follows pairs
  | zipColumns columns => exact zipColumns_follows columns

theorem edits_follow_list :
    (∀ (β : Type) (h : Histogram β) (entries : Entries β), Begins h entries →
      ∀ changes : List (Edit β), ∃ answers after list,
        Edit.run Histogram.edit h changes = (answers, after) ∧
        Edit.run Entries.edit entries changes = (answers, list) ∧
        after.Follows list ∧ after.Tells list) ∧
    (∀ (h : Histogram Int64) (entries : Entries Int64), h.Follows entries →
      h.total = satSum (entries.map Prod.snd)) ∧
    ∀ (β : Type) [DecidableEq β] (a b : Histogram β) (xs ys : Entries β),
      a.Follows xs → b.Follows ys → (a.same b = true ↔ xs = ys) := by
  refine ⟨?_, fun _ _ follows => follows.total, fun _ _ _ _ _ _ left right => left.same_iff right⟩
  intro β h entries begins changes
  obtain ⟨answers, last⟩ := begins.follows.run changes
  exact ⟨_, _, _, rfl, Prod.ext answers.symm rfl, last, last.tells⟩

/-- The label behind one that went moves up, and the index finds it there. -/
theorem edits_follow_list_after_removal :
    ∃ after : Histogram Int64,
      Edit.run Histogram.edit (insertAll [("a", 1), ("b", 2), ("c", 3)])
          [.remove "a", .insert "c" 30, .insert "a" 5, .remove "x"] =
        ([some 1, none, none, none], after) ∧
      after.get? "c" = some 30 ∧ after.labels = ["b", "c", "a"] := by
  obtain ⟨answers, after, list, edited, plain, -, tells⟩ := edits_follow_list.1 Int64 _ _
    (.insertAll [("a", 1), ("b", 2), ("c", 3)])
    [.remove "a", .insert "c" 30, .insert "a" 5, .remove "x"]
  obtain ⟨rfl, rfl⟩ := Prod.mk.inj plain
  exact ⟨after, edited, tells.get "c", tells.labels⟩

end Histogram

end Census
