import Mathlib.Data.List.Basic
import Mathlib.Data.List.Induction
import Census.Histogram

set_option autoImplicit false

namespace Census.Histogram

variable {β : Type}

theorem locate_snoc (entries : List (String × β)) (last : String × β) :
    locate (entries ++ [last]) = (locate entries).insertIfNew last.1 entries.length := by
  simp [locate, List.zipIdx_append, List.foldl_append]

theorem getElem?_locate (entries : List (String × β)) (label : String) :
    (locate entries)[label]? = entries.findIdx? (·.1 == label) := by
  induction entries using List.reverseRecOn with
  | nil => simp [locate]
  | append_singleton entries last ih =>
    rw [locate_snoc, Std.HashMap.getElem?_insertIfNew, List.findIdx?_append, ← ih]
    by_cases same : last.1 = label
    · subst same
      cases found : (locate entries)[last.1]? with
      | none =>
        have fresh : last.1 ∉ locate entries := by
          simp [Std.HashMap.mem_iff_isSome_getElem?, found]
        simp [fresh]
      | some position =>
        have known : last.1 ∈ locate entries := by
          simp [Std.HashMap.mem_iff_isSome_getElem?, found]
        simp [known]
    · simp [same]

theorem get?_ofEntries (entries : List (String × β)) (label : String) :
    (ofEntries entries).get? label = entries.lookup label := by
  simp only [get?, ofEntries, getElem?_locate]
  induction entries with
  | nil => rfl
  | cons entry rest ih =>
    obtain ⟨name, value⟩ := entry
    by_cases same : name = label
    · simp [List.findIdx?_cons, same]
    · have other : (label == name) = false := by simpa using Ne.symm same
      simp only [List.findIdx?_cons, beq_iff_eq, same, if_false, List.lookup_cons, other, ← ih]
      cases rest.findIdx? (·.1 == label) <;> simp

@[simp] theorem get?_empty (label : String) : (empty : Histogram β).get? label = none :=
  get?_ofEntries [] label

theorem filter_all (h : Histogram β) : (h.filter fun _ _ => true) = h := by
  simp [filter, restrict]

theorem filter_ofEntries (entries : List (String × β)) (keep : String → β → Bool) :
    (ofEntries entries).filter keep =
      ofEntries (entries.filter fun (label, value) => keep label value) := by
  unfold filter restrict
  split
  next full =>
    have whole : entries.filter (fun (label, value) => keep label value) = entries :=
      List.filter_sublist.eq_of_length full
    rw [whole]
    exact congrArg (Histogram.mk · (locate entries)) whole
  next => rfl

theorem values_ofEntries (entries : List (String × β)) :
    (ofEntries entries).values = entries.map Prod.snd :=
  rfl

theorem values_filter_ofEntries (entries : List (String × β)) (keep : β → Bool) :
    ((ofEntries entries).filter fun _ value => keep value).values =
      (entries.map Prod.snd).filter keep := by
  rw [filter_ofEntries, values_ofEntries, List.filter_map]
  rfl

theorem lookup_map_self (keys : List String) (value : String → β) (label : String) :
    (keys.map fun key => (key, value key)).lookup label =
      if label ∈ keys then some (value label) else none := by
  induction keys with
  | nil => rfl
  | cons key rest ih =>
    by_cases same : label = key
    · simp [same]
    · rw [List.map_cons, List.lookup_cons, beq_false_of_ne same, ih]
      simp [same]

theorem get?_keyed (keys : List String) (value : String → β) (label : String) :
    (ofEntries (keys.map fun key => (key, value key))).get? label =
      if label ∈ keys then some (value label) else none := by
  rw [get?_ofEntries, lookup_map_self]

theorem filter_keyed (keys : List String) (value : String → β) (keep : β → Bool) :
    (ofEntries (keys.map fun key => (key, value key))).filter (fun _ v => keep v) =
      ofEntries ((keys.filter fun key => keep (value key)).map fun key => (key, value key)) := by
  rw [filter_ofEntries, List.filter_map]
  rfl

theorem labels_keyed (keys : List String) (value : String → β) :
    (ofEntries (keys.map fun key => (key, value key))).labels = keys := by
  simp [labels, ofEntries, Function.comp_def]

theorem get?_filter_keyed (keys : List String) (value : String → β) (keep : β → Bool)
    (label : String) :
    ((ofEntries (keys.map fun key => (key, value key))).filter fun _ v => keep v).get? label =
      ((ofEntries (keys.map fun key => (key, value key))).get? label).filter keep := by
  rw [filter_keyed, get?_keyed, get?_keyed]
  by_cases known : label ∈ keys <;> simp [known, Option.filter]

theorem labels_filter_keyed (keys : List String) (value : String → β) (keep : β → Bool) :
    ((ofEntries (keys.map fun key => (key, value key))).filter fun _ v => keep v).labels =
      keys.filter
        ((ofEntries (keys.map fun key => (key, value key))).filter fun _ v => keep v).contains := by
  rw [filter_keyed, labels_keyed]
  apply List.filter_congr
  intro key known
  cases kept : keep (value key) <;> simp [contains, get?_keyed, known, kept]

theorem lookup_zip_of_nodup {labels : List String} {values : List β} (distinct : labels.Nodup)
    {k : Nat} (label_inside : k < labels.length) (value_inside : k < values.length) :
    (labels.zip values).lookup labels[k] = some values[k] := by
  induction labels generalizing values k with
  | nil => cases label_inside
  | cons label rest ih =>
    obtain ⟨fresh, later⟩ := List.nodup_cons.mp distinct
    cases values with
    | nil => cases value_inside
    | cons value others =>
      cases k with
      | zero => simp
      | succ k =>
        have left : k < rest.length := by simpa using label_inside
        have right : k < others.length := by simpa using value_inside
        have other : rest[k] ≠ label := fun same => fresh (same ▸ List.getElem_mem left)
        rw [List.zip_cons_cons, List.getElem_cons_succ, List.lookup_cons, beq_false_of_ne other]
        exact ih later left right

end Census.Histogram
