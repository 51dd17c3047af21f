import Mathlib.Data.List.Basic
import Mathlib.Data.List.Induction
import Mathlib.Data.List.TakeWhile
import Census.Path

set_option autoImplicit false

namespace Census.Path

theorem not_mem_of_mem_splitOn {mark : Char} {text part : List Char}
    (member : part ∈ text.splitOn mark) : mark ∉ part := by
  induction text generalizing part with
  | nil => simp_all
  | cons c text ih =>
    rw [List.splitOn_cons_eq_if_modifyHead] at member
    split at member
    next =>
      rcases List.mem_cons.mp member with rfl | later
      · simp
      · exact ih later
    next other =>
      have apart : mark ≠ c := fun same => other (by simp [same])
      cases split : text.splitOn mark with
      | nil => exact absurd split (List.splitOn_ne_nil _ _)
      | cons first rest =>
        rw [split, List.modifyHead_cons, List.mem_cons] at member
        rw [split] at ih
        rcases member with rfl | later
        · simp [apart, ih (List.mem_cons_self ..)]
        · exact ih (List.mem_cons_of_mem _ later)

theorem intercalate_cons (mark : Char) (first : List Char) (parts : List (List Char)) :
    [mark].intercalate (first :: parts) = first ++ parts.flatMap (mark :: ·) := by
  induction parts generalizing first with
  | nil => simp
  | cons part parts ih => rw [List.intercalate_cons_cons, ih]; simp

section LastMark

variable {mark : Char} {front tail : List Char}

theorem forall_reverse_ne (clean : mark ∉ tail) : ∀ c ∈ tail.reverse, decide (c ≠ mark) = true := by
  intro c member
  exact decide_eq_true fun same => clean (same ▸ List.mem_reverse.mp member)

theorem exists_last_mark {text : List Char} (member : mark ∈ text) :
    ∃ front tail, text = front ++ mark :: tail ∧ mark ∉ tail := by
  have ⟨after, before, split, clean⟩ :=
    List.eq_append_cons_of_mem (List.mem_reverse.mpr member)
  have halves := congrArg List.reverse split
  exact ⟨before.reverse, after.reverse, by simpa using halves, by simpa using clean⟩

theorem takeWhile_reverse_last_mark (front : List Char) (clean : mark ∉ tail) :
    (front ++ mark :: tail).reverse.takeWhile (· ≠ mark) = tail.reverse := by
  have shape : (front ++ mark :: tail).reverse = tail.reverse ++ mark :: front.reverse := by simp
  rw [shape, List.takeWhile_append_of_pos (forall_reverse_ne clean)]
  simp

theorem dropWhile_reverse_last_mark (front : List Char) (clean : mark ∉ tail) :
    (front ++ mark :: tail).reverse.dropWhile (· ≠ mark) = mark :: front.reverse := by
  have shape : (front ++ mark :: tail).reverse = tail.reverse ++ mark :: front.reverse := by simp
  rw [shape, List.dropWhile_append_of_pos (forall_reverse_ne clean)]
  simp

end LastMark

def IsName (name : List Char) : Prop :=
  name ≠ [] ∧ '/' ∉ name

theorem isName_of_mem_components {path : String} {name : List Char}
    (member : name ∈ components path) : IsName name := by
  obtain ⟨part, nonempty⟩ := List.mem_filter.mp member
  exact ⟨of_decide_eq_true nonempty, not_mem_of_mem_splitOn part⟩

def spelled (names : List (List Char)) : List Char :=
  names.flatMap ('/' :: ·)

def ofNames (names : List (List Char)) : String :=
  if names = [] then "/" else String.ofList (spelled names)

/-- A slash leads, and behind it are components of which none is empty; the root has no others. -/
def Normalized (path : String) : Prop :=
  path = "/" ∨ (components path ≠ [] ∧ path.toList.splitOn '/' = [] :: components path)

instance (path : String) : Decidable (Normalized path) :=
  inferInstanceAs (Decidable (_ ∨ _))

theorem intercalate_slash (first : List Char) (names : List (List Char)) :
    ['/'].intercalate (first :: names) = first ++ spelled names :=
  intercalate_cons '/' first names

section Names

variable {names : List (List Char)}

theorem splitOn_spelled (valid : ∀ name ∈ names, IsName name) :
    (spelled names).splitOn '/' = [] :: names := by
  rw [← List.nil_append (spelled names), ← intercalate_slash]
  apply List.splitOn_intercalate
  · rw [List.forall_mem_cons]
    exact ⟨List.not_mem_nil, fun name member => (valid name member).2⟩
  · exact List.cons_ne_nil _ _

theorem components_ofNames (valid : ∀ name ∈ names, IsName name) :
    components (ofNames names) = names := by
  unfold ofNames
  split
  next none_given => rw [none_given]; rfl
  next =>
    rw [components, String.toList_ofList, splitOn_spelled valid]
    simpa using fun name member => (valid name member).1

theorem normalized_ofNames (valid : ∀ name ∈ names, IsName name) : Normalized (ofNames names) := by
  unfold Normalized
  rw [components_ofNames valid, ofNames]
  split
  next => exact .inl rfl
  next some_given => exact .inr ⟨some_given, by rw [String.toList_ofList, splitOn_spelled valid]⟩

theorem Normalized.eq_ofNames {path : String} (normalized : Normalized path) :
    path = ofNames (components path) := by
  rcases normalized with rfl | ⟨some_given, split⟩
  · rfl
  · rw [ofNames, if_neg some_given, ← List.nil_append (spelled _), ← intercalate_slash, ← split,
      List.intercalate_splitOn, String.ofList_toList]

theorem Normalized.toList_eq {path : String} (normalized : Normalized path)
    (some_given : components path ≠ []) : path.toList = spelled (components path) := by
  conv_lhs => rw [normalized.eq_ofNames, ofNames, if_neg some_given, String.toList_ofList]

theorem beforeSlash_append {name : List Char} (clean : '/' ∉ name) (skipped : Nat)
    (text : List Char) :
    beforeSlash skipped (name ++ text) = (beforeSlash skipped text).map (name ++ ·) := by
  induction name with
  | nil => simp
  | cons c name ih =>
    simp only [List.mem_cons, not_or] at clean
    have apart : c ≠ '/' := Ne.symm clean.1
    cases skipped <;> simp [beforeSlash, apart, ih clean.2, Function.comp_def]

theorem beforeSlash_spelled (valid : ∀ name ∈ names, IsName name) {level : Nat}
    (inside : level < names.length) :
    beforeSlash level (spelled names) = some (spelled (names.take level)) := by
  induction names generalizing level with
  | nil => cases inside
  | cons name names ih =>
    obtain ⟨first, others⟩ := List.forall_mem_cons.mp valid
    cases level with
    | zero => simp [beforeSlash, spelled]
    | succ level =>
      have shape : spelled (name :: names) = '/' :: (name ++ spelled names) := rfl
      rw [shape, beforeSlash, if_pos rfl, beforeSlash_append first.2,
        ih others (Nat.lt_of_succ_lt_succ inside)]
      rfl

end Names

section LastComponent

variable {path : String} {front component : List Char}

theorem components_of_isName (named : IsName path.toList) : components path = [path.toList] := by
  rw [components, List.splitOn_eq_singleton named.2]
  simp [named.1]

theorem components_of_last_slash (shape : path.toList = front ++ '/' :: component)
    (named : IsName component) :
    components path = components (String.ofList front) ++ [component] := by
  simp [components, shape, List.splitOn_append_cons_self, List.splitOn_eq_singleton named.2,
    named.1]

theorem name_of_not_slash {c : Char} {rest : List Char}
    (last : path.toList.reverse = c :: rest) (letter : c ≠ '/') :
    name path = String.ofList (path.toList.reverse.takeWhile (· ≠ '/')).reverse := by
  simp [name, last, letter]

theorem getLast?_components_of_not_slash {c : Char} {rest : List Char}
    (last : path.toList.reverse = c :: rest) (letter : c ≠ '/') :
    (components path).getLast? = some (path.toList.reverse.takeWhile (· ≠ '/')).reverse := by
  by_cases slash : '/' ∈ path.toList
  next =>
    have ⟨front, component, shape, clean⟩ := exists_last_mark slash
    have nonempty : component ≠ [] := by
      intro none_left
      simp only [shape, none_left, List.reverse_append, List.reverse_cons, List.reverse_nil,
        List.nil_append, List.singleton_append, List.cons.injEq] at last
      exact letter last.1.symm
    rw [components_of_last_slash shape ⟨nonempty, clean⟩, shape, takeWhile_reverse_last_mark _ clean]
    simp
  next =>
    have nonempty : path.toList ≠ [] := fun none_left => by simp [none_left] at last
    have named : IsName path.toList := ⟨nonempty, slash⟩
    rw [components_of_isName named, List.takeWhile_eq_self_iff.mpr (forall_reverse_ne slash)]
    simp

theorem name_eq_last (path : String) :
    name path = String.ofList ((components path).getLast?.getD ['/']) := by
  generalize text : path.toList = cs
  induction cs using List.reverseRecOn generalizing path with
  | nil => simp [name, components, text]
  | append_singleton cs c ih =>
    by_cases slash : c = '/'
    next =>
      -- Neither side looks at a slash at the end.
      subst slash
      have same_name : name path = name (String.ofList cs) := by simp [name, text]
      have same_components : components path = components (String.ofList cs) := by
        simp [components, text, List.splitOn_append_cons_self]
      rw [same_name, same_components]
      exact ih _ (String.toList_ofList ..)
    next =>
      have last : path.toList.reverse = c :: cs.reverse := by simp [text]
      rw [name_of_not_slash last slash, getLast?_components_of_not_slash last slash, Option.getD_some]

end LastComponent

theorem dropWhile_reverse_spelled {name : List Char} (clean : '/' ∉ name)
    (names : List (List Char)) :
    (spelled (names ++ [name])).reverse.dropWhile (· ≠ '/') = '/' :: (spelled names).reverse := by
  have shape : spelled (names ++ [name]) = spelled names ++ '/' :: name := by simp [spelled]
  rw [shape, dropWhile_reverse_last_mark _ clean]

section Normalized

variable {path label : String} {level : Nat}

theorem components_take (path : String) (level : Nat) :
    components (ofNames ((components path).take level)) = (components path).take level :=
  components_ofNames fun _ member => isName_of_mem_components (List.mem_of_mem_take member)

theorem depth_take (inside : level ≤ depth path) :
    depth (ofNames ((components path).take level)) = level := by
  rw [depth, components_take, List.length_take]
  exact Nat.min_eq_left inside

theorem normalized_take (path : String) (level : Nat) :
    Normalized (ofNames ((components path).take level)) :=
  normalized_ofNames fun _ member => isName_of_mem_components (List.mem_of_mem_take member)

theorem ancestor?_of_normalized (normalized : Normalized path) :
    ancestor? path level =
      if level < depth path then some (ofNames ((components path).take level)) else none := by
  unfold ancestor?
  by_cases deep : level < depth path
  · rw [if_neg (Nat.not_le.mpr deep), if_pos deep]
    have some_given : components path ≠ [] := by
      intro none_given
      simp [depth, none_given] at deep
    cases level with
    | zero => rfl
    | succ level =>
      simp only [normalized.toList_eq some_given,
        beforeSlash_spelled (fun _ => isName_of_mem_components) deep, Option.map_some]
      rw [ofNames, if_neg]
      simpa using some_given
  · rw [if_pos (Nat.not_lt.mp deep), if_neg deep]

theorem parent?_of_normalized (normalized : Normalized path) :
    parent? path =
      if 0 < depth path then some (ofNames ((components path).take (depth path - 1))) else none := by
  rcases List.eq_nil_or_concat' (components path) with none_given | ⟨names, name, shape⟩
  · have root : path = "/" := by rw [normalized.eq_ofNames, none_given]; rfl
    rw [root]
    rfl
  · have some_given : components path ≠ [] := by simp [shape]
    have text := normalized.toList_eq some_given
    have member : name ∈ components path := by simp [shape]
    have last : IsName name := isName_of_mem_components member
    have not_root : ¬(path = "/" ∨ path = "") := by
      rintro (rfl | rfl) <;> exact some_given rfl
    have before : (components path).take (depth path - 1) = names := by simp [depth, shape]
    have deep : 0 < depth path := List.length_pos_iff.mpr some_given
    rw [before, if_pos deep, parent?, if_neg not_root, text, shape,
      dropWhile_reverse_spelled last.2]
    cases names with
    | nil => rfl
    | cons first rest => simp [ofNames, spelled]

end Normalized

def isBelow (path dir : String) : Bool :=
  depth dir < depth path && (components path).take (depth dir) = components dir

theorem not_isBelow_self (path : String) : isBelow path path = false := by
  simp [isBelow]

theorem not_root_isBelow (dir : String) : isBelow "/" dir = false := by
  have root : depth "/" = 0 := rfl
  simp [isBelow, root]

section Below

variable {path label : String} {level : Nat}

theorem isBelow_iff :
    isBelow path label = true ↔
      depth label < depth path ∧ (components path).take (depth label) = components label := by
  simp [isBelow]

theorem ofNames_take_eq_iff (inside : level ≤ depth path) :
    ofNames ((components path).take level) = label ↔
      Normalized label ∧ depth label = level ∧ (components path).take level = components label := by
  constructor
  · rintro rfl
    exact ⟨normalized_take path level, depth_take inside, (components_take path level).symm⟩
  · rintro ⟨normalized, -, same⟩
    rw [same, ← normalized.eq_ofNames]

theorem ancestor?_eq_some_iff (normalized : Normalized path) :
    ancestor? path level = some label ↔
      Normalized label ∧ depth label = level ∧ isBelow path label = true := by
  rw [ancestor?_of_normalized normalized, Option.ite_none_right_eq_some, Option.some.injEq,
    isBelow_iff]
  constructor
  · rintro ⟨deep, here⟩
    obtain ⟨named, rfl, same⟩ := (ofNames_take_eq_iff (Nat.le_of_lt deep)).mp here
    exact ⟨named, rfl, deep, same⟩
  · rintro ⟨named, rfl, deep, same⟩
    exact ⟨deep, (ofNames_take_eq_iff (Nat.le_of_lt deep)).mpr ⟨named, rfl, same⟩⟩

theorem parent?_eq_some_iff (normalized : Normalized path) :
    parent? path = some label ↔
      Normalized label ∧ isBelow path label = true ∧ depth path = depth label + 1 := by
  rw [parent?_of_normalized normalized, Option.ite_none_right_eq_some, Option.some.injEq,
    isBelow_iff, ofNames_take_eq_iff (Nat.sub_le _ _)]
  constructor
  · rintro ⟨deep, named, length, same⟩
    exact ⟨named, ⟨by omega, length ▸ same⟩, by omega⟩
  · rintro ⟨named, ⟨deep, same⟩, length⟩
    have before : depth path - 1 = depth label := by omega
    exact ⟨by omega, named, before.symm, before ▸ same⟩

theorem isBelow_iff_parent?_or (normalized : Normalized path) (named : Normalized label) :
    isBelow path label = true ↔ parent? path = some label ∨
      ∃ child, ancestor? path (depth label + 1) = some child ∧ parent? child = some label := by
  constructor
  · intro below
    obtain ⟨deep, same⟩ := isBelow_iff.mp below
    by_cases direct : depth path = depth label + 1
    · exact .inl ((parent?_eq_some_iff normalized).mpr ⟨named, below, direct⟩)
    · have deeper : depth label + 1 < depth path := by omega
      have length := depth_take (Nat.le_of_lt deeper)
      refine .inr ⟨_, by rw [ancestor?_of_normalized normalized, if_pos deeper],
        (parent?_eq_some_iff (normalized_take path _)).mpr ⟨named, isBelow_iff.mpr ?_, length⟩⟩
      rw [length, components_take, List.take_take, Nat.min_eq_left (Nat.le_succ _)]
      exact ⟨Nat.lt_succ_self _, same⟩
  · rintro (direct | ⟨child, above, direct⟩)
    · exact ((parent?_eq_some_iff normalized).mp direct).2.1
    · obtain ⟨childNamed, length, below⟩ := (ancestor?_eq_some_iff normalized).mp above
      obtain ⟨-, inside, -⟩ := (parent?_eq_some_iff childNamed).mp direct
      obtain ⟨deep, same⟩ := isBelow_iff.mp below
      refine isBelow_iff.mpr ⟨by omega, ?_⟩
      rw [← (isBelow_iff.mp inside).2, ← same, List.take_take, length,
        Nat.min_eq_left (Nat.le_succ _)]

theorem ancestor?_eq_none_of_parent? (normalized : Normalized path)
    (direct : parent? path = some label) : ancestor? path (depth label + 1) = none := by
  obtain ⟨-, -, length⟩ := (parent?_eq_some_iff normalized).mp direct
  rw [ancestor?_of_normalized normalized, if_neg (by omega)]

end Below

end Census.Path
