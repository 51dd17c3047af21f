import Census.Proofs.Ancestors

set_option autoImplicit false

namespace Census.Path

/-- The path goes on behind the directory, with the slash in front of a name. The root has that slash
itself. -/
def LeadsTo (dir path : String) : Prop :=
  ∃ rest, path = dir ++ rest ∧ (dir = "/" ∨ rest.toList.head? = some '/')

def joined (dir name : String) : String :=
  if dir = "/" then "/" ++ name else dir ++ "/" ++ name

structure Lineage (path : String) : Prop where
  parent : ∃ dir, parent? path = some dir ∧ depth dir + 1 = depth path ∧
    path = joined dir (name path)
  reach : ∀ level, (∃ dir, ancestor? path level = some dir) ↔ level < depth path
  nearest : ancestor? path (depth path - 1) = parent? path
  normalized : ∀ level dir, ancestor? path level = some dir → Normalized dir ∧ depth dir = level
  leads : ∀ level dir, ancestor? path level = some dir → LeadsTo dir path
  further : ∀ level dir upper, ancestor? path level = some dir → upper ≤ level →
    ancestor? path upper = if upper = level then some dir else ancestor? dir upper

theorem name_eq_slash_iff (path : String) : name path = "/" ↔ depth path = 0 := by
  rw [name_eq_last, depth, List.length_eq_zero_iff]
  constructor
  · intro slash
    by_contra some_given
    have last := List.getLast?_eq_some_getLast some_given
    have named := isName_of_mem_components (List.getLast_mem some_given)
    rw [last, Option.getD_some, ← String.toList_inj, String.toList_ofList] at slash
    exact named.2 (by simp [slash])
  · intro none_given
    rw [none_given]
    rfl

section Names

variable {names : List (List Char)}

theorem ofNames_of_ne_nil (some_given : names ≠ []) : ofNames names = String.ofList (spelled names) :=
  if_neg some_given

theorem ofNames_eq_root_iff (valid : ∀ name ∈ names, IsName name) :
    ofNames names = "/" ↔ names = [] := by
  constructor
  · intro root
    rw [← components_ofNames valid, root]
    rfl
  · rintro rfl
    rfl

theorem joined_ofNames (valid : ∀ name ∈ names, IsName name) (name : List Char) :
    joined (ofNames names) (String.ofList name) = ofNames (names ++ [name]) := by
  have longer : names ++ [name] ≠ [] := by simp
  rw [ofNames_of_ne_nil longer, ← String.toList_inj]
  -- The root is the one directory that ends in a slash, and it has no names.
  by_cases none_given : names = []
  · subst none_given
    simp [joined, ofNames, spelled]
  · rw [joined, if_neg (mt (ofNames_eq_root_iff valid).mp none_given), ofNames_of_ne_nil none_given]
    simp [spelled]

theorem leadsTo_ofNames (upper : List (List Char)) {lower : List (List Char)} (more : lower ≠ []) :
    LeadsTo (ofNames upper) (ofNames (upper ++ lower)) := by
  obtain ⟨first, others, rfl⟩ := List.exists_cons_of_ne_nil more
  have longer : upper ++ first :: others ≠ [] := by simp
  rw [ofNames_of_ne_nil longer]
  by_cases none_given : upper = []
  · subst none_given
    refine ⟨String.ofList (first ++ spelled others), String.toList_inj.mp ?_, .inl rfl⟩
    simp [ofNames, spelled]
  · refine ⟨String.ofList (spelled (first :: others)), String.toList_inj.mp ?_, .inr ?_⟩
    · simp [ofNames_of_ne_nil none_given, spelled]
    · simp [spelled]

end Names

section Normalized

variable {path dir : String} {level upper : Nat}

theorem ancestor?_eq_some_take_iff (normalized : Normalized path) :
    ancestor? path level = some dir ↔
      level < depth path ∧ ofNames ((components path).take level) = dir := by
  rw [ancestor?_of_normalized normalized, Option.ite_none_right_eq_some, Option.some.injEq]

theorem leadsTo_of_ancestor? (normalized : Normalized path)
    (above : ancestor? path level = some dir) : LeadsTo dir path := by
  obtain ⟨deep, rfl⟩ := (ancestor?_eq_some_take_iff normalized).mp above
  have more : (components path).drop level ≠ [] := mt List.drop_eq_nil_iff.mp (Nat.not_le.mpr deep)
  have leads := leadsTo_ofNames ((components path).take level) more
  rwa [List.take_append_drop, ← normalized.eq_ofNames] at leads

theorem joined_of_parent? (normalized : Normalized path) (direct : parent? path = some dir) :
    path = joined dir (name path) := by
  rw [parent?_of_normalized normalized, Option.ite_none_right_eq_some, Option.some.injEq] at direct
  obtain ⟨deep, rfl⟩ := direct
  have some_given : components path ≠ [] := List.length_pos_iff.mp deep
  have valid : ∀ name ∈ (components path).dropLast, IsName name := fun _ member =>
    isName_of_mem_components ((List.dropLast_sublist _).mem member)
  rw [name_eq_last, List.getLast?_eq_some_getLast some_given, Option.getD_some, depth,
    ← List.dropLast_eq_take, joined_ofNames valid, List.dropLast_append_getLast some_given,
    ← normalized.eq_ofNames]

theorem ancestor?_of_ancestor? (normalized : Normalized path)
    (above : ancestor? path level = some dir) (higher : upper ≤ level) :
    ancestor? path upper = if upper = level then some dir else ancestor? dir upper := by
  split
  next same => rw [same, above]
  next other =>
    obtain ⟨deep, rfl⟩ := (ancestor?_eq_some_take_iff normalized).mp above
    have between : upper < level := Nat.lt_of_le_of_ne higher other
    -- Both are the first names of the path, and the shorter cut is what remains.
    rw [ancestor?_of_normalized normalized, ancestor?_of_normalized (normalized_take path level),
      depth_take (Nat.le_of_lt deep), if_pos (Nat.lt_trans between deep), if_pos between,
      components_take, List.take_take, Nat.min_eq_left higher]

theorem lineage_of_normalized (normalized : Normalized path) (deep : 0 < depth path) :
    Lineage path where
  parent := by
    have direct := parent?_of_normalized normalized
    rw [if_pos deep] at direct
    refine ⟨_, direct, ?_, joined_of_parent? normalized direct⟩
    rw [depth_take (Nat.sub_le _ _)]
    omega
  reach level := by simp [ancestor?_of_normalized normalized]
  nearest := by
    have last : depth path - 1 < depth path := by omega
    rw [ancestor?_of_normalized normalized, parent?_of_normalized normalized, if_pos last, if_pos deep]
  normalized level dir above := by
    obtain ⟨named, length, -⟩ := (ancestor?_eq_some_iff normalized).mp above
    exact ⟨named, length⟩
  leads _ _ above := leadsTo_of_ancestor? normalized above
  further _ _ _ above higher := ancestor?_of_ancestor? normalized above higher

end Normalized

theorem accessors_cohere :
    (∀ path, name path = String.ofList ((components path).getLast?.getD ['/']) ∧
      (name path = "/" ↔ depth path = 0)) ∧
    (∀ path, Normalized path → 0 < depth path → Lineage path) ∧
    parent? "/" = none ∧ ∀ level, ancestor? "/" level = none := by
  refine ⟨fun path => ⟨name_eq_last path, name_eq_slash_iff path⟩,
    fun path => lineage_of_normalized, rfl, fun level => ?_⟩
  have root : Normalized "/" := .inl rfl
  rw [ancestor?_of_normalized root]
  exact if_neg (Nat.not_lt_zero level)

theorem accessors_cohere_of_spaced_names :
    Normalized "/ü/a b/日.txt" ∧ 0 < depth "/ü/a b/日.txt" ∧
      Lineage "/ü/a b/日.txt" ∧ "/ü/a b/日.txt" = joined "/ü/a b" "日.txt" := by
  have normalized : Normalized "/ü/a b/日.txt" := by decide
  have deep : 0 < depth "/ü/a b/日.txt" := by decide
  have lineage := accessors_cohere.2.1 "/ü/a b/日.txt" normalized deep
  exact ⟨normalized, deep, lineage, by decide⟩

end Census.Path
