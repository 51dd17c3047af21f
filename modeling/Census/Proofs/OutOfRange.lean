import Census.Proofs.Pruning

set_option autoImplicit false

namespace Census.IndexedConditions

def Met (values : List Int64) (condition : Nat × LongComparison) : Prop :=
  ∃ value, values[condition.1]? = some value ∧ condition.2.test value = true

def Stumbles (values : List Int64) (conditions : List (Nat × LongComparison)) (fault : QueryError) :
    Prop :=
  Reaches (Met values) (fun condition => values.length ≤ condition.1 ∧
    fault = .malformedOperand "condition index" (Text.decimal condition.1)
      ("bucket holds " ++ Text.decimal values.length ++ " values")) conditions

section Buckets

variable {values : List Int64} {conditions : IndexedConditions} {fault : QueryError}

theorem met_iff_of_found {place : Nat} {value : Int64} (found : values[place]? = some value)
    (comparison : LongComparison) :
    Met values (place, comparison) ↔ comparison.test value = true := by
  simp only [Met, found, Option.some.injEq, exists_eq_left']

theorem not_met_of_past {condition : Nat × LongComparison} (past : values.length ≤ condition.1) :
    ¬Met values condition := by
  rintro ⟨value, found, -⟩
  rw [List.getElem?_eq_none past] at found
  cases found

theorem check_eq_error_iff :
    conditions.check values = .error fault ↔ Stumbles values conditions.comparisons fault := by
  obtain ⟨comparisons⟩ := conditions
  simp only [check]
  induction comparisons with
  | nil => simp [checkAll, Stumbles, not_reaches_nil]
  | cons condition rest ih =>
    obtain ⟨place, comparison⟩ := condition
    rw [Stumbles, reaches_cons_iff, ← Stumbles, ← ih, checkAll]
    cases found : values[place]? with
    | none =>
      have past : values.length ≤ place := List.getElem?_eq_none_iff.mp found
      have unmet : ¬Met values (place, comparison) := not_met_of_past past
      simp only [Except.error.injEq, past, unmet, true_and, false_and, or_false]
      exact eq_comm
    | some value =>
      have inside : ¬values.length ≤ place :=
        Nat.not_le.mpr (List.getElem?_eq_some_iff.mp found).1
      simp only [met_iff_of_found found, inside, false_and, false_or]
      cases comparison.test value <;> simp

theorem decides_iff :
    conditions.Decides values ↔ ∀ fault, ¬Stumbles values conditions.comparisons fault := by
  simp only [Decides, ← check_eq_error_iff]
  cases conditions.check values <;> simp

theorem keeps_iff :
    conditions.keeps values = true ↔ ∀ condition ∈ conditions.comparisons, Met values condition := by
  obtain ⟨comparisons⟩ := conditions
  simp only [keeps, check]
  induction comparisons with
  | nil => simp [checkAll, Except.toOption]
  | cons condition rest ih =>
    obtain ⟨place, comparison⟩ := condition
    rw [List.forall_mem_cons, ← ih, checkAll]
    cases found : values[place]? with
    | none =>
      have unmet : ¬Met values (place, comparison) :=
        not_met_of_past (List.getElem?_eq_none_iff.mp found)
      simp [unmet, Except.toOption]
    | some value =>
      rw [met_iff_of_found found]
      cases tested : comparison.test value <;> simp [tested, Except.toOption]

end Buckets

theorem passing_eq_error_iff {conditions : IndexedConditions}
    {entries : List (String × List Int64)} {fault : QueryError} :
    conditions.passing entries = .error fault ↔
      Reaches (fun entry => conditions.Decides entry.2)
        (fun entry => conditions.check entry.2 = .error fault) entries := by
  induction entries with
  | nil => simp [passing, not_reaches_nil]
  | cons entry rest ih =>
    obtain ⟨label, values⟩ := entry
    rw [reaches_cons_iff, ← ih, passing]
    cases checked : conditions.check values with
    | error e => simp [Decides, checked, bind, Except.bind]
    | ok b =>
      cases conditions.passing rest <;> simp [Decides, checked, bind, Except.bind, pure, Except.pure]

theorem prune_eq_error_iff {h : Histogram (List Int64)} {spec : String} {now : Int64}
    {conditions : IndexedConditions} (read : parse spec now = .ok conditions)
    {fault : QueryError} :
    prune h spec now = .error fault ↔
      Reaches (fun entry => ∀ e, ¬Stumbles entry.2 conditions.comparisons e)
        (fun entry => Stumbles entry.2 conditions.comparisons fault) h.entries := by
  simp only [← decides_iff]
  simp only [← check_eq_error_iff]
  rw [← passing_eq_error_iff, prune, read]
  cases passed : conditions.passing h.entries <;>
    simp [passed, bind, Except.bind, pure, Except.pure]

theorem exists_parse_of_perm {spec spec' : String} {now : Int64} {conditions : IndexedConditions}
    (reordered : (segments ',' spec).Perm (segments ',' spec'))
    (read : parse spec now = .ok conditions) :
    ∃ order, parse spec' now = .ok order ∧ order.comparisons.Perm conditions.comparisons := by
  unfold parse at read ⊢
  cases mapped : (segments ',' spec).mapM (parseOne now) with
  | error fault => simp [mapped, bind, Except.bind] at read
  | ok comparisons =>
    obtain rfl : mk comparisons = conditions := by
      simpa [mapped, bind, Except.bind, pure, Except.pure] using read
    obtain ⟨others, mapped', same⟩ := exists_mapM_of_perm reordered mapped
    exact ⟨⟨others⟩, by rw [mapped']; rfl, same.symm⟩

theorem keeps_eq_of_perm {conditions order : IndexedConditions}
    (reordered : order.comparisons.Perm conditions.comparisons) : order.keeps = conditions.keeps := by
  funext values
  rw [Bool.eq_iff_iff, keeps_iff, keeps_iff]
  simp only [reordered.mem_iff]

theorem prune_unique_of_perm {h t t' : Histogram (List Int64)} {spec spec' : String} {now : Int64}
    (reordered : (segments ',' spec).Perm (segments ',' spec')) (pruned : prune h spec now = .ok t)
    (pruned' : prune h spec' now = .ok t') : t = t' := by
  obtain ⟨conditions, kept, read, passed, rfl⟩ := prune_eq_ok_iff.mp pruned
  obtain ⟨order, kept', read', passed', rfl⟩ := prune_eq_ok_iff.mp pruned'
  obtain ⟨others, reread, same⟩ := exists_parse_of_perm reordered read
  obtain rfl := Except.ok.inj (reread.symm.trans read')
  rw [← (passing_eq_ok_iff.mp passed).2, ← (passing_eq_ok_iff.mp passed').2, keeps_eq_of_perm same]

theorem decides_in_any_order_iff {conditions : IndexedConditions} {values : List Int64} :
    (∀ order : IndexedConditions, order.comparisons.Perm conditions.comparisons →
        order.Decides values) ↔
      ∀ condition ∈ conditions.comparisons, condition.1 < values.length := by
  constructor
  · intro decided condition member
    by_contra past
    have first : (condition :: conditions.comparisons.erase condition).Perm conditions.comparisons :=
      (List.perm_cons_erase member).symm
    exact decides_iff.mp (decided ⟨_⟩ first) _
      (reaches_cons_iff.mpr (.inl ⟨Nat.not_lt.mp past, rfl⟩))
  · intro inside order same
    rw [decides_iff]
    rintro fault ⟨before, condition, after, split, -, past, -⟩
    have member : condition ∈ order.comparisons := by simp [split]
    exact Nat.not_lt.mpr past (inside condition (same.mem_iff.mp member))

theorem prune_refused_iff (h : Histogram (List Int64)) (spec : String) (now : Int64)
    (conditions : IndexedConditions) (read : parse spec now = .ok conditions) :
    (∀ fault, prune h spec now = .error fault ↔
      Reaches (fun entry => ∀ e, ¬Stumbles entry.2 conditions.comparisons e)
        (fun entry => Stumbles entry.2 conditions.comparisons fault) h.entries) ∧
    (∀ t, prune h spec now = .ok t → t.entries.Sublist h.entries ∧ ∀ entry ∈ h.entries,
      entry ∈ t.entries ↔ ∀ condition ∈ conditions.comparisons, Met entry.2 condition) ∧
    (∀ spec' t t', (segments ',' spec).Perm (segments ',' spec') →
      prune h spec now = .ok t → prune h spec' now = .ok t' → t = t') ∧
    ((∀ order : IndexedConditions, order.comparisons.Perm conditions.comparisons →
        ∃ kept, order.passing h.entries = .ok kept) ↔
      ∀ entry ∈ h.entries, ∀ condition ∈ conditions.comparisons,
        condition.1 < entry.2.length) := by
  refine ⟨fun _ => prune_eq_error_iff read, ?_, fun _ _ _ => prune_unique_of_perm, ?_⟩
  · intro t pruned
    obtain ⟨others, kept, reread, passed, rfl⟩ := prune_eq_ok_iff.mp pruned
    obtain rfl := Except.ok.inj (reread.symm.trans read)
    rw [Histogram.entries_restrict]
    refine ⟨sublist_of_passing passed, fun entry member => ?_⟩
    rw [← (passing_eq_ok_iff.mp passed).2, List.mem_filter, keeps_iff, and_iff_right member]
  · simp only [← decides_in_any_order_iff, passing_eq_ok_iff, exists_and_left, exists_eq',
      and_true]
    constructor
    · intro decided entry member order same
      exact decided order same entry member
    · intro decided order same entry member
      exact decided entry member order same

theorem prune_refused_iff_of_met_before :
    prune (.ofEntries [("ann", [200, 7]), ("bob", [101])]) "0:gt:100,1:gte:5" 0 =
      .error (.malformedOperand "condition index" "1" "bucket holds 1 values") := by
  have read : parse "0:gt:100,1:gte:5" 0 =
      .ok ⟨[(0, ⟨.compare .gt, 100, 0⟩), (1, ⟨.compare .gte, 5, 0⟩)]⟩ := rfl
  obtain ⟨refused, -⟩ :=
    prune_refused_iff (.ofEntries [("ann", [200, 7]), ("bob", [101])]) _ _ _ read
  refine (refused _).mpr ⟨[("ann", [200, 7])], ("bob", [101]), [], rfl, ?_, ?_⟩
  · intro entry member
    obtain rfl := List.mem_singleton.mp member
    exact decides_iff.mp ⟨true, rfl⟩
  · exact check_eq_error_iff.mp rfl

/-- The second place is past the end in both orders, and what stands in front of it decides. -/
theorem prune_overlooks_place_behind_unmet :
    prune (.ofEntries [("ann", [10])]) "0:gt:100,3:gte:5" 0 = .ok (.ofEntries []) ∧
      prune (.ofEntries [("ann", [10])]) "3:gte:5,0:gt:100" 0 =
        .error (.malformedOperand "condition index" "3" "bucket holds 1 values") ∧
      (segments ',' "0:gt:100,3:gte:5").Perm (segments ',' "3:gte:5,0:gt:100") ∧
      ∃ conditions, parse "0:gt:100,3:gte:5" 0 = .ok conditions ∧
        ∃ condition ∈ conditions.comparisons, [(10 : Int64)].length ≤ condition.1 :=
  ⟨rfl, rfl, .swap "3:gte:5" "0:gt:100" [],
    ⟨[(0, ⟨.compare .gt, 100, 0⟩), (3, ⟨.compare .gte, 5, 0⟩)]⟩, rfl,
    (3, ⟨.compare .gte, 5, 0⟩), by decide, by decide⟩

end Census.IndexedConditions
