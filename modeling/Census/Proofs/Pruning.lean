import Mathlib.Data.List.Perm.Basic
import Census.Proofs.Selection

set_option autoImplicit false

namespace Census

theorem segments_of_joined {mark : Char} {spec a b : String}
    (joined : spec.toList = a.toList ++ mark :: b.toList) :
    segments mark spec = segments mark a ++ segments mark b := by
  simp [segments, Text.parts, joined, List.splitOn_append_cons_self]

section Readings

variable {α β ε : Type} {f : α → Except ε β}

theorem mapM_eq_ok_iff {xs : List α} {ys : List β} :
    xs.mapM f = .ok ys ↔ List.Forall₂ (fun x y => f x = .ok y) xs ys := by
  induction xs generalizing ys with
  | nil => simp [List.forall₂_nil_left_iff, pure, Except.pure, eq_comm]
  | cons x rest ih =>
    rw [List.mapM_cons, List.forall₂_cons_left_iff]
    cases one : f x with
    | error e => simp [bind, Except.bind]
    | ok y =>
      cases others : rest.mapM f with
      | error e => simp [← ih, others, bind, Except.bind]
      | ok zs => simp [← ih, others, bind, Except.bind, pure, Except.pure, eq_comm]

theorem mapM_eq_error_iff {xs : List α} {e : ε} :
    xs.mapM f = .error e ↔ Reaches (fun x => ∃ y, f x = .ok y) (fun x => f x = .error e) xs := by
  induction xs with
  | nil => simp [not_reaches_nil, pure, Except.pure]
  | cons x rest ih =>
    rw [List.mapM_cons, reaches_cons_iff, ← ih]
    cases one : f x with
    | error d => simp [bind, Except.bind]
    | ok y => cases rest.mapM f <;> simp [bind, Except.bind, pure, Except.pure]

theorem exists_mapM_of_perm {xs xs' : List α} {ys : List β} (reordered : xs.Perm xs')
    (mapped : xs.mapM f = .ok ys) : ∃ ys', xs'.mapM f = .ok ys' ∧ ys.Perm ys' := by
  obtain ⟨ys', related, same⟩ := List.perm_comp_forall₂ reordered.symm (mapM_eq_ok_iff.mp mapped)
  exact ⟨ys', mapM_eq_ok_iff.mpr related, same.symm⟩

end Readings

namespace Histogram

variable {β : Type}

theorem restrict_self (h : Histogram β) : h.restrict h.entries = h := by
  rw [restrict, if_pos rfl]

@[simp] theorem entries_restrict (h : Histogram β) (kept : List (String × β)) :
    (h.restrict kept).entries = kept := by
  unfold restrict
  split <;> rfl

theorem restrict_restrict {h : Histogram β} {kept rest : List (String × β)}
    (first : kept.Sublist h.entries) (second : rest.Sublist kept) :
    (h.restrict kept).restrict rest = h.restrict rest := by
  by_cases all : kept.length = h.entries.length
  · rw [first.eq_of_length all, restrict_self]
  · have fewer : rest.length ≠ h.entries.length := by
      have one := first.length_le
      have two := second.length_le
      omega
    -- The index was made anew for what was kept, so it does not matter whether it is again.
    rw [restrict, entries_restrict, restrict, if_neg all, restrict, if_neg fewer]
    split
    next same => rw [second.eq_of_length same, ofEntries]
    next => rfl

theorem filter_filter (h : Histogram β) (p q : String → β → Bool) :
    (h.filter p).filter q = h.filter fun label value => p label value && q label value := by
  unfold filter
  rw [entries_restrict, restrict_restrict List.filter_sublist List.filter_sublist,
    List.filter_filter]
  congr 2
  funext entry
  exact Bool.and_comm _ _

end Histogram

namespace Conditions

theorem parse_append {a b spec : String} (joined : spec.toList = a.toList ++ ';' :: b.toList)
    (now : Int64) :
    parse spec now = do
      let first ← parse a now
      let second ← parse b now
      return ⟨first.comparisons ++ second.comparisons⟩ := by
  simp only [parse, segments_of_joined joined, List.mapM_append]
  cases (segments ';' a).mapM (LongComparison.parse "condition" · now) with
  | error fault => rfl
  | ok xs => cases (segments ';' b).mapM (LongComparison.parse "condition" · now) <;> rfl

theorem prune_append (h : Histogram Int64) (a b : String) (now : Int64) :
    prune h (a ++ ";" ++ b) now = prune h a now >>= fun kept => prune kept b now := by
  have joined : (a ++ ";" ++ b).toList = a.toList ++ ';' :: b.toList := by simp
  simp only [prune, parse_append joined]
  cases parse a now with
  | error fault => rfl
  | ok first =>
    cases parse b now with
    | error fault => rfl
    | ok second =>
      simp only [bind, Except.bind, pure, Except.pure, Histogram.filter_filter, check,
        List.all_append]

theorem prune_eq_error_iff {h : Histogram Int64} {spec : String} {now : Int64}
    {fault : QueryError} :
    prune h spec now = .error fault ↔
      Reaches (fun segment => ∃ c, LongComparison.parse "condition" segment now = .ok c)
        (fun segment => LongComparison.parse "condition" segment now = .error fault)
        (segments ';' spec) := by
  rw [← mapM_eq_error_iff, prune, parse]
  cases (segments ';' spec).mapM (LongComparison.parse "condition" · now) <;>
    simp [bind, Except.bind, pure, Except.pure]

theorem prune_idempotent {h kept : Histogram Int64} {spec : String} {now : Int64}
    (pruned : prune h spec now = .ok kept) : prune kept spec now = .ok kept := by
  unfold prune at pruned ⊢
  cases read : parse spec now with
  | error fault => simp [read, bind, Except.bind] at pruned
  | ok conditions =>
    obtain rfl : h.filter (fun _ value => conditions.check value) = kept := by
      simpa [read, bind, Except.bind, pure, Except.pure] using pruned
    simp [bind, Except.bind, pure, Except.pure, Histogram.filter_filter]

theorem prune_of_perm {h kept : Histogram Int64} {spec spec' : String} {now : Int64}
    (reordered : (segments ';' spec).Perm (segments ';' spec'))
    (pruned : prune h spec now = .ok kept) : prune h spec' now = .ok kept := by
  unfold prune parse at pruned ⊢
  cases read : (segments ';' spec).mapM (LongComparison.parse "condition" · now) with
  | error fault => simp [read, bind, Except.bind] at pruned
  | ok comparisons =>
    obtain ⟨others, read', same⟩ := exists_mapM_of_perm reordered read
    rw [read] at pruned
    rw [read']
    have checks : (mk others).check = (mk comparisons).check := by
      funext value
      exact same.symm.all_eq
    simpa [bind, Except.bind, pure, Except.pure, checks] using pruned

end Conditions

namespace IndexedConditions

theorem parse_append {a b spec : String} (joined : spec.toList = a.toList ++ ',' :: b.toList)
    (now : Int64) :
    parse spec now = do
      let first ← parse a now
      let second ← parse b now
      return ⟨first.comparisons ++ second.comparisons⟩ := by
  simp only [parse, segments_of_joined joined, List.mapM_append]
  cases (segments ',' a).mapM (parseOne now) with
  | error fault => rfl
  | ok xs => cases (segments ',' b).mapM (parseOne now) <;> rfl

def Decides (conditions : IndexedConditions) (values : List Int64) : Prop :=
  ∃ b, conditions.check values = .ok b

/-- Whether a bucket stays; one that is not decided does not. -/
def keeps (conditions : IndexedConditions) (values : List Int64) : Bool :=
  (conditions.check values).toOption.getD false

theorem passing_eq_ok_iff {conditions : IndexedConditions}
    {entries kept : List (String × List Int64)} :
    conditions.passing entries = .ok kept ↔
      (∀ entry ∈ entries, conditions.Decides entry.2) ∧
        entries.filter (fun entry => conditions.keeps entry.2) = kept := by
  induction entries generalizing kept with
  | nil => simp [passing]
  | cons entry rest ih =>
    obtain ⟨label, values⟩ := entry
    rw [passing, List.forall_mem_cons, List.filter_cons]
    cases checked : conditions.check values with
    | error fault => simp [Decides, checked, bind, Except.bind]
    | ok b =>
      have one : conditions.Decides values := ⟨b, checked⟩
      have told : conditions.keeps values = b := by simp [keeps, checked, Except.toOption]
      cases others : conditions.passing rest with
      | error fault =>
        have stuck : ¬∀ entry ∈ rest, conditions.Decides entry.2 := by
          intro decided
          cases others.symm.trans (ih.mpr ⟨decided, rfl⟩)
        simp only [bind, Except.bind, reduceCtorEq, stuck, and_false, false_and]
      | ok more =>
        obtain ⟨decided, rfl⟩ := ih.mp others
        rw [and_iff_right ⟨one, decided⟩, told]
        simp only [bind, Except.bind, pure, Except.pure, Except.ok.injEq]

theorem checkAll_append (values : List Int64) (xs ys : List (Nat × LongComparison)) :
    checkAll values (xs ++ ys) = do
      if ← checkAll values xs then checkAll values ys else return false := by
  induction xs with
  | nil => rfl
  | cons x rest ih =>
    obtain ⟨place, comparison⟩ := x
    simp only [List.cons_append, checkAll, ih]
    split
    next => rfl
    next value _ => cases comparison.test value <;> rfl

section Append

variable (xs ys : List (Nat × LongComparison)) (values : List Int64)

theorem keeps_append :
    (mk (xs ++ ys)).keeps values = ((mk xs).keeps values && (mk ys).keeps values) := by
  simp only [keeps, check, checkAll_append]
  cases checkAll values xs with
  | error fault => rfl
  | ok b => cases b <;> rfl

-- The later conditions have to be decided only for a bucket that the earlier ones leave.
theorem decides_append_iff :
    (mk (xs ++ ys)).Decides values ↔
      (mk xs).Decides values ∧ ((mk xs).keeps values = true → (mk ys).Decides values) := by
  simp only [Decides, keeps, check, checkAll_append]
  cases checkAll values xs with
  | error fault => simp [bind, Except.bind]
  | ok b => cases b <;> simp [bind, Except.bind, pure, Except.pure, Except.toOption]

end Append

theorem passing_append_eq_ok_iff {xs ys : List (Nat × LongComparison)}
    {entries kept : List (String × List Int64)} :
    (mk (xs ++ ys)).passing entries = .ok kept ↔
      ∃ left, (mk xs).passing entries = .ok left ∧ (mk ys).passing left = .ok kept := by
  simp only [passing_eq_ok_iff, decides_append_iff, keeps_append]
  constructor
  · rintro ⟨decided, rfl⟩
    refine ⟨_, ⟨fun entry member => (decided entry member).1, rfl⟩, ?_, ?_⟩
    · intro entry member
      obtain ⟨inside, stays⟩ := List.mem_filter.mp member
      exact (decided entry inside).2 stays
    · simp [List.filter_filter, Bool.and_comm]
  · rintro ⟨left, ⟨decided, rfl⟩, later, rfl⟩
    refine ⟨fun entry member => ⟨decided entry member, fun stays => ?_⟩, ?_⟩
    · exact later entry (List.mem_filter.mpr ⟨member, stays⟩)
    · simp [List.filter_filter, Bool.and_comm]

theorem prune_eq_ok_iff {h t : Histogram (List Int64)} {spec : String} {now : Int64} :
    prune h spec now = .ok t ↔
      ∃ conditions kept, parse spec now = .ok conditions ∧
        conditions.passing h.entries = .ok kept ∧ h.restrict kept = t := by
  unfold prune
  cases parse spec now with
  | error fault => simp [bind, Except.bind]
  | ok conditions =>
    cases passed : conditions.passing h.entries with
    | error fault => simp [passed, bind, Except.bind]
    | ok kept => simp [passed, bind, Except.bind, pure, Except.pure]

theorem sublist_of_passing {conditions : IndexedConditions}
    {entries kept : List (String × List Int64)} (passed : conditions.passing entries = .ok kept) :
    kept.Sublist entries :=
  (passing_eq_ok_iff.mp passed).2 ▸ List.filter_sublist

theorem prune_append_eq_ok_iff {h t : Histogram (List Int64)} {a b : String} {now : Int64} :
    prune h (a ++ "," ++ b) now = .ok t ↔
      ∃ u, prune h a now = .ok u ∧ prune u b now = .ok t := by
  have joined : (a ++ "," ++ b).toList = a.toList ++ ',' :: b.toList := by simp
  constructor
  · intro pruned
    obtain ⟨conditions, kept, read, passed, rfl⟩ := prune_eq_ok_iff.mp pruned
    rw [parse_append joined] at read
    cases first : parse a now with
    | error fault => simp [first, bind, Except.bind] at read
    | ok p =>
      cases second : parse b now with
      | error fault => simp [first, second, bind, Except.bind] at read
      | ok q =>
        obtain rfl : mk (p.comparisons ++ q.comparisons) = conditions := by
          simpa [first, second, bind, Except.bind, pure, Except.pure] using read
        obtain ⟨left, one, two⟩ := passing_append_eq_ok_iff.mp passed
        refine ⟨h.restrict left, prune_eq_ok_iff.mpr ⟨p, left, first, one, rfl⟩,
          prune_eq_ok_iff.mpr ⟨q, kept, second, ?_, ?_⟩⟩
        · rwa [Histogram.entries_restrict]
        · exact Histogram.restrict_restrict (sublist_of_passing one) (sublist_of_passing two)
  · rintro ⟨u, former, latter⟩
    obtain ⟨p, left, first, one, rfl⟩ := prune_eq_ok_iff.mp former
    obtain ⟨q, kept, second, two, rfl⟩ := prune_eq_ok_iff.mp latter
    rw [Histogram.entries_restrict] at two
    refine prune_eq_ok_iff.mpr ⟨⟨p.comparisons ++ q.comparisons⟩, kept, ?_,
      passing_append_eq_ok_iff.mpr ⟨left, one, two⟩, ?_⟩
    · rw [parse_append joined, first, second]
      rfl
    · rw [Histogram.restrict_restrict (sublist_of_passing one) (sublist_of_passing two)]

end IndexedConditions

namespace Histogram

/--
Over vectors only the answers compose and not the faults, since the one list can fail over a bucket
before the other is read.
-/
theorem pruning_composes :
    (∀ (h : Histogram Int64) (a b : String) (now : Int64),
      Conditions.prune h (a ++ ";" ++ b) now =
        Conditions.prune h a now >>= fun kept => Conditions.prune kept b now) ∧
    (∀ (h : Histogram Int64) (spec : String) (now : Int64) (fault : QueryError),
      Conditions.prune h spec now = .error fault ↔
        Reaches (fun segment => ∃ c, LongComparison.parse "condition" segment now = .ok c)
          (fun segment => LongComparison.parse "condition" segment now = .error fault)
          (segments ';' spec)) ∧
    (∀ (h kept : Histogram Int64) (spec : String) (now : Int64),
      Conditions.prune h spec now = .ok kept → Conditions.prune kept spec now = .ok kept) ∧
    (∀ (h kept : Histogram Int64) (spec spec' : String) (now : Int64),
      (segments ';' spec).Perm (segments ';' spec') →
        Conditions.prune h spec now = .ok kept → Conditions.prune h spec' now = .ok kept) ∧
    ∀ (h t : Histogram (List Int64)) (a b : String) (now : Int64),
      IndexedConditions.prune h (a ++ "," ++ b) now = .ok t ↔
        ∃ u, IndexedConditions.prune h a now = .ok u ∧ IndexedConditions.prune u b now = .ok t :=
  ⟨Conditions.prune_append, fun _ _ _ _ => Conditions.prune_eq_error_iff,
    fun _ _ _ _ => Conditions.prune_idempotent, fun _ _ _ _ _ => Conditions.prune_of_perm,
    fun _ _ _ _ _ => IndexedConditions.prune_append_eq_ok_iff⟩

/-- The bucket that has no second value goes before the second list asks for one. -/
theorem pruning_composes_of_short_bucket :
    (∃ kept, Conditions.prune (.ofEntries [("a", 1), ("b", 5), ("c", 9)]) " lt:9;;gt:1" 0 = .ok kept ∧
      Conditions.prune kept " lt:9;;gt:1" 0 = .ok kept ∧
      Conditions.prune (.ofEntries [("a", 1), ("b", 5), ("c", 9)]) "gt:1 ;lt:9" 0 = .ok kept) ∧
    ∃ t, IndexedConditions.prune (.ofEntries [("a", [5, 70]), ("b", [1])]) "0:gt:1,1:lt:90" 0 =
      .ok t ∧ t.entries = [("a", [5, 70])] := by
  obtain ⟨-, -, again, anyOrder, vectors⟩ := pruning_composes
  have pruned : Conditions.prune (.ofEntries [("a", 1), ("b", 5), ("c", 9)]) " lt:9;;gt:1" 0 =
      .ok (.ofEntries [("b", 5)]) := rfl
  have reordered : (segments ';' " lt:9;;gt:1").Perm (segments ';' "gt:1 ;lt:9") :=
    .swap "gt:1" "lt:9" []
  exact ⟨⟨_, pruned, again _ _ _ _ pruned, anyOrder _ _ _ _ _ reordered pruned⟩,
    .ofEntries [("a", [5, 70])],
    (vectors _ _ "0:gt:1" "1:lt:90" _).mpr ⟨.ofEntries [("a", [5, 70])], rfl, rfl⟩, rfl⟩

end Histogram

end Census
