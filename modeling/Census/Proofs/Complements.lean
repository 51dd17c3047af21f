import Mathlib.Data.List.Nodup
import Census.Proofs.BucketFilters
import Census.Proofs.Composition
import Census.Proofs.Dates
import Census.Proofs.Language

set_option autoImplicit false

namespace Census

theorem Relation.holds_opposite {α : Type} [DecidableEq α] [LT α] [LE α] [DecidableLT α]
    [DecidableLE α] (total : ∀ a b : α, a ≤ b ↔ ¬b < a) (relation : Relation) (a b : α) :
    relation.opposite.holds a b = !relation.holds a b := by
  cases relation <;> simp [opposite, holds, total]

namespace FlagOp

def opposite (op : FlagOp) : FlagOp :=
  ⟨!op.negated⟩

theorem holds_opposite (op : FlagOp) (value operand : Bool) :
    op.opposite.holds value operand = !op.holds value operand := by
  simp [opposite, holds]

end FlagOp

namespace ValueKind

/-- The operators of a kind in pairs, of which one holds where the other does not. -/
def complements : ValueKind → List (String × String)
  | .long => [("eq", "notEq"), ("gt", "lte"), ("gte", "lt")]
  | .text =>
    [("eq", "notEq"), ("startsWith", "notStartsWith"), ("endsWith", "notEndsWith"),
      ("contains", "notContains")]
  | .flag => [("eq", "notEq")]
  | .date =>
    [("dateEq", "dateNotEq"), ("dateLt", "dateGte"), ("dateLt", "dateEnd"), ("dateGt", "dateLte"),
      ("dateGt", "dateStart")]

theorem complements_clean (kind : ValueKind) :
    ∀ pair ∈ kind.complements, ':' ∉ pair.1.toList ∧ ':' ∉ pair.2.toList := by
  cases kind <;> decide

end ValueKind

def Predicate.Denies (p q : Predicate) : Prop :=
  ∀ release r, q.accepts release r = (p.accepts release r).map (!·)

namespace Filter

variable {operator operator' operand : String}

theorem exists_opposite {α : Type} (named? : String → Option α) (opposite : α → α)
    (kind : ValueKind) (paired : ∀ pair ∈ kind.complements,
      (named? pair.1).isSome ∧ named? pair.2 = (named? pair.1).map opposite)
    (pair : (operator, operator') ∈ kind.complements) :
    ∃ op, named? operator = some op ∧ named? operator' = some (opposite op) := by
  have ⟨known, other⟩ := paired _ pair
  have ⟨op, found⟩ := Option.isSome_iff_exists.mp known
  rw [found] at other
  exact ⟨op, found, other⟩

theorem condition_complements (now : Int64) (a : Attribute)
    (pair : (operator, operator') ∈ a.kind.complements) (fits : a.kind.Operand operand) :
    ∃ p q, condition a operator operand now = .ok p ∧ condition a operator' operand now = .ok q ∧
      p.Denies q := by
  cases a with
  | long a =>
    obtain ⟨n, numeral⟩ := fits
    have read := Text.int64_eq_ok_iff.mpr numeral
    obtain ⟨relation, _, same⟩ := List.mem_map.mp
      (show (operator, operator') ∈ [Relation.eq, .gt, .gte].map
        fun relation => (relation.operator, relation.opposite.operator) from pair)
    obtain ⟨rfl, rfl⟩ := Prod.mk.injEq .. ▸ same
    have compared (relation : Relation) : condition (.long a) relation.operator operand now =
        .ok (.long a ⟨.compare relation, n, now⟩) := by
      simp [condition, LongComparison.compile, relation.named?_operator, read, bind, Except.bind,
        pure, Except.pure]
    refine ⟨_, _, compared relation, compared relation.opposite, fun release r => ?_⟩
    exact congrArg Except.ok (relation.holds_opposite (fun _ _ => Int64.not_lt.symm) _ _)
  | text a =>
    obtain ⟨op, named, named'⟩ :=
      exists_opposite TextOp.named? TextOp.opposite .text (by decide) pair
    refine ⟨.text a op operand, .text a op.opposite operand, by simp only [condition, named],
      by simp only [condition, named'], fun release r => ?_⟩
    exact congrArg Except.ok (op.holds_opposite _ _)
  | flag a =>
    obtain ⟨value, read⟩ : ∃ value, flag? operand = some value :=
      Option.ne_none_iff_exists'.mp fun unread => flag?_eq_none_iff.mp unread fits
    obtain ⟨op, named, named'⟩ :=
      exists_opposite FlagOp.named? FlagOp.opposite .flag (by decide) pair
    refine ⟨.flag a op value, .flag a op.opposite value, by simp only [condition, named, read],
      by simp only [condition, named', read], fun release r => ?_⟩
    exact congrArg Except.ok (op.holds_opposite _ _)
  | date a =>
    obtain ⟨day, read⟩ := fits
    obtain ⟨relation, named, named'⟩ :=
      exists_opposite DateOp.named? Relation.opposite .date (by decide) pair
    refine ⟨.date a relation day, .date a relation.opposite day,
      by simp only [condition, named, read], by simp only [condition, named', read],
      fun release r => ?_⟩
    simp only [Predicate.accepts]
    cases a.value? r with
    | none => rfl
    | some own => exact congrArg Except.ok (relation.holds_opposite (fun _ _ => Iff.rfl) own day)

theorem compile_complements (now : Int64) (a : Attribute)
    (pair : (operator, operator') ∈ a.kind.complements) (fits : a.kind.Operand operand) :
    ∃ p q, compileAll now [a.name] [operator ++ ":" ++ operand] = .ok p ∧
      compileAll now [a.name] [operator' ++ ":" ++ operand] = .ok q ∧ p.Denies q := by
  have ⟨clean, clean'⟩ := a.kind.complements_clean _ pair
  have ⟨p, q, one, other, denies⟩ := condition_complements now a pair fits
  exact ⟨p, q, compileAll_single ((compile_spelled now a ⟨rfl, clean⟩).trans one),
    compileAll_single ((compile_spelled now a ⟨rfl, clean'⟩).trans other), denies⟩

end Filter

theorem decided_of_dated {release : Release} {now : Int64} {r : Record} {field spec : String}
    {p : Predicate} (compiled : Filter.compileAll now [field] [spec] = .ok p)
    (dated : ¬Undated r field) : ∃ b, p.accepts release r = .ok b := by
  have verdict : Verdict _ (Stuck release now r [(field, spec)]) (p.accepts release r) :=
    compileAll_verdict compiled
  cases answer : p.accepts release r with
  | ok b => exact ⟨b, rfl⟩
  | error fault =>
    rw [answer] at verdict
    rcases stuck_cons_iff.mp verdict.1 with undated | ⟨_, later⟩
    next => exact absurd undated dated
    next => exact absurd (stuck_iff_reaches.mp later) not_reaches_nil

namespace Subset

variable {release : Release} {p q : Predicate} {s : Subset}

def StandFirst (s : Subset) (records : List Record) : Prop :=
  ∃ places, records = s.standingAt places ∧ places.Pairwise (· < ·) ∧
    ∀ i, i ∈ places ↔ ∃ r, FirstAt s.records i r

theorem firsts_standFirst (s : Subset) : s.StandFirst s.firsts :=
  ⟨_, s.firsts_eq, s.index_exact.ascending, s.index_exact.unique⟩

theorem admits_of_denies (denies : p.Denies q) {r : Record}
    (decided : ∃ b, p.accepts release r = .ok b) :
    admits release q r = !admits release p r := by
  have ⟨b, one⟩ := decided
  simp [admits, denies release r, one, Except.map, Except.toOption]

theorem selected_denied (denies : p.Denies q)
    (decided : ∀ r ∈ s.firsts, ∃ b, p.accepts release r = .ok b) :
    s.selected release p = .ok ⟨s.firsts.filter (admits release p)⟩ ∧
      s.selected release q = .ok ⟨s.firsts.filter (!admits release p ·)⟩ := by
  refine ⟨selected_eq_ok_iff.mpr ⟨decided, rfl⟩, selected_eq_ok_iff.mpr ⟨?_, ?_⟩⟩
  next =>
    intro r member
    have ⟨b, one⟩ := decided r member
    exact ⟨!b, by rw [denies release r, one]; rfl⟩
  next =>
    refine List.filter_congr fun r member => ?_
    exact (admits_of_denies denies (decided r member)).symm

theorem mem_ids_filter_firsts {r : Record} (first : r ∈ s.firsts) {keep : Record → Bool} :
    r.id ∈ (mk (s.firsts.filter keep)).ids ↔ keep r = true := by
  constructor
  next =>
    intro listed
    have ⟨other, inside, same⟩ := List.mem_map.mp listed
    have ⟨also, kept⟩ := List.mem_filter.mp inside
    exact List.inj_on_of_nodup_map s.nodup_ids_firsts also first same ▸ kept
  next => exact fun kept => List.mem_map_of_mem (List.mem_filter.mpr ⟨first, kept⟩)

end Subset

/--
Two subsets share out the ids of a third. Each has its records as they stand first there, and what
is added up over both is what it comes to over all that stand first.
-/
structure Engine.SharedOut (e : Engine) (s left right : Subset) : Prop where
  exactlyOne : ∀ id ∈ s.ids, id ∈ left.ids ↔ id ∉ right.ids
  inOrder : left.records.Sublist s.firsts ∧ right.records.Sublist s.firsts
  sums : ∀ name a, Aggregation.resolve name = .ok a →
    (∀ r ∈ s.firsts, 0 ≤ (a.contribution r).toInt) →
    ∃ x y, e.sum left name = .ok x ∧ e.sum right name = .ok y ∧
      e.sum ⟨s.firsts⟩ name = .ok (satAdd x y)

namespace Engine

theorem sum_of_nonneg (e : Engine) {name : String} {a : Aggregation}
    (resolved : Aggregation.resolve name = .ok a) {records : List Record}
    (nonneg : ∀ r ∈ records, 0 ≤ (a.contribution r).toInt) :
    e.sum ⟨records⟩ name = .ok (satSum (records.map a.contribution)) := by
  have whole : ∀ r ∈ (e.fanout.morsels records).toList, 0 ≤ (a.contribution r).toInt := by
    rwa [e.fanout.toList_morsels]
  have added := Aggregation.sumOver_of_nonneg whole
  rw [e.fanout.toList_morsels] at added
  rw [e.sum_of_resolved ⟨records⟩ resolved, added]

theorem sharedOut_filter (e : Engine) (s : Subset) (keep : Record → Bool) :
    e.SharedOut s ⟨s.firsts.filter keep⟩ ⟨s.firsts.filter (!keep ·)⟩ where
  exactlyOne id listed := by
    -- An id stands once among the first records, so its record there decides for it.
    have ⟨r, first, same⟩ := Subset.exists_first listed
    rw [← same, Subset.mem_ids_filter_firsts first, Subset.mem_ids_filter_firsts first]
    simp
  inOrder := ⟨List.filter_sublist, List.filter_sublist⟩
  sums name a resolved nonneg := by
    have part (keep : Record → Bool) := e.sum_of_nonneg resolved
      fun r (member : r ∈ s.firsts.filter keep) => nonneg r (List.mem_filter.mp member).1
    refine ⟨_, _, part keep, part (!keep ·), ?_⟩
    rw [e.sum_of_nonneg resolved nonneg, ← satSum_filter_or (by simp) nonneg]
    simp

theorem combinedFilter_complements (e : Engine) (s : Subset) (a : Attribute)
    (operator operator' operand : String) (pair : (operator, operator') ∈ a.kind.complements)
    (fits : a.kind.Operand operand) (dated : ∀ r ∈ s.records, ¬Undated r a.name) :
    s.StandFirst s.firsts ∧
    ∃ left right, e.combinedFilter s [a.name] [operator ++ ":" ++ operand] = .ok left ∧
      e.combinedFilter s [a.name] [operator' ++ ":" ++ operand] = .ok right ∧
      e.SharedOut s left right := by
  have ⟨p, q, one, other, denies⟩ := Filter.compile_complements e.now a pair fits
  have decided : ∀ r ∈ s.firsts, ∃ b, p.accepts e.release r = .ok b := fun r member =>
    decided_of_dated one (dated r (s.firsts_sublist.subset member))
  have ⟨kept, denied⟩ := Subset.selected_denied denies decided
  exact ⟨s.firsts_standFirst, _, _, (e.combinedFilter_eq s one).trans kept,
    (e.combinedFilter_eq s other).trans denied, e.sharedOut_filter s _⟩

/-- The first record of an id is from 1970, and its second from 2001. -/
def datedTwice : Subset where
  records :=
    [{ Record.file 1 "/a" (.of 5 1 1) with modTime := 0 },
      { Record.file 1 "/b" (.of 7 1 1) with modTime := 1000000000000 },
      { Record.file 2 "/c" (.of Int64.maxValue 1 1) with modTime := 1000000000000 }]

theorem combinedFilter_complements_dated_twice :
    ("dateLt", "dateEnd") ∈ (Attribute.date .modDate).kind.complements ∧
    (Attribute.date .modDate).kind.Operand "01/01/2000" ∧
    (∀ r ∈ datedTwice.records, ¬Undated r "modDate") ∧
    ∃ left right x y, bare.combinedFilter datedTwice ["modDate"] ["dateLt:01/01/2000"] = .ok left ∧
      bare.combinedFilter datedTwice ["modDate"] ["dateEnd:01/01/2000"] = .ok right ∧
      (1 ∈ left.ids ↔ 1 ∉ right.ids) ∧ bare.sum left "fileSize" = .ok x ∧
      bare.sum right "fileSize" = .ok y ∧ satAdd x y = Int64.maxValue := by
  have pair : ("dateLt", "dateEnd") ∈ (Attribute.date .modDate).kind.complements := by decide
  have fits : (Attribute.date .modDate).kind.Operand "01/01/2000" :=
    ⟨⟨2000, 1, 1, by decide⟩, by decide⟩
  have dated : ∀ r ∈ datedTwice.records, ¬Undated r "modDate" := by
    intro r member undated
    have ⟨d, same, missing⟩ := undated_name_iff (a := .date .modDate).mp undated
    obtain rfl := Attribute.date.inj same
    have days : ∀ r ∈ datedTwice.records, (DateAttr.modDate.value? r).isSome := by decide +kernel
    exact absurd (days r member) (by simp [missing])
  have ⟨_, left, right, one, other, shared⟩ :=
    combinedFilter_complements bare datedTwice _ _ _ _ pair fits dated
  have sizes : ∀ r ∈ datedTwice.records, 0 ≤ (Aggregation.fileSize.contribution r).toInt := by
    decide
  have ⟨x, y, less, more, total⟩ := shared.sums "fileSize" .fileSize rfl
    fun r first => sizes r (datedTwice.firsts_sublist.subset first)
  have firsts : datedTwice.firsts = datedTwice.records.eraseIdx 1 := by
    change Subset.firsts ⟨[_] ++ [_] ++ [_]⟩ = _
    rw [Subset.firsts_snoc_of_not_seen (by simp [Seen, Record.file, Record.bare]),
      Subset.firsts_snoc_of_seen (by simp [Seen, Record.file, Record.bare]),
      Subset.firsts_of_nodup (by decide)]
    rfl
  have full : bare.sum ⟨datedTwice.firsts⟩ "fileSize" = .ok Int64.maxValue := by
    rw [firsts]
    rfl
  exact ⟨pair, fits, dated, left, right, x, y, one, other, shared.exactlyOne 1 (by decide), less,
    more, Except.ok.inj (total.symm.trans full)⟩

end Engine

end Census
