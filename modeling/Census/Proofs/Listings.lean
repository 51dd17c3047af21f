import Census.Proofs.Acceptance
import Census.Proofs.Catalogs
import Census.Proofs.OutOfRange
import Census.Session

set_option autoImplicit false

namespace Census

namespace QueryError

def listing? : QueryError → Option (String × List String)
  | .unknownSet name valid => some (name, valid)
  | .unresolvedFilter name valid => some (name, valid)
  | .unsupportedOperator _ name _ valid => some (name, valid)
  | .unknownAggregation name valid => some (name, valid)
  | .unknownFindMode name valid => some (name, valid)
  | _ => none

def about (name : String) : QueryError → QueryError
  | .unknownSet _ valid => .unknownSet name valid
  | .unresolvedFilter _ valid => .unresolvedFilter name valid
  | .unsupportedOperator field _ kind valid => .unsupportedOperator field name kind valid
  | .unknownAggregation _ valid => .unknownAggregation name valid
  | .unknownFindMode _ valid => .unknownFindMode name valid
  | fault => fault

def namesOperator : QueryError → Bool
  | .unsupportedOperator .. => true
  | _ => false

section Listing

variable {fault : QueryError} {token : String} {valid : List String}

theorem listing?_about (lists : fault.listing? = some (token, valid)) (name : String) :
    (fault.about name).listing? = some (name, valid) := by
  cases fault <;> simp_all [listing?, about]

theorem namesOperator_about (fault : QueryError) (name : String) :
    (fault.about name).namesOperator = fault.namesOperator := by
  cases fault <;> rfl

def Quotes (text token : String) (valid : List String) : Prop :=
  ∃ lead middle, text = lead ++ token ++ middle ++ listed valid ∧
    lead.toList.getLast? = some '\'' ∧ middle.toList.head? = some '\''

theorem message_quotes (lists : fault.listing? = some (token, valid)) :
    Quotes fault.message token valid := by
  cases fault with
  | unknownSet | unresolvedFilter | unknownAggregation | unknownFindMode =>
    obtain ⟨rfl, rfl⟩ := Prod.mk.inj (Option.some.inj lists)
    exact ⟨_, _, rfl, by decide, by decide⟩
  | unsupportedOperator field operator kind names =>
    obtain ⟨rfl, rfl⟩ := Prod.mk.inj (Option.some.inj lists)
    refine ⟨"Unsupported operator '",
      "' for " ++ kind.name ++ " attribute '" ++ field ++ "'; valid operators are: ", ?_,
      by decide, ?_⟩
    · unfold message
      simp only [String.append_assoc]
    · simp only [String.toList_append, List.append_assoc]
      rfl
  | malformedOperand | invariantViolation | sink => cases lists

end Listing

end QueryError

/-- A fault that quotes a name can be traced to it: the name is none of those that are listed, and the
text has a gap for it in which any other name that is not listed fares the same. -/
def Traced {α : Type} (parse : String → Except QueryError α) (spec : String) (fault : QueryError) :
    Prop :=
  ∀ token valid, fault.listing? = some (token, valid) → Foreign token valid ∧
    ∃ gap : Gap, gap.Framed ∧ gap.fill token = spec ∧
      ∀ name, Unmarked name → name ∉ valid → parse (gap.fill name) = .error (fault.about name)

theorem traced_of_unlisting {α : Type} {parse : String → Except QueryError α} {spec : String}
    {fault : QueryError} (unlisting : fault.listing? = none) : Traced parse spec fault := by
  intro token valid lists
  rw [unlisting] at lists
  cases lists

section Specs

variable {context spec operator operand : String} {now : Int64} {fault : QueryError}

theorem traced_splitSpec {α : Type} {parse : String → Except QueryError α}
    (failed : splitSpec context spec = .error fault) : Traced parse spec fault := by
  obtain ⟨-, rfl⟩ := splitSpec_eq_error failed
  exact traced_of_unlisting rfl

namespace LongComparison

theorem parse_spelled (spelled : Spelled spec operator operand) :
    parse context spec now = compile context operator operand now := by
  simp only [parse, splitSpec_eq_ok_iff.mpr spelled, bind, Except.bind]

theorem compile_of_unlisted (foreign : operator ∉ LongOp.names) :
    compile context operator operand now =
      .error (.unsupportedOperator context operator .long LongOp.names) := by
  simp only [compile, LongOp.named?, lookup_eq_none_iff.mpr foreign]

theorem traced (failed : parse context spec now = .error fault) :
    Traced (parse context · now) spec fault := by
  cases split : splitSpec context spec with
  | error e =>
    obtain rfl : e = fault := by simpa [parse, split, bind, Except.bind] using failed
    exact traced_splitSpec split
  | ok parts =>
    obtain ⟨operator, operand⟩ := parts
    have spelled := splitSpec_eq_ok_iff.mp split
    rw [parse_spelled spelled] at failed
    cases named : LongOp.named? operator with
    | none =>
      have foreign : operator ∉ LongOp.names := not_mem_names_of_lookup named
      rw [compile_of_unlisted foreign] at failed
      cases failed
      intro token valid lists
      cases lists
      refine ⟨⟨foreign, ValueKind.operators_mem .long⟩, _, .first operand, spelled.fill_first,
        fun name unmarked unlisted => ?_⟩
      exact (parse_spelled (spelled_fill_first unmarked operand)).trans
        (compile_of_unlisted unlisted)
    | some op =>
      -- Only the operand is left to be at fault, and there is no list of operands.
      simp only [compile, named] at failed
      cases read : Text.int64 operand with
      | error complaint =>
        rw [read] at failed
        cases failed
        exact traced_of_unlisting rfl
      | ok n =>
        rw [read] at failed
        cases failed

end LongComparison

namespace IndexedConditions

theorem parseOne_spelled {index condition : String} {place : UInt64}
    (spelled : Spelled spec index condition) (numbered : Text.word64 index = .ok place) :
    parseOne now spec = do
      return (place.toNat, ← LongComparison.parse "condition" condition now) := by
  simp only [parseOne, splitSpec_eq_ok_iff.mpr spelled, numbered, bind, Except.bind]

theorem traced (failed : parseOne now spec = .error fault) : Traced (parseOne now) spec fault := by
  cases split : splitSpec "condition" spec with
  | error e =>
    obtain rfl : e = fault := by simpa [parseOne, split, bind, Except.bind] using failed
    exact traced_splitSpec split
  | ok parts =>
    obtain ⟨index, condition⟩ := parts
    have spelled := splitSpec_eq_ok_iff.mp split
    cases numbered : Text.word64 index with
    | error complaint =>
      obtain rfl : _ = fault := by
        simpa [parseOne, split, numbered, bind, Except.bind, throw, throwThe,
          MonadExceptOf.throw] using failed
      exact traced_of_unlisting rfl
    | ok place =>
      rw [parseOne_spelled spelled numbered] at failed
      cases read : LongComparison.parse "condition" condition now with
      | ok c => simp [read, bind, Except.bind, pure, Except.pure] at failed
      | error e =>
        obtain rfl : e = fault := by simpa [read, bind, Except.bind] using failed
        intro token valid lists
        obtain ⟨unlisted, gap, framed, filled, others⟩ :=
          LongComparison.traced read token valid lists
        refine ⟨unlisted, _, framed.behind index, ?_, fun name unmarked foreign => ?_⟩
        · rw [Gap.fill_within, filled, spelled.fill_last_self]
        · have refused : LongComparison.parse "condition" (gap.fill name) now =
              .error (e.about name) := others name unmarked foreign
          rw [Gap.fill_within, parseOne_spelled (spelled.fill_last _) numbered, refused]
          rfl

end IndexedConditions

theorem traced_find {α β : Type} {resolve : String → Except QueryError α} {valid : List String}
    {parse : String → Except QueryError β} (context : String) (operator : String → α → String)
    (build : α → LongAttr → β) (catalogued : Catalogued resolve (.unknownFindMode · valid) valid)
    (catalog : valid ∈ catalogs)
    (parse_spelled : ∀ spec name field, Spelled spec name field → parse spec = do
      let a ← resolve name
      let long ← Attribute.resolveLong field (operator name a)
      return build a long)
    (parse_unspelled : ∀ spec e, splitSpec context spec = .error e → parse spec = .error e)
    (failed : parse spec = .error fault) (no_operator : fault.namesOperator = false) :
    Traced parse spec fault := by
  cases split : splitSpec context spec with
  | error e =>
    obtain rfl := Except.error.inj ((parse_unspelled spec e split).symm.trans failed)
    exact traced_splitSpec split
  | ok parts =>
    obtain ⟨mode, field⟩ := parts
    have spelled := splitSpec_eq_ok_iff.mp split
    rw [parse_spelled _ _ _ spelled] at failed
    cases resolved : resolve mode with
    | error e =>
      obtain ⟨foreign, rfl⟩ := (catalogued mode e).mp resolved
      rw [resolved] at failed
      cases failed
      intro token valid lists
      cases lists
      refine ⟨⟨foreign, catalog⟩, _, .first field, spelled.fill_first,
        fun name unmarked unlisted => ?_⟩
      rw [parse_spelled _ _ _ (spelled_fill_first unmarked field),
        (catalogued name _).mpr ⟨unlisted, rfl⟩]
      rfl
    | ok a =>
      rw [resolved] at failed
      cases known : Attribute.resolve field with
      | error e =>
        obtain ⟨foreign, rfl⟩ := (Attribute.catalogued field e).mp known
        simp only [Attribute.resolveLong, known, bind, Except.bind] at failed
        cases failed
        intro token valid lists
        cases lists
        refine ⟨⟨foreign, by simp [catalogs]⟩, _, .last mode, spelled.fill_last_self,
          fun name _ unlisted => ?_⟩
        rw [parse_spelled _ _ _ (spelled.fill_last name), resolved]
        simp only [Attribute.resolveLong, (Attribute.catalogued name _).mpr ⟨unlisted, rfl⟩, bind,
          Except.bind]
        rfl
      | ok found =>
        simp only [Attribute.resolveLong, known, bind, Except.bind] at failed
        -- The fault is of the kind of the attribute, which no other name can mend.
        cases found with
        | long => cases failed
        | text | flag | date =>
          cases failed
          cases no_operator

theorem FindSpec.traced (failed : parse spec = .error fault)
    (no_operator : fault.namesOperator = false) : Traced parse spec fault := by
  refine traced_find "find" (fun _ mode => mode.name) FindSpec.mk FindMode.catalogued
    (by simp [catalogs]) (fun spec name field spelled => ?_) (fun spec e unspelled => ?_) failed no_operator
  · simp only [parse, splitSpec_eq_ok_iff.mpr spelled, bind, Except.bind]
  · simp only [parse, unspelled, bind, Except.bind]

theorem FindFilter.traced (failed : parse spec = .error fault)
    (no_operator : fault.namesOperator = false) : Traced parse spec fault := by
  refine traced_find "findFilter" (fun name _ => name) FindFilter.mk Extreme.catalogued
    (by simp [catalogs]) (fun spec name field spelled => ?_) (fun spec e unspelled => ?_) failed no_operator
  · simp only [parse, splitSpec_eq_ok_iff.mpr spelled, bind, Except.bind]
  · simp only [parse, unspelled, bind, Except.bind]

theorem traced_segments {α : Type} {parse : String → Except QueryError α} {mark : Char}
    (separates : mark = ';' ∨ mark = ',')
    (traced : ∀ segment, parse segment = .error fault → Traced parse segment fault)
    (failed : (segments mark spec).mapM parse = .error fault) {token : String}
    {valid : List String} (lists : fault.listing? = some (token, valid)) :
    Foreign token valid ∧ ∃ gap : Gap, gap.fill token = spec ∧
      ∀ name, Unmarked name → name ∉ valid →
        (segments mark (gap.fill name)).mapM parse = .error (fault.about name) := by
  -- The segments in front are read as before, whatever stands in the one that fails.
  obtain ⟨front, segment, back, cut, passed, refused⟩ := mapM_eq_error_iff.mp failed
  obtain ⟨unlisted, inner, framed, rfl, others⟩ := traced segment refused token valid lists
  obtain ⟨outer, whole, recut⟩ := exists_segment_gap cut
  have isSegment : IsSegment mark (inner.fill token) := isSegment_of_mem (by rw [cut]; simp)
  refine ⟨unlisted, inner.within outer, ?_, fun name unmarked foreign => ?_⟩
  · rw [Gap.fill_within, whole]
  · have pieces := recut _ (framed.isSegment unmarked separates isSegment)
    rw [Gap.fill_within]
    exact mapM_eq_error_iff.mpr ⟨front, _, back, pieces, passed, others name unmarked foreign⟩

end Specs

namespace Filter

variable {now : Int64} {field spec operator operand token : String} {fields specs valid : List String}
  {fault : QueryError}

theorem condition_of_unlisted (a : Attribute) (foreign : operator ∉ a.kind.operators) :
    condition a operator operand now =
      .error (.unsupportedOperator a.name operator a.kind a.kind.operators) := by
  cases a with
  | long a =>
    simp only [condition, LongComparison.compile_of_unlisted foreign, bind, Except.bind]
    rfl
  | text a =>
    simp only [condition, TextOp.named?, lookup_eq_none_iff.mpr foreign]
    rfl
  | flag a =>
    simp only [condition, FlagOp.named?, lookup_eq_none_iff.mpr foreign]
    rfl
  | date a =>
    simp only [condition, DateOp.named?, lookup_eq_none_iff.mpr foreign]
    rfl

theorem compile_of_unresolved (foreign : field ∉ Attribute.names) :
    compile now field spec = .error (.unresolvedFilter field Attribute.names) := by
  simp only [compile, (Attribute.catalogued field _).mpr ⟨foreign, rfl⟩, bind, Except.bind]

theorem compile_traced (failed : compile now field spec = .error fault)
    (lists : fault.listing? = some (token, valid)) :
    Foreign token valid ∧
      ((field = token ∧
          ∀ name, name ∉ valid → compile now name spec = .error (fault.about name)) ∨
        ∃ gap : Gap, gap.fill token = spec ∧ ∀ name, Unmarked name → name ∉ valid →
          compile now field (gap.fill name) = .error (fault.about name)) := by
  cases compile_refuses failed with
  | field unknown =>
    cases lists
    exact ⟨⟨unknown, by simp [catalogs]⟩,
      .inl ⟨rfl, fun name foreign => compile_of_unresolved foreign⟩⟩
  | mark => cases lists
  | @operator a operator operand named spelled foreign =>
    cases lists
    subst named
    refine ⟨⟨foreign, a.kind.operators_mem⟩,
      .inr ⟨_, spelled.fill_first, fun name unmarked unlisted => ?_⟩⟩
    rw [compile_spelled now a (spelled_fill_first unmarked operand)]
    exact condition_of_unlisted a unlisted
  | operand => cases lists

theorem compileAll_of_refused {before after : List String} {front back : List String}
    (alike : before.length = front.length) (rest : after.length = back.length)
    (passed : ∀ pair ∈ before.zip front, ∃ p, compile now pair.1 pair.2 = .ok p)
    (refused : compile now field spec = .error fault) :
    compileAll now (before ++ field :: after) (front ++ spec :: back) = .error fault := by
  have paired : (before ++ field :: after).length = (front ++ spec :: back).length := by
    simp [alike, rest]
  have zipped : (before ++ field :: after).zip (front ++ spec :: back) =
      before.zip front ++ (field, spec) :: after.zip back := by
    rw [List.zip_append alike, List.zip_cons_cons]
  exact (compileAll_eq_error_iff paired).mpr ⟨_, _, _, zipped, passed, refused⟩

theorem compileAll_traced (failed : compileAll now fields specs = .error fault)
    (lists : fault.listing? = some (token, valid)) :
    Foreign token valid ∧
      ((∃ front back, front ++ token :: back = fields ∧ ∀ name, name ∉ valid →
          compileAll now (front ++ name :: back) specs = .error (fault.about name)) ∨
        ∃ front back, ∃ gap : Gap, front ++ gap.fill token :: back = specs ∧
          ∀ name, Unmarked name → name ∉ valid →
            compileAll now fields (front ++ gap.fill name :: back) =
              .error (fault.about name)) := by
  have paired : fields.length = specs.length := by
    by_contra unpaired
    rw [compileAll, if_neg unpaired] at failed
    cases failed
    cases lists
  obtain ⟨before, ⟨field, spec⟩, after, split, passed, refused⟩ :=
    (compileAll_eq_error_iff paired).mp failed
  obtain ⟨before, _, front, _, alike, rfl, rfl, rfl, behind⟩ := List.zip_eq_append_iff.mp split
  obtain ⟨after, back, rfl, rfl, rfl⟩ := List.zip_eq_cons_iff.mp behind.symm
  have rest : after.length = back.length := by simpa [alike] using paired
  obtain ⟨unlisted, ⟨rfl, others⟩ | ⟨gap, rfl, others⟩⟩ := compile_traced refused lists
  · refine ⟨unlisted, .inl ⟨before, after, rfl, fun name foreign => ?_⟩⟩
    exact compileAll_of_refused alike rest passed (others name foreign)
  · refine ⟨unlisted, .inr ⟨front, back, gap, rfl, fun name unmarked foreign => ?_⟩⟩
    exact compileAll_of_refused alike rest passed (others name unmarked foreign)

end Filter

inductive Request where
  | view (name : String)
  | combinedFilter (s : Subset) (fields specs : List String)
  | findFilter (s : Subset) (spec : String)
  | sum (s : Subset) (aggregation : String)
  | histogram (s : Subset) (axis : Axis) (aggregation : String) (find : Option String)
  | prune (h : Histogram Int64) (spec : String)
  | pruneVectors (h : Histogram (List Int64)) (spec : String)

namespace Request

def fault? (e : Engine) : Request → Option QueryError
  | .view name => Session.failure? (e.snapshot.view name)
  | .combinedFilter s fields specs => Session.failure? (e.combinedFilter s fields specs)
  | .findFilter s spec => Session.failure? (e.findFilter s spec)
  | .sum s aggregation => Session.failure? (e.sum s aggregation)
  | .histogram s axis aggregation find =>
    Session.failure? (e.histogram s axis aggregation find)
  | .prune h spec => Session.failure? (e.prune h spec)
  | .pruneVectors h spec => Session.failure? (e.pruneVectors h spec)

def isConditional : Request → Bool
  | .combinedFilter .. | .prune .. | .pruneVectors .. => true
  | _ => false

end Request

inductive Hole where
  | view
  | field (s : Subset) (before after : List String) (specs : List String)
  | operator (s : Subset) (fields : List String) (before : List String) (gap : Gap)
    (after : List String)
  | findFilter (s : Subset) (gap : Gap)
  | sum (s : Subset)
  | histogramSum (s : Subset) (axis : Axis) (find : Option String)
  | histogramFind (s : Subset) (axis : Axis) (aggregation : String) (gap : Gap)
  | prune (h : Histogram Int64) (gap : Gap)
  | pruneVectors (h : Histogram (List Int64)) (gap : Gap)

namespace Hole

def fill (name : String) : Hole → Request
  | .view => .view name
  | .field s before after specs => .combinedFilter s (before ++ name :: after) specs
  | .operator s fields before gap after =>
    .combinedFilter s fields (before ++ gap.fill name :: after)
  | .findFilter s gap => .findFilter s (gap.fill name)
  | .sum s => .sum s name
  | .histogramSum s axis find => .histogram s axis name find
  | .histogramFind s axis aggregation gap => .histogram s axis aggregation (some (gap.fill name))
  | .prune h gap => .prune h (gap.fill name)
  | .pruneVectors h gap => .pruneVectors h (gap.fill name)

theorem isConditional_fill (hole : Hole) (name other : String) :
    (hole.fill name).isConditional = (hole.fill other).isConditional := by
  cases hole <;> rfl

end Hole

theorem failure?_eq_some_iff {α : Type} {answer : Except QueryError α} {fault : QueryError} :
    Session.failure? answer = some fault ↔ answer = .error fault := by
  cases answer <;> simp [Session.failure?]

/-- The name that a fault quotes is none of those that it lists and stands in the request, where any
other name that is not listed fares the same. -/
def Pinned (e : Engine) (request : Request) (fault : QueryError) (token : String)
    (valid : List String) : Prop :=
  Foreign token valid ∧ ∃ hole : Hole, hole.fill token = request ∧
    ∀ name, Unmarked name → name ∉ valid → (hole.fill name).fault? e = some (fault.about name)

theorem Catalogued.of_bind {α β : Type} {resolve : String → Except QueryError α}
    {said : String → QueryError} {valid : List String} (catalogued : Catalogued resolve said valid)
    {answer : String → Except QueryError β} {rest : String → α → Except QueryError β}
    (answers : ∀ name, answer name = resolve name >>= rest name)
    (total : ∀ name a, ∃ b, rest name a = .ok b) : Catalogued answer said valid := by
  intro name fault
  rw [← catalogued, answers]
  cases resolve name with
  | error e => simp [bind, Except.bind]
  | ok a =>
    obtain ⟨b, found⟩ := total name a
    simp [bind, Except.bind, found]

section Pinned

variable {e : Engine} {fault : QueryError} {token : String} {valid : List String}

theorem pinned_view {name : String} (failed : e.snapshot.view name = .error fault)
    (lists : fault.listing? = some (token, valid)) : Pinned e (.view name) fault token valid := by
  have catalogued : Catalogued e.snapshot.view _ _ :=
    NamedSet.catalogued.of_bind (fun _ => rfl) fun _ _ => ⟨_, rfl⟩
  obtain ⟨unlisted, rfl⟩ := (catalogued name fault).mp failed
  cases lists
  refine ⟨⟨unlisted, by simp [catalogs]⟩, .view, rfl, fun other _ foreign => failure?_eq_some_iff.mpr ?_⟩
  exact (catalogued other _).mpr ⟨foreign, rfl⟩

theorem pinned_sum {s : Subset} {name : String} (failed : e.sum s name = .error fault)
    (lists : fault.listing? = some (token, valid)) : Pinned e (.sum s name) fault token valid := by
  have catalogued : Catalogued (e.sum s) _ _ :=
    Aggregation.catalogued.of_bind (fun _ => rfl) fun _ _ => ⟨_, rfl⟩
  obtain ⟨unlisted, rfl⟩ := (catalogued name fault).mp failed
  cases lists
  refine ⟨⟨unlisted, by simp [catalogs]⟩, .sum s, rfl, fun other _ foreign => failure?_eq_some_iff.mpr ?_⟩
  exact (catalogued other _).mpr ⟨foreign, rfl⟩

theorem pinned_combinedFilter {s : Subset} {fields specs : List String}
    (failed : e.combinedFilter s fields specs = .error fault)
    (lists : fault.listing? = some (token, valid)) :
    Pinned e (.combinedFilter s fields specs) fault token valid := by
  have refused {fields specs : List String} {fault : QueryError}
      (uncompiled : Filter.compileAll e.now fields specs = .error fault) :
      (Request.combinedFilter s fields specs).fault? e = some fault := by
    rw [Request.fault?, failure?_eq_some_iff, Engine.combinedFilter, uncompiled]
    rfl
  cases compiled : Filter.compileAll e.now fields specs with
  | ok p =>
    -- The records can be at fault then, but no name is.
    rw [Engine.combinedFilter_eq e s compiled] at failed
    have selects : Selects e.release e.now s (fields.zip specs) (s.selected e.release p) :=
      selected_selects fun r => compileAll_verdict compiled
    obtain ⟨what, rfl⟩ := selects.cause fault failed
    cases lists
  | error f =>
    obtain rfl : f = fault := by
      simpa [Engine.combinedFilter, compiled, bind, Except.bind] using failed
    obtain ⟨unlisted, ⟨before, after, rfl, others⟩ | ⟨before, after, gap, rfl, others⟩⟩ :=
      Filter.compileAll_traced compiled lists
    · exact ⟨unlisted, .field s before after specs, rfl, fun name _ foreign =>
        refused (others name foreign)⟩
    · exact ⟨unlisted, .operator s fields before gap after, rfl, fun name unmarked foreign =>
        refused (others name unmarked foreign)⟩

theorem findFilter_of_given {s : Subset} {spec : String} (given : Text.trim spec ≠ "") :
    e.findFilter s spec = do
      let f ← FindFilter.parse spec
      return f.apply e.release s e.fanout :=
  if_neg given

theorem pinned_findFilter {s : Subset} {spec : String} (failed : e.findFilter s spec = .error fault)
    (lists : fault.listing? = some (token, valid)) (no_operator : fault.namesOperator = false) :
    Pinned e (.findFilter s spec) fault token valid := by
  have given : Text.trim spec ≠ "" := fun blank => by
    rw [Engine.findFilter, if_pos blank] at failed
    cases failed
  rw [findFilter_of_given given] at failed
  cases parsed : FindFilter.parse spec with
  | ok f => simp [parsed, bind, Except.bind, pure, Except.pure] at failed
  | error f =>
    obtain rfl : f = fault := by simpa [parsed, bind, Except.bind] using failed
    obtain ⟨unlisted, gap, framed, rfl, others⟩ := FindFilter.traced parsed no_operator token valid lists
    refine ⟨unlisted, .findFilter s gap, rfl, fun name unmarked foreign => ?_⟩
    rw [Hole.fill, Request.fault?, failure?_eq_some_iff,
      findFilter_of_given (framed.trim_ne_empty name), others name unmarked foreign]
    rfl

theorem scale_unlisting {axis : Axis} {release : Release} {now : Int64}
    (failed : axis.scale release now = .error fault) : fault.listing? = none := by
  have age {range : String} {time : Record → Int64}
      (refused : Axis.age range now time = .error fault) : fault.listing? = none := by
    unfold Axis.age TimeRange.resolve at refused
    cases found : TimeRange.table.lookup (Text.lowered range) with
    | some r => simp [found, bind, Except.bind, pure, Except.pure] at refused
    | none =>
      simp only [found, bind, Except.bind, Except.error.injEq] at refused
      rw [← refused]
      rfl
  cases axis with
  | accessTime | modTime => exact age failed
  | diskspace | memory | fileSize | replication | storageType | owner | group | parentDir
  | fileType | dirQuota => cases failed

theorem histogram_eq_error_iff {s : Subset} {axis : Axis} {scale : Scale} {aggregation : String}
    {find : Option String} (scaled : axis.scale e.release e.now = .ok scale) :
    e.histogram s axis aggregation find = .error fault ↔
      Reduction.request e.release aggregation find axis.transforms = .error fault := by
  simp only [Engine.histogram, Engine.histogramOver, scaled, bind, Except.bind]
  cases Reduction.request e.release aggregation find axis.transforms with
  | error f => simp
  | ok reduction =>
    obtain ⟨h, found⟩ := scale.histogramOver_succeeds (e.fanout.halves s.records) reduction
    simp [found]

theorem request_of_given {release : Release} {aggregation spec : String} {transforms : Transforms}
    (given : Text.trim spec ≠ "") :
    Reduction.request release aggregation (some spec) transforms = do
      return .find release (← FindSpec.parse (Text.trim spec)) := by
  have kept : ((some spec).map Text.trim).filter (· ≠ "") = some (Text.trim spec) := by
    simp [given]
  simp only [Reduction.request, kept]

theorem pinned_histogram {s : Subset} {axis : Axis} {aggregation : String} {find : Option String}
    (failed : e.histogram s axis aggregation find = .error fault)
    (lists : fault.listing? = some (token, valid)) (no_operator : fault.namesOperator = false) :
    Pinned e (.histogram s axis aggregation find) fault token valid := by
  cases scaled : axis.scale e.release e.now with
  | error f =>
    obtain rfl : f = fault := by
      simpa [Engine.histogram, Engine.histogramOver, scaled, bind, Except.bind] using failed
    rw [scale_unlisting scaled] at lists
    cases lists
  | ok scale =>
    rw [histogram_eq_error_iff scaled] at failed
    -- The aggregation is looked up only where nothing is to be found.
    cases asked : (find.map Text.trim).filter (· ≠ "") with
    | none =>
      have requests (name : String) :
          Reduction.request e.release name find axis.transforms =
            Aggregation.resolve name >>= fun a =>
              .ok (.sum (axis.transforms.getD name fun r => a.contribution r)) := by
        simp only [Reduction.request, asked]
        rfl
      have catalogued : Catalogued
          (fun name => Reduction.request e.release name find axis.transforms) _ _ :=
        Aggregation.catalogued.of_bind requests fun _ _ => ⟨_, rfl⟩
      obtain ⟨unlisted, rfl⟩ := (catalogued aggregation fault).mp failed
      cases lists
      refine ⟨⟨unlisted, by simp [catalogs]⟩, .histogramSum s axis find, rfl, fun name _ foreign => ?_⟩
      rw [Hole.fill, Request.fault?, failure?_eq_some_iff, histogram_eq_error_iff scaled]
      exact (catalogued name _).mpr ⟨foreign, rfl⟩
    | some text =>
      obtain ⟨spec, rfl, given⟩ : ∃ spec, find = some spec ∧ Text.trim spec ≠ "" := by
        cases find with
        | none => cases asked
        | some spec => exact ⟨spec, rfl, fun blank => by simp [blank] at asked⟩
      rw [request_of_given given] at failed
      cases parsed : FindSpec.parse (Text.trim spec) with
      | ok found => simp [parsed, bind, Except.bind, pure, Except.pure] at failed
      | error f =>
        obtain rfl : f = fault := by simpa [parsed, bind, Except.bind] using failed
        obtain ⟨unlisted, inner, framed, filled, others⟩ :=
          FindSpec.traced parsed no_operator token valid lists
        obtain ⟨outer, whole, trimmed⟩ := exists_trim_gap spec
        have tight : Text.trim (inner.fill token) = inner.fill token := by
          rw [filled, Text.trim_trim]
        refine ⟨unlisted, .histogramFind s axis aggregation (inner.within outer), ?_,
          fun name unmarked foreign => ?_⟩
        · rw [Hole.fill, Gap.fill_within, filled, whole]
        · have still_tight := framed.tight unmarked tight
          have read : Text.trim (outer.fill (inner.fill name)) = inner.fill name :=
            trimmed _ still_tight
          have still_given : Text.trim (outer.fill (inner.fill name)) ≠ "" := by
            rw [read, ← still_tight]
            exact framed.trim_ne_empty name
          rw [Hole.fill, Request.fault?, failure?_eq_some_iff, histogram_eq_error_iff scaled,
            Gap.fill_within, request_of_given still_given, read, others name unmarked foreign]
          rfl

theorem pinned_prune {h : Histogram Int64} {spec : String} (failed : e.prune h spec = .error fault)
    (lists : fault.listing? = some (token, valid)) :
    Pinned e (.prune h spec) fault token valid := by
  have refused {spec : String} {fault : QueryError} : e.prune h spec = .error fault ↔
      (segments ';' spec).mapM (LongComparison.parse "condition" · e.now) = .error fault :=
    Conditions.prune_eq_error_iff.trans mapM_eq_error_iff.symm
  obtain ⟨unlisted, gap, rfl, others⟩ :=
    traced_segments (.inl rfl) (fun _ => LongComparison.traced) (refused.mp failed) lists
  refine ⟨unlisted, .prune h gap, rfl, fun name unmarked foreign => failure?_eq_some_iff.mpr ?_⟩
  exact refused.mpr (others name unmarked foreign)

theorem pruneVectors_of_unread {h : Histogram (List Int64)} {spec : String}
    (unread : (segments ',' spec).mapM (IndexedConditions.parseOne e.now) = .error fault) :
    e.pruneVectors h spec = .error fault := by
  simp only [Engine.pruneVectors, IndexedConditions.prune, IndexedConditions.parse, unread, bind,
    Except.bind]

theorem pinned_pruneVectors {h : Histogram (List Int64)} {spec : String}
    (failed : e.pruneVectors h spec = .error fault)
    (lists : fault.listing? = some (token, valid)) :
    Pinned e (.pruneVectors h spec) fault token valid := by
  cases read : (segments ',' spec).mapM (IndexedConditions.parseOne e.now) with
  | ok comparisons =>
    have parsed : IndexedConditions.parse spec e.now = .ok ⟨comparisons⟩ := by
      simp only [IndexedConditions.parse, read, bind, Except.bind, pure, Except.pure]
    -- Only the places are left to be at fault, and they are not names.
    obtain ⟨_, _, _, _, _, stumbles⟩ := (IndexedConditions.prune_eq_error_iff parsed).mp failed
    obtain ⟨_, _, _, _, _, _, rfl⟩ := stumbles
    cases lists
  | error f =>
    obtain rfl := Except.error.inj ((pruneVectors_of_unread read).symm.trans failed)
    obtain ⟨unlisted, gap, rfl, others⟩ :=
      traced_segments (.inr rfl) (fun _ => IndexedConditions.traced) read lists
    refine ⟨unlisted, .pruneVectors h gap, rfl, fun name unmarked foreign => ?_⟩
    exact failure?_eq_some_iff.mpr (pruneVectors_of_unread (others name unmarked foreign))

end Pinned

theorem pinned {e : Engine} {request : Request} {fault : QueryError} {token : String}
    {valid : List String} (failed : request.fault? e = some fault)
    (lists : fault.listing? = some (token, valid))
    (conditional : fault.namesOperator = true → request.isConditional = true) :
    Pinned e request fault token valid := by
  have unconditional (finds : request.isConditional = false) : fault.namesOperator = false :=
    Bool.eq_false_iff.mpr fun operator => by simp [conditional operator] at finds
  cases request with
  | view => exact pinned_view (failure?_eq_some_iff.mp failed) lists
  | combinedFilter => exact pinned_combinedFilter (failure?_eq_some_iff.mp failed) lists
  | findFilter =>
    exact pinned_findFilter (failure?_eq_some_iff.mp failed) lists (unconditional rfl)
  | sum => exact pinned_sum (failure?_eq_some_iff.mp failed) lists
  | histogram =>
    exact pinned_histogram (failure?_eq_some_iff.mp failed) lists (unconditional rfl)
  | prune => exact pinned_prune (failure?_eq_some_iff.mp failed) lists
  | pruneVectors => exact pinned_pruneVectors (failure?_eq_some_iff.mp failed) lists

theorem listings_are_exact (e : Engine) (request : Request) (fault : QueryError) (token : String)
    (valid : List String) (failed : request.fault? e = some fault)
    (lists : fault.listing? = some (token, valid))
    (conditional : fault.namesOperator = true → request.isConditional = true) :
    NamesInStep ∧ QueryError.Quotes fault.message token valid ∧
      segments ',' (QueryError.listed valid) = valid ∧ token ∉ valid ∧
      ∃ hole : Hole, hole.fill token = request ∧ ∀ name, Unmarked name →
        ((hole.fill name).fault? e = some (fault.about name) ↔ name ∉ valid) := by
  obtain ⟨foreign, hole, whole, others⟩ := pinned failed lists conditional
  refine ⟨namesInStep, QueryError.message_quotes lists, segments_catalog foreign.catalog,
    foreign.unlisted, hole, whole, fun name unmarked => ⟨fun refused => ?_, others name unmarked⟩⟩
  -- A fault that lists a name again is traced again, to a name that is not listed.
  have still_conditional : (fault.about name).namesOperator = true →
      (hole.fill name).isConditional = true := by
    rw [QueryError.namesOperator_about, hole.isConditional_fill name token, whole]
    exact conditional
  obtain ⟨again, -⟩ := pinned refused (QueryError.listing?_about lists name) still_conditional
  exact again.unlisted

/-- The operator of a condition that comes after another, with blanks around it. -/
theorem listings_are_exact_of_later_condition :
    let request : Request := .pruneVectors (.ofEntries [("ann", [1, 2])]) "0:gt:5, 1:above:7 "
    let fault (name : String) : QueryError :=
      .unsupportedOperator "condition" name .long LongOp.names
    request.fault? Engine.bare = some (fault "above") ∧ "above" ∉ LongOp.names ∧
      ∃ hole : Hole, hole.fill "above" = request ∧
        (hole.fill "over").fault? Engine.bare = some (fault "over") ∧
        (hole.fill "lt").fault? Engine.bare ≠ some (fault "lt") := by
  intro request fault
  have failed : request.fault? Engine.bare = some (fault "above") := rfl
  obtain ⟨-, -, -, unlisted, hole, whole, alike⟩ :=
    listings_are_exact Engine.bare request (fault "above") "above" LongOp.names failed rfl
      fun _ => rfl
  have unknown : Unmarked "over" := by simp [Unmarked, Text.isBlank, Text.blanks]
  have known : Unmarked "lt" := by simp [Unmarked, Text.isBlank, Text.blanks]
  refine ⟨failed, unlisted, hole, whole, (alike "over" unknown).mpr (by decide), fun refused => ?_⟩
  exact (alike "lt" known).mp refused (by decide)

end Census
