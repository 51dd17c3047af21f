import Census.Proofs.Maps

set_option autoImplicit false

namespace Census

section Requests

variable {σ α β : Type}

def BlamesRequest (answer : Except QueryError α) : Prop :=
  ∀ fault, answer = .error fault → fault.isInputError = true

theorem blamesRequest_ok (a : α) : BlamesRequest (.ok a) := by
  intro fault failed
  cases failed

theorem blamesRequest_error {fault : QueryError} (input : fault.isInputError = true) :
    BlamesRequest (.error fault : Except QueryError α) := by
  intro _ failed
  cases failed
  exact input

theorem BlamesRequest.bind {x : Except QueryError α} {f : α → Except QueryError β}
    (first : BlamesRequest x) (later : ∀ a, BlamesRequest (f a)) : BlamesRequest (x >>= f) := by
  cases x with
  | error fault => exact blamesRequest_error (first fault rfl)
  | ok a => exact later a

structure DecidedByRequest (answer : σ → Except QueryError α) : Prop where
  alike : ∀ s s' fault, answer s = .error fault → answer s' = .error fault
  blames : ∀ s, BlamesRequest (answer s)

theorem decidedByRequest_const {answer : Except QueryError α} (blames : BlamesRequest answer) :
    DecidedByRequest fun _ : σ => answer where
  alike _ _ _ failed := failed
  blames _ := blames

theorem decidedByRequest_of_total {answer : σ → Except QueryError α}
    (total : ∀ s, ∃ a, answer s = .ok a) : DecidedByRequest answer where
  alike s s' fault failed := by
    obtain ⟨a, found⟩ := total s
    rw [found] at failed
    cases failed
  blames s := by
    obtain ⟨a, found⟩ := total s
    exact found ▸ blamesRequest_ok a

theorem DecidedByRequest.bind {x : σ → Except QueryError α} {f : σ → α → Except QueryError β}
    (first : DecidedByRequest x) (later : DecidedByRequest fun given : σ × α => f given.1 given.2) :
    DecidedByRequest fun s => x s >>= f s where
  alike s s' fault failed := by
    cases one : x s with
    | error e =>
      rw [one] at failed
      rw [first.alike s s' e one]
      exact failed
    | ok a =>
      rw [one] at failed
      -- The first answer cannot fail for the other, or it would have failed here as well.
      cases other : x s' with
      | error e =>
        rw [first.alike s' s e other] at one
        cases one
      | ok b => exact later.alike (s, a) (s', b) fault failed
  blames s := (first.blames s).bind fun a => later.blames (s, a)

theorem decidedByRequest_of_read {read : Except QueryError α} (blames : BlamesRequest read)
    {answer : σ → α → Except QueryError β} (total : ∀ s a, ∃ b, answer s a = .ok b) :
    DecidedByRequest fun s => read >>= answer s :=
  (decidedByRequest_const blames).bind (decidedByRequest_of_total fun given => total given.1 given.2)

theorem DecidedByRequest.comp {τ : Type} {answer : σ → Except QueryError α}
    (decided : DecidedByRequest answer) (view : τ → σ) :
    DecidedByRequest fun t => answer (view t) where
  alike t t' := decided.alike (view t) (view t')
  blames t := decided.blames (view t)

end Requests

section Names

theorem blamesRequest_splitSpec (context spec : String) : BlamesRequest (splitSpec context spec) := by
  unfold splitSpec
  split
  · exact blamesRequest_ok _
  · exact blamesRequest_error rfl

theorem Attribute.blamesRequest_resolve (field : String) : BlamesRequest (resolve field) := by
  unfold resolve
  split
  · exact blamesRequest_ok _
  · exact blamesRequest_error rfl

theorem Attribute.blamesRequest_resolveLong (field operator : String) :
    BlamesRequest (resolveLong field operator) := by
  refine (blamesRequest_resolve field).bind fun a => ?_
  cases a with
  | long a => exact blamesRequest_ok a
  | text a | flag a | date a => exact blamesRequest_error rfl

theorem Aggregation.blamesRequest_resolve (name : String) : BlamesRequest (resolve name) := by
  unfold resolve
  split
  · exact blamesRequest_ok _
  · exact blamesRequest_error rfl

theorem TimeRange.blamesRequest_resolve (text : String) : BlamesRequest (resolve text) := by
  unfold resolve
  split
  · exact blamesRequest_ok _
  · exact blamesRequest_error rfl

theorem FindMode.blamesRequest_resolve (name : String) : BlamesRequest (resolve name) := by
  unfold resolve
  split
  · exact blamesRequest_ok _
  · exact blamesRequest_error rfl

theorem Extreme.blamesRequest_resolve (name : String) : BlamesRequest (resolve name) := by
  unfold resolve
  split
  · exact blamesRequest_ok _
  · exact blamesRequest_error rfl

theorem FindSpec.blamesRequest_parse (spec : String) : BlamesRequest (parse spec) :=
  (blamesRequest_splitSpec "find" spec).bind fun parts =>
    (FindMode.blamesRequest_resolve parts.1).bind fun mode =>
      (Attribute.blamesRequest_resolveLong parts.2 mode.name).bind fun _ => blamesRequest_ok _

theorem FindFilter.blamesRequest_parse (spec : String) : BlamesRequest (parse spec) :=
  (blamesRequest_splitSpec "findFilter" spec).bind fun parts =>
    (Extreme.blamesRequest_resolve parts.1).bind fun _ =>
      (Attribute.blamesRequest_resolveLong parts.2 parts.1).bind fun _ => blamesRequest_ok _

end Names

theorem Axis.decidedByRequest_scale (axis : Axis) :
    DecidedByRequest fun e : Engine => axis.scale e.release e.now := by
  cases axis with
  | accessTime range | modTime range =>
    exact decidedByRequest_of_read (TimeRange.blamesRequest_resolve range) fun _ _ => ⟨_, rfl⟩
  | diskspace | memory | fileSize | replication | storageType | owner | group | parentDir
  | fileType | dirQuota => exact decidedByRequest_of_total fun _ => ⟨_, rfl⟩

theorem Reduction.decidedByRequest_request (sum : String) (find : Option String)
    (transforms : Transforms) :
    DecidedByRequest fun release : Release => request release sum find transforms := by
  unfold request
  split
  next spec _ =>
    exact decidedByRequest_of_read (FindSpec.blamesRequest_parse spec) fun _ _ => ⟨_, rfl⟩
  next =>
    exact decidedByRequest_of_read (Aggregation.blamesRequest_resolve sum) fun _ _ => ⟨_, rfl⟩

theorem Scale.histogramOver_succeeds (scale : Scale) (pieces : Cut Record)
    (reduction : Reduction) : ∃ h, scale.histogramOver pieces reduction = .ok h := by
  cases scale with
  | ranges layout dimension =>
    by_cases none_given : pieces.toList = []
    · exact ⟨.empty, by simp [histogramOver, Bucketing.rangedOver, none_given]⟩
    · obtain ⟨_, found, -⟩ := Bucketing.rangedOver_succeeds none_given dimension reduction layout
      exact ⟨_, found⟩
  | labels label order shown =>
    obtain ⟨d, found, -⟩ := Bucketing.discreteOver_isMap pieces label reduction order shown
    exact ⟨_, by rw [histogramOver, found]; rfl⟩

namespace AvgCell

theorem finish_reduce (values : Cut Int64) :
    ∃ v, (values.reduce (Cell.addAll (Cell.empty : AvgCell)) Cell.merge).finish = .ok v ∧
      v.toInt = exactSum values.toList / values.toList.length := by
  rw [Cut.reduce_eq Cell.merge_addAll]
  exact ⟨_, finish_avgCell values.toList, toInt_figure_avg values.toList⟩

end AvgCell

namespace Engine

theorem decidedByRequest_histogramOver (axis : Axis) (sum : String) (find : Option String) :
    DecidedByRequest fun given : Engine × Cut Record =>
      given.1.histogramOver given.2 axis sum find :=
  (axis.decidedByRequest_scale.comp Prod.fst).bind <|
    ((Reduction.decidedByRequest_request sum find axis.transforms).comp
      fun given : (Engine × Cut Record) × Scale => given.1.1.release).bind <|
    decidedByRequest_of_total fun given =>
      given.1.2.histogramOver_succeeds given.1.1.2 given.2

theorem decidedByRequest_findFilter (spec : String) :
    DecidedByRequest fun given : Engine × Subset => given.1.findFilter given.2 spec := by
  unfold findFilter
  split
  next => exact decidedByRequest_of_total fun given => ⟨given.2, rfl⟩
  next =>
    exact decidedByRequest_of_read (FindFilter.blamesRequest_parse spec) fun _ _ => ⟨_, rfl⟩

/--
A histogram cannot find its own figures at fault, since the mean of words is a word, whatever runs
they were added up in.
-/
theorem acceptance_ignores_records :
    (∀ axis sum find, DecidedByRequest fun given : Engine × Subset =>
      given.1.histogram given.2 axis sum find) ∧
    (∀ aggregation, DecidedByRequest fun given : Engine × Subset =>
      given.1.sum given.2 aggregation) ∧
    (∀ spec, DecidedByRequest fun given : Engine × Subset => given.1.findFilter given.2 spec) ∧
    (∀ (e : Engine) pieces axis sum find what,
      e.histogramOver pieces axis sum find ≠ .error (.invariantViolation what)) ∧
    ∀ values : Cut Int64, values.toList ≠ [] →
      ∃ v, (values.reduce (Cell.addAll (Cell.empty : AvgCell)) Cell.merge).finish = .ok v ∧
        v.toInt = exactSum values.toList / values.toList.length := by
  refine ⟨?_, ?_, decidedByRequest_findFilter, ?_, fun values _ => AvgCell.finish_reduce values⟩
  · intro axis sum find
    exact (decidedByRequest_histogramOver axis sum find).comp fun given : Engine × Subset =>
      (given.1, given.1.fanout.halves given.2.records)
  · intro aggregation
    exact decidedByRequest_of_read (Aggregation.blamesRequest_resolve aggregation)
      fun _ _ => ⟨_, rfl⟩
  · intro e pieces axis sum find what violated
    cases (decidedByRequest_histogramOver axis sum find).blames (e, pieces) _ violated

theorem acceptance_ignores_records_of_unknown_range :
    (∃ fault, fault.isInputError = true ∧
      ∀ s, bare.histogram s (.modTime "ages") "count" none = .error fault) ∧
    ∃ v, ((Cut.join (.run [Int64.minValue]) (.run [Int64.minValue])).reduce
      (Cell.addAll (Cell.empty : AvgCell)) Cell.merge).finish = .ok v ∧
        v = Int64.minValue := by
  obtain ⟨histograms, -, -, -, averages⟩ := acceptance_ignores_records
  have decided := histograms (.modTime "ages") "count" none
  have refused : bare.histogram ⟨[]⟩ (.modTime "ages") "count" none = .error
      (.malformedOperand "timeRange" "ages"
        ("expected one of " ++ QueryError.listed TimeRange.names)) := rfl
  obtain ⟨v, finished, mean⟩ := averages (.join (.run [Int64.minValue]) (.run [Int64.minValue]))
    (by decide)
  exact ⟨⟨_, decided.blames (bare, ⟨[]⟩) _ refused,
    fun s => decided.alike (bare, ⟨[]⟩) (bare, s) _ refused⟩,
    v, finished, Int64.toInt_inj.mp (mean.trans (by decide))⟩

end Engine

end Census
