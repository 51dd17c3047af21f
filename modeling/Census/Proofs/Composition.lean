import Census.Proofs.Selection

set_option autoImplicit false

namespace Census

theorem compileEach_append {now : Int64} (xs ys : List (String × String)) :
    Filter.compileEach now (xs ++ ys) = do
      let ps ← Filter.compileEach now xs
      let qs ← Filter.compileEach now ys
      return ps ++ qs := by
  induction xs with
  | nil =>
    rw [List.nil_append]
    cases Filter.compileEach now ys <;> rfl
  | cons pair rest ih =>
    obtain ⟨field, spec⟩ := pair
    simp only [List.cons_append, Filter.compileEach, ih]
    cases Filter.compile now field spec with
    | error e => rfl
    | ok p =>
      cases Filter.compileEach now rest with
      | error e => rfl
      | ok ps => cases Filter.compileEach now ys <;> rfl

theorem compileAll_append_eq_ok_iff {now : Int64} {fields specs fields' specs' : List String}
    {p : Predicate} (paired : fields.length = specs.length)
    (paired' : fields'.length = specs'.length) :
    Filter.compileAll now (fields ++ fields') (specs ++ specs') = .ok p ↔
      ∃ ps qs, Filter.compileEach now (fields.zip specs) = .ok ps ∧
        Filter.compileEach now (fields'.zip specs') = .ok qs ∧ .all (ps ++ qs) = p := by
  rw [compileAll_eq_ok_iff, List.zip_append paired, compileEach_append]
  cases Filter.compileEach now (fields.zip specs) with
  | error e => simp [bind, Except.bind]
  | ok ps =>
    cases Filter.compileEach now (fields'.zip specs') <;>
      simp [paired, paired', bind, Except.bind, pure, Except.pure]

namespace Subset

variable {release : Release} {r : Record} {ps qs : List Predicate}

theorem admits_all_append :
    admits release (.all (ps ++ qs)) r =
      (admits release (.all ps) r && admits release (.all qs) r) := by
  simp only [admits, Predicate.accepts_all, Predicate.acceptsAll_append]
  cases Predicate.acceptsAll release r ps with
  | error e => rfl
  | ok b => cases b <;> rfl

theorem filter_admits_all_append (records : List Record) :
    records.filter (admits release (.all (ps ++ qs))) =
      (records.filter (admits release (.all ps))).filter (admits release (.all qs)) := by
  rw [List.filter_filter]
  apply List.filter_congr
  intro r _
  rw [admits_all_append, Bool.and_comm]

-- A condition of the later list has to be decided only for what the earlier list admits.
theorem decided_all_append_iff :
    (∃ b, (Predicate.all (ps ++ qs)).accepts release r = .ok b) ↔
      (∃ b, (Predicate.all ps).accepts release r = .ok b) ∧
        (admits release (.all ps) r = true →
          ∃ b, (Predicate.all qs).accepts release r = .ok b) := by
  simp only [admits, Predicate.accepts_all, Predicate.acceptsAll_append]
  cases Predicate.acceptsAll release r ps with
  | error e => simp
  | ok b => cases b <;> simp [Except.toOption]

theorem selected_eq_ok_iff {p : Predicate} {s t : Subset} :
    s.selected release p = .ok t ↔
      (∀ r ∈ s.firsts, ∃ b, p.accepts release r = .ok b) ∧
        t.records = s.firsts.filter (admits release p) := by
  obtain ⟨records⟩ := t
  constructor
  · intro chosen
    refine ⟨?_, selected_eq_ok chosen⟩
    unfold selected at chosen
    cases result : select release p s.firsts with
    | error e => simp [result, Except.map] at chosen
    | ok kept => exact (select_eq_ok result).1
  · rintro ⟨decided, rfl⟩
    rw [selected, select_of_decided decided]
    rfl

theorem firsts_of_selected {p : Predicate} {s t : Subset}
    (chosen : s.selected release p = .ok t) : t.firsts = t.records := by
  apply firsts_of_nodup
  rw [ids, selected_eq_ok chosen]
  exact s.nodup_ids_firsts.sublist (List.filter_sublist.map _)

theorem selected_all_append_eq_ok_iff {s t : Subset} :
    s.selected release (.all (ps ++ qs)) = .ok t ↔
      ∃ u, s.selected release (.all ps) = .ok u ∧ u.selected release (.all qs) = .ok t := by
  constructor
  · intro chosen
    obtain ⟨decided, kept⟩ := selected_eq_ok_iff.mp chosen
    simp only [decided_all_append_iff] at decided
    have first : s.selected release (.all ps) =
        .ok ⟨s.firsts.filter (admits release (.all ps))⟩ :=
      selected_eq_ok_iff.mpr ⟨fun r member => (decided r member).1, rfl⟩
    refine ⟨_, first, selected_eq_ok_iff.mpr ?_⟩
    rw [firsts_of_selected first]
    constructor
    · intro r member
      obtain ⟨inside, admitted⟩ := List.mem_filter.mp member
      exact (decided r inside).2 admitted
    · rw [kept, filter_admits_all_append]
  · rintro ⟨u, first, second⟩
    obtain ⟨decided, kept⟩ := selected_eq_ok_iff.mp first
    obtain ⟨later, others⟩ := selected_eq_ok_iff.mp second
    rw [firsts_of_selected first, kept] at later others
    refine selected_eq_ok_iff.mpr ⟨?_, ?_⟩
    · intro r member
      exact decided_all_append_iff.mpr
        ⟨decided r member, fun admitted => later r (List.mem_filter.mpr ⟨member, admitted⟩)⟩
    · rw [others, filter_admits_all_append]

theorem selected_of_selected {p : Predicate} {s t : Subset}
    (chosen : s.selected release p = .ok t) : t.selected release p = .ok t := by
  obtain ⟨decided, kept⟩ := selected_eq_ok_iff.mp chosen
  rw [selected_eq_ok_iff, firsts_of_selected chosen, kept]
  constructor
  · intro r member
    exact decided r (List.mem_filter.mp member).1
  · simp

theorem selected_always_of_selected {p : Predicate} {s t : Subset}
    (chosen : s.selected release p = .ok t) : t.selected release .always = .ok t := by
  rw [selected, select_always, firsts_of_selected chosen]
  rfl

end Subset

namespace Engine

theorem combinedFilter_eq_ok_iff {e : Engine} {s t : Subset} {fields specs : List String} :
    e.combinedFilter s fields specs = .ok t ↔
      ∃ p, Filter.compileAll e.now fields specs = .ok p ∧ s.selected e.release p = .ok t := by
  cases compiled : Filter.compileAll e.now fields specs with
  | error fault => simp [combinedFilter, compiled, bind, Except.bind]
  | ok p => simp [combinedFilter_eq e s compiled]

theorem combinedFilter_append_eq_ok_iff {e : Engine} {s t : Subset}
    {fields specs fields' specs' : List String} (paired : fields.length = specs.length)
    (paired' : fields'.length = specs'.length) :
    e.combinedFilter s (fields ++ fields') (specs ++ specs') = .ok t ↔
      ∃ u, e.combinedFilter s fields specs = .ok u ∧
        e.combinedFilter u fields' specs' = .ok t := by
  constructor
  · intro chosen
    obtain ⟨_, compiled, selected⟩ := combinedFilter_eq_ok_iff.mp chosen
    obtain ⟨ps, qs, each, each', rfl⟩ := (compileAll_append_eq_ok_iff paired paired').mp compiled
    obtain ⟨u, first, second⟩ := Subset.selected_all_append_eq_ok_iff.mp selected
    exact ⟨u,
      combinedFilter_eq_ok_iff.mpr ⟨_, compileAll_eq_ok_iff.mpr ⟨paired, ps, each, rfl⟩, first⟩,
      combinedFilter_eq_ok_iff.mpr ⟨_, compileAll_eq_ok_iff.mpr ⟨paired', qs, each', rfl⟩, second⟩⟩
  · rintro ⟨u, chosen, chosen'⟩
    obtain ⟨_, compiled, first⟩ := combinedFilter_eq_ok_iff.mp chosen
    obtain ⟨_, compiled', second⟩ := combinedFilter_eq_ok_iff.mp chosen'
    obtain ⟨-, ps, each, rfl⟩ := compileAll_eq_ok_iff.mp compiled
    obtain ⟨-, qs, each', rfl⟩ := compileAll_eq_ok_iff.mp compiled'
    exact combinedFilter_eq_ok_iff.mpr ⟨_,
      (compileAll_append_eq_ok_iff paired paired').mpr ⟨ps, qs, each, each', rfl⟩,
      Subset.selected_all_append_eq_ok_iff.mpr ⟨u, first, second⟩⟩

theorem combinedFilter_composes (e : Engine) (s : Subset)
    (fields specs fields' specs' : List String) (paired : fields.length = specs.length)
    (paired' : fields'.length = specs'.length) :
    (∀ t, e.combinedFilter s (fields ++ fields') (specs ++ specs') = .ok t ↔
      ∃ u, e.combinedFilter s fields specs = .ok u ∧ e.combinedFilter u fields' specs' = .ok t) ∧
    (do e.combinedFilter (← e.combinedFilter s fields specs) fields specs) =
      e.combinedFilter s fields specs ∧
    (do e.combinedFilter (← e.combinedFilter s fields specs) [] []) =
      e.combinedFilter s fields specs := by
  refine ⟨fun t => combinedFilter_append_eq_ok_iff paired paired', ?_, ?_⟩
  · cases chosen : e.combinedFilter s fields specs with
    | error fault => rfl
    | ok t =>
      obtain ⟨p, compiled, selected⟩ := combinedFilter_eq_ok_iff.mp chosen
      exact combinedFilter_eq_ok_iff.mpr ⟨p, compiled, Subset.selected_of_selected selected⟩
  · cases chosen : e.combinedFilter s fields specs with
    | error fault => rfl
    | ok t =>
      obtain ⟨p, -, selected⟩ := combinedFilter_eq_ok_iff.mp chosen
      have nothing_asked : Filter.compileAll e.now [] [] = .ok .always := rfl
      exact combinedFilter_eq_ok_iff.mpr
        ⟨.always, nothing_asked, Subset.selected_always_of_selected selected⟩

/-- The time of the first record lies on no day. -/
def undatedFirst : Subset where
  records :=
    [{ Record.file 1 "/a" (.of 1 1 1) with user := "bob", modTime := Int64.maxValue },
      { Record.file 2 "/b" (.of 1 1 1) with user := "ann" }]

theorem combinedFilter_composes_past_undated :
    ["user"].length = ["eq:ann"].length ∧ ["modDate"].length = ["dateLt:01/01/2000"].length ∧
      ∃ t, bare.combinedFilter undatedFirst ["user", "modDate"] ["eq:ann", "dateLt:01/01/2000"] =
        .ok t ∧ t.ids = [2] := by
  obtain ⟨composes, -⟩ := combinedFilter_composes bare undatedFirst ["user"] ["eq:ann"]
    ["modDate"] ["dateLt:01/01/2000"] rfl rfl
  have left : bare.combinedFilter undatedFirst ["user"] ["eq:ann"] =
      .ok ⟨undatedFirst.records.drop 1⟩ := by
    refine combinedFilter_eq_ok_iff.mpr
      ⟨.text .user ⟨.eq, false⟩ "ann", rfl, Subset.selected_eq_ok_iff.mpr ?_⟩
    rw [Subset.firsts_of_nodup (by decide)]
    exact ⟨fun r _ => ⟨_, rfl⟩, by decide⟩
  have dated : bare.combinedFilter ⟨undatedFirst.records.drop 1⟩ ["modDate"]
      ["dateLt:01/01/2000"] = .ok ⟨undatedFirst.records.drop 1⟩ := by
    refine combinedFilter_eq_ok_iff.mpr
      ⟨.date .modDate .lt ⟨2000, 1, 1, by decide⟩, rfl, Subset.selected_eq_ok_iff.mpr ?_⟩
    rw [Subset.firsts_of_nodup (by decide)]
    refine ⟨fun r member => ?_, by decide⟩
    obtain rfl := List.mem_singleton.mp member
    exact ⟨true, by decide +kernel⟩
  exact ⟨rfl, rfl, _, (composes _).mpr ⟨_, left, dated⟩, rfl⟩

end Engine

end Census
