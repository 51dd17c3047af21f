import Census.Engine
import Census.Proofs.Conditions
import Census.Proofs.Firsts

set_option autoImplicit false

namespace Census

section Splits

variable {α : Type} {P Q : α → Prop}

def Reaches (P Q : α → Prop) (xs : List α) : Prop :=
  ∃ before x after, xs = before ++ x :: after ∧ (∀ y ∈ before, P y) ∧ Q x

theorem not_reaches_nil : ¬Reaches P Q [] := by
  simp [Reaches]

theorem reaches_cons_iff {x : α} {xs : List α} :
    Reaches P Q (x :: xs) ↔ Q x ∨ (P x ∧ Reaches P Q xs) := by
  constructor
  · rintro ⟨before, y, after, split, all, last⟩
    cases before with
    | nil =>
      obtain ⟨rfl, rfl⟩ : x = y ∧ xs = after := by simpa using split
      exact .inl last
    | cons first before =>
      obtain ⟨rfl, rfl⟩ : x = first ∧ xs = before ++ y :: after := by simpa using split
      obtain ⟨one, others⟩ := List.forall_mem_cons.mp all
      exact .inr ⟨one, before, y, after, rfl, others, last⟩
  · rintro (here | ⟨one, before, y, after, rfl, others, last⟩)
    · exact ⟨[], x, xs, rfl, by simp, here⟩
    · exact ⟨x :: before, y, after, rfl, List.forall_mem_cons.mpr ⟨one, others⟩, last⟩

theorem exists_reaches_iff {ι : Type} {Q : ι → α → Prop} (total : ∀ x, P x ∨ ∃ i, Q i x)
    {xs : List α} : (∃ i, Reaches P (Q i) xs) ↔ ∃ x ∈ xs, ∃ i, Q i x := by
  constructor
  · rintro ⟨i, before, x, after, rfl, -, here⟩
    exact ⟨x, by simp, i, here⟩
  · rintro ⟨x, member, i, here⟩
    induction xs with
    | nil => cases member
    | cons first rest ih =>
      rcases total first with passed | ⟨j, stopped⟩
      · rcases List.mem_cons.mp member with rfl | later
        · exact ⟨i, reaches_cons_iff.mpr (.inl here)⟩
        · obtain ⟨j, reached⟩ := ih later
          exact ⟨j, reaches_cons_iff.mpr (.inr ⟨passed, reached⟩)⟩
      · exact ⟨j, reaches_cons_iff.mpr (.inl stopped)⟩

end Splits

def Stuck (release : Release) (now : Int64) (r : Record) (pairs : List (String × String)) : Prop :=
  ∃ before field spec after, pairs = before ++ (field, spec) :: after ∧
    (∀ pair ∈ before, Meets release now r pair.1 pair.2) ∧ Undated r field

theorem stuck_iff_reaches {release : Release} {now : Int64} {r : Record}
    {pairs : List (String × String)} :
    Stuck release now r pairs ↔
      Reaches (fun pair => Meets release now r pair.1 pair.2) (fun pair => Undated r pair.1)
        pairs := by
  constructor
  · rintro ⟨before, field, spec, after, split, met, undated⟩
    exact ⟨before, (field, spec), after, split, met, undated⟩
  · rintro ⟨before, ⟨field, spec⟩, after, split, met, undated⟩
    exact ⟨before, field, spec, after, split, met, undated⟩

theorem stuck_cons_iff {release : Release} {now : Int64} {r : Record} {field spec : String}
    {rest : List (String × String)} :
    Stuck release now r ((field, spec) :: rest) ↔
      Undated r field ∨ (Meets release now r field spec ∧ Stuck release now r rest) := by
  rw [stuck_iff_reaches, stuck_iff_reaches, reaches_cons_iff]

theorem compileEach_cons_eq_ok {now : Int64} {field spec : String} {rest : List (String × String)}
    {ps : List Predicate} (compiled : Filter.compileEach now ((field, spec) :: rest) = .ok ps) :
    ∃ p qs, Filter.compile now field spec = .ok p ∧ Filter.compileEach now rest = .ok qs ∧
      ps = p :: qs := by
  cases one : Filter.compile now field spec with
  | error e => simp [Filter.compileEach, one, bind, Except.bind] at compiled
  | ok p =>
    cases others : Filter.compileEach now rest with
    | error e => simp [Filter.compileEach, one, others, bind, Except.bind] at compiled
    | ok qs =>
      refine ⟨p, qs, rfl, rfl, ?_⟩
      simpa [Filter.compileEach, one, others, bind, Except.bind, pure, Except.pure, eq_comm]
        using compiled

-- A condition behind one that the record fails is never looked at, so only the pairs before a
-- date have to be met for that date to matter.
theorem compileEach_verdict {release : Release} {now : Int64} {r : Record}
    {pairs : List (String × String)} {ps : List Predicate}
    (compiled : Filter.compileEach now pairs = .ok ps) :
    Verdict (∀ pair ∈ pairs, Meets release now r pair.1 pair.2) (Stuck release now r pairs)
      (Predicate.acceptsAll release r ps) := by
  induction pairs generalizing ps with
  | nil =>
    obtain rfl : [] = ps := by simpa [Filter.compileEach] using compiled
    simp [Predicate.acceptsAll, Verdict, Stuck]
  | cons pair rest ih =>
    obtain ⟨field, spec⟩ := pair
    obtain ⟨p, qs, one, others, rfl⟩ := compileEach_cons_eq_ok compiled
    have head : Verdict (Meets release now r field spec) (Undated r field) (p.accepts release r) :=
      compile_verdict one
    have tail := ih others
    rw [stuck_cons_iff, List.forall_mem_cons, Predicate.acceptsAll]
    cases answer : p.accepts release r with
    | error e =>
      rw [answer] at head
      exact ⟨.inl head.1, fun met => head.2.1 met.1, head.2.2⟩
    | ok b =>
      rw [answer] at head
      cases b with
      | false =>
        have failed : ¬ Meets release now r field spec := fun met => by simpa using head.1.mpr met
        exact ⟨by simp [failed], by simp [failed, head.2]⟩
      | true =>
        have met : Meets release now r field spec := head.1.mp rfl
        simpa only [met, head.2, true_and, false_or] using tail

theorem compileAll_eq_ok_iff {now : Int64} {fields specs : List String} {p : Predicate} :
    Filter.compileAll now fields specs = .ok p ↔
      fields.length = specs.length ∧
        ∃ ps, Filter.compileEach now (fields.zip specs) = .ok ps ∧ .all ps = p := by
  unfold Filter.compileAll
  split
  next paired =>
    cases Filter.compileEach now (fields.zip specs) <;>
      simp [paired, bind, Except.bind, pure, Except.pure]
  next unpaired => simp [unpaired]

theorem Filter.compileAll_single {now : Int64} {field spec : String} {p : Predicate}
    (compiled : compile now field spec = .ok p) : compileAll now [field] [spec] = .ok p := by
  refine compileAll_eq_ok_iff.mpr ⟨rfl, [p], ?_, rfl⟩
  simp [compileEach, compiled, bind, Except.bind, pure, Except.pure]

theorem compileAll_verdict {release : Release} {now : Int64} {r : Record}
    {fields specs : List String} {p : Predicate}
    (compiled : Filter.compileAll now fields specs = .ok p) :
    Verdict (∀ pair ∈ fields.zip specs, Meets release now r pair.1 pair.2)
      (Stuck release now r (fields.zip specs)) (p.accepts release r) := by
  obtain ⟨-, ps, each, rfl⟩ := compileAll_eq_ok_iff.mp compiled
  rw [Predicate.accepts_all]
  exact compileEach_verdict each

namespace Subset

variable {release : Release} {p : Predicate}

def admits (release : Release) (p : Predicate) (r : Record) : Bool :=
  (p.accepts release r).toOption.getD false

theorem select_of_decided {rs : List Record}
    (decided : ∀ r ∈ rs, ∃ b, p.accepts release r = .ok b) :
    select release p rs = .ok (rs.filter (admits release p)) := by
  induction rs with
  | nil => rfl
  | cons r rest ih =>
    obtain ⟨b, one⟩ := decided r (by simp)
    have others := ih fun q member => decided q (by simp [member])
    cases b <;> simp [select, one, others, admits, Except.toOption, bind, Except.bind, pure,
      Except.pure]

theorem select_of_undecided {rs : List Record} {r : Record} {e : QueryError} (member : r ∈ rs)
    (undecided : p.accepts release r = .error e) :
    ∃ q ∈ rs, ∃ f, p.accepts release q = .error f ∧ select release p rs = .error f := by
  induction rs with
  | nil => cases member
  | cons q rest ih =>
    cases one : p.accepts release q with
    | error f => exact ⟨q, by simp, f, one, by simp [select, one, bind, Except.bind]⟩
    | ok b =>
      have later : r ∈ rest := by
        rcases List.mem_cons.mp member with rfl | later
        · rw [one] at undecided
          cases undecided
        · exact later
      obtain ⟨q', inside, f, failed, result⟩ := ih later
      exact ⟨q', by simp [inside], f, failed, by simp [select, one, result, bind, Except.bind]⟩

theorem select_always (release : Release) (rs : List Record) :
    select release .always rs = .ok rs := by
  rw [select_of_decided fun _ _ => ⟨true, by simp [Predicate.accepts]⟩]
  have all : ∀ r ∈ rs, admits release .always r = true := fun _ _ => by
    simp [admits, Predicate.accepts, Except.toOption]
  rw [List.filter_eq_self.mpr all]

def selected (s : Subset) (release : Release) (p : Predicate) : Except QueryError Subset :=
  (select release p s.firsts).map mk

theorem retrieve_eq_selected (s : Subset) (release : Release) (p : Predicate) (fanout : Fanout) :
    s.retrieve release p fanout = s.selected release p := by
  cases whole : s.isWhole p with
  | false => exact retrieve_eq_select s release p fanout whole
  | true =>
    -- The subset is handed back unread, which is right only since no id stands in it twice.
    simp only [isWhole, Bool.and_eq_true, decide_eq_true_eq] at whole
    have always : p = .always := by
      cases p <;> simp [Predicate.isAlways] at whole ⊢
    rw [always, selected, select_always, firsts_of_size_eq whole.2]
    simp [retrieve, isWhole, Predicate.isAlways, whole.2, Except.map]

theorem decided_or_undecided (release : Release) (p : Predicate) (rs : List Record) :
    (∀ r ∈ rs, ∃ b, p.accepts release r = .ok b) ∨
      ∃ r ∈ rs, ∃ e, p.accepts release r = .error e := by
  by_cases undecided : ∃ r ∈ rs, ∃ e, p.accepts release r = .error e
  · exact .inr undecided
  · refine .inl fun r member => ?_
    cases one : p.accepts release r with
    | ok b => exact ⟨b, rfl⟩
    | error e => exact absurd ⟨r, member, e, one⟩ undecided

theorem select_eq_ok {rs kept : List Record} (h : select release p rs = .ok kept) :
    (∀ r ∈ rs, ∃ b, p.accepts release r = .ok b) ∧ kept = rs.filter (admits release p) := by
  rcases decided_or_undecided release p rs with decided | ⟨r, member, e, undecided⟩
  · exact ⟨decided, Except.ok.inj (h.symm.trans (select_of_decided decided))⟩
  · obtain ⟨_, _, f, _, failed⟩ := select_of_undecided member undecided
    rw [h] at failed
    cases failed

theorem select_eq_error_iff {rs : List Record} :
    (∃ e, select release p rs = .error e) ↔ ∃ r ∈ rs, ∃ e, p.accepts release r = .error e := by
  constructor
  · intro ⟨e, failed⟩
    rcases decided_or_undecided release p rs with decided | undecided
    · rw [select_of_decided decided] at failed
      cases failed
    · exact undecided
  · intro ⟨r, member, e, undecided⟩
    obtain ⟨_, _, f, _, failed⟩ := select_of_undecided member undecided
    exact ⟨f, failed⟩

theorem selected_eq_ok {s t : Subset} (h : s.selected release p = .ok t) :
    t.records = s.firsts.filter (admits release p) := by
  unfold selected at h
  cases result : select release p s.firsts with
  | error e => simp [result, Except.map] at h
  | ok records =>
    obtain rfl : mk records = t := by simpa [result, Except.map] using h
    exact (select_eq_ok result).2

theorem selected_eq_error_iff {s : Subset} :
    (∃ e, s.selected release p = .error e) ↔
      ∃ i r, FirstAt s.records i r ∧ ∃ e, p.accepts release r = .error e := by
  have failed : (∃ e, s.selected release p = .error e) ↔
      ∃ e, select release p s.firsts = .error e := by
    unfold selected
    cases select release p s.firsts <;> simp [Except.map]
  rw [failed, select_eq_error_iff]
  constructor
  · intro ⟨r, member, undecided⟩
    obtain ⟨i, first⟩ := mem_firsts.mp member
    exact ⟨i, r, first, undecided⟩
  · intro ⟨i, r, first, undecided⟩
    exact ⟨r, mem_firsts.mpr ⟨i, first⟩, undecided⟩

theorem accepts_eq_error_of_selected {s : Subset} {e : QueryError}
    (h : s.selected release p = .error e) : ∃ r, p.accepts release r = .error e := by
  unfold selected at h
  cases result : select release p s.firsts with
  | ok records => simp [result, Except.map] at h
  | error f =>
    obtain rfl : f = e := by simpa [result, Except.map] using h
    obtain ⟨r, member, _, undecided⟩ := select_eq_error_iff.mp ⟨f, result⟩
    obtain ⟨q, _, g, failed, same⟩ := select_of_undecided member undecided
    rw [result] at same
    exact ⟨q, Except.error.inj same ▸ failed⟩

def standingAt (s : Subset) (places : List Nat) : List Record :=
  places.filterMap (s.records[·]?)

theorem filter_firsts (s : Subset) (keep : Record → Bool) :
    s.firsts.filter keep =
      s.standingAt (s.index.unique.toList.filter fun i => (s.records[i]?).any keep) := by
  rw [firsts_eq, standingAt, List.filter_filterMap, List.filterMap_filter]
  apply List.filterMap_congr
  intro i _
  cases s.records[i]? <;> simp [Option.filter]

end Subset

/--
What conditions leave of a subset: in its order, and with no id twice, the records at the places
where an id stands first and all pairs are met. There is no answer if one of those records is stuck.
-/
structure Selects (release : Release) (now : Int64) (s : Subset) (pairs : List (String × String))
    (answer : Except QueryError Subset) : Prop where
  kept : ∀ t, answer = .ok t → ∃ places, t.records = s.standingAt places ∧
    places.Pairwise (· < ·) ∧
    ∀ i, i ∈ places ↔
      ∃ r, FirstAt s.records i r ∧ ∀ pair ∈ pairs, Meets release now r pair.1 pair.2
  distinct : ∀ t, answer = .ok t → t.ids.Nodup
  fails : (∃ e, answer = .error e) ↔ ∃ i r, FirstAt s.records i r ∧ Stuck release now r pairs
  cause : ∀ e, answer = .error e → ∃ what, e = .invariantViolation what

theorem admits_iff_of_verdict {release : Release} {p : Predicate} {r : Record} {yes stuck : Prop}
    (verdict : Verdict yes stuck (p.accepts release r)) :
    Subset.admits release p r = true ↔ yes := by
  unfold Subset.admits
  cases answer : p.accepts release r with
  | ok b =>
    rw [answer] at verdict
    exact verdict.1
  | error e =>
    rw [answer] at verdict
    simp [Except.toOption, verdict.2.1]

theorem undecided_iff_of_verdict {yes stuck : Prop} {answer : Except QueryError Bool}
    (verdict : Verdict yes stuck answer) : (∃ e, answer = .error e) ↔ stuck := by
  cases answer with
  | ok b => simp [verdict.2]
  | error e => simp [verdict.1]

section Selected

variable {release : Release} {now : Int64} {pairs : List (String × String)} {p : Predicate}
  {s : Subset}

theorem selected_selects
    (verdict : ∀ r, Verdict (∀ pair ∈ pairs, Meets release now r pair.1 pair.2)
      (Stuck release now r pairs) (p.accepts release r)) :
    Selects release now s pairs (s.selected release p) where
  kept t h := by
    -- Places are compared and not records, of which equal ones can stand at several places.
    have standing := (Subset.selected_eq_ok h).trans (s.filter_firsts _)
    refine ⟨_, standing, s.index_exact.ascending.filter _, ?_⟩
    intro i
    rw [List.mem_filter, s.index_exact.unique i]
    constructor
    · intro ⟨⟨r, first⟩, admitted⟩
      rw [first.1, Option.any_some] at admitted
      exact ⟨r, first, (admits_iff_of_verdict (verdict r)).mp admitted⟩
    · intro ⟨r, first, met⟩
      refine ⟨⟨r, first⟩, ?_⟩
      rw [first.1, Option.any_some]
      exact (admits_iff_of_verdict (verdict r)).mpr met
  distinct t h := by
    rw [Subset.ids, Subset.selected_eq_ok h]
    exact s.nodup_ids_firsts.sublist (List.filter_sublist.map _)
  fails := by
    rw [Subset.selected_eq_error_iff]
    simp only [undecided_iff_of_verdict (verdict _)]
  cause e h := by
    obtain ⟨r, failed⟩ := Subset.accepts_eq_error_of_selected h
    have cause := verdict r
    rw [failed] at cause
    exact cause.2.2

end Selected

namespace Engine

def withFanout (e : Engine) (fanout : Fanout) : Engine :=
  { e with settings := { e.settings with fanout := fanout } }

theorem combinedFilter_eq (e : Engine) (s : Subset) {fields specs : List String} {p : Predicate}
    (compiled : Filter.compileAll e.now fields specs = .ok p) :
    e.combinedFilter s fields specs = s.selected e.release p := by
  simp [combinedFilter, compiled, bind, Except.bind, Subset.retrieve_eq_selected]

theorem combinedFilter_selects (e : Engine) (s : Subset) (fields specs : List String)
    (p : Predicate) (compiled : Filter.compileAll e.now fields specs = .ok p) (fanout : Fanout) :
    Selects e.release e.now s (fields.zip specs)
        ((e.withFanout fanout).combinedFilter s fields specs) ∧
      (e.withFanout fanout).combinedFilter s fields specs = e.combinedFilter s fields specs := by
  have anywhere := combinedFilter_eq (e.withFanout fanout) s compiled
  constructor
  · rw [anywhere]
    exact selected_selects fun r => compileAll_verdict compiled
  · exact anywhere.trans (combinedFilter_eq e s compiled).symm

def bare : Engine where
  settings := {}
  release := .standard
  now := 0
  store := .ofRecords []

/-- Here the later record of an id would pass, and the first has a time without a day. -/
def listedTwice : Subset where
  records :=
    [{ Record.file 1 "/a" (.of 1 1 1) with user := "bob", modTime := Int64.maxValue },
      { Record.file 1 "/b" (.of 5 1 1) with user := "ann" },
      { Record.file 2 "/c" (.of 5 1 1) with user := "ann" },
      { Record.file 3 "/d" (.of 4 1 1) with user := "ann" }]

theorem firsts_listedTwice : listedTwice.firsts = listedTwice.records.eraseIdx 1 := by
  change Subset.firsts ⟨[_] ++ [_] ++ [_] ++ [_]⟩ = _
  rw [Subset.firsts_snoc_of_not_seen (by simp [Seen, Record.file, Record.bare]),
    Subset.firsts_snoc_of_not_seen (by simp [Seen, Record.file, Record.bare]),
    Subset.firsts_snoc_of_seen (by simp [Seen, Record.file, Record.bare]),
    Subset.firsts_of_nodup (by decide)]
  rfl

theorem combinedFilter_selects_later_match :
    (∃ p t, Filter.compileAll 0 ["user", "fileSize", "modDate"]
        ["eq:ann", "gt:4", "dateLt:01/01/2000"] = .ok p ∧
      (bare.withFanout ⟨0, 1⟩).combinedFilter listedTwice ["user", "fileSize", "modDate"]
        ["eq:ann", "gt:4", "dateLt:01/01/2000"] = .ok t ∧ t.ids = [2] ∧
      Selects .standard 0 listedTwice
        [("user", "eq:ann"), ("fileSize", "gt:4"), ("modDate", "dateLt:01/01/2000")] (.ok t)) ∧
    ∃ p e, Filter.compileAll 0 ["modDate"] ["dateLt:01/01/2000"] = .ok p ∧
      (bare.withFanout ⟨0, 1⟩).combinedFilter listedTwice ["modDate"] ["dateLt:01/01/2000"] =
        .error e := by
  constructor
  next =>
    have compiled : Filter.compileAll bare.now ["user", "fileSize", "modDate"]
        ["eq:ann", "gt:4", "dateLt:01/01/2000"] =
          .ok (.both [.text .user ⟨.eq, false⟩ "ann", .long .fileSize ⟨.compare .gt, 4, 0⟩,
            .date .modDate .lt ⟨2000, 1, 1, by decide⟩]) := rfl
    obtain ⟨selects, same⟩ := combinedFilter_selects bare listedTwice _ _ _ compiled ⟨0, 1⟩
    have result : bare.combinedFilter listedTwice ["user", "fileSize", "modDate"]
        ["eq:ann", "gt:4", "dateLt:01/01/2000"] = .ok ⟨[listedTwice.records[2]]⟩ := by
      rw [combinedFilter_eq _ _ compiled, Subset.selected, firsts_listedTwice]
      rfl
    rw [same, result] at selects
    exact ⟨_, _, compiled, same.trans result, rfl, selects⟩
  next =>
    have compiled : Filter.compileAll bare.now ["modDate"] ["dateLt:01/01/2000"] =
        .ok (.date .modDate .lt ⟨2000, 1, 1, by decide⟩) := rfl
    obtain ⟨selects, -⟩ := combinedFilter_selects bare listedTwice _ _ _ compiled ⟨0, 1⟩
    have first : FirstAt listedTwice.records 0 listedTwice.records[0] :=
      ⟨rfl, fun j before => absurd before (Nat.not_lt_zero j)⟩
    have undated : Undated listedTwice.records[0] "modDate" :=
      (undated_name_iff (a := .date .modDate)).mpr ⟨.modDate, rfl, by decide +kernel⟩
    obtain ⟨e, failed⟩ := selects.fails.mpr
      ⟨0, _, first, [], "modDate", "dateLt:01/01/2000", [], rfl, by simp, undated⟩
    exact ⟨_, e, compiled, failed⟩

end Engine

end Census
