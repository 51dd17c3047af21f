import Census.Proofs.DayTexts
import Census.Proofs.Selection

set_option autoImplicit false

namespace Census

open Calendar (Date Day)

theorem DateOp.mem_names_iff {operator : String} :
    operator ∈ names ↔ ∃ asks, Denotes operator asks := by
  constructor
  · intro listed
    cases named : named? operator with
    | some relation => exact exists_denotes named
    | none => exact absurd listed (not_mem_names_of_lookup named)
  · intro ⟨asks, denotes⟩
    obtain ⟨-, relation, named⟩ := denotes.named
    exact mem_names_of_lookup named

section Compared

variable {operator operand : String} {asks : Int → Int → Prop} {relation : Relation} {day : Day}

theorem Filter.compile_date (now : Int64) (a : DateAttr) (clean : ':' ∉ operator.toList)
    (named : DateOp.named? operator = some relation) (read : Day.parse? operand = some day) :
    compile now a.name (operator ++ ":" ++ operand) = .ok (.date a relation day) := by
  have compared : condition (.date a) operator operand now = .ok (.date a relation day) := by
    simp only [condition, named, read]
  exact (compile_spelled now (.date a) ⟨rfl, clean⟩).trans compared

theorem Predicate.accepts_date (release : Release) (r : Record) (a : DateAttr)
    (denotes : DateOp.Denotes operator asks) (named : DateOp.named? operator = some relation)
    {d : Date} (holds : d.number = (a.time r).toInt / 86400000) :
    if Calendar.firstYear ≤ d.year ∧ d.year ≤ Calendar.lastYear then
      ∃ b, (Predicate.date a relation day).accepts release r = .ok b ∧
        (b = true ↔ asks d.number day.date.number)
    else (Predicate.date a relation day).accepts release r = .error (noDay r a) := by
  rw [accepts, a.value?_eq]
  split
  next kept =>
    obtain ⟨own, found, rfl⟩ := Day.at?_of_isDayOf ⟨holds, kept⟩
    rw [found]
    exact ⟨_, rfl, DateOp.holds_iff denotes named⟩
  next outside =>
    cases found : Day.at? (a.time r) with
    | none => rfl
    | some own =>
      obtain ⟨number, kept⟩ := Day.isDayOf_of_at? found
      obtain rfl := Date.number_injective (holds.trans number.symm)
      exact absurd kept outside

end Compared

theorem date_filters_compare_days (now : Int64) :
    (Date.epoch.number = 0 ∧ (∀ d : Date, d.next.number = d.number + 1) ∧
      ∀ n, ∃! d : Date, d.number = n) ∧
    ((∀ day : Day, Day.parse? day.slashed = some day) ∧
      ∀ instant, Day.written? instant = Day.at? instant) ∧
    (∀ operator, operator ∈ DateOp.names ↔ ∃ asks, DateOp.Denotes operator asks) ∧
    ∀ (a : DateAttr) (operator operand : String) (asks : Int → Int → Prop) (day : Day),
      DateOp.Denotes operator asks → Day.parse? operand = some day →
      ∃ p, Filter.compile now a.name (operator ++ ":" ++ operand) = .ok p ∧
        ∀ release r (d : Date), d.number = (a.time r).toInt / 86400000 →
          if Calendar.firstYear ≤ d.year ∧ d.year ≤ Calendar.lastYear then
            ∃ b, p.accepts release r = .ok b ∧ (b = true ↔ asks d.number day.date.number)
          else p.accepts release r = .error (Predicate.noDay r a) := by
  refine ⟨⟨Date.number_epoch, Date.number_next, Date.exists_unique_number⟩,
    ⟨Day.parse?_slashed, Day.written?_eq⟩, fun operator => DateOp.mem_names_iff,
    fun a operator operand asks day denotes read => ?_⟩
  obtain ⟨clean, relation, named⟩ := denotes.named
  exact ⟨_, Filter.compile_date now a clean named read, fun release r d holds =>
    Predicate.accepts_date release r a denotes named holds⟩

/-- Changed in the last millisecond of a leap day before year 0, and seen past the last year. -/
def leapDay : Record :=
  { Record.file 1 "/a" (.of 1 1 1) with
    modTime := -62288265600001
    accessTime := Int64.maxValue }

def dayAfter : Record :=
  { leapDay with modTime := -62288265600000 }

theorem date_filters_compare_days_of_leap_day :
    DateOp.Denotes "dateStart" (fun v d => v ≤ d) ∧
    (∃ day, Day.parse? " 2/29/-4" = some day ∧ day.date.number = -720930) ∧
    ∃ p q, Filter.compile 0 "modDate" "dateStart: 2/29/-4" = .ok p ∧
      Filter.compile 0 "accessDate" "dateStart: 2/29/-4" = .ok q ∧
      ∀ release, p.accepts release leapDay = .ok true ∧ p.accepts release dayAfter = .ok false ∧
        q.accepts release leapDay = .error (Predicate.noDay leapDay .accessDate) := by
  have read : Day.parse? " 2/29/-4" = some ⟨-4, 2, 29, by decide⟩ := by decide
  have ⟨_, _, _, filters⟩ := date_filters_compare_days 0
  have ⟨p, compiled, modified⟩ := filters .modDate _ _ _ _ .dateStart read
  have ⟨q, also, accessed⟩ := filters .accessDate _ _ _ _ .dateStart read
  refine ⟨.dateStart, ⟨_, read, by decide⟩, p, q, compiled, also, fun release => ⟨?_, ?_, ?_⟩⟩
  next =>
    have judged := modified release leapDay ⟨-4, 2, 29, by decide⟩ (by decide)
    rw [if_pos (by decide)] at judged
    obtain ⟨b, answer, asked⟩ := judged
    exact answer.trans (congrArg Except.ok (asked.mpr (by decide)))
  next =>
    have judged := modified release dayAfter ⟨-4, 3, 1, by decide⟩ (by decide)
    rw [if_pos (by decide)] at judged
    obtain ⟨b, answer, asked⟩ := judged
    have later : b = false :=
      Bool.eq_false_iff.mpr fun passed => absurd (asked.mp passed) (by decide)
    exact answer.trans (congrArg Except.ok later)
  next =>
    have judged := accessed release leapDay ⟨292278994, 8, 17, by decide⟩ (by decide)
    rwa [if_neg (by decide)] at judged

end Census
