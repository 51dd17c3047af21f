import Census.Proofs.Ancestors
import Census.Proofs.Pruning

set_option autoImplicit false

namespace Census

namespace Text

def Tight (cs : List Char) : Prop :=
  (∀ c, cs.head? = some c → isBlank c = false) ∧ ∀ c, cs.getLast? = some c → isBlank c = false

theorem tight_reverse {cs : List Char} : Tight cs.reverse ↔ Tight cs := by
  rw [Tight, Tight, List.head?_reverse, List.getLast?_reverse, and_comm]

theorem dropBlanks_of_tight {cs : List Char} (tight : Tight cs) : dropBlanks cs = cs := by
  cases cs with
  | nil => rfl
  | cons c cs => exact dropBlanks_of_not_blank (tight.1 c rfl)

theorem dropBlanks_append {lead cs : List Char} (blank : lead.all isBlank = true) :
    dropBlanks (lead ++ cs) = dropBlanks cs :=
  List.dropWhile_append_of_pos (List.all_eq_true.mp blank)

theorem head_dropBlanks {cs : List Char} {c : Char} (first : (dropBlanks cs).head? = some c) :
    isBlank c = false := by
  have stop := List.head?_dropWhile_not isBlank cs
  rw [dropBlanks] at first
  simpa only [first] using stop

theorem trim_padded {lead core tail : List Char} (first : lead.all isBlank = true)
    (last : tail.all isBlank = true) (tight : Tight core) :
    trim (String.ofList (lead ++ core ++ tail)) = String.ofList core := by
  have backwards : tail.reverse.all isBlank = true := by rwa [List.all_reverse]
  rw [trim, String.toList_ofList, List.append_assoc, dropBlanks_append first]
  cases core with
  | nil =>
    have none_left : dropBlanks tail = [] := List.dropWhile_eq_nil_iff.mpr (List.all_eq_true.mp last)
    rw [List.nil_append, none_left]
    rfl
  | cons c core =>
    rw [List.cons_append, dropBlanks_of_not_blank (tight.1 c rfl), ← List.cons_append,
      List.reverse_append, dropBlanks_append backwards, dropBlanks_of_tight (tight_reverse.mpr tight),
      List.reverse_reverse]

theorem exists_lead (cs : List Char) :
    ∃ lead : List Char, cs = lead ++ dropBlanks cs ∧ lead.all isBlank = true :=
  ⟨cs.takeWhile isBlank, List.takeWhile_append_dropWhile.symm, List.all_takeWhile⟩

theorem exists_padding (text : String) :
    ∃ lead tail, text.toList = lead ++ (trim text).toList ++ tail ∧ lead.all isBlank = true ∧
      tail.all isBlank = true ∧ Tight (trim text).toList := by
  -- The text is stripped from the front first, and what is left of it from the back.
  obtain ⟨lead, front, first⟩ := exists_lead text.toList
  obtain ⟨tail, back, last⟩ := exists_lead (dropBlanks text.toList).reverse
  have core : (trim text).toList = (dropBlanks (dropBlanks text.toList).reverse).reverse := by
    rw [trim, String.toList_ofList]
  have rest : dropBlanks text.toList = (trim text).toList ++ tail.reverse := by
    rw [core, ← List.reverse_append, ← back, List.reverse_reverse]
  refine ⟨lead, tail.reverse, ?_, first, by rwa [List.all_reverse], fun c head => ?_, fun c final => ?_⟩
  · rw [List.append_assoc, ← rest]
    exact front
  · -- What is left at the beginning is what was left before the end was looked at.
    have same : (dropBlanks text.toList).head? = some c := by
      rw [rest, List.head?_append, head]
      rfl
    exact head_dropBlanks same
  · rw [core, List.getLast?_reverse] at final
    exact head_dropBlanks final

theorem trim_eq_self_iff {text : String} : trim text = text ↔ Tight text.toList := by
  constructor
  · intro same
    obtain ⟨-, -, -, -, -, tight⟩ := exists_padding text
    rwa [same] at tight
  · intro tight
    have unpadded : trim (String.ofList ([] ++ text.toList ++ [])) = String.ofList text.toList :=
      trim_padded rfl rfl tight
    simpa using unpadded

@[simp] theorem trim_trim (text : String) : trim (trim text) = trim text := by
  obtain ⟨-, -, -, -, -, tight⟩ := exists_padding text
  exact trim_eq_self_iff.mpr tight

section Refill

variable {before old new after : List Char}

theorem head_refill (nonblank : ∀ c ∈ new, isBlank c = false)
    (right : after = [] ∨ after.head? = some ':')
    (first : ∀ c, (before ++ old ++ after).head? = some c → isBlank c = false) (c : Char)
    (head : (before ++ new ++ after).head? = some c) : isBlank c = false := by
  cases before with
  | cons b before => exact first c head
  | nil =>
    -- The text begins with what is new, or with the colon behind it.
    cases new with
    | cons n new =>
      obtain rfl : n = c := by simpa using head
      exact nonblank n (List.mem_cons_self ..)
    | nil =>
      rw [List.nil_append, List.nil_append] at head
      rcases right with none_behind | colon
      · rw [none_behind] at head
        cases head
      · rw [colon] at head
        cases head
        decide

theorem tight_refill (nonblank : ∀ c ∈ new, isBlank c = false)
    (left : before = [] ∨ before.getLast? = some ':')
    (right : after = [] ∨ after.head? = some ':') (tight : Tight (before ++ old ++ after)) :
    Tight (before ++ new ++ after) := by
  refine ⟨head_refill nonblank right tight.1, fun c last => ?_⟩
  -- The end of the text is the beginning of the text read backwards.
  have backwards (middle : List Char) : (before ++ middle ++ after).getLast? =
      (after.reverse ++ middle.reverse ++ before.reverse).head? := by
    rw [← List.head?_reverse]
    simp
  have final : ∀ d, (after.reverse ++ old.reverse ++ before.reverse).head? = some d →
      isBlank d = false := fun d end_of_old => tight.2 d ((backwards old).trans end_of_old)
  rw [backwards] at last
  exact head_refill (by simpa using nonblank) (by simpa using left) final c last

end Refill

end Text

structure Gap where
  before : String
  after : String

namespace Gap

def fill (gap : Gap) (text : String) : String :=
  gap.before ++ text ++ gap.after

def within (inner outer : Gap) : Gap where
  before := outer.before ++ inner.before
  after := inner.after ++ outer.after

@[simp] theorem fill_within (inner outer : Gap) (text : String) :
    (inner.within outer).fill text = outer.fill (inner.fill text) := by
  simp [fill, within, String.append_assoc]

@[simp] theorem toList_fill (gap : Gap) (text : String) :
    (gap.fill text).toList = gap.before.toList ++ text.toList ++ gap.after.toList := by
  simp [fill]

theorem not_mem_fill {gap : Gap} {token text : String} {c : Char}
    (outside : c ∉ (gap.fill token).toList) (inside : c ∉ text.toList) :
    c ∉ (gap.fill text).toList := by
  simp only [toList_fill, List.mem_append, not_or] at outside ⊢
  exact ⟨⟨outside.1.1, inside⟩, outside.2⟩

inductive Framed : Gap → Prop where
  | first (after : String) : Framed ⟨"", ":" ++ after⟩
  | last (before : String) : Framed ⟨before ++ ":", ""⟩
  | between (before after : String) : Framed ⟨before ++ ":", ":" ++ after⟩

theorem Framed.behind {gap : Gap} (framed : gap.Framed) (before : String) :
    (gap.within ⟨before ++ ":", ""⟩).Framed := by
  cases framed with
  | first after => simpa [within] using Framed.between before after
  | last middle => simpa [within, String.append_assoc] using Framed.last (before ++ ":" ++ middle)
  | between middle after =>
    simpa [within, String.append_assoc] using Framed.between (before ++ ":" ++ middle) after

end Gap

/-- The text holds no blank and none of the marks that texts are cut at. -/
def Unmarked (text : String) : Prop :=
  ∀ c ∈ text.toList, Text.isBlank c = false ∧ c ≠ ':' ∧ c ≠ ';' ∧ c ≠ ','

structure IsSegment (mark : Char) (text : String) : Prop where
  given : text ≠ ""
  tight : Text.trim text = text
  unmarked : mark ∉ text.toList

section Spelled

variable {spec operator operand name : String}

theorem Unmarked.no_colon (unmarked : Unmarked name) : ':' ∉ name.toList := fun member =>
  (unmarked ':' member).2.1 rfl

theorem spelled_fill_first (unmarked : Unmarked name) (operand : String) :
    Spelled (Gap.fill ⟨"", ":" ++ operand⟩ name) name operand :=
  ⟨by simp [Gap.fill, String.append_assoc], unmarked.no_colon⟩

theorem Spelled.fill_first (spelled : Spelled spec operator operand) :
    Gap.fill ⟨"", ":" ++ operand⟩ operator = spec := by
  simp [Gap.fill, spelled.1, String.append_assoc]

theorem Spelled.fill_last (spelled : Spelled spec operator operand) (name : String) :
    Spelled (Gap.fill ⟨operator ++ ":", ""⟩ name) operator name :=
  ⟨by simp [Gap.fill], spelled.2⟩

theorem Spelled.fill_last_self (spelled : Spelled spec operator operand) :
    Gap.fill ⟨operator ++ ":", ""⟩ operand = spec := by
  simp [Gap.fill, spelled.1]

end Spelled

section Framed

variable {gap : Gap} {token text : String}

theorem Gap.Framed.colon_mem (framed : gap.Framed) (text : String) :
    ':' ∈ (gap.fill text).toList := by
  rw [toList_fill]
  cases framed <;> simp

theorem Gap.Framed.trim_ne_empty (framed : gap.Framed) (text : String) :
    Text.trim (gap.fill text) ≠ "" := by
  intro blank
  obtain ⟨lead, tail, whole, first, last, -⟩ := Text.exists_padding (gap.fill text)
  have blanks : (gap.fill text).toList.all Text.isBlank = true := by
    rw [whole, blank, List.all_append, List.all_append, first, last]
    rfl
  exact absurd (List.all_eq_true.mp blanks _ (framed.colon_mem text)) (by decide)

theorem Gap.Framed.tight (framed : gap.Framed) (unmarked : Unmarked text)
    (tight : Text.trim (gap.fill token) = gap.fill token) :
    Text.trim (gap.fill text) = gap.fill text := by
  have nonblank : ∀ c ∈ text.toList, Text.isBlank c = false := fun c member => (unmarked c member).1
  rw [Text.trim_eq_self_iff, toList_fill] at tight ⊢
  cases framed with
  | first after => exact Text.tight_refill nonblank (.inl rfl) (.inr (by simp)) tight
  | last before => exact Text.tight_refill nonblank (.inr (by simp)) (.inl rfl) tight
  | between before after =>
    exact Text.tight_refill nonblank (.inr (by simp)) (.inr (by simp)) tight

theorem Gap.Framed.isSegment {mark : Char} (framed : gap.Framed) (unmarked : Unmarked text)
    (separates : mark = ';' ∨ mark = ',') (segment : IsSegment mark (gap.fill token)) :
    IsSegment mark (gap.fill text) where
  given := framed.tight unmarked segment.tight ▸ framed.trim_ne_empty text
  tight := framed.tight unmarked segment.tight
  unmarked := by
    refine not_mem_fill segment.unmarked fun member => ?_
    obtain ⟨-, -, semicolon, comma⟩ := unmarked mark member
    rcases separates with same | same
    · exact semicolon same
    · exact comma same

end Framed

theorem exists_trim_gap (text : String) :
    ∃ gap : Gap, gap.fill (Text.trim text) = text ∧
      ∀ other, Text.trim other = other → Text.trim (gap.fill other) = other := by
  obtain ⟨lead, tail, whole, first, last, -⟩ := Text.exists_padding text
  refine ⟨⟨String.ofList lead, String.ofList tail⟩, ?_, fun other tight => ?_⟩
  · rw [← String.toList_inj, Gap.toList_fill, whole, String.toList_ofList, String.toList_ofList]
  · have filled : Gap.fill ⟨String.ofList lead, String.ofList tail⟩ other =
        String.ofList (lead ++ other.toList ++ tail) := by
      rw [← String.toList_inj, Gap.toList_fill, String.toList_ofList, String.toList_ofList,
        String.toList_ofList]
    rw [filled, Text.trim_padded first last (Text.trim_eq_self_iff.mp tight), String.ofList_toList]

section Segments

variable {mark : Char} {spec segment : String} {front back : List String}

theorem isSegment_of_mem (member : segment ∈ segments mark spec) : IsSegment mark segment := by
  simp only [segments, Text.parts, List.mem_filter, List.mem_map, decide_eq_true_eq] at member
  obtain ⟨⟨_, ⟨piece, cut, rfl⟩, rfl⟩, given⟩ := member
  obtain ⟨lead, tail, whole, -⟩ := Text.exists_padding (String.ofList piece)
  refine ⟨given, Text.trim_trim _, fun inside => Path.not_mem_of_mem_splitOn cut ?_⟩
  rw [String.toList_ofList] at whole
  rw [whole]
  simp [inside]

theorem segments_padded {lead : List Char} (blank : lead.all Text.isBlank = true)
    (clean : mark ∉ lead) {text : String} (tight : Text.trim text = text)
    (unmarked : mark ∉ text.toList) :
    segments mark (String.ofList lead ++ text) = if text = "" then [] else [text] := by
  have trimmed : Text.trim (String.ofList (lead ++ text.toList ++ [])) = String.ofList text.toList :=
    Text.trim_padded blank rfl (Text.trim_eq_self_iff.mp tight)
  rw [List.append_nil, String.ofList_append, String.ofList_toList] at trimmed
  have single : mark ∉ (String.ofList lead ++ text).toList := by simp [clean, unmarked]
  rw [segments, Text.parts, List.splitOn_eq_singleton single, List.map_singleton,
    List.map_singleton, String.ofList_toList, trimmed]
  by_cases given : text = "" <;> simp [given]

theorem IsSegment.segments_padded {lead : List Char} (blank : lead.all Text.isBlank = true)
    (clean : mark ∉ lead) (isSegment : IsSegment mark segment) :
    segments mark (String.ofList lead ++ segment) = [segment] :=
  (Census.segments_padded blank clean isSegment.tight isSegment.unmarked).trans
    (if_neg isSegment.given)

theorem segments_listed {names : List String} (all : ∀ name ∈ names, IsSegment ',' name) :
    segments ',' (QueryError.listed names) = names := by
  -- A name that comes after another has a blank in front of it.
  have padded : ∀ lead : List Char, lead.all Text.isBlank = true → ',' ∉ lead →
      segments ',' (String.ofList lead ++ QueryError.listed names) = names := by
    induction names with
    | nil => exact fun lead blank clean => segments_padded blank clean Text.trim_empty (by decide)
    | cons name rest ih =>
      intro lead blank clean
      obtain ⟨first, others⟩ := List.forall_mem_cons.mp all
      cases rest with
      | nil => exact first.segments_padded blank clean
      | cons next rest =>
        have joined : (String.ofList lead ++ QueryError.listed (name :: next :: rest)).toList =
            (String.ofList lead ++ name).toList ++
              ',' :: (String.ofList [' '] ++ QueryError.listed (next :: rest)).toList := by
          simp [QueryError.listed, String.intercalate_cons_cons]
        rw [segments_of_joined joined, first.segments_padded blank clean,
          ih others [' '] (by decide) (by decide)]
        rfl
  simpa using padded [] rfl (by simp)

theorem intercalate_append_cons (ps qs : List (List Char)) (piece : List Char) :
    [mark].intercalate (ps ++ piece :: qs) =
      ps.flatMap (· ++ [mark]) ++ piece ++ qs.flatMap (mark :: ·) := by
  induction ps with
  | nil => exact Path.intercalate_cons mark piece qs
  | cons p ps ih =>
    have more : ps ++ piece :: qs ≠ [] := by simp
    obtain ⟨q, rest, split⟩ := List.exists_cons_of_ne_nil more
    rw [List.cons_append, split, List.intercalate_cons_cons, ← split, ih]
    simp

def segmentsOf (pieces : List (List Char)) : List String :=
  ((pieces.map String.ofList).map Text.trim).filter (· ≠ "")

theorem segmentsOf_append_cons (ps qs : List (List Char)) {piece : List Char}
    (trimmed : Text.trim (String.ofList piece) = segment) (given : segment ≠ "") :
    segmentsOf (ps ++ piece :: qs) = segmentsOf ps ++ segment :: segmentsOf qs := by
  simp [segmentsOf, trimmed, given]

theorem exists_piece {pieces : List (List Char)}
    (cut : segmentsOf pieces = front ++ segment :: back) :
    ∃ ps piece qs, pieces = ps ++ piece :: qs ∧ segmentsOf ps = front ∧
      Text.trim (String.ofList piece) = segment ∧ segmentsOf qs = back := by
  induction pieces generalizing front with
  | nil => simp [segmentsOf] at cut
  | cons p rest ih =>
    have step : segmentsOf (p :: rest) =
        (if Text.trim (String.ofList p) = "" then [] else [Text.trim (String.ofList p)]) ++
          segmentsOf rest := by
      by_cases blank : Text.trim (String.ofList p) = "" <;> simp [segmentsOf, blank]
    have skip {ps : List (List Char)} {piece : List Char} {qs : List (List Char)}
        (shape : rest = ps ++ piece :: qs) : p :: rest = (p :: ps) ++ piece :: qs := by simp [shape]
    rw [step] at cut
    -- A blank piece is no segment, and the search goes on behind it.
    by_cases blank : Text.trim (String.ofList p) = ""
    · rw [if_pos blank, List.nil_append] at cut
      obtain ⟨ps, piece, qs, shape, rfl, trimmed, after⟩ := ih cut
      exact ⟨p :: ps, piece, qs, skip shape, by simp [segmentsOf, blank], trimmed, after⟩
    · rw [if_neg blank] at cut
      cases front with
      | nil =>
        obtain ⟨here, after⟩ := List.cons.inj cut
        exact ⟨[], p, rest, rfl, rfl, here, after⟩
      | cons first front =>
        obtain ⟨here, others⟩ := List.cons.inj cut
        obtain ⟨ps, piece, qs, shape, rfl, trimmed, after⟩ := ih others
        exact ⟨p :: ps, piece, qs, skip shape, by simp [segmentsOf, ← here, blank], trimmed, after⟩

theorem exists_segment_gap (cut : segments mark spec = front ++ segment :: back) :
    ∃ gap : Gap, gap.fill segment = spec ∧
      ∀ other, IsSegment mark other → segments mark (gap.fill other) = front ++ other :: back := by
  obtain ⟨ps, piece, qs, pieces, rfl, trimmed, rfl⟩ := exists_piece cut
  -- The gap keeps the blanks around the segment and every mark between the pieces.
  obtain ⟨padding, padded, refilled⟩ := exists_trim_gap (String.ofList piece)
  have clean : ∀ part ∈ ps ++ piece :: qs, mark ∉ part := fun part member =>
    Path.not_mem_of_mem_splitOn (pieces ▸ member)
  let around : Gap :=
    ⟨String.ofList (ps.flatMap (· ++ [mark])), String.ofList (qs.flatMap (mark :: ·))⟩
  have joined (text : String) :
      (around.fill text).toList = [mark].intercalate (ps ++ text.toList :: qs) := by
    rw [intercalate_append_cons, Gap.toList_fill, String.toList_ofList, String.toList_ofList]
  refine ⟨padding.within around, ?_, fun other isSegment => ?_⟩
  · rw [Gap.fill_within, ← trimmed, padded, ← String.toList_inj, joined, String.toList_ofList,
      ← pieces, List.intercalate_splitOn]
  · have unpadded : mark ∉ (padding.fill segment).toList := by
      rw [← trimmed, padded, String.toList_ofList]
      exact clean piece (by simp)
    have markless : ∀ part ∈ ps ++ (padding.fill other).toList :: qs, mark ∉ part := by
      intro part member
      simp only [List.mem_append, List.mem_cons] at member
      rcases member with before | rfl | after
      · exact clean part (by simp [before])
      · exact Gap.not_mem_fill unpadded isSegment.unmarked
      · exact clean part (by simp [after])
    have cut_again : (around.fill (padding.fill other)).toList.splitOn mark =
        ps ++ (padding.fill other).toList :: qs := by
      rw [joined, List.splitOn_intercalate mark markless (by simp)]
    have same : Text.trim (String.ofList (padding.fill other).toList) = other := by
      rw [String.ofList_toList, refilled other isSegment.tight]
    rw [Gap.fill_within]
    change segmentsOf ((around.fill (padding.fill other)).toList.splitOn mark) = _
    rw [cut_again, segmentsOf_append_cons ps qs same isSegment.given]

end Segments

end Census
