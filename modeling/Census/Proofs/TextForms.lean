import Mathlib.Data.List.Basic
import Census.Toml.Text

set_option autoImplicit false

namespace Census.Toml

/-- How a text with escapes can have a character: by itself, by a letter, or by its number. -/
inductive Spelling (c : Char) : List Char → Prop where
  | plain (unquoted : c ≠ '"') (unslashed : c ≠ '\\') (plain : isPlain c = true) : Spelling c [c]
  | letter {d : Char} (short : d ≠ 'u') (long : d ≠ 'U') (known : escape? d = some c) :
    Spelling c ['\\', d]
  | number {d₁ d₂ d₃ d₄ : Char} (read : scalar? [d₁, d₂, d₃, d₄] = some c) :
    Spelling c ['\\', 'u', d₁, d₂, d₃, d₄]

theorem isControl_iff {c : Char} :
    isControl c = true ↔ ∃ n ∈ List.range 32 ++ [127], c = Char.ofNat n := by
  constructor
  · intro control
    refine ⟨c.toNat, ?_, (Char.ofNat_toNat c).symm⟩
    simpa [isControl] using control
  · rintro ⟨n, listed, rfl⟩
    revert n
    decide

theorem spelling_number {c : Char} (control : isControl c = true) :
    Spelling c (['\\', 'u'] ++ (Text.hexDigits 4 c.toNat).map Char.toUpper) := by
  have all : ∀ n ∈ List.range 32 ++ [127],
      ((Text.hexDigits 4 (Char.ofNat n).toNat).map Char.toUpper).length = 4 ∧
        scalar? ((Text.hexDigits 4 (Char.ofNat n).toNat).map Char.toUpper) =
          some (Char.ofNat n) := by
    decide +kernel
  obtain ⟨n, listed, rfl⟩ := isControl_iff.mp control
  obtain ⟨four, read⟩ := all n listed
  match (Text.hexDigits 4 (Char.ofNat n).toNat).map Char.toUpper, four, read with
  | [_, _, _, _], _, read => exact .number read

theorem spelling_escaped (c : Char) : Spelling c (escaped c) := by
  unfold escaped
  split
  case h_8 unquoted unslashed =>
    split
    next control => exact spelling_number control
    next uncontrolled => exact .plain unquoted unslashed (by simp [isPlain, uncontrolled])
  all_goals exact .letter (by decide) (by decide) rfl

theorem ne_of_class {p : Char → Bool} {c d : Char} (inside : p c = true) (outside : p d = false) :
    c ≠ d := by
  rintro rfl
  exact absurd inside (Bool.eq_false_iff.mp outside)

theorem isPlain_ne {c : Char} (plain : isPlain c = true) : c ≠ '\n' ∧ c ≠ '\r' :=
  ⟨ne_of_class plain (by decide), ne_of_class plain (by decide)⟩

section Reading

variable {c : Char} {cs rest : List Char}

theorem basic?_spelling (spelling : Spelling c cs) (rest : List Char) :
    basic? (cs ++ rest) = (basic? rest).map (push c) := by
  cases spelling with
  | plain unquoted unslashed plain => simp [basic?, unslashed, plain]
  | letter short long known => cases after : basic? rest <;> simp [basic?, short, long, known, after]
  | number read => cases after : basic? rest <;> simp [basic?, read, after]

theorem manyBasic?_spelling (spelling : Spelling c cs) (rest : List Char) :
    manyBasic? false (cs ++ rest) = (manyBasic? false rest).map (push c) := by
  cases spelling with
  | plain unquoted unslashed plain => simp [manyBasic?, unquoted, unslashed, plain, isPlain_ne plain]
  | letter short long known => simp [manyBasic?, short, long, known]
  | number read => cases after : manyBasic? false rest <;> simp [manyBasic?, read, after]

theorem manyBasic?_break (rest : List Char) :
    manyBasic? false ('\n' :: rest) = (manyBasic? false rest).map (push '\n') := by
  simp [manyBasic?]

theorem manyBasic?_quote (stays : ∀ after, rest ≠ '"' :: '"' :: after) :
    manyBasic? false ('"' :: rest) = (manyBasic? false rest).map (push '"') := by
  simp [manyBasic?, stays]

theorem literal?_cons (unquoted : c ≠ '\'') (plain : isPlain c = true) (rest : List Char) :
    literal? (c :: rest) = (literal? rest).map (push c) := by
  simp [literal?, plain]

theorem manyLiteral?_cons (allowed : isPlain c = true ∨ c = '\n')
    (stays : ∀ after, c = '\'' → rest ≠ '\'' :: '\'' :: after) :
    manyLiteral? (c :: rest) = (manyLiteral? rest).map (push c) := by
  have kept : (isPlain c || decide (c = '\n')) = true := by simpa using allowed
  rw [manyLiteral?, if_pos kept]
  -- The cases in front are those of three quotes or more and that of a carriage return.
  all_goals
    rintro after rfl rfl
    first
      | exact stays _ rfl rfl
      | exact absurd kept (by decide)

theorem Spelling.head (spelling : Spelling c cs) :
    ∃ d ds, cs = d :: ds ∧ d ≠ '"' ∧ d ≠ '\n' ∧ d ≠ '\r' := by
  cases spelling with
  | plain unquoted unslashed plain => exact ⟨c, [], rfl, unquoted, isPlain_ne plain⟩
  | letter | number => exact ⟨'\\', _, rfl, by decide⟩

end Reading

section Bodies

variable {text : List Char}

theorem basic?_escaped (text rest : List Char) :
    basic? (text.flatMap escaped ++ '"' :: rest) = some (text, rest) := by
  induction text with
  | nil => rfl
  | cons c text ih =>
    rw [List.flatMap_cons, List.append_assoc, basic?_spelling (spelling_escaped c), ih]
    rfl

theorem literal?_body (unquoted : '\'' ∉ text) (plain : ∀ c ∈ text, isPlain c = true)
    (rest : List Char) : literal? (text ++ '\'' :: rest) = some (text, rest) := by
  induction text with
  | nil => rfl
  | cons c text ih =>
    simp only [List.mem_cons, not_or] at unquoted
    obtain ⟨first, others⟩ := List.forall_mem_cons.mp plain
    rw [List.cons_append, literal?_cons (Ne.symm unquoted.1) first, ih unquoted.2 others]
    rfl

theorem head_manyEscaped (quotes : Nat) {c : Char} (text : List Char)
    (unquoted : c = '"' → 2 ≤ quotes) :
    ∃ d ds, manyEscaped quotes (c :: text) = d :: ds ∧ d ≠ '"' := by
  obtain ⟨d, ds, shape, unquoted', -⟩ := (spelling_escaped c).head
  rw [manyEscaped]
  split
  next quote =>
    rw [if_neg (Nat.not_lt.mpr (unquoted quote)), shape]
    exact ⟨d, _, rfl, unquoted'⟩
  next other =>
    split
    · exact ⟨c, _, rfl, other⟩
    · rw [shape]
      exact ⟨d, _, rfl, unquoted'⟩

/-- A quote written as such is followed by two quotes only if at most one is left to write. -/
theorem manyEscaped_stays {quotes : Nat} (some_written : 1 ≤ quotes) (more : text ≠ [])
    (last : text = ['"'] → 2 ≤ quotes) (rest after : List Char) :
    manyEscaped quotes text ++ rest ≠ '"' :: '"' :: after := by
  obtain ⟨c, text, rfl⟩ := List.exists_cons_of_ne_nil more
  by_cases raw : c = '"' ∧ quotes = 1
  · obtain ⟨rfl, rfl⟩ := raw
    have third : text ≠ [] := by
      rintro rfl
      exact absurd (last rfl) (by decide)
    obtain ⟨c, text, rfl⟩ := List.exists_cons_of_ne_nil third
    obtain ⟨d, ds, shape, unquoted⟩ := head_manyEscaped 2 (c := c) text fun _ => Nat.le_refl 2
    have written : manyEscaped 1 ('"' :: c :: text) = '"' :: d :: ds := by
      rw [manyEscaped, if_pos rfl, if_pos (by decide), shape]
    rw [written]
    simp [unquoted]
  · obtain ⟨d, ds, shape, unquoted⟩ := head_manyEscaped quotes (c := c) text (by grind)
    rw [shape]
    simp [unquoted]

theorem manyBasic?_manyEscaped (quotes : Nat) (text rest : List Char) :
    manyBasic? false (manyEscaped quotes text ++ '"' :: '"' :: '"' :: '\n' :: rest) =
      some (text, '\n' :: rest) := by
  induction text generalizing quotes with
  | nil => simp [manyEscaped, manyBasic?]
  | cons c text ih =>
    rw [manyEscaped]
    split
    next quote =>
      subst quote
      split
      next few =>
        rw [List.cons_append]
        -- One quote or two at the end are read with those that close the text.
        by_cases none_left : text = []
        · subst none_left
          simp [manyEscaped, manyBasic?]
        by_cases one_left : text = ['"'] ∧ quotes = 0
        · obtain ⟨rfl, rfl⟩ := one_left
          simp [manyEscaped, manyBasic?]
        have stays := manyEscaped_stays (Nat.succ_pos quotes) none_left (by grind)
          ('"' :: '"' :: '"' :: '\n' :: rest)
        rw [manyBasic?_quote stays, ih]
        rfl
      next =>
        rw [List.append_assoc, manyBasic?_spelling (spelling_escaped _), ih]
        rfl
    next =>
      split
      next line =>
        subst line
        rw [List.cons_append, manyBasic?_break, ih]
        rfl
      next =>
        rw [List.append_assoc, manyBasic?_spelling (spelling_escaped _), ih]
        rfl

theorem manyLiteral?_body (allowed : ∀ c ∈ text, isPlain c = true ∨ c = '\n')
    (short : ¬ List.replicate 3 '\'' <:+: text) (rest : List Char) :
    manyLiteral? (text ++ '\'' :: '\'' :: '\'' :: '\n' :: rest) = some (text, '\n' :: rest) := by
  induction text with
  | nil => simp [manyLiteral?]
  | cons c text ih =>
    obtain ⟨first, others⟩ := List.forall_mem_cons.mp allowed
    by_cases at_end : c = '\'' ∧ (text = [] ∨ text = ['\''])
    · obtain ⟨rfl, rfl | rfl⟩ := at_end
      · simp [manyLiteral?]
      · simp [manyLiteral?]
    rw [List.cons_append, manyLiteral?_cons first, ih others]
    · rfl
    · exact fun inside => short (inside.trans (List.suffix_cons c text).isInfix)
    · rintro after rfl
      match text with
      | [] => simp at at_end
      | [d] =>
        intro same
        exact at_end ⟨rfl, .inr (by rw [(List.cons.inj same).1])⟩
      | d :: e :: text =>
        intro same
        simp only [List.cons_append, List.cons.injEq] at same
        obtain ⟨rfl, rfl, -⟩ := same
        exact short ⟨[], text, rfl⟩

end Bodies

section Runs

variable {mark : Char}

def runsAfter (mark : Char) (runs : Nat × Nat) (c : Char) : Nat × Nat :=
  if c = mark then (runs.1 + 1, max runs.2 (runs.1 + 1)) else (0, runs.2)

theorem longestRun_eq (mark : Char) (text : List Char) :
    longestRun mark text = (text.foldl (runsAfter mark) (0, 0)).2 :=
  rfl

theorem le_foldl_runsAfter (text : List Char) (runs : Nat × Nat) :
    runs.2 ≤ (text.foldl (runsAfter mark) runs).2 := by
  induction text generalizing runs with
  | nil => exact Nat.le_refl _
  | cons c text ih =>
    have grown : runs.2 ≤ (runsAfter mark runs c).2 := by
      unfold runsAfter
      split
      · exact Nat.le_max_left ..
      · exact Nat.le_refl _
    exact Nat.le_trans grown (ih _)

theorem fst_foldl_runsAfter (k : Nat) (runs : Nat × Nat) :
    ((List.replicate k mark).foldl (runsAfter mark) runs).1 = runs.1 + k := by
  induction k with
  | zero => rfl
  | succ k ih =>
    rw [List.replicate_succ', List.foldl_append, List.foldl_cons, List.foldl_nil, runsAfter, if_pos rfl]
    simp only [ih, Nat.add_assoc]

theorem le_longestRun {text : List Char} {k : Nat} (run : List.replicate k mark <:+: text) :
    k ≤ longestRun mark text := by
  cases k with
  | zero => exact Nat.zero_le _
  | succ k =>
    obtain ⟨before, after, rfl⟩ := run
    rw [longestRun_eq, List.foldl_append, List.foldl_append]
    generalize before.foldl (runsAfter mark) (0, 0) = runs
    calc k + 1
        ≤ runs.1 + k + 1 := by omega
      _ ≤ ((List.replicate (k + 1) mark).foldl (runsAfter mark) runs).2 := by
        rw [List.replicate_succ', List.foldl_append, List.foldl_cons, List.foldl_nil, runsAfter,
          if_pos rfl, fst_foldl_runsAfter]
        exact Nat.le_max_right ..
      _ ≤ _ := le_foldl_runsAfter after _

theorem not_mem_of_longestRun {text : List Char} (none_there : longestRun mark text = 0) :
    mark ∉ text := by
  intro there
  obtain ⟨before, after, shape⟩ := List.append_of_mem there
  have one : 1 ≤ longestRun mark text := le_longestRun ⟨before, after, by simp [shape]⟩
  omega

end Runs

section Forms

variable {text : List Char}

theorem allowed_of_no_codes
    (codes : (text.any fun c => isControl c && c != '\t' && c != '\n') = false) :
    ∀ c ∈ text, isPlain c = true ∨ c = '\n' := by
  intro c member
  have uncoded := List.any_eq_false.mp codes c member
  simp only [isPlain, Bool.or_eq_true, decide_eq_true_eq, Bool.not_eq_true']
  simp at uncoded
  grind

theorem literal_of_formOf (form : formOf text = .literal) :
    '\'' ∉ text ∧ ∀ c ∈ text, isPlain c = true := by
  simp only [formOf] at form
  have chosen : (text.any fun c => isControl c && c != '\t' && c != '\n') = false ∧
      longestRun '\'' text = 0 ∧ text.contains '\n' = false := by
    grind
  obtain ⟨codes, singles, lines⟩ := chosen
  refine ⟨not_mem_of_longestRun singles, fun c member => ?_⟩
  refine (allowed_of_no_codes codes c member).resolve_right ?_
  rintro rfl
  simp [member] at lines

theorem manyLiteral_of_formOf (form : formOf text = .manyLiteral) :
    ¬ List.replicate 3 '\'' <:+: text ∧ ∀ c ∈ text, isPlain c = true ∨ c = '\n' := by
  simp only [formOf] at form
  have chosen : (text.any fun c => isControl c && c != '\t' && c != '\n') = false ∧
      longestRun '\'' text ≤ 2 := by
    grind
  refine ⟨fun run => ?_, allowed_of_no_codes chosen.1⟩
  have three := le_longestRun run
  omega

theorem afterOpening_of_head {c : Char} (no_break : c ≠ '\n') (no_return : c ≠ '\r')
    (rest : List Char) : afterOpening (c :: rest) = c :: rest := by
  simp [afterOpening, no_break, no_return]

theorem afterOpening_opening (broken : '\n' ∈ text) (written : List Char) :
    afterOpening (opening text ++ written) = written := by
  simp [opening, broken, afterOpening]

-- Without an opening break the first character must not be taken for one.
theorem afterOpening_written {written : List Char}
    (unbroken : '\n' ∉ text → ∃ c rest, written = c :: rest ∧ c ≠ '\n' ∧ c ≠ '\r') :
    afterOpening (opening text ++ written) = written := by
  by_cases broken : '\n' ∈ text
  · exact afterOpening_opening broken written
  · obtain ⟨c, rest, rfl, no_break, no_return⟩ := unbroken broken
    have unopened : opening text = [] := by simp [opening, broken]
    rw [unopened, List.nil_append]
    exact afterOpening_of_head no_break no_return rest

theorem afterOpening_manyEscaped (text rest : List Char) :
    afterOpening (opening text ++ manyEscaped 0 text ++ '"' :: rest) =
      manyEscaped 0 text ++ '"' :: rest := by
  rw [List.append_assoc]
  apply afterOpening_written
  intro unbroken
  cases text with
  | nil => exact ⟨'"', rest, rfl, by decide, by decide⟩
  | cons c text =>
    rw [manyEscaped, if_neg (List.ne_of_not_mem_cons unbroken).symm]
    split
    next quote =>
      subst quote
      exact ⟨'"', _, rfl, by decide, by decide⟩
    next =>
      obtain ⟨d, ds, shape, -, no_break, no_return⟩ := (spelling_escaped c).head
      rw [shape]
      exact ⟨d, _, rfl, no_break, no_return⟩

theorem afterOpening_literal (allowed : ∀ c ∈ text, isPlain c = true ∨ c = '\n')
    (rest : List Char) :
    afterOpening (opening text ++ text ++ '\'' :: rest) = text ++ '\'' :: rest := by
  rw [List.append_assoc]
  apply afterOpening_written
  intro unbroken
  cases text with
  | nil => exact ⟨'\'', rest, rfl, by decide, by decide⟩
  | cons c text =>
    have other : c ≠ '\n' := (List.ne_of_not_mem_cons unbroken).symm
    have plain := (allowed c (by simp)).resolve_right other
    exact ⟨c, _, rfl, other, (isPlain_ne plain).2⟩

theorem text?_one_double {body : List Char} (single : ∀ after, body ≠ '"' :: '"' :: after) :
    text? ('"' :: body) = basic? body := by
  simp [text?]

theorem text?_one_single {body : List Char} (single : ∀ after, body ≠ '\'' :: '\'' :: after) :
    text? ('\'' :: body) = literal? body := by
  simp [text?]

theorem text?_write (text rest : List Char) :
    text? (write text ++ '\n' :: rest) = some (text, '\n' :: rest) := by
  unfold write
  split
  next =>
    have single (after : List Char) :
        text.flatMap escaped ++ '"' :: '\n' :: rest ≠ '"' :: '"' :: after := by
      cases text with
      | nil => simp
      | cons c text =>
        obtain ⟨d, ds, shape, unquoted, -⟩ := (spelling_escaped c).head
        simp [shape, unquoted]
    simp only [List.append_assoc, List.cons_append, List.nil_append]
    rw [text?_one_double single, basic?_escaped]
  next form =>
    obtain ⟨unquoted, plain⟩ := literal_of_formOf form
    have single (after : List Char) :
        text ++ '\'' :: '\n' :: rest ≠ '\'' :: '\'' :: after := by
      cases text with
      | nil => simp
      | cons c text =>
        have other : '\'' ≠ c := by
          rintro rfl
          simp at unquoted
        simp [other.symm]
    simp only [List.append_assoc, List.cons_append, List.nil_append]
    rw [text?_one_single single, literal?_body unquoted plain]
  next =>
    have read := manyBasic?_manyEscaped 0 text rest
    simp only [List.append_assoc, List.cons_append, List.nil_append]
    rw [text?, ← List.append_assoc, afterOpening_manyEscaped, read]
  next form =>
    obtain ⟨short, allowed⟩ := manyLiteral_of_formOf form
    simp only [List.append_assoc, List.cons_append, List.nil_append]
    rw [text?, ← List.append_assoc, afterOpening_literal allowed, manyLiteral?_body allowed short]

end Forms

end Census.Toml
