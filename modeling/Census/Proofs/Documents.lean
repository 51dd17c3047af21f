import Census.Proofs.Numerals
import Census.Proofs.TextForms
import Census.Toml.Reader

set_option autoImplicit false

namespace Census.Toml

section Classes

variable {p : Char → Bool} {text : List Char}

theorem append_ne_cons_of_class (nonempty : text ≠ []) (chars : ∀ c ∈ text, p c = true)
    {mark : Char} (outside : p mark = false) {rest after : List Char} :
    text ++ rest ≠ mark :: after := by
  obtain ⟨c, cs, rfl⟩ := List.exists_cons_of_ne_nil nonempty
  exact fun same => ne_of_class (chars c (by simp)) outside (List.cons.inj same).1

theorem skipGaps_of_head {c : Char} (ungapped : isGap c = false) (rest : List Char) :
    skipGaps (c :: rest) = c :: rest := by
  simp [skipGaps, ungapped]

theorem skipGaps_of_class (nonempty : text ≠ []) (chars : ∀ c ∈ text, p c = true)
    (space : p ' ' = false) (tab : p '\t' = false) (rest : List Char) :
    skipGaps (text ++ rest) = text ++ rest := by
  obtain ⟨c, cs, rfl⟩ := List.exists_cons_of_ne_nil nonempty
  have first := chars c (by simp)
  refine skipGaps_of_head ?_ _
  simp [isGap, ne_of_class first space, ne_of_class first tab]

end Classes

section Numbers

theorem digitChar_ne_zero {d : Nat} (small : d < 10) (nonzero : d ≠ 0) : Nat.digitChar d ≠ '0' := by
  have all : ∀ d < 10, d ≠ 0 → Nat.digitChar d ≠ '0' := by decide
  exact all d small nonzero

theorem head?_toDigits_ne {n : Nat} (nonzero : n ≠ 0) :
    (Nat.toDigits 10 n).head? ≠ some '0' := by
  induction n using Nat.strongRecOn with
  | ind n ih =>
    rw [Nat.toDigits_eq_if (by decide)]
    split
    next small =>
      intro zero
      exact digitChar_ne_zero small nonzero (Option.some.inj zero)
    next large =>
      -- The last digit is not the first one, so the others decide.
      rw [List.head?_append_of_ne_nil _ Nat.toDigits_ne_nil]
      exact ih (n / 10) (by omega) (by omega)

theorem isWhole_toDigits (n : Nat) : isWhole (Nat.toDigits 10 n) = true := by
  obtain ⟨nonempty, digits, -⟩ := Text.digits_toDigits n
  have ungrouped : '_' ∉ Nat.toDigits 10 n := fun there => absurd (digits _ there) (by decide)
  have grouped : isGrouped (Nat.toDigits 10 n) = true := by
    rw [isGrouped, isGroupedBy, List.splitOn_eq_singleton ungrouped]
    simpa [nonempty] using digits
  by_cases zero : n = 0
  · subst zero
    rfl
  · simp [isWhole, grouped, head?_toDigits_ne zero]

theorem radix?_of_digits {text : List Char} (digits : ∀ c ∈ text, c.isDigit = true) :
    radix? text = none := by
  unfold radix?
  split
  next => exact absurd (digits 'x' (by simp)) (by decide)
  next => exact absurd (digits 'o' (by simp)) (by decide)
  next => exact absurd (digits 'b' (by simp)) (by decide)
  next => rfl

theorem integer?_toDigits {n : Nat} (within : n ≤ Text.greatestInt64) :
    integer? (Nat.toDigits 10 n) = some (Int64.ofInt n) := by
  have digits := Text.digits_toDigits n
  have read : Text.int64 (String.ofList (Nat.toDigits 10 n)) = .ok (Int64.ofInt n) := by
    rw [Text.int64_eq_ok_iff, Text.toInt_ofInt_natCast within, String.toList_ofList]
    exact .plain digits
  have signless : unsigned (Nat.toDigits 10 n) = Nat.toDigits 10 n := by
    unfold unsigned
    split
    next rest shape => exact absurd rfl (shape ▸ digits).not_sign.2
    next rest shape => exact absurd rfl (shape ▸ digits).not_sign.1
    next => rfl
  have whole : ungrouped (Nat.toDigits 10 n) = Nat.toDigits 10 n := by
    refine List.filter_eq_self.mpr fun c member => decide_eq_true ?_
    rintro rfl
    exact absurd (digits.2.1 _ member) (by decide)
  simp only [integer?, radix?_of_digits digits.2.1, signless, if_pos (isWhole_toDigits n), whole,
    read]
  rfl

theorem token?_toDigits {n : Nat} (within : n ≤ Text.greatestInt64) :
    token? (Nat.toDigits 10 n) = some (.integer (Int64.ofInt n)) := by
  have digits := (Text.digits_toDigits n).2.1
  have no_true : Nat.toDigits 10 n ≠ ['t', 'r', 'u', 'e'] := by
    intro shape
    exact absurd (digits 't' (by simp [shape])) (by decide)
  have no_false : Nat.toDigits 10 n ≠ ['f', 'a', 'l', 's', 'e'] := by
    intro shape
    exact absurd (digits 'f' (by simp [shape])) (by decide)
  rw [token?, if_neg no_true, if_neg no_false, integer?_toDigits within]

end Numbers

section Values

theorem digits?_eq_some {places n : Nat} {text after : List Char}
    (read : digits? places text = some (n, after)) :
    ∃ digits, text = digits ++ after ∧ ∀ c ∈ digits, c.isDigit = true := by
  rw [digits?, Option.ite_none_right_eq_some] at read
  obtain ⟨⟨-, digits⟩, same⟩ := read
  obtain ⟨-, rfl⟩ := Prod.mk.inj (Option.some.inj same)
  exact ⟨_, (List.take_append_drop places text).symm, List.all_eq_true.mp digits⟩

section Moments

variable {token : List Char} {rest : List Char}

/-- Digits do not go past the line, so what stands behind them is in the token or ends the line. -/
theorem mark?_past_digits {mark : Char} (within : mark ≠ '\n') (absent : mark ∉ token)
    {places n : Nat} {after : List Char}
    (read : digits? places (token ++ '\n' :: rest) = some (n, after)) :
    mark? mark after = none := by
  obtain ⟨digits, parts, are_digits⟩ := digits?_eq_some read
  rcases List.append_eq_append_iff.mp parts with ⟨left, rfl, line⟩ | ⟨left, rfl, rfl⟩
  · cases left with
    | nil =>
      obtain rfl : after = '\n' :: rest := line.symm
      simp [mark?, within.symm]
    | cons c left =>
      obtain ⟨rfl, -⟩ := List.cons.inj line
      exact absurd (are_digits '\n' (by simp)) (by decide)
  · cases left with
    | nil => simp [mark?, within.symm]
    | cons c left =>
      have other : c ≠ mark := by
        rintro rfl
        exact absent (by simp)
      simp [mark?, other]

theorem moment?_eq_none (dashless : '-' ∉ token) (colonless : ':' ∉ token) :
    moment? (token ++ '\n' :: rest) = none := by
  have undated : date? (token ++ '\n' :: rest) = none := by
    rw [date?]
    cases read : digits? 4 (token ++ '\n' :: rest) with
    | none => rfl
    | some found =>
      have nothing : mark? '-' found.2 = none := mark?_past_digits (by decide) dashless read
      change (mark? '-' found.2).bind _ = none
      rw [nothing]
      rfl
  have untimed : time? (token ++ '\n' :: rest) = none := by
    rw [time?]
    cases read : digits? 2 (token ++ '\n' :: rest) with
    | none => rfl
    | some found =>
      have nothing : mark? ':' found.2 = none := mark?_past_digits (by decide) colonless read
      change (mark? ':' found.2).bind _ = none
      rw [nothing]
      rfl
  rw [moment?, undated, untimed]

end Moments

structure Stands (written : List Char) (value : Value) : Prop where
  ungapped (rest : List Char) : skipGaps (written ++ rest) = written ++ rest
  read (rest : List Char) : value? deepest (written ++ '\n' :: rest) = some (value, '\n' :: rest)

theorem stands_token {token : List Char} {value : Value} (nonempty : token ≠ [])
    (chars : ∀ c ∈ token, isTokenChar c = true) (dashless : '-' ∉ token)
    (read : token? token = some value) : Stands token value := by
  have whole (rest : List Char) : (token ++ '\n' :: rest).takeWhile isTokenChar = token := by
    rw [List.takeWhile_append_of_pos chars]
    simp [isTokenChar]
  have timeless (rest : List Char) : moment? (token ++ '\n' :: rest) = none :=
    moment?_eq_none dashless fun colon => absurd (chars _ colon) (by decide)
  refine ⟨skipGaps_of_class nonempty chars (by decide) (by decide), fun rest => ?_⟩
  rw [value?]
  · simp only [timeless, whole, read, Option.map_some, List.drop_left]
  -- It begins with none of the marks of the other forms.
  · exact fun _ => append_ne_cons_of_class nonempty chars (by decide)
  · exact fun _ => append_ne_cons_of_class nonempty chars (by decide)
  · exact fun _ _ => append_ne_cons_of_class nonempty chars (by decide)
  · exact fun _ _ _ => append_ne_cons_of_class nonempty chars (by decide)
  · exact fun _ _ => append_ne_cons_of_class nonempty chars (by decide)
  · exact fun _ _ _ => append_ne_cons_of_class nonempty chars (by decide)

theorem stands_number {n : Nat} (within : n ≤ Text.greatestInt64) :
    Stands (Nat.toDigits 10 n) (.integer (Int64.ofInt n)) := by
  obtain ⟨nonempty, digits, -⟩ := Text.digits_toDigits n
  have dashless : '-' ∉ Nat.toDigits 10 n := fun there => absurd (digits _ there) (by decide)
  refine stands_token nonempty (fun c member => ?_) dashless (token?_toDigits within)
  simp [isTokenChar, Char.isAlphanum, digits c member]

theorem stands_true : Stands "true".toList (.boolean true) :=
  stands_token (by decide) (List.all_eq_true.mp (by decide)) (by decide) rfl

theorem stands_false : Stands "false".toList (.boolean false) :=
  stands_token (by decide) (List.all_eq_true.mp (by decide)) (by decide) rfl

theorem head_write (text : List Char) :
    ∃ c rest, write text = c :: rest ∧ (c = '"' ∨ c = '\'') := by
  unfold write
  split <;> exact ⟨_, _, rfl, by decide⟩

theorem stands_text (text : String) : Stands (write text.toList) (.text text) := by
  obtain ⟨c, rest, shape, quote⟩ := head_write text.toList
  have read := text?_write text.toList
  rw [shape] at read ⊢
  constructor
  · intro after
    rcases quote with rfl | rfl <;> exact skipGaps_of_head (by decide) _
  · intro after
    have quoted : value? deepest (c :: rest ++ '\n' :: after) =
        (text? (c :: rest ++ '\n' :: after)).map
          fun found => (.text (String.ofList found.1), found.2) := by
      rcases quote with rfl | rfl <;> rfl
    rw [quoted, read]
    simp

end Values

section Lines

def IsBareKey (key : String) : Prop :=
  key.toList ≠ [] ∧ key.toList.all isBare = true

instance (key : String) : Decidable (IsBareKey key) :=
  inferInstanceAs (Decidable (_ ∧ _))

section Bare

variable {key : String}

theorem IsBareKey.chars (bare : IsBareKey key) : ∀ c ∈ key.toList, isBare c = true :=
  List.all_eq_true.mp bare.2

theorem IsBareKey.unmarked (bare : IsBareKey key) {mark : Char} (outside : isBare mark = false)
    {rest after : List Char} : key.toList ++ rest ≠ mark :: after :=
  append_ne_cons_of_class bare.1 bare.chars outside

theorem skipGaps_bare (bare : IsBareKey key) (rest : List Char) :
    skipGaps (key.toList ++ rest) = key.toList ++ rest :=
  skipGaps_of_class bare.1 bare.chars (by decide) (by decide) rest

theorem key?_bare (bare : IsBareKey key) {c : Char} (ends : isBare c = false)
    (rest : List Char) : key? (key.toList ++ c :: rest) = some (key, c :: rest) := by
  have whole : (key.toList ++ c :: rest).takeWhile isBare = key.toList := by
    rw [List.takeWhile_append_of_pos bare.chars]
    simp [ends]
  rw [key?, whole]
  · split
    next empty => exact absurd empty bare.1
    next => rw [String.ofList_toList, List.drop_left]
  · exact fun _ => bare.unmarked (by decide)
  · exact fun _ => bare.unmarked (by decide)

theorem keys?_bare (bare : IsBareKey key) {c d : Char} (ends : isBare c = false)
    {rest after : List Char} (gap : skipGaps (c :: rest) = d :: after) (undotted : d ≠ '.')
    (most : Nat) :
    keys? (most + 1) (key.toList ++ c :: rest) = some (([], key), d :: after) := by
  simp only [keys?, skipGaps_bare bare, key?_bare bare ends, Option.bind_eq_bind,
    Option.bind_some, gap]
  split
  next more same => exact absurd (List.cons.inj same).1 undotted
  next => rfl

end Bare

inductive Line where
  | blank
  | header (name : String) (bare : IsBareKey name)
  | entry (key : String) (written : List Char) (value : Value) (bare : IsBareKey key)
    (stands : Stands written value)

namespace Line

def text : Line → List Char
  | blank => ['\n']
  | header name _ => '[' :: name.toList ++ [']', '\n']
  | entry key written _ _ _ => key.toList ++ [' ', '=', ' '] ++ written ++ ['\n']

def enter? (draft : Draft) : Line → Option Draft
  | blank => some draft
  | header name _ => draft.openTable? [] name
  | entry key _ value _ _ => draft.assign? [] key value

end Line

theorem lineEnd?_break (rest : List Char) : lineEnd? ('\n' :: rest) = some rest :=
  rfl

theorem Line.text_ne_nil (line : Line) : line.text ≠ [] := by
  cases line <;> simp [Line.text]

theorem line?_text (draft : Draft) (line : Line) (rest : List Char) :
    line? draft (line.text ++ rest) = (line.enter? draft).map (·, rest) := by
  cases line with
  | blank => rfl
  | header name bare =>
    have named : keys? deepest (name.toList ++ ']' :: '\n' :: rest) =
        some (([], name), ']' :: '\n' :: rest) :=
      keys?_bare bare (by decide) rfl (by decide) 78
    have closed : mark? ']' (']' :: '\n' :: rest) = some ('\n' :: rest) := rfl
    simp only [Line.text, List.cons_append, List.append_assoc, List.nil_append]
    rw [line?, skipGaps_of_head (by decide)]
    split
    next opened => exact absurd (List.cons.inj opened).2 (bare.unmarked (by decide))
    next after _ opened =>
      obtain rfl := (List.cons.inj opened).2
      simp only [named, Option.bind_eq_bind, Option.bind_some, closed, lineEnd?_break, Line.enter?]
      cases draft.openTable? [] name <;> rfl
    next unopened => exact absurd rfl (unopened _)
  | entry key written value bare stands =>
    have named : keys? deepest (key.toList ++ ' ' :: '=' :: ' ' :: (written ++ '\n' :: rest)) =
        some (([], key), '=' :: ' ' :: (written ++ '\n' :: rest)) :=
      keys?_bare bare (by decide) rfl (by decide) 78
    have assigned : mark? '=' ('=' :: ' ' :: (written ++ '\n' :: rest)) =
      some (' ' :: (written ++ '\n' :: rest)) := rfl
    have gap : skipGaps (' ' :: (written ++ '\n' :: rest)) = written ++ '\n' :: rest :=
      stands.ungapped ('\n' :: rest)
    simp only [Line.text, List.cons_append, List.append_assoc, List.nil_append]
    rw [line?, skipGaps_bare bare]
    split
    next opened => exact absurd opened (bare.unmarked (by decide))
    next opened => exact absurd opened (bare.unmarked (by decide))
    next =>
      simp only [named, Option.bind_eq_bind, Option.bind_some, assigned, gap, stands.read,
        lineEnd?_break, Line.enter?]
      cases draft.assign? [] key value <;> rfl

theorem lines?_text (draft : Draft) (lines : List Line) :
    lines? draft (lines.flatMap Line.text) = lines.foldlM Line.enter? draft := by
  induction lines generalizing draft with
  | nil => rw [List.flatMap_nil, lines?]; rfl
  | cons line lines ih =>
    rw [List.flatMap_cons, lines?, line?_text, List.foldlM_cons]
    cases line.enter? draft with
    | none => rfl
    | some draft =>
      have shorter : (lines.flatMap Line.text).length <
          (line.text ++ lines.flatMap Line.text).length := by
        have nonempty := List.length_pos_of_ne_nil line.text_ne_nil
        rw [List.length_append]
        omega
      simp only [Option.map_some, if_pos shorter, ih]
      rfl

end Lines

end Census.Toml
