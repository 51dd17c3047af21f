set_option autoImplicit false

namespace Census.Text

def cutFirst (mark : Char) : List Char → Option (List Char × List Char)
  | [] => none
  | c :: cs =>
    if c = mark then some ([], cs)
    else (cutFirst mark cs).map fun (before, after) => (c :: before, after)

theorem cutFirst_append {mark : Char} {before after : List Char} (h : mark ∉ before) :
    cutFirst mark (before ++ mark :: after) = some (before, after) := by
  induction before with
  | nil => simp [cutFirst]
  | cons c cs ih =>
    simp only [List.mem_cons, not_or] at h
    simp [cutFirst, Ne.symm h.1, ih h.2]

theorem cutFirst_eq_some {mark : Char} {text before after : List Char}
    (h : cutFirst mark text = some (before, after)) :
    text = before ++ mark :: after ∧ mark ∉ before := by
  induction text generalizing before after with
  | nil => simp [cutFirst] at h
  | cons c cs ih =>
    by_cases same : c = mark
    · simp only [cutFirst, same, if_true, Option.some.injEq, Prod.mk.injEq] at h
      simp [same, ← h.1, ← h.2]
    · simp only [cutFirst, same, if_false, Option.map_eq_some_iff] at h
      obtain ⟨⟨first, last⟩, found, equal⟩ := h
      obtain ⟨rfl, rfl⟩ := Prod.mk.injEq .. ▸ equal
      have := ih found
      simp [this.1, this.2, Ne.symm same]

theorem cutFirst_eq_none_iff {mark : Char} {text : List Char} :
    cutFirst mark text = none ↔ mark ∉ text := by
  induction text with
  | nil => simp [cutFirst]
  | cons c cs ih =>
    by_cases same : c = mark
    · simp [cutFirst, same]
    · simp [cutFirst, same, ih, Ne.symm same]

def parts (mark : Char) (text : String) : List String :=
  (text.toList.splitOn mark).map String.ofList

def lowered (text : String) : String :=
  String.ofList (text.toList.map Char.toLower)

def occursIn (part : List Char) : List Char → Bool
  | [] => part.isEmpty
  | c :: cs => part.isPrefixOf (c :: cs) || occursIn part cs

theorem occursIn_iff {part text : List Char} : occursIn part text = true ↔ part <:+: text := by
  induction text with
  | nil => simp [occursIn]
  | cons c cs ih => simp [occursIn, ih, List.infix_cons_iff]

end Census.Text
