set_option autoImplicit false

namespace Census.Text

/-- The characters of Unicode property `White_Space`. -/
def blanks : List Char :=
  ['\u0009', '\u000a', '\u000b', '\u000c', '\u000d', '\u0020', '\u0085', '\u00a0', '\u1680',
   '\u2000', '\u2001', '\u2002', '\u2003', '\u2004', '\u2005', '\u2006', '\u2007', '\u2008',
   '\u2009', '\u200a', '\u2028', '\u2029', '\u202f', '\u205f', '\u3000']

def isBlank (c : Char) : Bool :=
  blanks.contains c

def dropBlanks (cs : List Char) : List Char :=
  cs.dropWhile isBlank

def trim (text : String) : String :=
  String.ofList (dropBlanks (dropBlanks text.toList).reverse).reverse

theorem dropBlanks_of_not_blank {c : Char} {cs : List Char} (h : isBlank c = false) :
    dropBlanks (c :: cs) = c :: cs := by
  simp [dropBlanks, h]

@[simp] theorem trim_empty : trim "" = "" := by
  simp [trim, dropBlanks]

/-- ASCII but for the blank and the control characters. -/
def isVisible (c : Char) : Bool :=
  '!' ≤ c && c ≤ '~'

theorem not_blank_of_visible {c : Char} (visible : isVisible c = true) : isBlank c = false := by
  have apart : blanks.all (!isVisible ·) = true := by decide
  cases blank : isBlank c with
  | false => rfl
  | true =>
    have hidden := List.all_eq_true.mp apart c (List.contains_iff_mem.mp blank)
    simp [visible] at hidden

theorem dropBlanks_of_visible {cs : List Char} (visible : cs.all isVisible = true) :
    dropBlanks cs = cs := by
  cases cs with
  | nil => rfl
  | cons c cs =>
    exact dropBlanks_of_not_blank
      (not_blank_of_visible (List.all_eq_true.mp visible c List.mem_cons_self))

theorem trim_of_visible {text : String} (visible : text.toList.all isVisible = true) :
    trim text = text := by
  have backwards : text.toList.reverse.all isVisible = true := by simpa using visible
  rw [trim, dropBlanks_of_visible visible, dropBlanks_of_visible backwards, List.reverse_reverse,
    String.ofList_toList]

end Census.Text
