import Mathlib.Data.List.Basic

set_option autoImplicit false

namespace Census.Text

def bytes (text : String) : List UInt8 :=
  text.toUTF8.data.toList

theorem bytes_eq (text : String) : bytes text = text.toList.flatMap String.utf8EncodeChar := by
  change text.toByteArray.data.toList = _
  rw [← String.utf8Encode_toList, List.utf8Encode, List.toList_data_toByteArray]

theorem bytes_append (a b : String) : bytes (a ++ b) = bytes a ++ bytes b := by
  simp only [bytes_eq, String.toList_append, List.flatMap_append]

section Lexical

variable {α : Type} {key : α → Nat}

/-- The order of a dictionary, where a list stands before the longer ones that begin with it. -/
def Lexical (key : α → Nat) : List α → List α → Prop
  | [], _ => True
  | _ :: _, [] => False
  | x :: xs, y :: ys => key x < key y ∨ key x = key y ∧ Lexical key xs ys

instance decidableLexical (key : α → Nat) : (xs ys : List α) → Decidable (Lexical key xs ys)
  | [], _ => isTrue trivial
  | _ :: _, [] => isFalse id
  | x :: xs, y :: ys =>
    have := decidableLexical key xs ys
    inferInstanceAs (Decidable (key x < key y ∨ key x = key y ∧ Lexical key xs ys))

theorem lexical_total (xs ys : List α) : Lexical key xs ys ∨ Lexical key ys xs := by
  induction xs generalizing ys with
  | nil => exact .inl trivial
  | cons x xs ih =>
    cases ys with
    | nil => exact .inr trivial
    | cons y ys =>
      rcases Nat.lt_trichotomy (key x) (key y) with before | same | after
      next => exact .inl (.inl before)
      next => exact (ih ys).imp (fun less => .inr ⟨same, less⟩) fun less => .inr ⟨same.symm, less⟩
      next => exact .inr (.inl after)

theorem lexical_append_left_iff (front xs ys : List α) :
    Lexical key (front ++ xs) (front ++ ys) ↔ Lexical key xs ys := by
  induction front with
  | nil => rfl
  | cons x front ih => simp [Lexical, ih]

end Lexical

theorem not_lex_iff (xs ys : List Char) :
    ¬List.Lex (· < ·) ys xs ↔ Lexical Char.toNat xs ys := by
  induction xs generalizing ys with
  | nil => simp [Lexical]
  | cons x xs ih =>
    cases ys with
    | nil => simp [Lexical]
    | cons y ys =>
      rw [Lexical, ← ih ys, List.cons_lex_cons_iff, Char.lt_def, UInt32.lt_iff_toNat_lt,
        ← Char.toNat_inj]
      change ¬(y.toNat < x.toNat ∨ y.toNat = x.toNat ∧ _) ↔ _
      rcases Nat.lt_trichotomy x.toNat y.toNat with before | same | after
      next => simp [before, Nat.lt_asymm before, Nat.ne_of_gt before]
      next => simp [same]
      next => simp [after, Nat.lt_asymm after, Nat.ne_of_gt after]

theorem le_iff_lexical {a b : String} : a ≤ b ↔ Lexical Char.toNat a.toList b.toList :=
  not_lex_iff a.toList b.toList

inductive Encoded (v : Nat) : List UInt8 → Prop where
  | one (high : v < 128) : Encoded v [.ofNat v]
  | two {a b : Nat} (whole : v = 64 * a + b) (high : 2 ≤ a ∧ a < 32) (low : b < 64) :
    Encoded v [.ofNat (a + 192), .ofNat (b + 128)]
  | three {a b c : Nat} (whole : v = 64 * (64 * a + b) + c) (high : 32 ≤ 64 * a + b ∧ a < 16)
    (middle : b < 64) (low : c < 64) :
    Encoded v [.ofNat (a + 224), .ofNat (b + 128), .ofNat (c + 128)]
  | four {a b c d : Nat} (whole : v = 64 * (64 * (64 * a + b) + c) + d)
    (high : 16 ≤ 64 * a + b ∧ a < 8) (upper : b < 64) (lower : c < 64) (low : d < 64) :
    Encoded v [.ofNat (a + 240), .ofNat (b + 128), .ofNat (c + 128), .ofNat (d + 128)]

theorem encoded (c : Char) : Encoded c.toNat (String.utf8EncodeChar c) := by
  have range : c.val.toNat < 1114112 := by
    have valid := c.valid
    simp only [UInt32.isValidChar, Nat.isValidChar] at valid
    omega
  change Encoded c.val.toNat _
  simp only [String.utf8EncodeChar]
  split
  next => exact .one (by omega)
  next =>
    split
    next => exact .two (by omega) (by omega) (by omega)
    next =>
      split
      next => exact .three (by omega) (by omega) (by omega) (by omega)
      next => exact .four (by omega) (by omega) (by omega) (by omega) (by omega)

section Encoded

variable {v w : Nat} {front front' : List UInt8}

-- The first byte tells how many follow, and more of them mean a greater number.
theorem Encoded.not_lexical (small : Encoded v front) (great : Encoded w front') (less : v < w)
    (xs ys : List UInt8) : ¬Lexical UInt8.toNat (front' ++ ys) (front ++ xs) := by
  cases small <;> cases great <;>
    simp only [List.cons_append, List.nil_append, Lexical, UInt8.toNat_ofNat'] <;> omega

theorem Encoded.lexical (small : Encoded v front) (great : Encoded w front') (less : v < w)
    (xs ys : List UInt8) : Lexical UInt8.toNat (front ++ xs) (front' ++ ys) :=
  (lexical_total _ _).resolve_right (small.not_lexical great less xs ys)

end Encoded

theorem lexical_encoded_iff (xs ys : List Char) :
    Lexical UInt8.toNat (xs.flatMap String.utf8EncodeChar) (ys.flatMap String.utf8EncodeChar) ↔
      Lexical Char.toNat xs ys := by
  induction xs generalizing ys with
  | nil => exact Iff.rfl
  | cons x xs ih =>
    cases ys with
    | nil =>
      cases shape : String.utf8EncodeChar x with
      | nil => exact absurd shape String.utf8EncodeChar_ne_nil
      | cons first rest => simp [shape, Lexical]
    | cons y ys =>
      -- Different characters are told apart within their own bytes, so the rest does not count.
      rw [List.flatMap_cons, List.flatMap_cons, Lexical]
      rcases Nat.lt_trichotomy x.toNat y.toNat with before | same | after
      next => simp [before, (encoded x).lexical (encoded y) before]
      next =>
        obtain rfl := Char.toNat_inj.mp same
        simp [lexical_append_left_iff, ih]
      next =>
        have not_before := (encoded y).not_lexical (encoded x) after
        simp [not_before, Nat.not_lt_of_lt after, Nat.ne_of_gt after]

theorem le_iff_bytes {a b : String} : a ≤ b ↔ Lexical UInt8.toNat (bytes a) (bytes b) := by
  rw [le_iff_lexical, bytes_eq, bytes_eq, lexical_encoded_iff]

end Census.Text
