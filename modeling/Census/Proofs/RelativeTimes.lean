import Mathlib.Logic.ExistsUnique
import Mathlib.Tactic.SplitIfs
import Census.Comparison

set_option autoImplicit false

namespace Census

def Fits (n : Int) : Prop :=
  Int64.minValue.toInt ≤ n ∧ n ≤ Int64.maxValue.toInt

theorem toInt_clamp_of_fits {n : Int} (fits : Fits n) : (clamp n).toInt = n := by
  rw [toInt_clamp, if_neg (Int.not_lt.mpr fits.1), if_neg (Int.not_lt.mpr fits.2)]

theorem clamp_mono {m n : Int} (below : m ≤ n) : clamp m ≤ clamp n := by
  have ordered : Int64.minValue.toInt ≤ Int64.maxValue.toInt := by decide
  simp only [Int64.le_iff_toInt_le, toInt_clamp]
  split_ifs <;> omega

theorem satSub_antitone (now : Int64) {a b : Int64} (below : a ≤ b) :
    satSub now b ≤ satSub now a := by
  have exact_below := Int64.le_iff_toInt_le.mp below
  exact clamp_mono (by omega)

theorem satMul_mono {a b c : Int64} (below : a ≤ b) (nonneg : 0 ≤ c.toInt) :
    satMul a c ≤ satMul b c :=
  clamp_mono (Int.mul_le_mul_of_nonneg_right (Int64.le_iff_toInt_le.mp below) nonneg)

theorem TimeUnit.millis_nonneg (unit : TimeUnit) : 0 ≤ unit.millis.toInt := by
  cases unit <;> decide

namespace LongComparison

variable (unit : TimeUnit) (now : Int64)

theorem test_within_iff (n v : Int64) :
    (mk (.within unit) n now).test v = true ↔ before now n unit ≤ v :=
  decide_eq_true_iff

theorem test_olderThan_iff (n v : Int64) :
    (mk (.olderThan unit) n now).test v = true ↔ v ≤ before now n unit :=
  decide_eq_true_iff

theorem toInt_before_of_fits {n : Int64} (span : Fits (n.toInt * unit.millis.toInt))
    (instant : Fits (now.toInt - n.toInt * unit.millis.toInt)) :
    (before now n unit).toInt = now.toInt - n.toInt * unit.millis.toInt := by
  have product : (satMul n unit.millis).toInt = n.toInt * unit.millis.toInt :=
    toInt_clamp_of_fits span
  rw [before, satSub, product, toInt_clamp_of_fits instant]

theorem before_antitone {m n : Int64} (fewer : m ≤ n) : before now n unit ≤ before now m unit :=
  satSub_antitone now (satMul_mono fewer unit.millis_nonneg)

theorem relative_times_cohere :
    (∀ n v : Int64, Fits (n.toInt * unit.millis.toInt) →
      Fits (now.toInt - n.toInt * unit.millis.toInt) →
      ((mk (.within unit) n now).test v = true ↔
        now.toInt - n.toInt * unit.millis.toInt ≤ v.toInt) ∧
      ((mk (.olderThan unit) n now).test v = true ↔
        v.toInt ≤ now.toInt - n.toInt * unit.millis.toInt)) ∧
    (∀ n : Int64,
      (∀ v, (mk (.within unit) n now).test v = true ∨ (mk (.olderThan unit) n now).test v = true) ∧
      ∃! v, (mk (.within unit) n now).test v = true ∧
        (mk (.olderThan unit) n now).test v = true) ∧
    ∀ m n : Int64, m ≤ n → ∀ v,
      ((mk (.within unit) m now).test v = true → (mk (.within unit) n now).test v = true) ∧
      ((mk (.olderThan unit) n now).test v = true →
        (mk (.olderThan unit) m now).test v = true) := by
  simp only [test_within_iff, test_olderThan_iff]
  refine ⟨fun n v span instant => ?_, fun n => ⟨fun v => ?_, ?_⟩, fun m n fewer v => ?_⟩
  next =>
    rw [Int64.le_iff_toInt_le, Int64.le_iff_toInt_le, toInt_before_of_fits unit now span instant]
    exact ⟨Iff.rfl, Iff.rfl⟩
  next => exact Int64.le_total _ _
  next =>
    refine ⟨before now n unit, ⟨Int64.le_refl _, Int64.le_refl _⟩, fun v both => ?_⟩
    exact Int64.le_antisymm both.2 both.1
  next =>
    have earlier := before_antitone unit now fewer
    exact ⟨Int64.le_trans earlier, fun older => Int64.le_trans older earlier⟩

theorem relative_times_cohere_past_the_words :
    Fits ((2 : Int64).toInt * TimeUnit.years.millis.toInt) ∧
    Fits ((0 : Int64).toInt - (2 : Int64).toInt * TimeUnit.years.millis.toInt) ∧
    ((mk (.within .years) 2 0).test (-63072000000) = true ↔
      (0 : Int64).toInt - (2 : Int64).toInt * TimeUnit.years.millis.toInt ≤
        (-63072000000 : Int64).toInt) ∧
    (2 : Int64) ≤ Int64.maxValue ∧
    (mk (.within .years) Int64.maxValue 0).test (-63072000000) = true := by
  have span : Fits ((2 : Int64).toInt * TimeUnit.years.millis.toInt) := by
    constructor <;> decide
  have instant : Fits ((0 : Int64).toInt - (2 : Int64).toInt * TimeUnit.years.millis.toInt) := by
    constructor <;> decide
  have more : (2 : Int64) ≤ Int64.maxValue := by decide
  have ⟨exact_spans, _, nested⟩ := relative_times_cohere .years 0
  have two := (exact_spans 2 (-63072000000) span instant).1
  exact ⟨span, instant, two, more, (nested 2 Int64.maxValue more _).1 (two.mpr (by decide))⟩

end LongComparison

end Census
