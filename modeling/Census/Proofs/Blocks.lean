import Mathlib.Algebra.Order.Ring.Int
import Mathlib.Order.Bounds.Basic
import Census.Record
import Census.Proofs.Saturation

set_option autoImplicit false

namespace Census

def roundedUp (a b : Int) : Int :=
  a / b + if a % b = 0 then 0 else 1

section Rounding

variable {a b : Int} (pos : 0 < b)

include pos

theorem roundedUp_le_iff (n : Int) : roundedUp a b ≤ n ↔ a ≤ n * b := by
  rw [roundedUp]
  by_cases even : a % b = 0
  next =>
    have whole : a / b * b = a := Int.ediv_mul_cancel_of_emod_eq_zero even
    rw [if_pos even, Int.add_zero]
    constructor
    · intro below
      calc a = a / b * b := whole.symm
        _ ≤ n * b := Int.mul_le_mul_of_nonneg_right below (Int.le_of_lt pos)
    · intro bound
      exact Int.le_of_mul_le_mul_right (whole.le.trans bound) pos
  next =>
    rw [if_neg even, Int.add_one_le_iff, Int.ediv_lt_iff_lt_mul pos]
    constructor
    · exact Int.le_of_lt
    · intro bound
      refine lt_of_le_of_ne bound ?_
      rintro rfl
      exact even (Int.mul_emod_left n b)

theorem roundedUp_isLeast : IsLeast {n : Int | a ≤ n * b} (roundedUp a b) :=
  ⟨(roundedUp_le_iff pos _).mp (Int.le_refl _), fun n bound => (roundedUp_le_iff pos n).mpr bound⟩

theorem roundedUp_nonneg (nonneg : 0 ≤ a) : 0 ≤ roundedUp a b := by
  have quotient := Int.ediv_nonneg nonneg (Int.le_of_lt pos)
  rw [roundedUp]
  split <;> omega

theorem roundedUp_le_self (nonneg : 0 ≤ a) : roundedUp a b ≤ a :=
  (roundedUp_le_iff pos a).mpr (le_mul_of_one_le_right nonneg pos)

end Rounding

namespace Checked

def value? (n : Int) : Option Int64 :=
  if (Int64.ofInt n).toInt = n then some (Int64.ofInt n) else none

def add? (a b : Int64) : Option Int64 :=
  value? (a.toInt + b.toInt)

def div? (a b : Int64) : Option Int64 :=
  if b = 0 then none else value? (a.toInt.tdiv b.toInt)

def mod? (a b : Int64) : Option Int64 := do
  -- The quotient has to be a word too.
  let _ ← div? a b
  value? (a.toInt.tmod b.toInt)

theorem value?_toInt (a : Int64) : value? a.toInt = some a := by
  rw [value?, Int64.ofInt_toInt, if_pos rfl]

theorem add?_of_toInt_add {a b : Int64} (exact : (a + b).toInt = a.toInt + b.toInt) :
    add? a b = some (a + b) := by
  rw [add?, ← exact, value?_toInt]

variable {a b : Int64} (pos : 0 < b)

include pos

theorem ne_zero_of_pos : b ≠ 0 := by
  rintro rfl
  exact absurd pos (by decide)

theorem toInt_div_of_pos : (a / b).toInt = a.toInt.tdiv b.toInt := by
  refine Int64.toInt_div_of_ne_right a b ?_
  rintro rfl
  exact absurd pos (by decide)

theorem div?_of_pos : div? a b = some (a / b) := by
  rw [div?, if_neg (ne_zero_of_pos pos), ← toInt_div_of_pos pos, value?_toInt]

theorem mod?_of_pos : mod? a b = some (a % b) := by
  simp only [mod?, div?_of_pos pos, Option.bind_eq_bind, Option.bind_some, ← Int64.toInt_mod,
    value?_toInt]

end Checked

def blocksFor? (size blockSize : Int64) : Option Int64 :=
  if 0 < blockSize ∧ 0 < size then do
    let whole ← Checked.div? size blockSize
    let rest ← Checked.mod? size blockSize
    Checked.add? whole (if rest = 0 then 0 else 1)
  else some 0

section Positive

variable {size blockSize : Int64} (room : 0 < blockSize) (bytes : 0 < size)

include room bytes

theorem toInt_quotient_add_rest :
    (size / blockSize).toInt + (if size % blockSize = 0 then (0 : Int64) else 1).toInt =
      roundedUp size.toInt blockSize.toInt := by
  have nonneg : 0 ≤ size.toInt := Int.le_of_lt (Int64.lt_iff_toInt_lt.mp bytes)
  have even : size % blockSize = 0 ↔ size.toInt % blockSize.toInt = 0 := by
    rw [← Int64.toInt_inj, Int64.toInt_mod, Int.tmod_eq_emod_of_nonneg nonneg]
    rfl
  rw [roundedUp, Checked.toInt_div_of_pos room, Int.tdiv_eq_ediv_of_nonneg nonneg]
  simp only [even]
  split <;> rfl

theorem toInt_blocksFor :
    (blocksFor size blockSize).toInt = roundedUp size.toInt blockSize.toInt := by
  have pos : 0 < blockSize.toInt := Int64.lt_iff_toInt_lt.mp room
  have nonneg : 0 ≤ size.toInt := Int.le_of_lt (Int64.lt_iff_toInt_lt.mp bytes)
  have low := roundedUp_nonneg pos nonneg
  have high := roundedUp_le_self pos nonneg
  have bounds := toInt_bounds size
  rw [toInt_maxValue] at bounds
  rw [blocksFor, if_pos ⟨room, bytes⟩, Int64.toInt_add, toInt_quotient_add_rest room bytes]
  exact Int.bmod_eq_of_le (by omega) (by omega)

theorem blocksFor?_of_pos : blocksFor? size blockSize = some (blocksFor size blockSize) := by
  have exact := toInt_blocksFor room bytes
  rw [blocksFor, if_pos ⟨room, bytes⟩] at exact ⊢
  rw [blocksFor?, if_pos ⟨room, bytes⟩]
  simp only [Checked.div?_of_pos room, Checked.mod?_of_pos room, Option.bind_eq_bind,
    Option.bind_some]
  exact Checked.add?_of_toInt_add (exact.trans (toInt_quotient_add_rest room bytes).symm)

end Positive

theorem blocksFor_of_not_pos {size blockSize : Int64} (empty : ¬(0 < blockSize ∧ 0 < size)) :
    blocksFor size blockSize = 0 :=
  if_neg empty

theorem blocksFor?_eq (size blockSize : Int64) :
    blocksFor? size blockSize = some (blocksFor size blockSize) := by
  by_cases positive : 0 < blockSize ∧ 0 < size
  next => exact blocksFor?_of_pos positive.1 positive.2
  next => rw [blocksFor?, if_neg positive, blocksFor_of_not_pos positive]

theorem blocksFor_least (size blockSize : Int64) :
    if 0 < blockSize ∧ 0 < size then
      IsLeast {n : Int | size.toInt ≤ n * blockSize.toInt} (blocksFor size blockSize).toInt
    else blocksFor size blockSize = 0 := by
  split
  next positive =>
    rw [toInt_blocksFor positive.1 positive.2]
    exact roundedUp_isLeast (Int64.lt_iff_toInt_lt.mp positive.1)
  next empty => exact blocksFor_of_not_pos empty

theorem blocksFor_nonneg (size blockSize : Int64) : 0 ≤ (blocksFor size blockSize).toInt := by
  by_cases positive : 0 < blockSize ∧ 0 < size
  next =>
    rw [toInt_blocksFor positive.1 positive.2]
    exact roundedUp_nonneg (Int64.lt_iff_toInt_lt.mp positive.1)
      (Int.le_of_lt (Int64.lt_iff_toInt_lt.mp positive.2))
  next =>
    rw [blocksFor_of_not_pos positive]
    decide

namespace FileAttrs

variable (size blockSize : Int64) (replication : UInt16)

@[simp] theorem size_of : (of size replication blockSize).size = size := rfl

@[simp] theorem replication_of : (of size replication blockSize).replication = replication := rfl

@[simp] theorem numBlocks_of :
    (of size replication blockSize).numBlocks = blocksFor size blockSize := rfl

end FileAttrs

namespace Record

section Files

variable {r : Record} {attrs : FileAttrs} (file : r.file? = some attrs)

include file

theorem numBlocks_of_file : r.numBlocks = attrs.numBlocks := by
  rw [numBlocks, file, Option.elim_some]

theorem toInt_replication_of_file : r.replication.toInt = attrs.replication.toNat := by
  have small := attrs.replication.toNat_lt
  rw [replication, file, Option.elim_some]
  exact Int64.toInt_ofNat_of_lt (by omega)

theorem toInt_diskspace_of_file :
    r.diskspace.toInt = withinWords (attrs.size.toInt * attrs.replication.toNat) := by
  rw [diskspace, toInt_satMul, toInt_replication_of_file file, fileSize, file, Option.elim_some]

theorem toInt_numReplicas_of_file :
    r.numReplicas.toInt = withinWords (r.numBlocks.toInt * attrs.replication.toNat) := by
  rw [numReplicas, toInt_satMul, toInt_replication_of_file file]

end Files

theorem toInt_memory_of_nonneg {r : Record} (nonneg : 0 ≤ r.numBlocks.toInt) :
    r.memory.toInt = withinWords (100 + 150 * r.numBlocks.toInt) := by
  have base : (100 : Int64).toInt = 100 := by decide
  have each : (150 : Int64).toInt = 150 := by decide
  rw [memory, toInt_satAdd, toInt_satMul, base, each,
    withinWords_add_withinWords (by omega) (by omega), Int.mul_comm]

theorem file?_of_isDir {r : Record} (dir : r.isDir = true) : r.file? = none := by
  rw [isDir_eq_not_isFile, isFile, Bool.not_eq_true', Option.isSome_eq_false_iff] at dir
  exact Option.isNone_iff_eq_none.mp dir

theorem sizes_of_isDir {r : Record} (dir : r.isDir = true) :
    r.diskspace = 0 ∧ r.numReplicas = 0 ∧ r.memory = 100 := by
  simp only [diskspace, numReplicas, memory, fileSize, numBlocks, replication,
    file?_of_isDir dir, Option.elim_none]
  decide

theorem sizes_within_words (size blockSize : Int64) (replication : UInt16) (r d : Record)
    (file : r.file? = some (.of size replication blockSize)) (dir : d.isDir = true) :
    r.numBlocks = (FileAttrs.of size replication blockSize).numBlocks ∧
      blocksFor? size blockSize = some r.numBlocks ∧
      (if 0 < blockSize ∧ 0 < size then
        IsLeast {n : Int | size.toInt ≤ n * blockSize.toInt} r.numBlocks.toInt
      else r.numBlocks = 0) ∧
      r.diskspace.toInt = withinWords (size.toInt * replication.toNat) ∧
      r.numReplicas.toInt = withinWords (r.numBlocks.toInt * replication.toNat) ∧
      r.memory.toInt = withinWords (100 + 150 * r.numBlocks.toInt) ∧
      d.diskspace = 0 ∧ d.numReplicas = 0 ∧ d.memory = 100 := by
  have counted : r.numBlocks = blocksFor size blockSize := by
    rw [numBlocks_of_file file, FileAttrs.numBlocks_of]
  have least := blocksFor_least size blockSize
  have nonneg := blocksFor_nonneg size blockSize
  have disk := toInt_diskspace_of_file file
  have replicas := toInt_numReplicas_of_file file
  rw [FileAttrs.replication_of] at disk replicas
  rw [FileAttrs.size_of] at disk
  rw [← counted] at least nonneg
  refine ⟨numBlocks_of_file file, ?_, least, disk, replicas, toInt_memory_of_nonneg nonneg,
    sizes_of_isDir dir⟩
  rw [counted, blocksFor?_eq]

/-- The last of the blocks is not full here, and of the figures only the disk space is past the
words. -/
theorem sizes_within_words_of_greatest_size :
    let r := Record.file 1 "/a" (.of Int64.maxValue 3 1000)
    let d := Record.directory 2 "/b" {}
    r.file? = some (.of Int64.maxValue 3 1000) ∧ d.isDir = true ∧
      IsLeast {n : Int | Int64.maxValue.toInt ≤ n * (1000 : Int64).toInt} r.numBlocks.toInt ∧
      r.numBlocks.toInt = 9223372036854776 ∧
      r.diskspace.toInt = Int64.maxValue.toInt ∧ r.numReplicas.toInt = 27670116110564328 ∧
      r.memory.toInt = 1383505805528216500 ∧ d.memory = 100 := by
  intro r d
  have file : r.file? = some (.of Int64.maxValue 3 1000) := rfl
  have dir : d.isDir = true := rfl
  have blocks : r.numBlocks.toInt = 9223372036854776 := by decide
  obtain ⟨-, -, least, disk, replicas, memory, -, -, dirs⟩ :=
    sizes_within_words Int64.maxValue 1000 3 r d file dir
  rw [if_pos (by decide)] at least
  rw [blocks] at replicas memory
  exact ⟨file, dir, least, blocks, disk, replicas, memory, dirs⟩

end Record

end Census
