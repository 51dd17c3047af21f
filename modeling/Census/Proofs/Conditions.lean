import Mathlib.Data.List.Forall2
import Census.Filter
import Census.Proofs.Blocks
import Census.Proofs.DayTexts

set_option autoImplicit false

namespace Census

namespace Text

theorem toNat_toLower (c : Char) :
    c.toLower.toNat = if 65 ≤ c.toNat ∧ c.toNat ≤ 90 then c.toNat + 32 else c.toNat := by
  unfold Char.toLower
  by_cases capital : 65 ≤ c.toNat ∧ c.toNat ≤ 90
  · rw [if_pos capital, dif_pos (show c.val ≥ 'A'.val ∧ c.val ≤ 'Z'.val from capital)]
    have within : c.val.toNat ≤ 90 := capital.2
    change (c.val + 32).toNat = c.val.toNat + 32
    rw [UInt32.toNat_add, Nat.mod_eq_of_lt (by change c.val.toNat + 32 < 4294967296; omega)]
    rfl
  · rw [if_neg capital, dif_neg (show ¬(c.val ≥ 'A'.val ∧ c.val ≤ 'Z'.val) from capital)]

theorem toNat_toUpper_of_isLower {c : Char} (small : c.isLower = true) :
    97 ≤ c.toNat ∧ c.toNat ≤ 122 ∧ c.toUpper.toNat + 32 = c.toNat := by
  unfold Char.isLower at small
  simp only [Bool.and_eq_true, decide_eq_true_eq] at small
  have bounds : 97 ≤ c.val.toNat ∧ c.val.toNat ≤ 122 := small
  refine ⟨bounds.1, bounds.2, ?_⟩
  unfold Char.toUpper
  rw [dif_pos small]
  change (c.val + 4294967264).toNat + 32 = c.val.toNat
  rw [UInt32.toNat_add]
  change (c.val.toNat + 4294967264) % 4294967296 + 32 = c.val.toNat
  omega

theorem toLower_eq_iff {c letter : Char} (small : letter.isLower = true) :
    c.toLower = letter ↔ c = letter ∨ c = letter.toUpper := by
  have capital := toNat_toUpper_of_isLower small
  rw [← Char.toNat_inj, ← Char.toNat_inj, ← Char.toNat_inj, toNat_toLower]
  split <;> omega

def AnyCase (word text : String) : Prop :=
  List.Forall₂ (fun letter c => c = letter ∨ c = letter.toUpper) word.toList text.toList

theorem map_toLower_eq_iff {word cs : List Char} (small : ∀ c ∈ word, c.isLower = true) :
    cs.map Char.toLower = word ↔
      List.Forall₂ (fun letter c => c = letter ∨ c = letter.toUpper) word cs := by
  induction word generalizing cs with
  | nil => simp
  | cons letter word ih =>
    obtain ⟨first, others⟩ := List.forall_mem_cons.mp small
    cases cs with
    | nil => simp
    | cons c cs => simp [toLower_eq_iff first, ih others]

theorem lowered_eq_iff {word text : String} (small : word.toList.all Char.isLower = true) :
    lowered text = word ↔ AnyCase word text := by
  rw [AnyCase, ← map_toLower_eq_iff (List.all_eq_true.mp small), lowered, ← String.toList_inj,
    String.toList_ofList]

end Text

theorem Filter.flag?_eq_some_iff {operand : String} {b : Bool} :
    flag? operand = some b ↔ Text.AnyCase (if b then "true" else "false") operand := by
  rw [← Text.lowered_eq_iff (by cases b <;> decide), flag?]
  cases b with
  | true =>
    by_cases yes : Text.lowered operand = "true" <;>
      by_cases no : Text.lowered operand = "false" <;> simp [yes, no]
  | false =>
    by_cases yes : Text.lowered operand = "true" <;>
      by_cases no : Text.lowered operand = "false" <;> simp [yes, no]

/-- So many spans before an instant, where what is past the words stays at their end. -/
def ago (now n span : Int) : Int :=
  withinWords (now - withinWords (n * span))

inductive LongOp.Denotes (now : Int) : String → (Int → Int → Prop) → Prop where
  | eq : Denotes now "eq" fun v n => v = n
  | notEq : Denotes now "notEq" fun v n => v ≠ n
  | gt : Denotes now "gt" fun v n => n < v
  | gte : Denotes now "gte" fun v n => n ≤ v
  | lt : Denotes now "lt" fun v n => v < n
  | lte : Denotes now "lte" fun v n => v ≤ n
  | minutesAgo : Denotes now "minutesAgo" fun v n => ago now n 60000 ≤ v
  | hoursAgo : Denotes now "hoursAgo" fun v n => ago now n 3600000 ≤ v
  | daysAgo : Denotes now "daysAgo" fun v n => ago now n 86400000 ≤ v
  | monthsAgo : Denotes now "monthsAgo" fun v n => ago now n 2592000000 ≤ v
  | yearsAgo : Denotes now "yearsAgo" fun v n => ago now n 31536000000 ≤ v
  | olderThanMinutes : Denotes now "olderThanMinutes" fun v n => v ≤ ago now n 60000
  | olderThanHours : Denotes now "olderThanHours" fun v n => v ≤ ago now n 3600000
  | olderThanDays : Denotes now "olderThanDays" fun v n => v ≤ ago now n 86400000
  | olderThanMonths : Denotes now "olderThanMonths" fun v n => v ≤ ago now n 2592000000
  | olderThanYears : Denotes now "olderThanYears" fun v n => v ≤ ago now n 31536000000

inductive TextOp.Denotes : String → (List Char → List Char → Prop) → Prop where
  | eq : Denotes "eq" fun v w => v = w
  | notEq : Denotes "notEq" fun v w => v ≠ w
  | startsWith : Denotes "startsWith" fun v w => w <+: v
  | notStartsWith : Denotes "notStartsWith" fun v w => ¬w <+: v
  | endsWith : Denotes "endsWith" fun v w => w <:+ v
  | notEndsWith : Denotes "notEndsWith" fun v w => ¬w <:+ v
  | contains : Denotes "contains" fun v w => w <:+: v
  | notContains : Denotes "notContains" fun v w => ¬w <:+: v

inductive FlagOp.Denotes : String → (Bool → Bool → Prop) → Prop where
  | eq : Denotes "eq" fun v b => v = b
  | notEq : Denotes "notEq" fun v b => v ≠ b

inductive DateOp.Denotes : String → (Int → Int → Prop) → Prop where
  | dateEq : Denotes "dateEq" fun v d => v = d
  | dateNotEq : Denotes "dateNotEq" fun v d => v ≠ d
  | dateLt : Denotes "dateLt" fun v d => v < d
  | dateLte : Denotes "dateLte" fun v d => v ≤ d
  | dateStart : Denotes "dateStart" fun v d => v ≤ d
  | dateGt : Denotes "dateGt" fun v d => d < v
  | dateGte : Denotes "dateGte" fun v d => d ≤ v
  | dateEnd : Denotes "dateEnd" fun v d => d ≤ v

theorem Relation.holds_toInt (relation : Relation) (a b : Int64) :
    relation.holds a.toInt b.toInt = relation.holds a b := by
  cases relation <;>
    simp only [holds, Int64.toInt_inj, Int64.lt_iff_toInt_lt, Int64.le_iff_toInt_le, ne_eq]

theorem toInt_satSub (a b : Int64) : (satSub a b).toInt = withinWords (a.toInt - b.toInt) :=
  toInt_clamp_eq_withinWords _

namespace LongComparison

variable {now n v : Int64} {operator : String} {op : LongOp} {asks : Int → Int → Prop}

theorem toInt_before (now n : Int64) (unit : TimeUnit) :
    (before now n unit).toInt = ago now.toInt n.toInt unit.millis.toInt := by
  rw [before, toInt_satSub, toInt_satMul, ago]

theorem test_iff (denotes : LongOp.Denotes now.toInt operator asks)
    (named : LongOp.named? operator = some op) :
    (mk op n now).test v = true ↔ asks v.toInt n.toInt := by
  rw [test, ← Relation.holds_toInt]
  cases denotes <;> cases named <;> simp only [relation, threshold, toInt_before] <;>
    exact decide_eq_true_iff

end LongComparison

namespace TextOp

theorem holds_iff {operator value operand : String} {op : TextOp}
    {asks : List Char → List Char → Prop}
    (denotes : Denotes operator asks) (named : named? operator = some op) :
    op.holds value operand = true ↔ asks value.toList operand.toList := by
  cases denotes <;> cases named <;>
    simp [holds, TextTest.holds, String.toList_inj, Text.occursIn_iff, ← Bool.not_eq_true]

end TextOp

namespace FlagOp

theorem holds_iff {operator : String} {op : FlagOp} {v b : Bool} {asks : Bool → Bool → Prop}
    (denotes : Denotes operator asks) (named : named? operator = some op) :
    op.holds v b = true ↔ asks v b := by
  cases denotes <;> cases named <;> simp [holds]

end FlagOp

namespace DateOp

theorem holds_iff {operator : String} {relation : Relation} {v d : Calendar.Day}
    {asks : Int → Int → Prop}
    (denotes : Denotes operator asks) (named : named? operator = some relation) :
    relation.holds v d = true ↔ asks v.number d.number := by
  rw [← Calendar.Day.holds_number]
  cases denotes <;> cases named <;> exact decide_eq_true_iff

end DateOp

section Tables

variable {α : Type} {table : List (String × α)} {name : String}

theorem not_mem_names_of_lookup (missing : table.lookup name = none) :
    name ∉ table.map Prod.fst := by
  intro member
  obtain ⟨entry, inside, rfl⟩ := List.mem_map.mp member
  simpa using List.lookup_eq_none_iff.mp missing entry inside

theorem mem_names_of_lookup {value : α} (found : table.lookup name = some value) :
    name ∈ table.map Prod.fst := by
  obtain ⟨before, after, rfl, -⟩ := List.lookup_eq_some_iff.mp found
  simp

theorem exists_denotes {Asks : Type} {Denotes : String → Asks → Prop} {value : α}
    (all : ∀ entry ∈ table, ∃ asks, Denotes entry.1 asks)
    (found : table.lookup name = some value) : ∃ asks, Denotes name asks := by
  obtain ⟨before, after, rfl, -⟩ := List.lookup_eq_some_iff.mp found
  exact all (name, value) (by simp)

end Tables

theorem LongOp.exists_denotes {operator : String} {op : LongOp} (now : Int)
    (named : named? operator = some op) : ∃ asks, Denotes now operator asks := by
  refine Census.exists_denotes ?_ named
  simp only [table, List.forall_mem_cons]
  exact ⟨⟨_, .eq⟩, ⟨_, .notEq⟩, ⟨_, .gt⟩, ⟨_, .gte⟩, ⟨_, .lt⟩, ⟨_, .lte⟩, ⟨_, .minutesAgo⟩,
    ⟨_, .hoursAgo⟩, ⟨_, .daysAgo⟩, ⟨_, .monthsAgo⟩, ⟨_, .yearsAgo⟩, ⟨_, .olderThanMinutes⟩,
    ⟨_, .olderThanHours⟩, ⟨_, .olderThanDays⟩, ⟨_, .olderThanMonths⟩, ⟨_, .olderThanYears⟩, by simp⟩

theorem TextOp.exists_denotes {operator : String} {op : TextOp}
    (named : named? operator = some op) : ∃ asks, Denotes operator asks := by
  refine Census.exists_denotes ?_ named
  simp only [table, List.forall_mem_cons]
  exact ⟨⟨_, .eq⟩, ⟨_, .notEq⟩, ⟨_, .startsWith⟩, ⟨_, .notStartsWith⟩, ⟨_, .endsWith⟩,
    ⟨_, .notEndsWith⟩, ⟨_, .contains⟩, ⟨_, .notContains⟩, by simp⟩

theorem FlagOp.exists_denotes {operator : String} {op : FlagOp}
    (named : named? operator = some op) : ∃ asks, Denotes operator asks := by
  refine Census.exists_denotes ?_ named
  simp only [table, List.forall_mem_cons]
  exact ⟨⟨_, .eq⟩, ⟨_, .notEq⟩, by simp⟩

theorem DateOp.exists_denotes {operator : String} {relation : Relation}
    (named : named? operator = some relation) : ∃ asks, Denotes operator asks := by
  refine Census.exists_denotes ?_ named
  simp only [table, List.forall_mem_cons]
  exact ⟨⟨_, .dateEq⟩, ⟨_, .dateNotEq⟩, ⟨_, .dateLt⟩, ⟨_, .dateLte⟩, ⟨_, .dateStart⟩,
    ⟨_, .dateGt⟩, ⟨_, .dateGte⟩, ⟨_, .dateEnd⟩, by simp⟩

section Named

variable {operator : String}

theorem LongOp.Denotes.named {now : Int} {asks : Int → Int → Prop}
    (denotes : Denotes now operator asks) :
    ':' ∉ operator.toList ∧ ∃ op, named? operator = some op := by
  cases denotes <;> exact ⟨by decide, _, rfl⟩

theorem TextOp.Denotes.named {asks : List Char → List Char → Prop}
    (denotes : Denotes operator asks) :
    ':' ∉ operator.toList ∧ ∃ op, named? operator = some op := by
  cases denotes <;> exact ⟨by decide, _, rfl⟩

theorem FlagOp.Denotes.named {asks : Bool → Bool → Prop} (denotes : Denotes operator asks) :
    ':' ∉ operator.toList ∧ ∃ op, named? operator = some op := by
  cases denotes <;> exact ⟨by decide, _, rfl⟩

theorem DateOp.Denotes.named {asks : Int → Int → Prop} (denotes : Denotes operator asks) :
    ':' ∉ operator.toList ∧ ∃ relation, named? operator = some relation := by
  cases denotes <;> exact ⟨by decide, _, rfl⟩

end Named

namespace Record

/-- The integers of a record by the names of its fields; a directory has no bytes and no blocks. -/
inductive LongValue (release : Release) (r : Record) : String → Int → Prop where
  | id : LongValue release r "id" r.id.toInt
  | accessTime : LongValue release r "accessTime" r.accessTime.toInt
  | modTime : LongValue release r "modTime" r.modTime.toInt
  | fileSize : LongValue release r "fileSize" (r.file?.elim 0 fun f => f.size.toInt)
  | diskspace : LongValue release r "diskspaceConsumed"
      (r.file?.elim 0 fun f => withinWords (f.size.toInt * f.replication.toNat))
  | memory : LongValue release r "memoryConsumed"
      (withinWords (100 + withinWords ((r.file?.elim 0 fun f => f.numBlocks.toInt) * 150)))
  | replication : LongValue release r "fileReplica" (r.file?.elim 0 fun f => f.replication.toNat)
  | numBlocks : LongValue release r "numBlocks" (r.file?.elim 0 fun f => f.numBlocks.toInt)
  | numReplicas : LongValue release r "numReplicas"
      (r.file?.elim 0 fun f => withinWords (f.numBlocks.toInt * f.replication.toNat))
  | depth : LongValue release r "depth"
      (Int.bmod (Path.components r.path).length 18446744073709551616)
  | permission : LongValue release r "permission" r.permission.toNat
  | childCount : LongValue release r "dirNumChildren" (release.childCount r).toInt
  | subtreeSize : LongValue release r "dirSubTreeSize" (release.subtreeSize r).toInt
  | subtreeFiles : LongValue release r "dirSubTreeNumFiles" (release.subtreeFiles r).toInt
  | subtreeDirs : LongValue release r "dirSubTreeNumDirs" (release.subtreeDirs r).toInt
  | storagePolicy : LongValue release r "storageType" (release.storagePolicy r).toInt

inductive TextValue (r : Record) : String → String → Prop where
  | user : TextValue r "user" r.user
  | group : TextValue r "group" r.group
  | localName : TextValue r "name" r.name
  | path : TextValue r "path" r.path

inductive FlagValue (r : Record) : String → Bool → Prop where
  | underConstruction :
    FlagValue r "isUnderConstruction" (r.file?.elim false fun f => f.underConstruction)
  | withSnapshot : FlagValue r "isWithSnapshot" (r.file?.elim false fun f => f.hasSnapshot)
  | hasAcl : FlagValue r "hasAcl" r.hasAcl
  | hasQuota : FlagValue r "hasQuota" (r.dir?.elim false fun d => d.hasQuota)

inductive Instant (r : Record) : String → Int → Prop where
  | modDate : Instant r "modDate" r.modTime.toInt
  | accessDate : Instant r "accessDate" r.accessTime.toInt

section Values

variable {release : Release} {r : Record} {field : String}

theorem toInt_fileSize (r : Record) :
    r.fileSize.toInt = r.file?.elim 0 fun f => f.size.toInt := by
  rw [fileSize]
  cases r.file? <;> rfl

theorem toInt_numBlocks (r : Record) :
    r.numBlocks.toInt = r.file?.elim 0 fun f => f.numBlocks.toInt := by
  rw [numBlocks]
  cases r.file? <;> rfl

theorem toInt_replication (r : Record) :
    r.replication.toInt = r.file?.elim 0 fun f => (f.replication.toNat : Int) := by
  cases kind : r.file? with
  | none => rw [replication, kind]; rfl
  | some f => exact toInt_replication_of_file kind

theorem toInt_diskspace (r : Record) :
    r.diskspace.toInt =
      r.file?.elim 0 fun f => withinWords (f.size.toInt * f.replication.toNat) := by
  rw [diskspace, toInt_satMul, toInt_fileSize, toInt_replication]
  cases r.file? <;> rfl

theorem toInt_numReplicas (r : Record) :
    r.numReplicas.toInt =
      r.file?.elim 0 fun f => withinWords (f.numBlocks.toInt * f.replication.toNat) := by
  rw [numReplicas, toInt_satMul, toInt_numBlocks, toInt_replication]
  cases r.file? <;> rfl

theorem toInt_memory (r : Record) :
    r.memory.toInt =
      withinWords (100 + withinWords ((r.file?.elim 0 fun f => f.numBlocks.toInt) * 150)) := by
  rw [memory, toInt_satAdd, toInt_satMul, toInt_numBlocks]
  rfl

theorem toInt_depth (r : Record) :
    (Int64.ofNat r.depth).toInt =
      Int.bmod (Path.components r.path).length 18446744073709551616 :=
  Int64.toInt_ofNat'

theorem toInt_permission (r : Record) :
    (Int64.ofNat r.permission.toNat).toInt = r.permission.toNat :=
  Int64.toInt_ofNat_of_lt (by have := r.permission.toNat_lt; omega)

theorem longValue_iff {v : Int} :
    r.LongValue release field v ↔
      ∃ a : LongAttr, field = a.name ∧ v = (a.value release r).toInt := by
  constructor
  · intro shown
    cases shown
    exacts [⟨.id, rfl, rfl⟩, ⟨.accessTime, rfl, rfl⟩, ⟨.modTime, rfl, rfl⟩,
      ⟨.fileSize, rfl, r.toInt_fileSize.symm⟩, ⟨.diskspace, rfl, r.toInt_diskspace.symm⟩,
      ⟨.memory, rfl, r.toInt_memory.symm⟩, ⟨.replication, rfl, r.toInt_replication.symm⟩,
      ⟨.numBlocks, rfl, r.toInt_numBlocks.symm⟩, ⟨.numReplicas, rfl, r.toInt_numReplicas.symm⟩,
      ⟨.depth, rfl, r.toInt_depth.symm⟩, ⟨.permission, rfl, r.toInt_permission.symm⟩,
      ⟨.childCount, rfl, rfl⟩, ⟨.subtreeSize, rfl, rfl⟩, ⟨.subtreeFiles, rfl, rfl⟩,
      ⟨.subtreeDirs, rfl, rfl⟩, ⟨.storagePolicy, rfl, rfl⟩]
  · rintro ⟨a, rfl, rfl⟩
    cases a <;> simp only [LongAttr.name, LongAttr.value, toInt_fileSize, toInt_diskspace,
      toInt_memory, toInt_replication, toInt_numBlocks, toInt_numReplicas, toInt_depth,
      toInt_permission] <;> constructor

theorem textValue_iff {v : String} :
    r.TextValue field v ↔ ∃ a : TextAttr, field = a.name ∧ v = a.value r := by
  constructor
  · intro shown
    cases shown
    exacts [⟨.user, rfl, rfl⟩, ⟨.group, rfl, rfl⟩, ⟨.localName, rfl, rfl⟩, ⟨.path, rfl, rfl⟩]
  · rintro ⟨a, rfl, rfl⟩
    cases a <;> constructor

theorem flagValue_iff {v : Bool} :
    r.FlagValue field v ↔ ∃ a : FlagAttr, field = a.name ∧ v = a.value r := by
  constructor
  · intro shown
    cases shown
    exacts [⟨.underConstruction, rfl, rfl⟩, ⟨.withSnapshot, rfl, rfl⟩, ⟨.hasAcl, rfl, rfl⟩,
      ⟨.hasQuota, rfl, rfl⟩]
  · rintro ⟨a, rfl, rfl⟩
    cases a <;> constructor

end Values

end Record

namespace Calendar

namespace Date

def IsDayOf (d : Date) (instant : Int) : Prop :=
  d.number = instant / 86400000 ∧ firstYear ≤ d.year ∧ d.year ≤ lastYear

end Date

namespace Day

theorem at?_eq_of? {instant : Int64} {d : Date} (holds : d.number = instant.toInt / 86400000) :
    at? instant = of? d.year d.month d.day := by
  have units : millisPerDay = 86400000 := rfl
  rw [at?, units, ← holds, ofNumber?_number]

theorem at?_of_isDayOf {instant : Int64} {d : Date} (holds : d.IsDayOf instant.toInt) :
    ∃ own : Day, at? instant = some own ∧ own.date = d :=
  have valid : Valid d.year d.month d.day := ⟨holds.2.1, holds.2.2, d.valid⟩
  ⟨⟨d.year, d.month, d.day, valid⟩, by rw [at?_eq_of? holds.1, of?, dif_pos valid], rfl⟩

theorem isDayOf_of_at? {instant : Int64} {own : Day} (found : at? instant = some own) :
    own.date.IsDayOf instant.toInt := by
  obtain ⟨d, holds⟩ := Date.exists_number (instant.toInt / 86400000)
  rw [at?_eq_of? holds] at found
  obtain ⟨year, month, day⟩ := of?_eq_some_iff.mp found
  have same : own.date = d := by
    cases d
    simp_all [date]
  exact ⟨same ▸ holds, own.valid.1, own.valid.2.1⟩

end Day

end Calendar

open Calendar (Date Day)

namespace DateAttr

def time (r : Record) : DateAttr → Int64
  | .modDate => r.modTime
  | .accessDate => r.accessTime

theorem value?_eq (a : DateAttr) (r : Record) : a.value? r = Day.at? (a.time r) := by
  cases a <;> exact Day.written?_eq _

end DateAttr

theorem Record.instant_iff {r : Record} {field : String} {instant : Int} :
    r.Instant field instant ↔ ∃ a : DateAttr, field = a.name ∧ instant = (a.time r).toInt := by
  constructor
  · intro shown
    cases shown
    exacts [⟨.modDate, rfl, rfl⟩, ⟨.accessDate, rfl, rfl⟩]
  · rintro ⟨a, rfl, rfl⟩
    cases a <;> constructor

/-- The record is as a field and its spec want it: what it shows there stands to the operand as the
operator asks. -/
inductive Meets (release : Release) (now : Int64) (r : Record) (field : String) :
    String → Prop where
  | long {operator operand : String} {asks : Int → Int → Prop} {v : Int} {n : Int64}
    (denotes : LongOp.Denotes now.toInt operator asks)
    (read : Text.Numeral operand.toList n.toInt)
    (shown : r.LongValue release field v) (holds : asks v n.toInt) :
    Meets release now r field (operator ++ ":" ++ operand)
  | text {operator operand : String} {asks : List Char → List Char → Prop} {v : String}
    (denotes : TextOp.Denotes operator asks)
    (shown : r.TextValue field v) (holds : asks v.toList operand.toList) :
    Meets release now r field (operator ++ ":" ++ operand)
  | flag {operator operand : String} {asks : Bool → Bool → Prop} {v b : Bool}
    (denotes : FlagOp.Denotes operator asks)
    (read : Text.AnyCase (if b then "true" else "false") operand)
    (shown : r.FlagValue field v) (holds : asks v b) :
    Meets release now r field (operator ++ ":" ++ operand)
  | date {operator operand : String} {asks : Int → Int → Prop} {instant : Int} {d : Date}
    {day : Day} (denotes : DateOp.Denotes operator asks)
    (read : Day.parse? operand = some day)
    (shown : r.Instant field instant) (on : d.IsDayOf instant)
    (holds : asks d.number day.date.number) :
    Meets release now r field (operator ++ ":" ++ operand)

def Undated (r : Record) (field : String) : Prop :=
  ∃ instant, r.Instant field instant ∧ ∀ d : Date, ¬d.IsDayOf instant

def Spelled (spec operator operand : String) : Prop :=
  spec = operator ++ ":" ++ operand ∧ ':' ∉ operator.toList

/-- What the program tests of a record once an operator and its operand are read. -/
def Passes (release : Release) (now : Int64) (r : Record) (operator operand : String) :
    Attribute → Prop
  | .long a => ∃ op n, LongOp.named? operator = some op ∧ Text.int64 operand = .ok n ∧
      (LongComparison.mk op n now).test (a.value release r) = true
  | .text a => ∃ op, TextOp.named? operator = some op ∧ op.holds (a.value r) operand = true
  | .flag a => ∃ op b, FlagOp.named? operator = some op ∧ Filter.flag? operand = some b ∧
      op.holds (a.value r) b = true
  | .date a => ∃ relation day own, DateOp.named? operator = some relation ∧
      Day.parse? operand = some day ∧ a.value? r = some own ∧ relation.holds own day = true

theorem meets_iff_passes {release : Release} {now : Int64} {r : Record} {field spec : String} :
    Meets release now r field spec ↔ ∃ a operator operand, field = Attribute.name a ∧
      Spelled spec operator operand ∧ Passes release now r operator operand a := by
  constructor
  · intro meets
    cases meets with
    | long denotes read shown holds =>
      obtain ⟨clean, op, named⟩ := denotes.named
      obtain ⟨a, rfl, rfl⟩ := Record.longValue_iff.mp shown
      exact ⟨.long a, _, _, rfl, ⟨rfl, clean⟩, op, _, named, Text.int64_eq_ok_iff.mpr read,
        (LongComparison.test_iff denotes named).mpr holds⟩
    | text denotes shown holds =>
      obtain ⟨clean, op, named⟩ := denotes.named
      obtain ⟨a, rfl, rfl⟩ := Record.textValue_iff.mp shown
      exact ⟨.text a, _, _, rfl, ⟨rfl, clean⟩, op, named,
        (TextOp.holds_iff denotes named).mpr holds⟩
    | flag denotes read shown holds =>
      obtain ⟨clean, op, named⟩ := denotes.named
      obtain ⟨a, rfl, rfl⟩ := Record.flagValue_iff.mp shown
      exact ⟨.flag a, _, _, rfl, ⟨rfl, clean⟩, op, _, named, Filter.flag?_eq_some_iff.mpr read,
        (FlagOp.holds_iff denotes named).mpr holds⟩
    | date denotes read shown on holds =>
      obtain ⟨clean, relation, named⟩ := denotes.named
      obtain ⟨a, rfl, rfl⟩ := Record.instant_iff.mp shown
      obtain ⟨own, found, rfl⟩ := Day.at?_of_isDayOf on
      exact ⟨.date a, _, _, rfl, ⟨rfl, clean⟩, relation, _, own, named, read,
        (a.value?_eq r).trans found, (DateOp.holds_iff denotes named).mpr holds⟩
  · rintro ⟨a, operator, operand, rfl, ⟨rfl, -⟩, passes⟩
    cases a with
    | long a =>
      obtain ⟨op, n, named, read, tested⟩ := passes
      obtain ⟨asks, denotes⟩ := LongOp.exists_denotes now.toInt named
      exact .long denotes (Text.int64_eq_ok_iff.mp read) (Record.longValue_iff.mpr ⟨a, rfl, rfl⟩)
        ((LongComparison.test_iff denotes named).mp tested)
    | text a =>
      obtain ⟨op, named, tested⟩ := passes
      obtain ⟨asks, denotes⟩ := TextOp.exists_denotes named
      exact .text denotes (Record.textValue_iff.mpr ⟨a, rfl, rfl⟩)
        ((TextOp.holds_iff denotes named).mp tested)
    | flag a =>
      obtain ⟨op, b, named, read, tested⟩ := passes
      obtain ⟨asks, denotes⟩ := FlagOp.exists_denotes named
      exact .flag denotes (Filter.flag?_eq_some_iff.mp read)
        (Record.flagValue_iff.mpr ⟨a, rfl, rfl⟩) ((FlagOp.holds_iff denotes named).mp tested)
    | date a =>
      obtain ⟨relation, day, own, named, read, found, tested⟩ := passes
      obtain ⟨asks, denotes⟩ := DateOp.exists_denotes named
      exact .date denotes read (Record.instant_iff.mpr ⟨a, rfl, rfl⟩)
        (Day.isDayOf_of_at? ((a.value?_eq r).symm.trans found))
        ((DateOp.holds_iff denotes named).mp tested)

theorem splitSpec_eq_ok_iff {context spec operator operand : String} :
    splitSpec context spec = .ok (operator, operand) ↔ Spelled spec operator operand := by
  constructor
  · intro h
    unfold splitSpec at h
    split at h
    next before after found =>
      obtain ⟨rfl, rfl⟩ : String.ofList before = operator ∧ String.ofList after = operand := by
        simpa using h
      obtain ⟨whole, clean⟩ := Text.cutFirst_eq_some found
      refine ⟨String.toList_inj.mp ?_, by simpa using clean⟩
      simp [whole]
    next => cases h
  · rintro ⟨rfl, clean⟩
    have parts : splitSpec context (String.ofList (operator.toList ++ ':' :: operand.toList)) =
        .ok (String.ofList operator.toList, String.ofList operand.toList) :=
      splitSpec_append clean
    have whole : String.ofList (operator.toList ++ ':' :: operand.toList) =
        operator ++ ":" ++ operand := String.toList_inj.mp (by simp)
    rw [whole] at parts
    simpa using parts

namespace Attribute

theorem resolve_eq_ok_iff {field : String} {a : Attribute} :
    resolve field = .ok a ↔ field = a.name := by
  constructor
  · intro h
    unfold resolve at h
    split at h
    next found =>
      cases h
      simpa [eq_comm] using List.find?_some found
    next => cases h
  · rintro rfl
    exact resolve_name a

theorem name_injective {a b : Attribute} (same : a.name = b.name) : a = b := by
  have first := resolve_name a
  rw [same, resolve_name b] at first
  exact (Except.ok.inj first).symm

end Attribute

theorem Spelled.unique {spec operator operand operator' operand' : String}
    (one : Spelled spec operator operand) (other : Spelled spec operator' operand') :
    operator = operator' ∧ operand = operand' := by
  have first : splitSpec "" spec = .ok (operator, operand) := splitSpec_eq_ok_iff.mpr one
  rw [splitSpec_eq_ok_iff.mpr other] at first
  simpa [eq_comm] using first

theorem compile_spelled (now : Int64) (a : Attribute) {spec operator operand : String}
    (spelled : Spelled spec operator operand) :
    Filter.compile now a.name spec = Filter.condition a operator operand now := by
  simp only [Filter.compile, a.resolve_name, splitSpec_eq_ok_iff.mpr spelled, bind, Except.bind]

section Leaves

variable {release : Release} {now : Int64} {r : Record} {spec operator operand : String}

theorem meets_name_iff {a : Attribute} (spelled : Spelled spec operator operand) :
    Meets release now r a.name spec ↔ Passes release now r operator operand a := by
  rw [meets_iff_passes]
  constructor
  · intro ⟨b, _, _, named, other, passes⟩
    obtain ⟨rfl, rfl⟩ := spelled.unique other
    exact Attribute.name_injective named ▸ passes
  · intro passes
    exact ⟨a, operator, operand, rfl, spelled, passes⟩

theorem undated_name_iff {a : Attribute} :
    Undated r a.name ↔ ∃ d, a = .date d ∧ d.value? r = none := by
  constructor
  · intro ⟨instant, shown, outside⟩
    obtain ⟨d, named, rfl⟩ := Record.instant_iff.mp shown
    refine ⟨d, Attribute.name_injective (b := .date d) named, ?_⟩
    cases found : Day.at? (d.time r) with
    | none => exact (d.value?_eq r).trans found
    | some own => exact absurd (Day.isDayOf_of_at? found) (outside own.date)
  · rintro ⟨d, rfl, missing⟩
    refine ⟨_, Record.instant_iff.mpr ⟨d, rfl, rfl⟩, fun on_day within => ?_⟩
    obtain ⟨own, found, -⟩ := Day.at?_of_isDayOf within
    rw [d.value?_eq, found] at missing
    cases missing

def Verdict (yes stuck : Prop) : Except QueryError Bool → Prop
  | .ok b => (b = true ↔ yes) ∧ ¬ stuck
  | .error e => stuck ∧ ¬ yes ∧ ∃ what, e = .invariantViolation what

theorem condition_verdict {a : Attribute} {p : Predicate}
    (compiled : Filter.condition a operator operand now = .ok p) :
    Verdict (Passes release now r operator operand a) (Undated r a.name) (p.accepts release r) := by
  cases a with
  | long a =>
    simp only [Filter.condition, LongComparison.compile] at compiled
    cases known : LongOp.named? operator with
    | none => simp [known, bind, Except.bind] at compiled
    | some op =>
      cases read : Text.int64 operand with
      | error fault => simp [known, read, bind, Except.bind] at compiled
      | ok n =>
        obtain rfl : Predicate.long a ⟨op, n, now⟩ = p := by
          simpa [known, read, bind, Except.bind, pure, Except.pure] using compiled
        simp [Verdict, Predicate.accepts, Passes, undated_name_iff, known, read]
  | text a =>
    simp only [Filter.condition] at compiled
    cases known : TextOp.named? operator with
    | none => simp [known] at compiled
    | some op =>
      obtain rfl : Predicate.text a op operand = p := by simpa [known] using compiled
      simp [Verdict, Predicate.accepts, Passes, undated_name_iff, known]
  | flag a =>
    simp only [Filter.condition] at compiled
    cases known : FlagOp.named? operator with
    | none => simp [known] at compiled
    | some op =>
      cases read : Filter.flag? operand with
      | none => simp [known, read] at compiled
      | some value =>
        obtain rfl : Predicate.flag a op value = p := by simpa [known, read] using compiled
        simp [Verdict, Predicate.accepts, Passes, undated_name_iff, known, read]
  | date a =>
    simp only [Filter.condition] at compiled
    cases known : DateOp.named? operator with
    | none => simp [known] at compiled
    | some relation =>
      cases read : Calendar.Day.parse? operand with
      | none => simp [known, read] at compiled
      | some day =>
        obtain rfl : Predicate.date a relation day = p := by simpa [known, read] using compiled
        cases own : a.value? r <;>
          simp [Verdict, Predicate.accepts, Predicate.noDay, Passes, undated_name_iff, known, read,
            own]

theorem compile_verdict {field : String} {p : Predicate}
    (compiled : Filter.compile now field spec = .ok p) :
    Verdict (Meets release now r field spec) (Undated r field) (p.accepts release r) := by
  unfold Filter.compile at compiled
  cases resolved : Attribute.resolve field with
  | error e => simp [resolved, bind, Except.bind] at compiled
  | ok a =>
    cases split : splitSpec field spec with
    | error e => simp [resolved, split, bind, Except.bind] at compiled
    | ok parts =>
      obtain ⟨operator, operand⟩ := parts
      have condition : Filter.condition a operator operand now = .ok p := by
        simpa [resolved, split, bind, Except.bind] using compiled
      obtain rfl := Attribute.resolve_eq_ok_iff.mp resolved
      rw [meets_name_iff (splitSpec_eq_ok_iff.mp split)]
      exact condition_verdict condition

end Leaves

end Census
