import Mathlib.Data.Finset.Lattice.Lemmas
import Mathlib.Data.List.Forall2
import Mathlib.Data.List.Perm.Basic
import Transmon.Logical.Circuit
import Transmon.Proofs.Basic

/-!
# Results in the bits of a circuit

Keys are read back from their texts. Hence results that come under the keys of a circuit, in any order, go into the bits
that it measures into.
-/

namespace Transmon

open Outcome List

namespace Readout

namespace Key

theorem number?_toDigits (n : Nat) : number? (Nat.toDigits 10 n) = some n := by
  have value {c : Char} (digit : c.isDigit = true) : Text.digit? c = some (c.toNat - '0'.toNat) := by
    have bounds : 48 ≤ c.toNat ∧ c.toNat < 58 := by
      simp [Char.isDigit, UInt32.le_iff_toNat_le] at digit
      exact ⟨digit.1, Nat.lt_succ_of_le digit.2⟩
    simp [Text.digit?, Text.zeros, bounds.1, bounds.2]
  have folded (cs : List Char) (all : ∀ c ∈ cs, c.isDigit = true) (n : Nat) :
      cs.foldlM (fun n c => (Text.digit? c).map (10 * n + ·)) n = some (Nat.ofDigitChars 10 cs n) := by
    induction cs generalizing n with
    | nil => rfl
    | cons c cs ih =>
      obtain ⟨first, others⟩ := forall_mem_cons.mp all
      simp [value first, ih others, Nat.ofDigitChars]
  rw [number?, if_neg (by simp), folded _ fun c mem => Nat.isDigit_of_mem_toDigits (by decide) (by decide) mem,
    Nat.ofDigitChars_ten_toDigits]

theorem ofText_toText {k : Key} (unbroken : '\n' ∉ k.register.toList) : ofText k.toText = .ok k := by
  have apart (n : Nat) {c : Char} (other : c.isDigit = false) : c ∉ (Nat.toDigits 10 n).reverse := by
    intro mem
    simp [Nat.isDigit_of_mem_toDigits (by decide) (by decide) (mem_reverse.mp mem)] at other
  have written : k.toText.toList.reverse = (Nat.toDigits 10 k.bitIndex).reverse ++ '_' ::
      ((Nat.toDigits 10 k.regIndex).reverse ++ '_' :: ((Nat.toDigits 10 k.length).reverse ++ '_' ::
        k.register.toList.reverse)) := by
    have parts : k.toText = k.register ++ "_" ++ k.length.repr ++ "_" ++ k.regIndex.repr ++ "_" ++ k.bitIndex.repr := rfl
    simp [parts, Nat.repr_eq_ofList_toDigits]
  have unended : withoutBreak k.toText.toList.reverse = k.toText.toList.reverse := by
    obtain ⟨c, cs, digits⟩ := exists_cons_of_ne_nil (l := (Nat.toDigits 10 k.bitIndex).reverse) (by simp)
    have other : c ≠ '\n' := fun same => apart k.bitIndex (c := '\n') rfl (by simp [digits, same])
    rw [written, digits, cons_append, withoutBreak]
    simpa using other
  obtain ⟨first, rest, split⟩ := exists_cons_of_ne_nil (splitOn_ne_nil '_' k.register.toList.reverse)
  have joined : ['_'].intercalate (first :: rest) = k.register.toList.reverse := by
    rw [← split, intercalate_splitOn]
  have read : ofText? k.toText = some k := by
    rw [ofText?, unended, written, splitOn_append_cons_self_of_not_mem (apart _ rfl),
      splitOn_append_cons_self_of_not_mem (apart _ rfl), splitOn_append_cons_self_of_not_mem (apart _ rfl), split]
    simp [joined, unbroken, number?_toDigits]
  rw [ofText, read]
  rfl

end Key

/-- What comes for one bit: a row of a single result for each shot. -/
def rowsOf (results : List Bool) : Values := results.map fun b => .list [.int b.toInt]

theorem resultsOf_rowsOf (k : Key) {results : List Bool} (some : results ≠ []) (isExact : Bool) :
    resultsOf k (rowsOf results) isExact = .ok (.some (results.map Bool.toInt)) := by
  have depth : Value.maxDimensions = 31 + 1 := rfl
  have shape : Value.shape? Value.maxDimensions (.list (rowsOf results)) = .some [results.length, 1] := by
    obtain ⟨b, bs, rfl⟩ := exists_cons_of_ne_nil some
    have inner (b : Bool) : Value.shape? 31 (.list [.int b.toInt]) = .some [1] := rfl
    have others : (rowsOf bs).mapM (Value.shape? 31) = .some (bs.map fun _ => [1]) :=
      mapM_map.trans (mapM_pure ..)
    rw [depth, Value.shape?]
    simp only [rowsOf, map_cons, Value.parts] at others ⊢
    simp [inner, others]
  have leaves : Value.leaves Value.maxDimensions (.list (rowsOf results)) = results.map (.int ·.toInt) := by
    rw [depth, Value.leaves]
    simp only [Value.parts, rowsOf, flatMap_map]
    exact map_eq_flatMap.symm
  have kept : (results.map (Value.int ·.toInt)).mapM (Value.convertTo (.signed 64)) =
      .ok (results.map (.int ·.toInt)) := by
    rw [mapM_map, mapM_eq_ok_map]
    rintro (_ | _) - <;> rfl
  have nonempty : (rowsOf results).isEmpty = false := by simpa [rowsOf] using some
  simp [resultsOf, Value.toArray, shape, leaves, Value.commonType, kept, nonempty]

end Readout

namespace Logical

open Readout (Formatting rowsOf)
open Telling (keyOf withFeedback)
open Transmon.Circuit (Step)

variable {c : Circuit} {angles : AngleUnit} {names : Table Nat String} {allowed : Names} {op : Operation Nat}
  {bit : Bit}

/-- The bits that an operation measures into. -/
def Operation.targets (op : Operation Nat) : List Bit := if op.name = "measure" then op.bits else []

/-- The bits that a circuit measures into, in the order of its measurements. -/
def Circuit.measured (c : Circuit) : List Bit := c.operations.flatMap (·.targets)

/-- The key of a bit in writing. -/
def Circuit.keyText (c : Circuit) (bit : Bit) : String := ((c.key bit).map Readout.Key.toText).toOption.getD ""

/-- The keys of the measurements among some steps. -/
def keysOf (steps : List Step) : Names := (steps.filter (·.name = "measure")).map fun s => (keyOf s).plain

theorem keysOf_modify (steps : List Step) (i : Nat) : keysOf (steps.modify i withFeedback) = keysOf steps := by
  have same (s : Step) : keyOf (withFeedback s) = keyOf s := by
    rw [keyOf, withFeedback, Table.lookup_put_of_ne _ _ (by decide)]
    rfl
  have named (s : Step) : (withFeedback s).name = s.name := rfl
  unfold keysOf
  induction steps generalizing i with
  | nil => simp
  | cons s steps ih => cases i <;> by_cases s.name = "measure" <;> simp_all

/-- Measurements are told as such, each under the key of its bit, and nothing else is. -/
theorem step?_keysOf {locus : Names} {result : Option Step} (told : c.step? angles allowed op locus = .ok result) :
    keysOf result.toList = op.targets.map c.keyText := by
  by_cases measures : op.name = "measure"
  · simp only [Circuit.step?, measures] at told
    split at told
    · next bit bits =>
      obtain ⟨key, found, same⟩ := bind_eq_ok_iff.mp told
      obtain rfl := pure_eq_ok_iff.mp same
      simp [Operation.targets, measures, bits, keysOf, keyOf, Circuit.keyText, found, Value.plain, Except.map,
        Except.toOption]
    · simp at told
  · have other : ∀ s ∈ result, s.name ≠ "measure" := by
      unfold Circuit.step? at told
      split at told <;> simp [bind_eq_ok_iff, map_eq_ok_iff, rotation] at told <;>
        grind [pure_eq_ok_iff, refuse_eq_ok_iff]
    cases result with
    | none => simp [Operation.targets, measures, keysOf]
    | some s => simpa [Operation.targets, measures, keysOf] using other s rfl

theorem add_keysOf {t next : Telling} (added : t.add c angles names allowed op = .ok next) :
    keysOf next.steps = keysOf t.steps ++ op.targets.map c.keyText := by
  simp only [Telling.add, bind_eq_ok_iff] at added
  obtain ⟨locus, -, result, told, added⟩ := added
  rw [← step?_keysOf told]
  cases result with
  | none => simp [← pure_eq_ok_iff.mp added, keysOf]
  | some s =>
    have kept : (t.noted op).steps = t.steps := by unfold Telling.noted; split <;> rfl
    have joined (steps others : List Step) : keysOf (steps ++ others) = keysOf steps ++ keysOf others := by simp [keysOf]
    cases conditional : op.condition with
    | none =>
      simp only [conditional] at added
      obtain rfl := pure_eq_ok_iff.mp added
      simp [kept, joined]
    | some condition =>
      simp only [conditional, Telling.depend, bind_eq_ok_iff] at added
      obtain ⟨_, depends, same⟩ := added
      rw [unless_eq_ok_iff (by simp)] at depends
      simp only [bind_eq_ok_iff, pure_eq_ok_iff, not_not] at depends same
      obtain ⟨named, _, _, _, _, _, _, _, _, rfl⟩ := depends
      simp [← same, kept, joined, keysOf_modify]
      simp [keysOf, named]

/-- The keys of a told circuit are those of the bits that it measures into. -/
theorem toSteps_keysOf {steps : List Step} (told : c.toSteps angles names allowed = .ok steps) :
    keysOf steps = c.measured.map c.keyText := by
  have run (ops : List (Operation Nat)) {t last : Telling}
      (added : ops.foldlM (Telling.add c angles names allowed) t = .ok last) :
      keysOf last.steps = keysOf t.steps ++ (ops.flatMap (·.targets)).map c.keyText := by
    induction ops generalizing t with
    | nil => simp [← pure_eq_ok_iff.mp added]
    | cons op ops ih =>
      rw [foldlM_cons, bind_eq_ok_iff] at added
      obtain ⟨next, first, others⟩ := added
      simp [ih others, add_keysOf first]
  obtain ⟨last, added, rfl⟩ := map_eq_ok_iff.mp told
  exact run c.operations added

/-- Registers have different names on single lines, and measurements go into bits of theirs that no two of them
share. -/
structure Circuit.Registered (c : Circuit) : Prop where
  apart : (c.registers.map Register.name).Nodup
  unbroken : ∀ reg ∈ c.registers, '\n' ∉ reg.name.toList
  inside : ∀ bit ∈ c.measured, ∃ reg ∈ c.registers, reg.name = bit.register ∧ bit.index < reg.size
  alone : ∀ bit ∈ c.measured, bit.others = []

/-- Names tell registers apart. -/
theorem Circuit.Registered.position (registered : c.Registered) {i j : Nat} {reg reg' : Register}
    (listed : c.registers[i]? = some reg) (other : c.registers[j]? = some reg') (same : reg.name = reg'.name) :
    i = j := by
  have below := (List.getElem?_eq_some_iff.mp listed).1
  exact (List.getElem?_inj (by simpa using below) registered.apart).mp (by simp [listed, other, same])

/-- A measured bit has a place, and its key says where. -/
theorem Circuit.Registered.place (registered : c.Registered) (measured : bit ∈ c.measured) :
    ∃ i reg, c.registers[i]? = some reg ∧ reg.name = bit.register ∧ bit.index < reg.size ∧
      Readout.Key.ofText (c.keyText bit) = .ok ⟨reg.name, reg.size, i, bit.index⟩ := by
  obtain ⟨reg, mem, named, inside⟩ := registered.inside bit measured
  obtain ⟨i, listed⟩ := mem_iff_getElem?.mp mem
  have first : c.registers.findIdx (·.name = bit.register) = i := by
    obtain ⟨bound, rfl⟩ := List.getElem?_eq_some_iff.mp listed
    refine (List.findIdx_eq bound).mpr ⟨by simpa using named, fun j lt => ?_⟩
    have := registered.position (getElem?_eq_getElem (lt.trans bound)) listed
    grind
  have key : c.key bit = .ok ⟨reg.name, reg.size, i, bit.index⟩ := by simp [Circuit.key, first, require, listed]
  refine ⟨i, reg, listed, named, inside, ?_⟩
  simp only [Circuit.keyText, key]
  exact Readout.Key.ofText_toText (registered.unbroken _ mem)

section Filling

variable (outcome : Bit → Nat → Bool) (shots : Nat) (done : Finset Bit) (reg : Register)

/-- What a shot leaves in a register once some bits have been measured. -/
def Register.row (shot : Nat) : List Int :=
  (range reg.size).map fun i => if ⟨reg.name, i, []⟩ ∈ done then (outcome ⟨reg.name, i, []⟩ shot).toInt else 0

def Register.filled : Readout.Register := ⟨reg.size, (range shots).map (reg.row outcome done)⟩

theorem Register.write_filled (named : reg.name = bit.register) (inside : bit.index < reg.size)
    (alone : bit.others = []) :
    (reg.filled outcome shots done).write bit.index (some ((range shots).map fun shot => (outcome bit shot).toInt)) =
      .ok (reg.filled outcome shots (insert bit done)) := by
  have written (shot : Nat) :
      (reg.row outcome done shot).set bit.index (outcome bit shot).toInt = reg.row outcome (insert bit done) shot := by
    apply ext_getElem (by simp [row])
    intro i _ _
    obtain ⟨_, _, _⟩ := bit
    subst named alone
    simp [row, getElem_set]
    grind
  have spread {rs : List Int} (counted : rs.length = shots) : Readout.spread shots rs = .ok rs := by
    unfold Readout.spread
    split
    · exact congrArg Except.ok (by simp [← counted])
    · simp [counted]
  rw [Readout.Register.write, unless_eq_ok_iff (by simp)]
  simp [filled, inside, require, spread, zip_map', Function.comp_def, written]

variable {outcome shots done reg}

theorem Register.filled_of_untouched (untouched : ∀ bit ∈ done, bit.register ≠ reg.name) :
    reg.filled outcome shots done = .blank shots reg.size := by
  have empty (i : Nat) : (⟨reg.name, i, []⟩ : Bit) ∉ done := fun mem => untouched _ mem rfl
  have rows : reg.row outcome done = fun _ => replicate reg.size 0 := by
    funext shot
    simp [row, empty]
  simp [filled, rows, Readout.Register.blank]

theorem Register.filled_insert_of_ne (other : bit.register ≠ reg.name) :
    reg.filled outcome shots (insert bit done) = reg.filled outcome shots done := by
  have apart (i : Nat) : (⟨reg.name, i, []⟩ : Bit) ≠ bit := fun same => other (same ▸ rfl)
  simp [filled, row, apart]

end Filling

variable {outcome : Bit → Nat → Bool} {shots : Nat} {done : Finset Bit} {s : Formatting}

/-- The registers that were written to are those of the measured bits, with the outcomes in these. -/
structure Holds (c : Circuit) (outcome : Bit → Nat → Bool) (shots : Nat) (done : Finset Bit) (s : Formatting) :
    Prop where
  nodup : s.registers.keys.Nodup
  found : ∀ i, s.registers.get? i = c.registers[i]?.bind fun reg =>
    if ∃ bit ∈ done, bit.register = reg.name then some (reg.filled outcome shots done) else none
  counted : done ≠ ∅ → s.shots = some shots

section Adding

variable (registered : c.Registered) (some : 0 < shots) (isExact : Bool)
include registered some

theorem Holds.add (measured : bit ∈ c.measured) (holds : Holds c outcome shots done s) :
    ∃ next, s.add (.int shots) isExact (c.keyText bit, rowsOf ((range shots).map (outcome bit))) = .ok next ∧
      Holds c outcome shots (insert bit done) next := by
  obtain ⟨i, reg, listed, named, inside, read⟩ := registered.place measured
  have before : s.registers.getD i (.blank shots reg.size) = reg.filled outcome shots done := by
    rw [Table.getD, holds.found, listed]
    by_cases touched : ∃ bit ∈ done, bit.register = reg.name
    · simp [touched]
    · rw [reg.filled_of_untouched (by simpa using touched)]
      simp [touched]
  refine ⟨⟨s.registers.insert i (reg.filled outcome shots (insert bit done)), .some shots⟩, ?_,
    Table.nodup_keys_insert holds.nodup, fun j => ?_, fun _ => rfl⟩
  · have count : (rowsOf ((range shots).map (outcome bit))).length = shots := by simp [rowsOf]
    have enough : Value.equal (.int shots) (.int shots) = true := by
      have same : (Number.int shots == Number.int shots) = true := beq_iff_eq (a := (shots : Int)).mpr rfl
      simp only [Value.equal, Value.parts?, Value.number?, Value.own, Option.map_some, same, Bool.true_and]
      rfl
    have nonempty : (range shots).map (outcome bit) ≠ [] := by simpa using Nat.ne_of_gt some
    simp only [Formatting.add, read, ok_bind, count, enough, before, Readout.resultsOf_rowsOf _ nonempty isExact,
      map_map]
    have written := reg.write_filled outcome shots done named inside (registered.alone bit measured)
    simp [Function.comp_def, written]
  · rw [Table.get?_insert, holds.found]
    split
    · next same => simp [same, listed, named]
    · next ne =>
      cases other : c.registers[j]? with
      | none => rfl
      | some reg' =>
        have apart : bit.register ≠ reg'.name := fun same => ne (registered.position other listed (named.trans same).symm)
        simp [apart, reg'.filled_insert_of_ne apart]

theorem Holds.addAll {bits : List Bit} (measured : bits ⊆ c.measured) (holds : Holds c outcome shots done s) :
    ∃ last, (bits.map fun bit => (c.keyText bit, rowsOf ((range shots).map (outcome bit)))).foldlM
        (Formatting.add (.int shots) isExact) s = .ok last ∧ Holds c outcome shots (done ∪ bits.toFinset) last := by
  induction bits generalizing done s with
  | nil => exact ⟨s, rfl, by simpa using holds⟩
  | cons bit bits ih =>
    obtain ⟨mem, others⟩ := cons_subset.mp measured
    obtain ⟨next, added, held⟩ := holds.add registered some isExact mem
    simpa [foldlM_cons, added] using ih others held

end Adding

/-- Whether a register contains a measured bit. -/
def Circuit.measures (c : Circuit) (reg : Register) : Bool := c.measured.any (·.places.any (·.1 = reg.name))

/-- A register from its first bit upwards: outcomes in the measured bits and zeros in the others. -/
def Circuit.word (c : Circuit) (outcome : Bit → Nat → Bool) (shot : Nat) (reg : Register) : String :=
  .ofList ((range reg.size).map fun i =>
    if c.measured.any fun bit => bit.places.contains (reg.name, i) && outcome bit shot then '1' else '0')

/-- The registers with measured bits, in the order of the circuit. -/
def Circuit.reading (c : Circuit) (outcome : Bit → Nat → Bool) (shot : Nat) : String :=
  " ".intercalate ((c.registers.filter c.measures).map (c.word outcome shot))

theorem Circuit.Registered.any_places (registered : c.Registered) {reg : Register} {i shot : Nat} :
    (c.measured.any fun bit => bit.places.contains (reg.name, i) && outcome bit shot) =
      (decide (⟨reg.name, i, []⟩ ∈ c.measured) && outcome ⟨reg.name, i, []⟩ shot) := by
  have only : ∀ bit ∈ c.measured, (reg.name, i) ∈ bit.places ↔ ⟨reg.name, i, []⟩ = bit := by
    rintro ⟨register, index, others⟩ member
    obtain rfl : others = [] := registered.alone _ member
    simp [Bit.places]
  grind

theorem word_eq_join (registered : c.Registered) (reg : Register) (shot : Nat) :
    String.join ((reg.row outcome c.measured.toFinset shot).map toString) = c.word outcome shot reg := by
  apply String.toList_inj.mp
  rw [String.toList_join, Register.row, map_map, flatMap_map, Circuit.word, String.toList_ofList, map_eq_flatMap]
  refine flatMap_congr fun i _ => ?_
  rw [registered.any_places]
  by_cases mem : ⟨reg.name, i, []⟩ ∈ c.measured
  · cases value : outcome ⟨reg.name, i, []⟩ shot <;> simp [mem, value] <;> rfl
  · simp [mem]
    rfl

/-- By their positions, the written registers are those that contain a measured bit. -/
theorem Holds.sorted (registered : c.Registered) (holds : Holds c outcome shots c.measured.toFinset s) :
    (s.registers.entries.mergeSort fun a b => a.1 ≤ b.1).map Prod.snd =
      (c.registers.filter c.measures).map (·.filled outcome shots c.measured.toFinset) := by
  let written := (c.registers.zipIdx.filter (c.measures ·.1)).map fun e =>
    (e.2, e.1.filled outcome shots c.measured.toFinset)
  have rising : written.Pairwise (·.1 < ·.1) := by
    have positions : (c.registers.zipIdx.map Prod.snd).Pairwise (· < ·) := by
      rw [zipIdx_map_snd]
      exact pairwise_lt_range'
    exact pairwise_map.mpr ((pairwise_map.mp positions).filter _)
  have same : s.registers.entries.Perm written := by
    rw [perm_ext_iff_of_nodup holds.nodup.of_map (rising.imp fun less equal => by simp [equal] at less)]
    rintro ⟨i, filled⟩
    have listed : (i, filled) ∈ s.registers.entries ↔ s.registers.get? i = some filled :=
      ⟨Table.get?_of_mem_entries holds.nodup, Table.mem_entries_of_get?⟩
    have touched (reg : Register) : c.measures reg = true ↔ ∃ bit ∈ c.measured, bit.register = reg.name := by
      have first : ∀ bit ∈ c.measured, (bit.places.any (·.1 = reg.name)) = decide (bit.register = reg.name) := by
        intro bit member
        simp [Bit.places, registered.alone bit member]
      simp only [Circuit.measures, any_eq_true]
      grind
    rw [listed, holds.found]
    simp [written, mem_zipIdx_iff_getElem?, touched, Option.bind_eq_some_iff, and_assoc]
  have sorted : s.registers.entries.mergeSort (fun a b => a.1 ≤ b.1) = written := by
    refine ((mergeSort_perm ..).trans same).eq_of_pairwise ?_ (pairwise_mergeSort ?_ ?_ _)
      (rising.imp fun less => by simpa using Nat.le_of_lt less)
    · intro a b first second below above
      exact inj_on_of_nodup_map holds.nodup (mem_mergeSort.mp first) (same.mem_iff.mpr second)
        (by simp at below above; omega)
    · simp only [decide_eq_true_eq]; omega
    · simp only [Bool.or_eq_true, decide_eq_true_eq]; omega
  rw [sorted, map_map, ← zipIdx_map_fst 0 c.registers, filter_map, map_map]
  simp [Function.comp_def]

/-- Results under the keys of a circuit, in any order, go into the bits that it measures into: each shot gives the text
that is read from right to left. -/
theorem bitstrings_of_toSteps {steps : List Step} {results : Named Values} (registered : c.Registered)
    (any : c.measured ≠ []) (told : c.toSteps angles names allowed = .ok steps) (some : 0 < shots) (isExact : Bool)
    (shuffled : results.Perm ((keysOf steps).zip (c.measured.map fun bit =>
      rowsOf ((range shots).map (outcome bit))))) :
    Readout.bitstrings results (.int shots) isExact =
      .ok ((range shots).map fun shot => String.ofList (c.reading outcome shot).toList.reverse) := by
  rw [toSteps_keysOf told, zip_map'] at shuffled
  obtain ⟨bits, rfl, order⟩ := (congrFun₂ (eq_map_comp_perm _) ..).mpr shuffled
  have start : Holds c outcome shots ∅ {} := ⟨nodup_nil, fun i => by cases c.registers[i]? <;> simp, absurd rfl⟩
  obtain ⟨last, run, held⟩ := start.addAll registered some isExact order.subset
  rw [Finset.empty_union, toFinset_eq_of_perm _ _ order] at held
  simp only [Readout.bitstrings, run, ok_bind, held.counted (by simpa using any), require]
  refine mapM_eq_ok_map fun shot below => ?_
  let wordOf (reg : Readout.Register) : Outcome String := do return String.join ((← itemAt reg.rows shot).map toString)
  have words : (last.registers.entries.mergeSort fun a b => a.1 ≤ b.1).mapM (wordOf ∘ Prod.snd) =
      .ok ((c.registers.filter c.measures).map (c.word outcome shot)) := by
    rw [← mapM_map, held.sorted registered, mapM_map]
    refine mapM_eq_ok_map fun reg _ => ?_
    simp [wordOf, itemAt, require, Register.filled, mem_range.mp below, ← word_eq_join registered]
  exact congrArg (· >>= _) words

/-- A circuit that measures into the second bit of its second register. -/
def upper : Circuit where
  registers := [⟨"d", 1⟩, ⟨"c_1", 2⟩]
  operations := [{ name := "measure", wires := [0], bits := [{ register := "c_1", index := 1 }] }]

theorem bitstrings_of_toSteps_upper : Readout.bitstrings [("c_1_2_1_1", [.list [.int 1]])] (.int 1) true = .ok ["10"] :=
  @bitstrings_of_toSteps upper .turns ⟨[(0, "QB1")]⟩ [] (fun _ _ => true) 1 _ _ ⟨by decide, by decide, by decide, by decide⟩
    (by decide) rfl (by decide) true (.refl _)

/-- A circuit whose two registers share the bit that it measures into. -/
def shared : Circuit where
  registers := [⟨"a", 2⟩, ⟨"b", 2⟩]
  operations := [{ name := "measure", wires := [0], bits := [{ register := "a", index := 1, others := [("b", 0)] }] }]

/-- Its result goes into the first register only, and the other one is left out. -/
theorem bitstrings_of_shared :
    ∃ steps, shared.toSteps .turns ⟨[(0, "QB1")]⟩ = .ok steps ∧ keysOf steps = ["a_2_0_1"] ∧
      Readout.bitstrings [("a_2_0_1", [.list [.int 1]])] (.int 1) true = .ok ["10"] ∧
      String.ofList (shared.reading (fun _ _ => true) 0).toList.reverse = "01 10" := by
  refine ⟨_, rfl, rfl, ?_, ?_⟩
  · decide +kernel
  · decide +kernel

end Logical

end Transmon
