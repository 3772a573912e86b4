import Mathlib.Data.List.GetD
import Transmon.Proofs.Basic
import Transmon.Readout

/-!
# Results of a batch, packed and unpacked

The station lists what a label reads shot by shot, and within a shot circuit by circuit, with no place for the circuits
that do not hold the label. Unpacking finds the place of a circuit by counting the circuits before it that do.
-/

namespace Transmon.Readout

open Outcome List Table

variable {mappings : List Mapping} {outcome : Nat → String → Nat → Value} {count : Nat} {results : Named (List Value)}

/-- What a label reads in one shot: an outcome for each circuit that holds it, in the order of the batch. -/
def traced (outcome : Nat → String → Nat → Value) (byCircuit : List (List String)) (start : Nat) (label : String)
    (shot : Nat) : List Value :=
  (byCircuit.zipIdx start).filterMap fun e => if e.1.contains label then some (outcome e.2 label shot) else none

/-- The results hold what each label of the batch reads, shot by shot. -/
structure Packs (mappings : List Mapping) (outcome : Nat → String → Nat → Value) (count : Nat)
    (results : Named (List Value)) : Prop where
  nonempty : results ≠ []
  labels : ∀ label, label ∈ results.map Prod.fst ↔ label ∈ (labelsByCircuit mappings).flatten
  lists : ∀ entry ∈ results,
    entry.2 = (List.range count).flatMap (traced outcome (labelsByCircuit mappings) 0 entry.1)

/-- A circuit has each label once. -/
abbrev Apart (mappings : List Mapping) : Prop := ∀ labels ∈ labelsByCircuit mappings, labels.Nodup

variable (labels : List String)

theorem traced_cons (rest : List (List String)) (start : Nat) (label : String) (shot : Nat) :
    traced outcome (labels :: rest) start label shot =
      (if labels.contains label then [outcome start label shot] else []) ++ traced outcome rest (start + 1) label shot := by
  simp only [traced, zipIdx_cons, filterMap_cons]
  split <;> simp_all

/-- A label is listed once for each circuit that holds it. -/
theorem length_traced (outcome : Nat → String → Nat → Value) {byCircuit : List (List String)}
    (apart : ∀ labels ∈ byCircuit, labels.Nodup) (start : Nat) (label : String) (shot : Nat) :
    (traced outcome byCircuit start label shot).length = byCircuit.flatten.count label := by
  induction byCircuit generalizing start with
  | nil => rfl
  | cons labels rest ih =>
    obtain ⟨first, apart⟩ := forall_mem_cons.mp apart
    rw [traced_cons, length_append, ih apart, flatten_cons, count_append, first.count]
    simp only [contains_iff_mem]
    split <;> simp

/-- The place of a circuit is where its outcome stands. -/
theorem getD_place {byCircuit : List (List String)} {circuit : Nat} {labels : List String} {label : String}
    (held : byCircuit[circuit]? = some labels) (mem : label ∈ labels) (start shot : Nat) :
    (traced outcome byCircuit start label shot).getD (place byCircuit circuit label) .none =
      outcome (start + circuit) label shot := by
  induction byCircuit generalizing start circuit with
  | nil => simp at held
  | cons first rest ih =>
    rw [traced_cons]
    cases circuit with
    | zero =>
      cases (by simpa using held : first = labels)
      simp [place, mem]
    | succ circuit =>
      have later := ih (by simpa using held) (start + 1)
      have counted : place (first :: rest) (circuit + 1) label =
          (if first.contains label then [outcome start label shot] else []).length + place rest circuit label := by
        unfold place
        rw [take_succ_cons, filter_cons]
        split <;> simp [Nat.add_comm]
      rw [counted, getD_append_right _ _ _ _ (Nat.le_add_right ..), Nat.add_sub_cancel_left, later, Nat.add_right_comm,
        Nat.add_assoc]

theorem get?_count_update (label : String) (table : Table String Nat) :
    (labels.foldl (fun table label => table.update label 0 (· + 1)) table).get? label =
      if label ∈ labels then some (table.getD label 0 + labels.count label) else table.get? label := by
  induction labels generalizing table with
  | nil => simp
  | cons first rest ih =>
    rw [foldl_cons, ih]
    by_cases same : label = first
    · subst same
      by_cases mem : label ∈ rest
      · simp [mem, Table.update, Table.getD, Nat.add_assoc, Nat.add_comm 1]
      · simp [mem, Table.update, Table.getD, count_eq_zero_of_not_mem]
    · simp [Table.update, Table.getD, Table.get?_insert_of_ne _ _ same, same, count_cons_of_ne (Ne.symm same)]

theorem get?_triggerCounts {label : String} (mem : label ∈ (labelsByCircuit mappings).flatten) :
    (triggerCounts mappings).get? label = some ((labelsByCircuit mappings).flatten.count label) := by
  rw [labelsByCircuit, ← flatMap_def] at *
  rw [triggerCounts, get?_count_update, if_pos mem]
  simp [Table.getD]

variable {α β : Type}

theorem rows_flatMap {width : Nat} {items : List α} {row : α → List β}
    (wide : ∀ item ∈ items, (row item).length = width) :
    Value.rows width items.length (items.flatMap row) = items.map row := by
  induction items with
  | nil => rfl
  | cons item rest ih =>
    obtain ⟨rfl, wide⟩ := forall_mem_cons.mp wide
    simp [Value.rows, ih wide]

/-- What the labels of results read in each shot. -/
def readings (mappings : List Mapping) (outcome : Nat → String → Nat → Value) (count : Nat)
    (results : Named (List Value)) : Shots :=
  (⟨results⟩ : Table String (List Value)).map fun label _ =>
    (List.range count).map (traced outcome (labelsByCircuit mappings) 0 label)

variable {change : α → Outcome β}

/-- A list of outcomes is that of the items, or else the first fault among them. -/
theorem mapM_eq_findSome? (fault? : α → Option Fault) {value : α → β} {items : List α}
    (each : ∀ item ∈ items, change item = (fault? item).elim (.ok (value item)) .error) :
    items.mapM change = (items.findSome? fault?).elim (.ok (items.map value)) .error := by
  induction items with
  | nil => rfl
  | cons item rest ih =>
    obtain ⟨first, each⟩ := forall_mem_cons.mp each
    rw [mapM_cons, first, ih each, findSome?_cons]
    cases fault? item with
    | some fault => rfl
    | none => cases rest.findSome? fault? <;> rfl

theorem shots_of_packs (apart : Apart mappings) (packs : Packs mappings outcome count results) :
    shots mappings results = .ok (readings mappings outcome count results) := by
  have counts e (mem : e ∈ results) : 0 < (labelsByCircuit mappings).flatten.count e.1 ∧
      (triggerCounts mappings).get? e.1 = some ((labelsByCircuit mappings).flatten.count e.1) ∧
      e.2.length = count * (labelsByCircuit mappings).flatten.count e.1 := by
    have listed := (packs.labels e.1).mp (mem_map_of_mem mem)
    refine ⟨count_pos_iff.mpr listed, get?_triggerCounts listed, ?_⟩
    rw [packs.lists e mem]
    simp [length_flatMap, length_traced outcome apart]
  obtain ⟨first, rest, rfl⟩ := exists_cons_of_ne_nil packs.nonempty
  obtain ⟨positive, known, long⟩ := counts first mem_cons_self
  have repetitions : first.2.length / (labelsByCircuit mappings).flatten.count first.1 = count := by
    rw [long, Nat.mul_div_cancel _ positive]
  unfold shots
  simp only [need, known, require, ok_bind, repetitions]
  rw [mapM_eq_ok_map fun e mem => ?_]
  · rfl
  · obtain ⟨_, known, long⟩ := counts e mem
    have cut := rows_flatMap fun shot (_ : shot ∈ range count) => length_traced outcome apart 0 e.1 shot
    rw [length_range, ← packs.lists e mem] at cut
    simp [known, long, cut]

/-- A circuit reads its own outcomes. -/
theorem column_of_packs (packs : Packs mappings outcome count results) {circuit : Nat} {m : Mapping}
    (held : mappings[circuit]? = some m) {label : String} (mem : label ∈ m.flatMap Prod.snd) :
    column (readings mappings outcome count results) (labelsByCircuit mappings) circuit label =
      .ok ((range count).map (outcome circuit label)) := by
  have carries : (labelsByCircuit mappings)[circuit]? = some (m.flatMap Prod.snd) := by
    simp [labelsByCircuit, held]
  have listed := (packs.labels label).mpr (mem_flatten.mpr ⟨_, mem_of_getElem? carries, mem⟩)
  obtain ⟨items, read⟩ := Option.isSome_iff_exists.mp (isSome_get?_iff (t := ⟨results⟩).mpr listed)
  rw [column, readings, need, get?_map, read]
  refine congrArg Except.ok ?_
  simp only [map_map, Function.comp_def, getD_place carries mem, Nat.zero_add]

/-- Columns are read row by row. -/
theorem stacked_map {labels : List String} (some : labels ≠ []) (read : String → Nat → Value) :
    stacked (labels.map fun label => (range count).map (read label)) =
      .ok ((range count).map fun shot => labels.map fun label => read label shot) := by
  obtain ⟨first, rest, rfl⟩ := exists_cons_of_ne_nil some
  refine congrArg Except.ok ?_
  simp only [length_map, length_range, map_map, Function.comp_def]
  refine map_congr_left fun shot mem => map_congr_left fun label _ => ?_
  simp [mem_range.mp mem]

/-- The fault of a key without labels. -/
def unlabelled? (labels : List String) : Option Fault := if labels.isEmpty then some (.bare .invalid) else none

/-- The outcomes of a circuit in some shots. -/
def unpacked (outcome : Nat → String → Nat → Value) (shots : List Nat) (circuit : Nat) (labels : List String) :
    List (List Value) :=
  shots.map fun shot => labels.map fun label => outcome circuit label shot

theorem resultOf_of_packs (packs : Packs mappings outcome count results) {circuit : Nat} {m : Mapping}
    (held : mappings[circuit]? = some m) {key : String × List String} (mem : key ∈ m) :
    resultOf (readings mappings outcome count results) (labelsByCircuit mappings) circuit key.2 =
      (unlabelled? key.2).elim (.ok (unpacked outcome (range count) circuit key.2)) .error := by
  rw [resultOf, mapM_eq_ok_map fun label inside => column_of_packs packs held (mem_flatMap.mpr ⟨key, mem, inside⟩),
    ok_bind]
  cases labels : key.2 with
  | nil => rfl
  | cons first rest => exact stacked_map (by simp) (outcome circuit)

/-- The shots in which all heralds of a circuit read zero. -/
def kept (outcome : Nat → String → Nat → Value) (count circuit : Nat) (heralds : List String) : List Nat :=
  (List.range count).filter fun shot => heralds.all fun label => isZero (outcome circuit label shot)

/-- What stands against unpacking a circuit: there are no heralds, they keep no shot, or another key has no labels. -/
def unheralded? (outcome : Nat → String → Nat → Value) (count : Nat) (entry : Mapping × Nat) : Option Fault :=
  let heralds := (entry.1.lookup heraldKey).getD []
  (unlabelled? heralds).or <| if (kept outcome count entry.2 heralds).isEmpty
    then some (.because .runtime
      s!"Execution of circuit {entry.2} in heralding mode \"zeros\" discarded all the shots.")
    else (entry.1.filter fun key => key.1 != heraldKey).findSome? fun key => unlabelled? key.2

theorem elim_bind (fault? : Option Fault) (value : α) (next : α → Outcome β) :
    (fault?.elim (.ok value) .error >>= next) = fault?.elim (next value) .error := by
  cases fault? <;> rfl

variable (heralds : List String) (circuit : Nat)

theorem keep_kept (labels : List String) : (((unpacked outcome (range count) circuit labels).zip
      ((unpacked outcome (range count) circuit heralds).map fun row => row.all isZero)).filterMap
        fun (row, isKept) => if isKept then some row else none) =
      unpacked outcome (kept outcome count circuit heralds) circuit labels := by
  simp only [unpacked, kept, map_map, zip_map', filterMap_map, ← filterMap_eq_filter,
    map_filterMap]
  refine filterMap_congr fun shot _ => ?_
  simp only [Function.comp_def, all_map, Option.guard]
  split <;> simp_all

theorem isEmpty_kept :
    (!((unpacked outcome (range count) circuit heralds).map fun row => row.all isZero).any id) =
      (kept outcome count circuit heralds).isEmpty := by
  rw [Bool.eq_iff_iff]
  simp [unpacked, kept]

/-- Unpacking gives every circuit its own outcomes, and with heralds those of exactly the shots in which they all read
zero. It fails exactly where a key has no labels or a circuit keeps no shot. -/
theorem convert_packed (apart : Apart mappings) (packs : Packs mappings outcome count results) :
    convert mappings results = (mappings.zipIdx.findSome? fun e => e.1.findSome? fun key => unlabelled? key.2).elim
      (.ok (mappings.zipIdx.map fun e => e.1.map fun key => (key.1, unpacked outcome (List.range count) e.2 key.2)))
      .error ∧
    ((∀ mapping ∈ mappings, heraldKey ∈ mapping.map Prod.fst) →
      convertHeralded mappings results = (mappings.zipIdx.findSome? (unheralded? outcome count)).elim
        (.ok (mappings.zipIdx.map fun e => (e.1.filter fun key => key.1 != heraldKey).map fun key =>
          (key.1, unpacked outcome (kept outcome count e.2 ((e.1.lookup heraldKey).getD [])) e.2 key.2))) .error) := by
  have made entry (member : entry ∈ mappings.zipIdx) key (inside : key ∈ entry.1) :=
    resultOf_of_packs packs (List.mem_zipIdx_iff_getElem?.mp member) inside
  constructor
  · rw [convert, shots_of_packs apart packs, Outcome.ok_bind]
    refine mapM_eq_findSome? _ fun entry member => mapM_eq_findSome? _ fun key inside => ?_
    rw [made entry member key inside, elim_bind]
    rfl
  · intro heralded
    rw [convertHeralded, shots_of_packs apart packs, Outcome.ok_bind]
    refine mapM_eq_findSome? _ fun entry member => ?_
    obtain ⟨mapping, circuit⟩ := entry
    obtain ⟨heralds, found⟩ := Option.isSome_iff_exists.mp (Table.isSome_get?_iff (t := ⟨mapping⟩).mpr
      (heralded mapping (List.mem_of_getElem? (List.mem_zipIdx_iff_getElem?.mp member))))
    have read : mapping.lookup heraldKey = some heralds := found
    have listed : (heraldKey, heralds) ∈ mapping := Table.mem_entries_of_get? found
    simp only [unheralded?, read, require, Outcome.ok_bind, Option.getD_some, made _ member _ listed, elim_bind,
      isEmpty_kept]
    cases unlabelled? heralds with
    | some fault => rfl
    | none =>
      simp only [Option.none_or, Option.elim_none]
      split
      · rfl
      · refine mapM_eq_findSome? _ fun key inside => ?_
        rw [made _ member key (List.mem_of_mem_filter inside), elim_bind, keep_kept]
        rfl

def pair : List Mapping := [[(heraldKey, ["h"]), ("a", ["x"])], [(heraldKey, ["h"]), ("b", ["y", "x"])]]

/-- The herald of the second circuit reads one in the first shot. -/
def played (label : String) (shot : Nat) : Value :=
  if label = "h" then .int (circuit * (1 - shot)) else .int (10 * shot + circuit + 1)

/-- Circuits keep different shots. A circuit whose heralds have no labels is refused, though all its shots could be
kept. -/
theorem convert_packed_pair : Apart pair ∧
    convertHeralded pair [("h", [.int 0, .int 1, .int 0, .int 0]), ("x", [.int 1, .int 2, .int 11, .int 12]),
      ("y", [.int 2, .int 12])] = .ok [[("a", [[.int 1], [.int 11]])], [("b", [[.int 12, .int 12]])]] ∧
    convertHeralded [[(heraldKey, []), ("a", ["x"])]] [("x", [.int 0, .int 1])] = fail .invalid := by
  have apart : Apart pair := by decide
  have packs : Packs pair played 2 [("h", [.int 0, .int 1, .int 0, .int 0]),
      ("x", [.int 1, .int 2, .int 11, .int 12]), ("y", [.int 2, .int 12])] :=
    ⟨by simp, by simp [pair, labelsByCircuit]; tauto, by simp; exact ⟨rfl, rfl, rfl⟩⟩
  have alone : Packs [[(heraldKey, []), ("a", ["x"])]] (fun _ _ shot => .int shot) 2 [("x", [.int 0, .int 1])] :=
    ⟨by simp, by simp [labelsByCircuit], by simp; rfl⟩
  exact ⟨apart, (convert_packed apart packs).2 (by decide), (convert_packed (by decide) alone).2 (by decide)⟩

end Transmon.Readout
