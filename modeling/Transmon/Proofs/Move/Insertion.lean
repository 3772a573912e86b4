import Transmon.Proofs.Architecture
import Transmon.Proofs.Move.Tracking

/-!
# What the insertion of moves writes

The tracker of a chip knows exactly the moves and gates that the chip offers. From it every step of a circuit is
written in one of three ways: a move is brought about, a step that the chip can run is written after the states of its
components were sent home, and any other gate is written at a qubit and a resonator that holds the state of the other
qubit. These three cases, with the owners they leave, are all that later proofs use of the insertion.
-/

namespace Transmon

open Outcome Work List Table

namespace Move

open Circuit (Step)

variable {arch : Architecture} {t last : Tracker} {name q res : String} {s : Step}
  {rest ss made : List Step} {way : Resolution}

namespace Partners

/-- A locus as a key and its partner, if it is a pair. -/
abbrev Reading := String → String → String × String

variable (read : Reading)

/-- The partners that the pairs among some loci give, each read in one way. -/
def collect (partners : Partners) (loci : List (List String)) : Partners :=
  loci.foldl (fun known locus =>
    match locus with
    | [first, second] => known.add (read first second).1 (read first second).2
    | _ => known) partners

variable {ps : Partners}

theorem mem_of_collect {loci : List (List String)} {name other : String} :
    other ∈ (collect read ps loci).of name ↔ other ∈ ps.of name ∨
      ∃ first second, [first, second] ∈ loci ∧ read first second = (name, other) := by
  unfold collect
  induction loci generalizing ps with
  | nil => simp
  | cons locus rest ih =>
    rw [foldl_cons, ih]
    simp only [mem_cons, or_and_right, exists_or]
    split
    · next first second => simp [or_assoc, Prod.ext_iff, eq_comm]
    · next noPair =>
      have none : ¬∃ a b, [a, b] = locus ∧ read a b = (name, other) := fun ⟨a, b, same, _⟩ => noPair a b same.symm
      rw [or_iff_right none]

theorem nodup_keys_collect (nodup : ps.keys.Nodup)
    (loci : List (List String)) : (collect read ps loci).keys.Nodup := by
  unfold collect
  induction loci generalizing ps with
  | nil => exact nodup
  | cons locus rest ih =>
    rw [foldl_cons]
    apply ih
    split
    · exact nodup_keys_add nodup
    · exact nodup

/-- Collecting partners with a check of every locus: it is passed exactly if all loci are pairs of the right form, and
then the partners are what the loci say. -/
theorem foldlM_eq_ok_iff (form : String → String → Prop) (read : Reading)
    {add : Partners → List String → Outcome Partners}
    (adds : ∀ ps locus result, add ps locus = .ok result ↔
      ∃ first second, locus = [first, second] ∧ form first second ∧
        ps.add (read first second).1 (read first second).2 = result)
    {loci : List (List String)} {ps result : Partners} :
    loci.foldlM add ps = .ok result ↔
      (∀ locus ∈ loci, ∃ first second, locus = [first, second] ∧ form first second) ∧
        collect read ps loci = result := by
  induction loci generalizing ps with
  | nil => simp [collect]
  | cons locus rest ih =>
    rw [foldlM_cons, bind_eq_ok_iff, forall_mem_cons]
    constructor
    · rintro ⟨middle, added, later⟩
      obtain ⟨first, second, rfl, formed, rfl⟩ := (adds _ _ _).mp added
      obtain ⟨forms, rfl⟩ := ih.mp later
      exact ⟨⟨⟨first, second, rfl, formed⟩, forms⟩, rfl⟩
    · rintro ⟨⟨⟨first, second, rfl, formed⟩, forms⟩, rfl⟩
      exact ⟨_, (adds _ _ _).mpr ⟨first, second, rfl, formed, rfl⟩, ih.mpr ⟨forms, rfl⟩⟩

end Partners

namespace Tracker

variable {gate : Architecture.Gate}

/-- The form of the loci that a tracker takes up. -/
def LocusForm (architecture : Architecture) (name first second : String) : Prop :=
  if name = "move" then first ∉ architecture.resonators ∧ second ∈ architecture.resonators
  else first ∉ architecture.resonators

/-- The loci of an operation are taken up exactly if all are pairs of the right form. -/
theorem partnersOf_eq_ok_iff {ps : Partners} :
    partnersOf arch name gate = .ok ps ↔
      (∀ locus ∈ gate.loci, ∃ first second, locus = [first, second] ∧ LocusForm arch name first second) ∧
        Partners.collect Prod.mk ∅ gate.loci = ps := by
  unfold partnersOf
  apply Partners.foldlM_eq_ok_iff (LocusForm arch name) Prod.mk
  intro known locus result
  unfold LocusForm
  split
  · next first second =>
    by_cases moving : name = "move"
    · by_cases formed : first ∉ arch.resonators ∧ second ∈ arch.resonators
      · simp [moving, formed]
      · have refused : first ∈ arch.resonators ∨ second ∉ arch.resonators := by tauto
        simp [moving, refused, formed, map_eq_ok_iff]
    · by_cases formed : first ∈ arch.resonators
      · simp [moving, formed, map_eq_ok_iff]
      · simp [moving, formed]
  · next noPair =>
    constructor
    · intro refused
      simp at refused
    · rintro ⟨first, second, rfl, -⟩
      exact (noPair first second rfl).elim

variable (loci : Table String Partners)

/-- In a new tracker every resonator is empty. -/
theorem ofLoci_owner (name : String) : (ofLoci loci).owner name = name := by
  cases found : (ofLoci loci).owners.get? name with
  | none => simp [owner, Table.getD, found]
  | some held =>
    rw [owner_of_get? found]
    obtain ⟨res, -, same⟩ := mem_map.mp (mem_entries_of_get? found)
    obtain ⟨rfl, rfl⟩ := Prod.mk.inj same
    rfl

theorem ofLoci_resonators : (ofLoci loci).resonators = (ofLoci loci).moves.inverse.keys := by
  simp [resonators, ofLoci, Table.keys, Function.comp_def]

theorem ofLoci_sound {loci : Table String Partners} (nodup : (ofLoci loci).moves.keys.Nodup)
    (apart : ∀ q res other, res ∈ (ofLoci loci).moves.of q → q ∉ (ofLoci loci).moves.of other) :
    (ofLoci loci).Sound := by
  have tracked : ∀ res, res ∈ (ofLoci loci).resonators ↔
      ∃ q, res ∈ (ofLoci loci).moves.of q := by
    intro res
    rw [ofLoci_resonators, Partners.mem_keys_inverse nodup]
  refine ⟨nodup, ?_, tracked, ?_, fun name => .inl (ofLoci_owner loci name), ?_⟩
  · rw [ofLoci_resonators]
    exact Partners.nodup_keys_inverse _
  · intro q res known present
    obtain ⟨other, moved⟩ := (tracked q).mp present
    exact apart q res other known moved
  · intro name other away
    exact (away (ofLoci_owner loci name)).elim

/-- A sound tracker that knows exactly the moves and gates that a chip offers. -/
structure Tracks (architecture : Architecture) (tracker : Tracker) : Prop where
  sound : tracker.Sound
  moves_iff : ∀ qubit resonator, resonator ∈ tracker.moves.of qubit ↔ architecture.Offers "move" [qubit, resonator]
  gates_iff : ∀ name partners, tracker.gates.get? name = some partners → name = "cz" ∧
    ∀ first second, second ∈ partners.of first ↔ architecture.Offers "cz" [first, second]
  gates_cz : ∀ locus, architecture.Offers "cz" locus → tracker.gates.contains "cz" = true
  move_form : ∀ locus, architecture.Offers "move" locus → ∃ qubit resonator, locus = [qubit, resonator] ∧
    qubit ∉ architecture.resonators ∧ resonator ∈ architecture.resonators
  cz_form : ∀ locus, architecture.Offers "cz" locus → ∃ first second, locus = [first, second] ∧
    first ∉ architecture.resonators

namespace Tracks

variable (tracks : Tracks arch t)

include tracks

/-- Moves do not change what a tracker knows of the chip. -/
theorem shifts (shifts : Shifts t ss last) : Tracks arch last where
  sound := shifts.sound tracks.sound
  moves_iff := shifts.moves_eq ▸ tracks.moves_iff
  gates_iff := shifts.gates_eq ▸ tracks.gates_iff
  gates_cz := shifts.gates_eq ▸ tracks.gates_cz
  move_form := tracks.move_form
  cz_form := tracks.cz_form

theorem form_of_known (known : res ∈ t.moves.of q) :
    q ∉ arch.resonators ∧ res ∈ arch.resonators := by
  obtain ⟨_, _, same, standing, resonant⟩ := tracks.move_form _ ((tracks.moves_iff q res).mp known)
  obtain ⟨rfl, rfl⟩ : q = _ ∧ res = _ := by simpa using same
  exact ⟨standing, resonant⟩

theorem mem_resonators (present : name ∈ t.resonators) : name ∈ arch.resonators := by
  obtain ⟨q, known⟩ := (tracks.sound.tracked name).mp present
  exact (tracks.form_of_known known).2

/-- What holds of every move that the chip offers holds of all moves that are made. -/
theorem forall_mem_shifts {P : Step → Prop} (shifts : Shifts t ss last)
    (moves : ∀ q res, arch.Offers "move" [q, res] → P (moving q res)) :
    ∀ s ∈ ss, P s := by
  intro s mem
  obtain ⟨q, res, rfl, known⟩ := shifts.known_of_mem mem
  exact moves q res ((tracks.moves_iff q res).mp known)

/-- Every single move is one that the chip can run. -/
theorem checkStep_of_shifts (shifts : Shifts t ss last) :
    ∀ s ∈ ss, arch.checkStep none s = .ok () :=
  tracks.forall_mem_shifts shifts fun _ _ offered => Architecture.checkStep_move rfl rfl offered

end Tracks

/-- What a tracker takes up of an operation. -/
def loci? (architecture : Architecture) (name : String) : Option Partners :=
  (architecture.gates.get? name).map fun gate => Partners.collect Prod.mk ∅ gate.loci

/-- All loci of an operation have the form that a tracker needs. -/
def WellFormed (architecture : Architecture) (name : String) : Prop :=
  ∀ locus, architecture.Offers name locus →
    ∃ first second, locus = [first, second] ∧ LocusForm architecture name first second

variable {ps : Partners}

theorem mem_of_loci? (found : loci? arch name = some ps) (first second : String) :
    second ∈ ps.of first ↔ arch.Offers name [first, second] := by
  obtain ⟨gate, known, rfl⟩ := Option.map_eq_some_iff.mp found
  rw [Partners.mem_of_collect]
  constructor
  · rintro (impossible | ⟨a, b, mem, same⟩)
    · simp at impossible
    · obtain ⟨rfl, rfl⟩ := Prod.mk.inj same
      exact ⟨gate, known, mem⟩
  · rintro ⟨other, found, mem⟩
    obtain rfl : gate = other := Option.some.inj (known.symm.trans found)
    exact .inr ⟨first, second, mem, rfl⟩

theorem nodup_keys_of_loci? (found : loci? arch name = some ps) : ps.keys.Nodup := by
  obtain ⟨gate, -, rfl⟩ := Option.map_eq_some_iff.mp found
  exact Partners.nodup_keys_collect _ (by simp) _

/-- Taking up one more operation is refused exactly if its loci are not well formed. -/
theorem takeUp_eq_ok_iff {table result : Table String Partners} :
    (match arch.gates.get? name with
      | none => return table
      | some gate => do return table.insert name (← partnersOf arch name gate) :
        Outcome (Table String Partners)) = .ok result ↔
      WellFormed arch name ∧ ((loci? arch name).elim table (table.insert name)) = result := by
  unfold WellFormed Architecture.Offers loci?
  cases found : arch.gates.get? name with
  | none => simp
  | some gate => simp [map_eq_ok_iff, partnersOf_eq_ok_iff]

/-- All that a tracker takes up of a chip. -/
def taken (architecture : Architecture) : Table String Partners :=
  let first : Table String Partners := (loci? architecture "cz").elim ∅ (Table.insert ∅ "cz")
  (loci? architecture "move").elim first (first.insert "move")

theorem get?_taken : (taken arch).get? name =
    if name = "move" then loci? arch "move" else if name = "cz" then loci? arch "cz" else none := by
  unfold taken
  cases loci? arch "cz" with
  | none =>
    cases loci? arch "move" with
    | none => simp
    | some moves => simp [get?_insert]
  | some gates =>
    cases loci? arch "move" with
    | none =>
      by_cases moving : name = "move"
      · simp [moving, get?_insert]
      · simp [moving, get?_insert]
    | some moves => simp [get?_insert]

/-- The tracker of a chip can be made exactly if the loci of both operations are well formed. -/
theorem ofArchitecture_eq_ok_iff :
    ofArchitecture arch = .ok t ↔
      (WellFormed arch "cz" ∧ WellFormed arch "move") ∧ ofLoci (taken arch) = t := by
  unfold ofArchitecture gateNames
  simp only [foldlM_cons, foldlM_nil, bind_eq_ok_iff, pure_eq_ok_iff]
  constructor
  · rintro ⟨_, ⟨_, first, _, second, rfl⟩, rfl⟩
    obtain ⟨cz, rfl⟩ := takeUp_eq_ok_iff.mp first
    obtain ⟨move, rfl⟩ := takeUp_eq_ok_iff.mp second
    exact ⟨⟨cz, move⟩, rfl⟩
  · rintro ⟨⟨cz, move⟩, rfl⟩
    exact ⟨_, ⟨_, takeUp_eq_ok_iff.mpr ⟨cz, rfl⟩, _, takeUp_eq_ok_iff.mpr ⟨move, rfl⟩, rfl⟩, rfl⟩

theorem moves_ofLoci_taken : (ofLoci (taken arch)).moves = (loci? arch "move").getD ∅ := by
  simp [ofLoci, Table.getD, get?_taken]

/-- The moves that are taken up are those that the chip offers. -/
theorem mem_moves_ofLoci_taken :
    res ∈ (ofLoci (taken arch)).moves.of q ↔ arch.Offers "move" [q, res] := by
  rw [moves_ofLoci_taken]
  cases found : loci? arch "move" with
  | none =>
    have unknown : arch.gates.get? "move" = none := Option.map_eq_none_iff.mp found
    simp [Architecture.Offers, unknown]
  | some ps => exact mem_of_loci? found q res

theorem nodup_keys_moves_ofLoci_taken : (ofLoci (taken arch)).moves.keys.Nodup := by
  rw [moves_ofLoci_taken]
  cases found : loci? arch "move" with
  | none => simp
  | some ps => exact nodup_keys_of_loci? found

theorem get?_gates_ofLoci_taken :
    (ofLoci (taken arch)).gates.get? name = if name = "cz" then loci? arch "cz" else none := by
  simp only [ofLoci, get?_erase, get?_taken]
  by_cases moving : name = "move"
  · simp [moving]
  · simp [moving]

/-- The tracker of a chip tracks it, and all its resonators are empty. -/
theorem tracks_of_ofArchitecture (made : ofArchitecture arch = .ok t) :
    Tracks arch t ∧ ∀ name, t.owner name = name := by
  obtain ⟨⟨czFormed, moveFormed⟩, rfl⟩ := ofArchitecture_eq_ok_iff.mp made
  have moveForm : ∀ locus, arch.Offers "move" locus → ∃ q res, locus = [q, res] ∧
      q ∉ arch.resonators ∧ res ∈ arch.resonators := moveFormed
  refine ⟨⟨ofLoci_sound nodup_keys_moves_ofLoci_taken ?_, ?_, ?_, ?_, moveForm, czFormed⟩, ofLoci_owner _⟩
  · intro q res other known moved
    obtain ⟨_, _, first, standing, -⟩ := moveForm _ (mem_moves_ofLoci_taken.mp known)
    obtain ⟨_, _, second, -, resonant⟩ := moveForm _ (mem_moves_ofLoci_taken.mp moved)
    obtain ⟨rfl, -⟩ : q = _ ∧ res = _ := by simpa using first
    obtain ⟨-, rfl⟩ : other = _ ∧ q = _ := by simpa using second
    exact standing resonant
  · exact fun q res => mem_moves_ofLoci_taken
  · intro name ps found
    rw [get?_gates_ofLoci_taken] at found
    split at found
    · next named => exact ⟨named, mem_of_loci? found⟩
    · cases found
  · rintro locus ⟨gate, known, -⟩
    have found : loci? arch "cz" = some _ := Option.map_eq_some_iff.mpr ⟨gate, known, rfl⟩
    rw [Table.contains, get?_gates_ofLoci_taken, if_pos rfl, found, Option.isSome_some]

end Tracker

/-- A way to perform a `cz` between two qubits that the chip has: one qubit can act on the resonator, and the state of
the other can be moved into it. -/
structure Resolution.Resolves (architecture : Architecture) (step : Step) (way : Resolution) : Prop where
  named : step.name = "cz"
  qubits : step.locus = [way.gate, way.moved] ∨ step.locus = [way.moved, way.gate]
  gated : architecture.Offers "cz" [way.gate, way.resonator]
  movable : architecture.Offers "move" [way.moved, way.resonator]

/-- The operations that are performed through resonators act on pairs. -/
def Paired (step : Step) : Prop := step.name = "cz" → ∃ first second, step.locus = [first, second]

/-- If a step acts on a pair, then on two different components. -/
def Separate (step : Step) : Prop := ∀ first second, step.locus = [first, second] → first ≠ second

namespace Resolution.Resolves

variable (resolves : way.Resolves arch s)

include resolves

theorem gate_mem : way.gate ∈ s.locus := by
  rcases resolves.qubits with located | located
  · simp [located]
  · simp [located]

theorem paired : Paired s :=
  fun _ => resolves.qubits.elim (fun located => ⟨_, _, located⟩) fun located => ⟨_, _, located⟩

theorem gate_ne_moved (separate : Separate s) : way.gate ≠ way.moved := by
  rcases resolves.qubits with located | located
  · exact separate _ _ located
  · exact (separate _ _ located).symm

end Resolution.Resolves

namespace Tracker

variable {lookahead : List Step} {α : Type}

theorem mem_resolutionsOf_iff {ps : Partners} {gate moved : String} :
    way ∈ t.resolutionsOf ps gate moved ↔ way.gate = gate ∧ way.moved = moved ∧
      way.resonator ∈ ps.of gate ∧ way.resonator ∈ t.moves.of moved := by
  unfold resolutionsOf
  simp only [mem_map, mem_filter, contains_iff_mem]
  constructor
  · rintro ⟨res, ⟨gated, movable⟩, rfl⟩
    exact ⟨rfl, rfl, gated, movable⟩
  · rintro ⟨rfl, rfl, gated, movable⟩
    exact ⟨way.resonator, ⟨gated, movable⟩, rfl⟩

variable (best : Option (α × Nat))

/-- The cheaper of the best item so far and the next one. -/
def cheaper (item : α × Nat) : Option (α × Nat) :=
  match best with
  | none => some item
  | some held => if item.2 < held.2 then some item else best

variable (items : List (α × Nat))

theorem cheapest_eq_foldl : cheapest items = (items.foldl cheaper none).map Prod.fst := rfl

theorem cheaper_cases (item : α × Nat) :
    cheaper best item = some item ∨ best.isSome = true ∧ cheaper best item = best := by
  unfold cheaper
  split
  · exact .inl rfl
  · split
    · exact .inl rfl
    · exact .inr ⟨rfl, rfl⟩

/-- Comparing costs keeps the best item so far or one of the next. -/
theorem foldl_cheaper_cases (start : Option (α × Nat)) :
    items.foldl cheaper start = start ∧ (items = [] ∨ start.isSome = true) ∨
      ∃ item ∈ items, items.foldl cheaper start = some item := by
  induction items generalizing start with
  | nil => exact .inl ⟨rfl, .inl rfl⟩
  | cons first rest ih =>
    rw [foldl_cons]
    rcases ih (cheaper start first) with ⟨same, -⟩ | ⟨item, mem, same⟩
    · rcases cheaper_cases start first with chosen | ⟨held, kept⟩
      · exact .inr ⟨first, mem_cons_self, same.trans chosen⟩
      · exact .inl ⟨same.trans kept, .inr held⟩
    · exact .inr ⟨item, mem_cons_of_mem _ mem, same⟩

variable {items : List (α × Nat)}

theorem cheapest_mem {item : α} (chosen : cheapest items = some item) : ∃ cost, (item, cost) ∈ items := by
  rw [cheapest_eq_foldl] at chosen
  rcases foldl_cheaper_cases items none with ⟨same, -⟩ | ⟨⟨first, cost⟩, mem, same⟩
  · simp [same] at chosen
  · obtain rfl : first = item := by simpa [same] using chosen
    exact ⟨cost, mem⟩

theorem cheapest_isSome (nonempty : items ≠ []) : ∃ item, cheapest items = some item := by
  rw [cheapest_eq_foldl]
  rcases foldl_cheaper_cases items none with ⟨-, vacant | impossible⟩ | ⟨item, -, same⟩
  · exact (nonempty vacant).elim
  · cases impossible
  · exact ⟨item.1, by rw [same]; rfl⟩

variable (tracks : Tracks arch t)

include tracks

/-- The resolutions that are found are exactly those that the chip has. -/
theorem mem_resolutions_iff {ways : List Resolution}
    (found : t.resolutions s = .ok ways) : way ∈ ways ↔ way.Resolves arch s := by
  unfold resolutions at found
  cases known : t.gates.get? s.name with
  | none =>
    rw [known] at found
    obtain rfl : [] = ways := pure_eq_ok_iff.mp found
    refine ⟨fun mem => by simp at mem, fun resolves => ?_⟩
    have gate := tracks.gates_cz _ resolves.gated
    simp [Table.contains, ← resolves.named, known] at gate
  | some ps =>
    obtain ⟨named, gates⟩ := tracks.gates_iff _ _ known
    simp only [known] at found
    split at found
    · next first second located =>
      obtain rfl := pure_eq_ok_iff.mp found
      simp only [mem_append, mem_resolutionsOf_iff, gates, tracks.moves_iff]
      constructor
      · rintro (⟨rfl, rfl, gated, movable⟩ | ⟨rfl, rfl, gated, movable⟩)
        · exact ⟨named, .inl located, gated, movable⟩
        · exact ⟨named, .inr located, gated, movable⟩
      · rintro ⟨-, qubits, gated, movable⟩
        rcases qubits with same | same
        · obtain ⟨rfl, rfl⟩ : first = way.gate ∧ second = way.moved := by simpa [located] using same
          exact .inl ⟨rfl, rfl, gated, movable⟩
        · obtain ⟨rfl, rfl⟩ : first = way.moved ∧ second = way.gate := by simpa [located] using same
          exact .inr ⟨rfl, rfl, gated, movable⟩
    · simp at found

theorem resolutions_ok (paired : Paired s) : ∃ ways, t.resolutions s = .ok ways := by
  unfold resolutions
  cases known : t.gates.get? s.name with
  | none => exact ⟨_, rfl⟩
  | some ps =>
    obtain ⟨first, second, located⟩ := paired (tracks.gates_iff _ _ known).1
    simp only [located]
    exact ⟨_, rfl⟩

/-- The best resolution is one of those that the chip has. -/
theorem best_resolves (chosen : t.best s lookahead = .ok (some way)) : way.Resolves arch s := by
  obtain ⟨ways, found, later⟩ := bind_eq_ok_iff.mp chosen
  obtain ⟨costs, priced, cheapest⟩ := bind_eq_ok_iff.mp later
  obtain ⟨cost, mem⟩ := cheapest_mem (pure_eq_ok_iff.mp cheapest)
  obtain ⟨other, listed, read⟩ := exists_of_mem_mapM priced mem
  obtain ⟨next, -, same⟩ := bind_eq_ok_iff.mp read
  obtain ⟨rfl, -⟩ := Prod.mk.inj (pure_eq_ok_iff.mp same)
  exact (mem_resolutions_iff tracks found).mp listed

/-- Weighing a resolution against the next steps is never refused. -/
theorem nextCost_ok (name : String) (way : Resolution)
    (paired : ∀ next ∈ lookahead, Paired next) : ∃ cost, t.nextCost name way lookahead = .ok cost := by
  have priced {next : Step} {test : Step → Bool} (found : lookahead.find? test = some next) :
      (∃ cost, t.sharedCost name way next = .ok cost) ∧ (∃ cost, t.gateCost way next = .ok cost) ∧
        ∃ cost, t.movedCost way next = .ok cost := by
    obtain ⟨ways, found⟩ := resolutions_ok tracks (paired next (mem_of_find?_eq_some found))
    simp only [sharedCost, gateCost, movedCost, found, ok_bind]
    refine ⟨?_, ⟨_, rfl⟩, ?_⟩
    all_goals
      split
      · exact ⟨_, rfl⟩
      · split
        · exact ⟨_, rfl⟩
        · exact ⟨_, rfl⟩
  unfold nextCost
  dsimp only
  split
  · next first second foundFirst foundSecond =>
    split
    · exact (priced foundFirst).1
    · obtain ⟨a, gated⟩ := (priced foundFirst).2.1
      obtain ⟨b, movable⟩ := (priced foundSecond).2.2
      exact ⟨a + b, by rw [gated, movable]; rfl⟩
  · next first found _ => exact (priced found).2.1
  · next second _ found => exact (priced found).2.2
  · exact ⟨0, rfl⟩

/-- A step that the chip can resolve has a best resolution. -/
theorem best_ok (resolves : way.Resolves arch s)
    (paired : ∀ next ∈ lookahead, Paired next) : ∃ best, t.best s lookahead = .ok (some best) := by
  obtain ⟨ways, found⟩ := resolutions_ok tracks resolves.paired
  have listed : way ∈ ways := (mem_resolutions_iff tracks found).mpr resolves
  obtain ⟨costs, priced⟩ : ∃ costs, (ways.mapM fun way => do
      return (way, t.cost way + (← t.nextCost s.name way lookahead))) = .ok costs := by
    refine mapM_ok fun way _ => ?_
    obtain ⟨cost, known⟩ := nextCost_ok tracks s.name way paired
    exact ⟨_, by rw [known]; rfl⟩
  have nonempty : costs ≠ [] := by
    rintro rfl
    have length := (mapM_eq_ok_iff.mp priced).length_eq
    simp only [length_nil, length_eq_zero_iff] at length
    simp [length] at listed
  obtain ⟨best, chosen⟩ := cheapest_isSome nonempty
  exact ⟨best, by rw [Tracker.best, found, ok_bind, priced, ok_bind, chosen]; rfl⟩

end Tracker

/-- What is written for one step, and the tracker that this leaves. Only moves precede the step itself. -/
inductive Realisation (architecture : Architecture) (tracker : Tracker) (step : Step) (rest : List Step) :
    List Step → Tracker → Prop where
  /-- A move is brought about, and is not written again. -/
  | moved {moves : List Step} {last : Tracker} {qubit resonator : String}
      (accepted : architecture.checkStep none step = .ok ()) (named : step.name = "move")
      (located : step.locus = [qubit, resonator]) (shifts : Tracker.Shifts tracker moves last)
      (owners : last.owner = tracker.owner.brought qubit resonator) :
      Realisation architecture tracker step rest moves last
  /-- Another step that the chip can run follows after the states of its components were sent home. -/
  | kept {moves : List Step} {last : Tracker}
      (accepted : architecture.checkStep none step = .ok ()) (named : step.name ≠ "move")
      (shifts : Tracker.Shifts tracker moves last)
      (owners : last.owner = fun name => if tracker.owner name ∈ step.locus then name else tracker.owner name) :
      Realisation architecture tracker step rest (moves ++ [step]) last
  /-- Any other step is performed through a resonator. -/
  | resolved {moves : List Step} {last : Tracker} {way : Resolution}
      (refused : architecture.checkStep none step ≠ .ok ()) (apart : ∀ name ∈ step.locus, name ∉ tracker.resonators)
      (chosen : tracker.best step rest = .ok (some way)) (shifts : Tracker.Shifts tracker moves last)
      (home : last.Home way.gate) (there : way.gate ≠ way.moved → last.owner way.resonator = way.moved) :
      Realisation architecture tracker step rest (moves ++ [step.at [way.gate, way.resonator]]) last

namespace Realisation

theorem tracks (tracks : t.Tracks arch) (realisation : Realisation arch t s rest ss last) :
    last.Tracks arch := by
  cases realisation with
  | moved _ _ _ shifts => exact tracks.shifts shifts
  | kept _ _ shifts => exact tracks.shifts shifts
  | resolved _ _ _ shifts => exact tracks.shifts shifts

end Realisation

namespace Tracking

open Tracker

/-- A step that the chip does not accept is performed exactly if it acts on no resonator, its operation can be performed
through resonators, and it has a resolution. -/
theorem realise_returns_iff_of_refused (refused : arch.checkStep none s ≠ .ok ()) :
    Returns (realise arch s rest) t ss last ↔
      t.gates.contains s.name = true ∧ (∀ name ∈ s.locus, name ∉ t.resonators) ∧
        ∃ way, t.best s rest = .ok (some way) ∧ Returns (perform way s) t ss last := by
  cases outcome : arch.checkStep none s with
  | ok done => exact (refused outcome).elim
  | error fault =>
    have kind : fault.kind = .circuitInvalid := Architecture.checkStep_fault outcome
    unfold realise
    simp only [outcome, kind, ne_eq, not_true_eq_false, if_false, returns_bind_iff, returns_get_iff]
    constructor
    · rintro ⟨_, _, ⟨rfl, rfl⟩, performed⟩
      split at performed
      · simp at performed
      · next allowed =>
        simp only [Bool.or_eq_true, Bool.not_eq_true', not_or, Bool.not_eq_false, Names.meets_iff, not_exists,
          not_and] at allowed
        obtain ⟨best, _, returned, performed⟩ := returns_bind_iff.mp performed
        obtain ⟨chosen, rfl⟩ := returns_lift_iff.mp returned
        refine ⟨allowed.1, allowed.2, ?_⟩
        cases best with
        | none => simp at performed
        | some way => exact ⟨way, chosen, performed⟩
    · rintro ⟨gated, apart, way, chosen, performed⟩
      refine ⟨_, _, ⟨rfl, rfl⟩, ?_⟩
      have allowed : ¬(!t.gates.contains s.name || Names.meets s.locus t.resonators) = true := by
        simp only [Bool.or_eq_true, Bool.not_eq_true', not_or, Bool.not_eq_false, Names.meets_iff, not_exists, not_and]
        exact ⟨gated, apart⟩
      rw [if_neg allowed, returns_bind_iff]
      exact ⟨some way, t, returns_lift_iff.mpr ⟨chosen, rfl⟩, performed⟩

variable (tracks : Tracks arch t)

include tracks

/-- A step that the chip accepts is never refused. -/
theorem realise_returns_of_accepted
    (accepted : arch.checkStep none s = .ok ()) (rest : List Step) :
    ∃ ss last, Returns (realise arch s rest) t ss last ∧
      Realisation arch t s rest ss last := by
  by_cases named : s.name = "move"
  · have offered := Architecture.offers_of_checkStep_move named accepted
    obtain ⟨q, res, located, -⟩ := tracks.move_form _ offered
    obtain ⟨moves, last, returned, shifts, owners⟩ :=
      bring_returns tracks.sound ((tracks.moves_iff q res).mpr (located ▸ offered))
    refine ⟨moves, last, ?_, .moved accepted named located shifts owners⟩
    simpa [realise, accepted, named, located] using returned
  · have present : ∀ name ∈ t.holding s.locus, name ∈ t.resonators := by
      intro name mem
      have away := ((mem_holding_iff tracks.sound).mp mem).1
      exact tracks.sound.mem_resonators (tracks.sound.known_of_owner away)
    obtain ⟨moves, last, returned, shifts, owners⟩ := restore_returns tracks.sound _ present
    refine ⟨moves ++ [s], last, ?_, .kept accepted named shifts ?_⟩
    · simpa [realise, accepted, named, returns_bind_iff, returns_map_iff] using returned
    · rw [owners]
      funext name
      simp only [mem_holding_iff tracks.sound]
      by_cases home : t.owner name = name
      · simp [home]
      · simp [home]

theorem realise_returns_of_refused
    (refused : arch.checkStep none s ≠ .ok ()) (apart : ∀ name ∈ s.locus, name ∉ t.resonators)
    {way : Resolution} (chosen : t.best s rest = .ok (some way)) :
    ∃ ss last, Returns (realise arch s rest) t ss last ∧
      Realisation arch t s rest ss last := by
  have resolves := best_resolves tracks chosen
  have known := (tracks.moves_iff way.moved way.resonator).mpr resolves.movable
  have gated : t.gates.contains s.name = true := resolves.named ▸ tracks.gates_cz _ resolves.gated
  have standing : way.gate ∉ t.resonators := apart _ resolves.gate_mem
  obtain ⟨moves, last, returned, shifts, home, there⟩ := perform_returns tracks.sound s known standing
  exact ⟨_, last, (realise_returns_iff_of_refused refused).mpr ⟨gated, apart, way, chosen, returned⟩,
    .resolved refused apart chosen shifts home there⟩

/-- Whatever is written for a step is written in one of the three ways. -/
theorem realisation_of_returns
    (returned : Returns (realise arch s rest) t ss last) :
    Realisation arch t s rest ss last := by
  by_cases accepted : arch.checkStep none s = .ok ()
  · obtain ⟨others, other, made, realisation⟩ := realise_returns_of_accepted tracks accepted rest
    obtain ⟨rfl, rfl⟩ := returned.unique made
    exact realisation
  · obtain ⟨-, apart, way, chosen, -⟩ := (realise_returns_iff_of_refused accepted).mp returned
    obtain ⟨others, other, made, realisation⟩ := realise_returns_of_refused tracks accepted apart chosen
    obtain ⟨rfl, rfl⟩ := returned.unique made
    exact realisation

end Tracking

/-- The tracker that the realisation of a step leaves behind. -/
def Tracker.after (tracker : Tracker) (architecture : Architecture) (step : Step) (rest : List Step) : Tracker :=
  (runFrom (Tracking.realise architecture step rest) tracker).2

theorem Tracker.after_eq {written : List Step}
    (returned : Returns (Tracking.realise arch s rest) t written last) :
    t.after arch s rest = last := by
  rw [Tracker.after, returned]

section After

open Tracker

/-- An accepted step leaves a tracker of the chip: after a move the state was brought to its resonator or home, after
any other step the states of its components are at home. -/
theorem tracks_after_accepted (tracks : Tracks arch t)
    (accepted : arch.checkStep none s = .ok ()) (rest : List Step) :
    (t.after arch s rest).Tracks arch ∧
      (∀ q res, s.name = "move" → s.locus = [q, res] →
        (t.after arch s rest).owner = t.owner.brought q res) ∧
      (s.name ≠ "move" → (t.after arch s rest).owner =
        fun name => if t.owner name ∈ s.locus then name else t.owner name) := by
  obtain ⟨written, last, returned, realisation⟩ := Tracking.realise_returns_of_accepted tracks accepted rest
  rw [after_eq returned]
  refine ⟨realisation.tracks tracks, ?_⟩
  cases realisation with
  | moved _ named located _ owners =>
    refine ⟨fun q res _ same => ?_, fun other => (other named).elim⟩
    obtain ⟨rfl, rfl⟩ : _ = q ∧ _ = res := by simpa [located] using same
    exact owners
  | kept _ named _ owners => exact ⟨fun _ _ same => (named same).elim, fun _ => owners⟩
  | resolved refused => exact (refused accepted).elim

/-- A step that is performed through a resonator leaves the moved state there. -/
theorem tracks_after_refused (tracks : Tracks arch t) (refused : arch.checkStep none s ≠ .ok ())
    (apart : ∀ name ∈ s.locus, name ∉ t.resonators) (separate : Separate s) {rest : List Step}
    {way : Resolution} (chosen : t.best s rest = .ok (some way)) :
    (t.after arch s rest).Tracks arch ∧
      (t.after arch s rest).owner way.resonator = way.moved := by
  obtain ⟨written, last, returned, realisation⟩ := Tracking.realise_returns_of_refused tracks refused apart chosen
  rw [after_eq returned]
  refine ⟨realisation.tracks tracks, ?_⟩
  cases realisation with
  | moved accepted => exact (refused accepted).elim
  | kept accepted => exact (refused accepted).elim
  | resolved _ _ same _ _ there =>
    obtain rfl : way = _ := by simpa using chosen.symm.trans same
    exact there ((best_resolves tracks chosen).gate_ne_moved separate)

end After

/-- What is written for several steps: the realisations of the steps one after the other. -/
inductive Realisations (architecture : Architecture) : Tracker → List Step → List Step → Tracker → Prop where
  | nil (tracker : Tracker) : Realisations architecture tracker [] [] tracker
  | cons {tracker middle last : Tracker} {step : Step} {rest written others : List Step}
      (returned : Returns (Tracking.realise architecture step rest) tracker written middle)
      (first : Realisation architecture tracker step rest written middle)
      (later : Realisations architecture middle rest others last) :
      Realisations architecture tracker (step :: rest) (written ++ others) last

namespace Realisations

variable (tracked : t.Tracks arch) (realisations : Realisations arch t ss made last)

include tracked realisations

theorem tracks : last.Tracks arch := by
  induction realisations with
  | nil => exact tracked
  | cons _ first _ ih => exact ih (first.tracks tracked)

/-- What holds of offered moves, of accepted steps and of gates through resonators holds of all that is written. -/
theorem forall_mem {P : Step → Prop}
    (moves : ∀ q res, arch.Offers "move" [q, res] → P (moving q res))
    (kept : ∀ s ∈ ss, arch.checkStep none s = .ok () → P s)
    (resolved : ∀ (s : Step) (way : Resolution), way.Resolves arch s →
      P (s.at [way.gate, way.resonator])) : ∀ s ∈ made, P s := by
  induction realisations with
  | nil => simp
  | cons _ first _ ih =>
    refine forall_mem_append.mpr ⟨?_, ih (first.tracks tracked) fun s later => kept s (.tail _ later)⟩
    cases first with
    | moved _ _ _ shifts => exact tracked.forall_mem_shifts shifts moves
    | kept accepted _ shifts =>
      exact forall_mem_append.mpr ⟨tracked.forall_mem_shifts shifts moves,
        forall_mem_singleton.mpr (kept _ mem_cons_self accepted)⟩
    | resolved _ _ chosen shifts =>
      exact forall_mem_append.mpr ⟨tracked.forall_mem_shifts shifts moves,
        forall_mem_singleton.mpr (resolved _ _ (Tracker.best_resolves tracked chosen))⟩

/-- Every step that is realised is accepted by the chip or resolved. -/
theorem accepted_or_resolves :
    ∀ s ∈ ss, arch.checkStep none s = .ok () ∨ ∃ way : Resolution, way.Resolves arch s := by
  induction realisations with
  | nil => simp
  | cons _ first _ ih =>
    refine forall_mem_cons.mpr ⟨?_, ih (first.tracks tracked)⟩
    cases first with
    | moved accepted => exact .inl accepted
    | kept accepted => exact .inl accepted
    | resolved _ _ chosen => exact .inr ⟨_, Tracker.best_resolves tracked chosen⟩

end Realisations

namespace Tracking

open Tracker

/-- Sending all states home empties every resonator. -/
theorem restoreAll_returns (sound : t.Sound) :
    ∃ ss last, Returns restoreAll t ss last ∧ Shifts t ss last ∧
      ∀ name, last.owner name = name := by
  obtain ⟨ss, last, returned, shifts, owners⟩ := restore_returns sound t.resonators fun _ mem => mem
  refine ⟨ss, last, ?_, shifts, ?_⟩
  · simpa [restoreAll, returns_bind_iff] using returned
  · intro name
    rw [owners]
    by_cases present : name ∈ t.resonators
    · simp [present]
    · simp [present, owner_of_not_mem present]

variable (tracks : Tracks arch t)

include tracks

/-- Steps are realised one after the other, each from the tracker that those before it leave. -/
theorem realisations_of_returns
    (returned : Returns (realiseAll arch ss) t made last) :
    Realisations arch t ss made last := by
  induction ss generalizing t made with
  | nil =>
    obtain ⟨rfl, rfl⟩ := returns_pure_iff.mp returned
    exact .nil t
  | cons s rest ih =>
    obtain ⟨written, middle, first, returned⟩ := returns_bind_iff.mp returned
    obtain ⟨others, finish, later, same⟩ := returns_bind_iff.mp returned
    obtain ⟨rfl, rfl⟩ := returns_pure_iff.mp same
    have realisation := realisation_of_returns tracks first
    exact .cons first realisation (ih (realisation.tracks tracks) later)

/-- A step can be realised whatever came before it: the chip accepts it, or it can be resolved. -/
def Realisable (architecture : Architecture) (step : Step) : Prop :=
  architecture.checkStep none step = .ok () ∨
    (∀ name ∈ step.locus, name ∉ architecture.resonators) ∧ ∃ way : Resolution, way.Resolves architecture step

theorem realiseAll_returns
    (realisable : ∀ s ∈ ss, Realisable arch s) (paired : ∀ s ∈ ss, Paired s) :
    ∃ made last, Returns (realiseAll arch ss) t made last := by
  induction ss generalizing t with
  | nil => exact ⟨[], t, returns_pure_iff.mpr ⟨rfl, rfl⟩⟩
  | cons s rest ih =>
    have laterPaired : ∀ next ∈ rest, Paired next := fun next mem => paired next (.tail _ mem)
    obtain ⟨written, middle, returned, realisation⟩ : ∃ written middle,
        Returns (realise arch s rest) t written middle ∧
          Realisation arch t s rest written middle := by
      by_cases accepted : arch.checkStep none s = .ok ()
      · exact realise_returns_of_accepted tracks accepted rest
      · obtain ⟨apart, way, resolves⟩ := (realisable s mem_cons_self).resolve_left accepted
        obtain ⟨best, chosen⟩ := best_ok tracks resolves laterPaired
        exact realise_returns_of_refused tracks accepted
          (fun name mem present => apart name mem (tracks.mem_resonators present)) chosen
    obtain ⟨others, last, later⟩ := ih (realisation.tracks tracks)
      (fun next mem => realisable next (.tail _ mem)) laterPaired
    refine ⟨written ++ others, last, ?_⟩
    simp only [realiseAll, returns_bind_iff, returns_pure_iff]
    exact ⟨_, _, returned, _, _, later, rfl, rfl⟩

/-- All that is written for a circuit whose states go home at its end. -/
theorem realised_cases
    (returned : Returns (realised arch true ss) t made last) :
    ∃ inside middle closing, Realisations arch t ss inside middle ∧
      Shifts middle closing last ∧ made = inside ++ closing ∧ ∀ name, last.owner name = name := by
  obtain ⟨inside, middle, first, returned⟩ := returns_bind_iff.mp returned
  obtain ⟨closing, finish, second, same⟩ := returns_bind_iff.mp returned
  obtain ⟨rfl, rfl⟩ := returns_pure_iff.mp same
  have realisations := realisations_of_returns tracks first
  obtain ⟨others, other, restored, shifts, home⟩ := restoreAll_returns (realisations.tracks tracks).sound
  obtain ⟨rfl, rfl⟩ := second.unique restored
  exact ⟨inside, middle, closing, realisations, shifts, rfl, home⟩

theorem realised_returns (restores : Bool)
    (realisable : ∀ s ∈ ss, Realisable arch s) (paired : ∀ s ∈ ss, Paired s) :
    ∃ made last, Returns (realised arch restores ss) t made last := by
  obtain ⟨inside, middle, first⟩ := realiseAll_returns tracks realisable paired
  cases restores with
  | false => exact ⟨inside, middle, returns_bind_iff.mpr ⟨_, _, first, returns_pure_iff.mpr ⟨rfl, rfl⟩⟩⟩
  | true =>
    have sound := ((realisations_of_returns tracks first).tracks tracks).sound
    obtain ⟨closing, last, second, -, -⟩ := restoreAll_returns sound
    refine ⟨inside ++ closing, last, returns_bind_iff.mpr ⟨_, _, first, ?_⟩⟩
    exact returns_bind_iff.mpr ⟨_, _, second, returns_pure_iff.mpr ⟨rfl, rfl⟩⟩

end Tracking

end Move

namespace Mapping

variable {m : Mapping} {names : List String} {given made : List Circuit.Step}

/-- Every component is named by itself. -/
def IsIdentity (mapping : Mapping) : Prop := ∀ entry ∈ mapping.entries, entry.1 = entry.2

theorem mem_keys_foldl {name : String} :
    name ∈ (names.foldl (fun table name => table.insert name name) m).keys ↔
      name ∈ m.keys ∨ name ∈ names := by
  induction names generalizing m with
  | nil => simp
  | cons first rest ih =>
    rw [foldl_cons, ih, mem_keys_insert, mem_cons, or_assoc]

section IsIdentity

variable (identity : m.IsIdentity)

include identity

theorem resolve_eq_ok_iff (name component : String) :
    m.resolve name = .ok component ↔ name ∈ m.keys ∧ name = component := by
  unfold resolve
  rw [need_eq_ok_iff]
  constructor
  · intro found
    exact ⟨mem_keys_of_get? found, identity _ (mem_entries_of_get? found)⟩
  · rintro ⟨present, rfl⟩
    obtain ⟨component, found⟩ := Option.isSome_iff_exists.mp (isSome_get?_iff.mpr present)
    obtain rfl : name = component := identity _ (mem_entries_of_get? found)
    exact found

/-- Renaming every component to itself changes nothing, and is refused for components that are not there. -/
theorem steps_eq_ok_iff : m.steps given = .ok made ↔
      (∀ s ∈ given, ∀ name ∈ s.locus, name ∈ m.keys) ∧ given = made := by
  have loci (locus resolved : List String) : locus.mapM m.resolve = .ok resolved ↔
      (∀ name ∈ locus, name ∈ m.keys) ∧ locus = resolved := by
    rw [mapM_eq_ok_iff_map id (resolve_eq_ok_iff identity), map_id]
  have each (s renamed : Circuit.Step) :
      (do return s.at (← s.locus.mapM m.resolve) : Outcome Circuit.Step) = .ok renamed ↔
        (∀ name ∈ s.locus, name ∈ m.keys) ∧ s = renamed := by
    simp only [bind_eq_ok_iff, loci, pure_eq_ok_iff, and_assoc, exists_and_left, exists_eq_left']
    rfl
  rw [steps, mapM_eq_ok_iff_map id each, map_id]

theorem isIdentity_insert (name : String) : IsIdentity (m.insert name name) := by
  intro e mem
  rcases mem_entries_insert mem with rfl | kept
  · rfl
  · exact identity e kept

theorem isIdentity_foldl (names : List String) :
    IsIdentity (names.foldl (fun table name => table.insert name name) m) := by
  induction names generalizing m with
  | nil => exact identity
  | cons name rest ih => exact ih (isIdentity_insert identity name)

/-- The inverse of a mapping that names every component by itself does so too. -/
theorem inverse_eq_foldl : m.inverse = m.keys.foldl (fun table name => table.insert name name) ∅ := by
  unfold inverse Table.keys
  rw [foldl_map]
  refine foldl_ext _ _ _ fun table e mem => ?_
  rw [identity e mem]

end IsIdentity

/-- Without a mapping all components of a chip are named by themselves. -/
theorem isIdentity_complete (arch : Architecture) : IsIdentity (Move.complete arch ∅) :=
  isIdentity_foldl (by simp [IsIdentity]) _

theorem mem_keys_complete {arch : Architecture} {name : String} :
    name ∈ (Move.complete arch ∅).keys ↔ name ∈ arch.components := by
  unfold Move.complete
  rw [mem_keys_foldl]
  simp [values]

end Mapping

namespace Move

open Circuit (Step)

variable {arch : Architecture} {t last : Tracker} {ss made : List Step} {existing : Existing}
  {restores : Bool} {c given : Circuit} {m : Option Mapping}

/-- All steps act on components of a chip. -/
def Known (architecture : Architecture) (steps : List Step) : Prop :=
  ∀ step ∈ steps, ∀ name ∈ step.locus, name ∈ architecture.components

theorem known_append {others : List Step} :
    Known arch (ss ++ others) ↔ Known arch ss ∧ Known arch others := by
  simp only [Known, forall_mem_append]

section Components

open Tracker

/-- Realisations bring in no components but those of loci of the chip. -/
theorem known_of_realisations (star : arch.IsStar) (tracks : Tracks arch t)
    (realisations : Realisations arch t ss made last) (known : Known arch ss) :
    Known arch made :=
  realisations.forall_mem tracks (fun _ _ => star.components _ _) (fun s mem _ => known s mem)
    fun _ _ resolves => star.components _ _ resolves.gated

theorem known_of_realised (star : arch.IsStar) (tracks : Tracks arch t)
    (returned : Returns (realised arch restores ss) t made last)
    (known : Known arch ss) : Known arch made := by
  cases restores with
  | false =>
    obtain ⟨inside, middle, first, same⟩ := returns_bind_iff.mp returned
    obtain ⟨rfl, rfl⟩ := returns_pure_iff.mp same
    exact known_of_realisations star tracks (Tracking.realisations_of_returns tracks first) known
  | true =>
    obtain ⟨inside, middle, closing, realisations, closes, rfl, -⟩ := Tracking.realised_cases tracks returned
    exact known_append.mpr ⟨known_of_realisations star tracks realisations known,
      (realisations.tracks tracks).forall_mem_shifts closes fun _ _ => star.components _ _⟩

/-- The tracker of a star can always be made. -/
theorem ofArchitecture_of_isStar (star : arch.IsStar) : ∃ t, ofArchitecture arch = .ok t := by
  refine ⟨_, ofArchitecture_eq_ok_iff.mpr ⟨⟨?_, ?_⟩, rfl⟩⟩
  · intro locus offered
    obtain ⟨first, second, located, q⟩ := star.cz locus offered
    exact ⟨first, second, located, star.apart first q⟩
  · intro locus offered
    obtain ⟨q, res, located, mover, resonant⟩ := star.move locus offered
    exact ⟨q, res, located, star.apart q mover, resonant⟩

end Components

theorem checkExisting_eq_ok_iff : checkExisting arch existing ss = .ok () ↔
      (existing = .keep → arch.checkMoves none .strict true ss = .ok ()) := by
  unfold checkExisting
  by_cases keep : existing = .keep
  · cases checked : arch.checkMoves none .strict true ss with
    | ok done => simp
    | error fault => simp [keep]
  · simp [keep]

/-- The insertion of moves, stage by stage. -/
theorem insert_eq (supported : arch.gates.contains "move" = true)
    (existing : Existing) (m : Option Mapping) (restores : Bool) (c : Circuit) :
    insert arch existing m restores c = (do
      let names := complete arch (m.getD ∅) let t ← Tracker.ofArchitecture arch
      let given ← prepared existing c
      let ss ← names.steps given.steps
      checkExisting arch existing ss
      let made ← (runFrom (realised arch restores ss) t).1
      return ({ given with steps := ← names.inverse.steps made }, m.map fun _ => names)) := by
  unfold insert
  simp only [supported, Bool.not_true, Bool.false_eq_true, if_false]
  rfl

/-- The insertion of moves without a mapping: the steps of the prepared circuit are realised from an empty tracker.
Names of components play no role, except that all of them have to be there. -/
theorem insert_eq_ok_iff (supported : arch.gates.contains "move" = true) {restores : Bool} {c made : Circuit}
    {m : Option Mapping} :
    insert arch existing none restores c = .ok (made, m) ↔
      ∃ t given ss last, Tracker.ofArchitecture arch = .ok t ∧
        prepared existing c = .ok given ∧ Known arch given.steps ∧
        (existing = .keep → arch.checkMoves none .strict true given.steps = .ok ()) ∧
        Returns (realised arch restores given.steps) t ss last ∧ Known arch ss ∧
        ({ given with steps := ss } : Circuit) = made ∧ none = m := by
  have identity := Mapping.isIdentity_complete arch
  have inverse : Mapping.IsIdentity (complete arch ∅).inverse := by
    rw [Mapping.inverse_eq_foldl identity]
    exact Mapping.isIdentity_foldl (by simp [Mapping.IsIdentity]) _
  have inverseKeys : ∀ name, name ∈ (complete arch ∅).inverse.keys ↔ name ∈ arch.components := by
    intro name
    rw [Mapping.inverse_eq_foldl identity, Mapping.mem_keys_foldl]
    simp [Mapping.mem_keys_complete]
  simp only [insert_eq supported, Option.getD_none, Option.map_none, bind_eq_ok_iff, Mapping.steps_eq_ok_iff identity,
    Mapping.steps_eq_ok_iff inverse, Mapping.mem_keys_complete, inverseKeys,
    runFrom_fst_eq_ok_iff, pure_eq_ok_iff, Prod.mk.injEq]
  constructor
  · rintro ⟨t, tracked, given, prepares, _, ⟨known, rfl⟩, _, checked, ss, ⟨last, returned⟩, _,
      ⟨knownSteps, rfl⟩, rfl, rfl⟩
    exact ⟨t, given, ss, last, tracked, prepares, known, checkExisting_eq_ok_iff.mp checked, returned,
      knownSteps, rfl, rfl⟩
  · rintro ⟨t, given, ss, last, tracked, prepares, known, checked, returned, knownSteps, rfl, rfl⟩
    exact ⟨t, tracked, given, prepares, _, ⟨known, rfl⟩, ⟨⟩, checkExisting_eq_ok_iff.mpr checked, ss,
      ⟨last, returned⟩, _, ⟨knownSteps, rfl⟩, rfl, rfl⟩

/-- The course of an insertion: from empty resonators all steps are realised, and then all states go home. -/
structure Course (architecture : Architecture) (steps : List Step) (tracker middle last : Tracker)
    (inside closing : List Step) : Prop where
  tracks : tracker.Tracks architecture
  fresh : tracker.owner = id
  realisations : Realisations architecture tracker steps inside middle
  closes : Tracker.Shifts middle closing last
  home : last.owner = id
  known : Known architecture (inside ++ closing)

/-- An insertion that is not refused and sends all states home takes such a course. -/
theorem course_of_insert (supported : arch.gates.contains "move" = true) {c made : Circuit} {m : Option Mapping}
    (returned : insert arch existing none true c = .ok (made, m)) :
    ∃ t given middle last inside closing, Tracker.ofArchitecture arch = .ok t ∧
      prepared existing c = .ok given ∧
      (existing = .keep → arch.checkMoves none .strict true given.steps = .ok ()) ∧
      Course arch given.steps t middle last inside closing ∧
      made = { given with steps := inside ++ closing } := by
  obtain ⟨t, given, ss, last, tracked, prepares, -, checked, realised, known, rfl, -⟩ :=
    (insert_eq_ok_iff supported).mp returned
  obtain ⟨tracks, fresh⟩ := Tracker.tracks_of_ofArchitecture tracked
  obtain ⟨inside, middle, closing, realisations, closes, rfl, home⟩ := Tracking.realised_cases tracks realised
  exact ⟨t, given, middle, last, inside, closing, tracked, prepares, checked,
    ⟨tracks, funext fresh, realisations, closes, funext home, known⟩, rfl⟩

/-- The insertion into a circuit on a star is not refused if every step can be realised. -/
theorem insert_returns (star : arch.IsStar)
    {c given : Circuit} (restores : Bool) (prepares : prepared existing c = .ok given)
    (known : Known arch given.steps)
    (checked : existing = .keep → arch.checkMoves none .strict true given.steps = .ok ())
    (realisable : ∀ s ∈ given.steps, Tracking.Realisable arch s)
    (paired : ∀ s ∈ given.steps, Paired s) :
    ∃ made m, insert arch existing none restores c = .ok (made, m) := by
  obtain ⟨t, tracked⟩ := ofArchitecture_of_isStar star
  obtain ⟨tracks, -⟩ := Tracker.tracks_of_ofArchitecture tracked
  obtain ⟨ss, last, returned⟩ := Tracking.realised_returns tracks restores realisable paired
  exact ⟨_, _, (insert_eq_ok_iff star.supported).mpr ⟨t, given, ss, last, tracked, prepares, known, checked,
    returned, known_of_realised star tracks returned known, rfl, rfl⟩⟩

/-- There is nothing to prepare in a circuit without moves. -/
theorem prepared_of_moveFree {c : Circuit} (moveFree : ∀ s ∈ c.steps, s.name ≠ "move")
    (existing : Existing) : prepared existing c = .ok c := by
  have none : (c.steps.any fun s => s.name = "move") = false := by simpa using moveFree
  rw [prepared, hasMoves, none, Bool.and_false]
  rfl

section TwoQubitStar

open Tracker

/-- A chip of two qubits around a resonator, on which they act in different implementations. -/
def twoQubitStar : Architecture where
  qubits := ["QB1", "QB2"]
  resonators := ["CR1"]
  gates := ⟨[("cz", { implementations := ⟨[("x", [["QB1", "CR1"]]), ("y", [["QB2", "CR1"]])]⟩ }),
    ("move", { implementations := ⟨[("x", [["QB1", "CR1"], ["QB2", "CR1"]])]⟩ })]⟩

theorem offers_twoQubitStar_iff {name : String} {locus : List String} :
    twoQubitStar.Offers name locus ↔
      (name = "cz" ∨ name = "move") ∧ (locus = ["QB1", "CR1"] ∨ locus = ["QB2", "CR1"]) := by
  by_cases gate : name = "cz"
  · subst gate
    simp [Architecture.Offers, twoQubitStar, get?, Architecture.Gate.mem_loci_iff, values, exists_or,
      or_and_right]
  · by_cases move : name = "move"
    · subst move
      simp [Architecture.Offers, twoQubitStar, get?, Architecture.Gate.mem_loci_iff, values, lookup_cons]
    · have absent : twoQubitStar.gates.get? name = none :=
        get?_eq_none_iff.mpr (by simp [twoQubitStar, Table.keys, gate, move])
      simp [Architecture.Offers, absent, gate, move]

theorem isStar_twoQubitStar : twoQubitStar.IsStar where
  distinct := by decide
  supported := rfl
  apart := by decide
  components := by
    intro name locus offered
    rcases (offers_twoQubitStar_iff.mp offered).2 with rfl | rfl
    · simp [twoQubitStar]
    · simp [twoQubitStar]
  pairs := fun name first second offered => (offers_twoQubitStar_iff.mp offered).1
  cz := by
    intro locus offered
    rcases (offers_twoQubitStar_iff.mp offered).2 with rfl | rfl
    · exact ⟨_, _, rfl, by decide⟩
    · exact ⟨_, _, rfl, by decide⟩
  move := by
    intro locus offered
    rcases (offers_twoQubitStar_iff.mp offered).2 with rfl | rfl
    · exact ⟨_, _, rfl, by decide, by decide⟩
    · exact ⟨_, _, rfl, by decide, by decide⟩

/-- Loci are sorted when they are taken up. The loci of both operations are sorted already. -/
theorem loci_of_twoQubitStar {gate : Architecture.Gate}
    (listed : gate.implementations.values.flatten.eraseDups = [["QB1", "CR1"], ["QB2", "CR1"]]) :
    gate.loci = [["QB1", "CR1"], ["QB2", "CR1"]] := by
  rw [Architecture.Gate.loci, listed]
  exact mergeSort_of_pairwise (by decide)

/-- The tracker of this chip. -/
def twoQubitTracker : Tracker where
  moves := ⟨[("QB1", ["CR1"]), ("QB2", ["CR1"])]⟩
  gates := ⟨[("cz", ⟨[("QB1", ["CR1"]), ("QB2", ["CR1"])]⟩)]⟩
  owners := ⟨[("CR1", "CR1")]⟩

theorem ofArchitecture_twoQubitStar : ofArchitecture twoQubitStar = .ok twoQubitTracker := by
  have loci (name : String) (named : name = "cz" ∨ name = "move") :
      loci? twoQubitStar name = some ⟨[("QB1", ["CR1"]), ("QB2", ["CR1"])]⟩ := by
    rcases named with rfl | rfl
    all_goals
      change some (Partners.collect Prod.mk ∅ (Architecture.Gate.loci _)) = _
      rw [loci_of_twoQubitStar rfl]
      rfl
  obtain ⟨t, tracked⟩ := ofArchitecture_of_isStar isStar_twoQubitStar
  obtain ⟨-, rfl⟩ := ofArchitecture_eq_ok_iff.mp tracked
  rw [tracked, taken, loci "cz" (.inl rfl), loci "move" (.inr rfl)]
  rfl

/-- A `cz` between the two qubits is not native to this chip, but it can be performed through the resonator. -/
theorem realisable_twoQubitStar {s : Step} (named : s.name = "cz") (located : s.locus = ["QB1", "QB2"]) :
    twoQubitStar.checkStep none s ≠ .ok () ∧ Tracking.Realisable twoQubitStar s := by
  constructor
  · intro accepted
    obtain ⟨locus, offered, reordered⟩ := Architecture.offers_of_checkStep_cz named accepted
    rw [located] at reordered
    rcases (offers_twoQubitStar_iff.mp offered).2 with rfl | rfl
    · exact absurd reordered (by decide)
    · exact absurd reordered (by decide)
  · refine .inr ⟨by rw [located]; decide, ⟨"QB1", "QB2", "CR1"⟩, named, .inl located, ?_, ?_⟩
    · exact offers_twoQubitStar_iff.mpr ⟨.inl rfl, .inl rfl⟩
    · exact offers_twoQubitStar_iff.mpr ⟨.inr rfl, .inr rfl⟩

/-- A `cz` on two components. -/
def gating (first second : String) : Step := { name := "cz", locus := [first, second] }

/-- A circuit of one `cz` between the two qubits, which may ask for an implementation. -/
def pairCircuit (implementation : Option String) : Circuit where
  name := "pair"
  steps := [{ gating "QB1" "QB2" with implementation }]

theorem insert_pairCircuit (existing : Existing) (impl : Option String) :
    ∃ made m, insert twoQubitStar existing none true (pairCircuit impl) = .ok (made, m) := by
  have moveFree : ∀ s ∈ (pairCircuit impl).steps, s.name ≠ "move" := by simp [pairCircuit, gating]
  refine insert_returns isStar_twoQubitStar true (prepared_of_moveFree moveFree existing) ?_ (fun _ => rfl) ?_ ?_
  · simp [Known, pairCircuit, gating, twoQubitStar]
  · exact forall_mem_singleton.mpr (realisable_twoQubitStar rfl rfl).2
  · simp [Paired, pairCircuit, gating]

end TwoQubitStar

end Move

end Transmon
