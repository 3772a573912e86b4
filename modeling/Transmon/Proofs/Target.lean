import Transmon.Logical.Target
import Transmon.Proofs.Move.Simplified

/-!
# The pairs of a target

A target without resonators offers a `cz` where it is native to two qubits, and where one of them can be moved into a
resonator on which the `cz` acts with the other. It finds these pairs by itself, from the loci of `cz` and `move`. The
simplified architecture has the same pairs, as long as no implementation of the `cz` has the name it reserves.
-/

namespace Transmon.Architecture

open Outcome List

variable {architecture arch simple : Architecture} {movers : Move.Partners} {gate : Gate} {name first second : String}
  {locus : Names}

/-- A chip whose `cz` acts on two qubits or on a qubit and a resonator, and whose `move` is between a qubit and a
resonator. -/
structure IsCoupled (architecture : Architecture) : Prop where
  apart : ∀ name ∈ architecture.qubits, name ∉ architecture.resonators
  supported : architecture.gates.contains "move" = true
  cz : ∀ locus, architecture.Offers "cz" locus → ∃ first second, locus = [first, second] ∧
    first ∈ architecture.qubits ∧ second ∈ architecture.components
  move : ∀ locus, architecture.Offers "move" locus → ∃ qubit resonator, locus = [qubit, resonator] ∧
    qubit ∈ architecture.qubits ∧ resonator ∈ architecture.resonators

/-- The `cz` acts on the first qubit and a resonator into which the second one can be moved. -/
def Relayed (architecture : Architecture) (first second : String) : Prop :=
  second ≠ first ∧ ∃ resonator, architecture.Offers "cz" [first, resonator] ∧ architecture.Offers "move" [second, resonator]

/-- The `cz` is native to two qubits, or a move makes it possible. -/
def Reaches (architecture : Architecture) (first second : String) : Prop :=
  architecture.Offers "cz" [first, second] ∧ second ∈ architecture.qubits ∨ architecture.Relayed first second

theorem IsStar.isCoupled (star : arch.IsStar) : arch.IsCoupled where
  apart := star.apart
  supported := star.supported
  cz := by
    intro locus offered
    obtain ⟨first, second, rfl, q⟩ := star.cz locus offered
    exact ⟨first, second, rfl, q, star.components _ _ offered second (by simp)⟩
  move := star.move

theorem offers_iff_of_get? (found : arch.gates.get? name = some gate) :
    arch.Offers name locus ↔ locus ∈ gate.loci := by
  simp [Offers, found]

theorem simplifyLocus_pair (q : first ∈ arch.qubits) :
    simplifyLocus arch movers false name [first, second] = .ok (if second ∈ arch.resonators then
      (false, ((movers.of second).filter fun moved => moved ≠ first).map fun moved => [first, moved])
      else (true, [])) := by
  by_cases resonant : second ∈ arch.resonators
  · simp [simplifyLocus, q, resonant]
  · simp [simplifyLocus, q, resonant]

section Coupled

variable (coupled : arch.IsCoupled)

include coupled

theorem IsCoupled.cz_pair (offered : arch.Offers "cz" [first, second]) :
    first ∈ arch.qubits ∧ second ∈ arch.components := by
  simpa using coupled.cz _ offered

theorem IsCoupled.move_pair (offered : arch.Offers "move" [first, second]) :
    first ∈ arch.qubits ∧ second ∈ arch.resonators := by
  simpa using coupled.move _ offered

theorem offers_simplified_iff (found : arch.gates.get? "cz" = some gate)
    (unreserved : fictional ∉ gate.implementations.keys) (simplified : arch.simplified false = .ok simple) :
    simple.Offers "cz" locus ↔ ∃ first second, locus = [first, second] ∧ arch.Reaches first second := by
  unfold Architecture.simplified at simplified
  split at simplified
  · next empty =>
    obtain rfl := pure_eq_ok_iff.mp simplified
    have none (name : String) : name ∉ arch.resonators := by simp [isEmpty_iff.mp empty]
    constructor
    · intro offered
      obtain ⟨first, second, rfl, -, kind⟩ := coupled.cz _ offered
      exact ⟨first, second, rfl, .inl ⟨offered, (mem_components_iff.mp kind).resolve_right (none second)⟩⟩
    · rintro ⟨first, second, rfl, ⟨offered, -⟩ | ⟨-, res, -, moves⟩⟩
      · exact offered
      · exact absurd (coupled.move_pair moves).2 (none res)
  · obtain ⟨movers, moving, simplified⟩ := bind_eq_ok_iff.mp simplified
    obtain ⟨gates, changed, same⟩ := bind_eq_ok_iff.mp simplified
    obtain rfl := pure_eq_ok_iff.mp same
    obtain ⟨_, known, mover⟩ := movers_ok coupled.supported coupled.move
    obtain rfl := Except.ok.inj (known.symm.trans moving)
    have kept : (arch.gates.filter fun name _ => name ≠ "move" || false).get? "cz" = some gate := by
      rw [Table.get?_filter_key fun name => name ≠ "move" || false, found]
      rfl
    obtain ⟨made, reached⟩ : ∃ made, gates.get? "cz" = some made := by
      rw [← Option.isSome_iff_exists, Table.isSome_get?_iff, Table.keys_mapM changed, ← Table.isSome_get?_iff, kept]
      rfl
    obtain ⟨_, same, changed⟩ := Table.get?_of_mapM changed reached
    obtain rfl := Option.some.inj (kept.symm.trans same)
    rw [if_neg (by decide)] at changed
    refine (offers_iff_of_get? (by exact reached)).trans ⟨fun mem => ?_, ?_⟩
    · obtain ⟨source, part, ⟨listed, simplified⟩, stays⟩ := exists_of_mem_simplifyGate changed mem
      have offered := (offers_iff_of_get? found).mpr listed
      obtain ⟨first, second, rfl, q, kind⟩ := coupled.cz source offered
      rw [simplifyLocus_pair q] at simplified
      obtain rfl := Except.ok.inj simplified
      by_cases resonant : second ∈ arch.resonators
      · obtain ⟨moved, ⟨moves, ne⟩, rfl⟩ : ∃ moved, (arch.Offers "move" [moved, second] ∧ moved ≠ first) ∧
            [first, moved] = locus := by simpa [resonant, mover] using stays
        exact ⟨first, moved, rfl, .inr ⟨ne, second, offered, moves⟩⟩
      · obtain rfl : locus = [first, second] := by simpa [resonant] using stays
        exact ⟨first, second, rfl, .inl ⟨offered, (mem_components_iff.mp kind).resolve_right resonant⟩⟩
    · rintro ⟨first, second, rfl, ⟨offered, plain⟩ | ⟨ne, res, offered, moves⟩⟩
      · refine mem_simplifyGate changed unreserved ((offers_iff_of_get? found).mp offered)
          (simplifyLocus_pair (coupled.cz_pair offered).1) (.inl ?_)
        simp [coupled.apart _ plain]
      · refine mem_simplifyGate changed unreserved ((offers_iff_of_get? found).mp offered)
          (simplifyLocus_pair (coupled.cz_pair offered).1) (.inr ?_)
        simp [(coupled.move_pair moves).2, mover, moves, ne]

end Coupled

end Transmon.Architecture

namespace Transmon.Logical.Target

open Outcome List

variable {architecture simple : Architecture} {gate move : Architecture.Gate} {first second : String}

variable {names : Names} {loci : List Names}

theorem exists_position {name : String} (listed : name ∈ names) : ∃ i, (numbered names).get? name = some i := by
  rw [← Option.isSome_iff_exists, Table.isSome_get?_iff]
  simp [numbered, listed]

theorem position_inj {i : Nat} (one : (numbered names).get? first = some i)
    (two : (numbered names).get? second = some i) : first = second := by
  have one := mem_zipIdx_iff_getElem?.mp (Table.get?_ofList_mem one)
  have two := mem_zipIdx_iff_getElem?.mp (Table.get?_ofList_mem two)
  exact Option.some.inj (one.symm.trans two)

/-- Loci at numbered components are placed there. -/
theorem placeAll_ok (known : ∀ locus ∈ loci, ∀ name ∈ locus, name ∈ names) :
    ∃ placed, placeAll (numbered names) loci = .ok placed ∧ ∀ {first second i j}, (numbered names).get? first = some i →
      (numbered names).get? second = some j → ([i, j] ∈ placed ↔ [first, second] ∈ loci) := by
  obtain ⟨places, mapped⟩ : ∃ places, loci.mapM (place (numbered names)) = .ok places :=
    mapM_ok fun locus mem => mapM_ok fun name inside => by
      simpa using exists_position (known locus mem name inside)
  refine ⟨places.eraseDups, by rw [placeAll, mapped]; rfl, fun {first second i j} one two => ?_⟩
  have there (locus : Names) : place (numbered names) locus = .ok [i, j] ↔ locus = [first, second] := by
    simp only [place, mapM_eq_ok_iff, need_eq_ok_iff, forall₂_cons_right_iff, forall₂_nil_right_iff]
    grind [position_inj]
  rw [mem_eraseDups]
  constructor
  · intro listed
    obtain ⟨locus, mem, placed⟩ := exists_of_mem_mapM mapped listed
    exact (there locus).mp placed ▸ mem
  · intro mem
    obtain ⟨_, listed, placed⟩ := exists_of_forall₂ (mapM_eq_ok_iff.mp mapped) mem
    cases ((there _).mpr rfl).symm.trans placed
    exact listed

theorem ofArchitecture_ok (known : ∀ name ∈ architecture.qubits, name ∈ names)
    (found : architecture.gates.get? "cz" = some gate) {placed : List (List Nat)}
    (phased : phaseLoci architecture false true gate.loci = .ok loci)
    (placing : placeAll (numbered names) loci = .ok placed) :
    ∃ target, ofArchitecture architecture (numbered names) false = .ok target ∧ target.positions = numbered names ∧
      target.loci "cz" = placed := by
  have placed (loci : List Names) (inside : ∀ locus ∈ loci, ∀ name ∈ locus, name ∈ architecture.qubits) :
      ∃ placed, placeAll (numbered names) loci = .ok placed :=
    (placeAll_ok fun locus mem name listed => known name (inside locus mem name listed)).imp fun _ => And.left
  have offered (gate name : String) : ∃ made, offered architecture (numbered names) false gate name = .ok made := by
    unfold Target.offered
    cases architecture.gates.get? gate with
    | none => exact ⟨_, rfl⟩
    | some found =>
      obtain ⟨placed, placing⟩ := placed (found.loci.filter (isPlain architecture ·)) (by simp [isPlain])
      exact ⟨_, by simp only [Bool.false_or, placing]; rfl⟩
  obtain ⟨delay, one⟩ := placed (architecture.qubits.map fun name => [name]) (by simp)
  obtain ⟨measure, two⟩ := offered "measure" "measure"
  obtain ⟨rotation, three⟩ := offered "prx" "r"
  obtain ⟨reset, four⟩ := offered "cc_prx" "reset"
  have s {α β : Type} {first : Outcome α} {next : α → Outcome β} {value : α} {result : β} (done : first = .ok value)
      (rest : next value = .ok result) : first >>= next = .ok result := bind_eq_ok_iff.mpr ⟨value, done, rest⟩
  refine ⟨?_, s one (s two (s one (s three (s four (s rfl ?phase))))), ?_⟩
  case phase =>
    simp only [found, phased, ok_bind, placing]
    rfl
  refine ⟨rfl, ?_⟩
  simp only [Target.loci, Table.getD, Table.ofList, Table.insertMany, foldl_append, foldl_cons, foldl_nil,
    Table.get?_insert_self]
  rfl

/-- A target offers an operation at two components, in one of their orders. -/
def Joins (target : Target) (name first second : String) : Prop :=
  ∃ i j, target.positions.get? first = some i ∧ target.positions.get? second = some j ∧
    ([i, j] ∈ target.loci name ∨ [j, i] ∈ target.loci name)

section Coupled

variable (coupled : architecture.IsCoupled) (found : architecture.gates.get? "cz" = some gate)

include coupled found

theorem relays_ok (supported : architecture.gates.get? "move" = some move) :
    ∃ loci, relays architecture gate.loci move.loci = .ok loci ∧ ∀ locus, locus ∈ loci ↔
      ∃ first second, architecture.Relayed first second ∧ (locus = [second, first] ∨ locus = [first, second]) := by
  have pair (locus : Names) (mem : locus ∈ move.loci) := coupled.move locus ⟨move, supported, mem⟩
  obtain ⟨loci, reached⟩ : ∃ loci, relays architecture gate.loci move.loci = .ok loci := by
    refine ⟨_, bind_eq_ok_iff.mpr ⟨_, (mapM_ok fun locus mem => ?_).choose_spec, rfl⟩⟩
    obtain ⟨moved, res, rfl, -⟩ := pair locus mem
    exact ⟨_, rfl⟩
  refine ⟨loci, reached, fun locus => ?_⟩
  obtain ⟨groups, mapped, flat⟩ := bind_eq_ok_iff.mp reached
  obtain rfl := pure_eq_ok_iff.mp flat
  rw [mem_flatten]
  constructor
  · rintro ⟨group, listed, mem⟩
    obtain ⟨_, known, made⟩ := exists_of_mem_mapM mapped listed
    obtain ⟨moved, res, rfl, -, resonant⟩ := pair _ known
    obtain rfl := pure_eq_ok_iff.mp made
    obtain ⟨other, ⟨q, ⟨ne, -⟩, acts⟩, same⟩ : ∃ other, (other ∈ architecture.qubits ∧
        (other ≠ moved ∧ other ≠ res) ∧ ([other, res] ∈ gate.loci ∨ [res, other] ∈ gate.loci)) ∧
          (locus = [moved, other] ∨ locus = [other, moved]) := by simpa using mem
    have acts : architecture.Offers "cz" [other, res] := by
      refine ⟨gate, found, acts.resolve_right fun turned => ?_⟩
      exact coupled.apart _ (coupled.cz_pair ⟨gate, found, turned⟩).1 resonant
    exact ⟨other, moved, ⟨ne.symm, res, acts, move, supported, known⟩, same⟩
  · rintro ⟨first, second, ⟨ne, res, acts, moves⟩, same⟩
    have q := (coupled.cz_pair acts).1
    have apart : first ≠ res := fun same => coupled.apart _ q (same ▸ (coupled.move_pair moves).2)
    rw [Architecture.offers_iff_of_get? supported] at moves
    rw [Architecture.offers_iff_of_get? found] at acts
    obtain ⟨_, listed, made⟩ := exists_of_forall₂ (mapM_eq_ok_iff.mp mapped) moves
    obtain rfl := pure_eq_ok_iff.mp made
    exact ⟨_, listed, by simpa using ⟨first, ⟨q, ⟨ne.symm, apart⟩, .inl acts⟩, same⟩⟩

theorem phaseLoci_ok : ∃ loci, phaseLoci architecture false true gate.loci = .ok loci ∧
      (∀ locus ∈ loci, ∀ name ∈ locus, name ∈ architecture.qubits) ∧ ∀ first second,
        [first, second] ∈ loci ∨ [second, first] ∈ loci ↔
          architecture.Reaches first second ∨ architecture.Reaches second first := by
  obtain ⟨move, supported⟩ := Option.isSome_iff_exists.mp coupled.supported
  obtain ⟨loci, relayed, members⟩ := relays_ok coupled found supported
  have pairs : ¬gate.loci.any (·.length ≠ 2) = true := by
    simp only [any_eq_true, decide_eq_true_eq, not_exists, not_and, not_not]
    intro locus mem
    obtain ⟨_, _, rfl, -⟩ := coupled.cz locus ⟨gate, found, mem⟩
    rfl
  refine ⟨gate.loci.filter (isPlain architecture ·) ++ loci, ?_, ?_, fun first second => ?_⟩
  · simp only [phaseLoci, supported, if_neg pairs, relayed]
    rfl
  · simp only [mem_append, mem_filter, isPlain, all_eq_true, contains_eq_mem, decide_eq_true_eq, members]
    rintro locus (⟨-, plain⟩ | ⟨first, second, ⟨-, res, acts, moves⟩, rfl | rfl⟩)
    · exact plain
    · simp [(coupled.cz_pair acts).1, (coupled.move_pair moves).1]
    · simp [(coupled.cz_pair acts).1, (coupled.move_pair moves).1]
  · have native (a b : String) : [a, b] ∈ gate.loci.filter (isPlain architecture ·) ↔
        architecture.Offers "cz" [a, b] ∧ b ∈ architecture.qubits := by
      rw [Architecture.offers_iff_of_get? found]
      have first (mem : [a, b] ∈ gate.loci) := (coupled.cz_pair ⟨gate, found, mem⟩).1
      simp [isPlain]
      tauto
    simp only [mem_append, native, members, Architecture.Reaches]
    simp
    grind

/-- A target without resonators and the simplified architecture have the same pairs of qubits for a `cz`, as long as no
implementation of it has the reserved name. -/
theorem joins_iff_simplified (unreserved : Architecture.fictional ∉ gate.implementations.keys)
    (simplified : architecture.simplified false = .ok simple) :
    ∃ target,
      ofArchitecture architecture (numbered (architecture.qubits ++ architecture.resonators)) false = .ok target ∧
      ∀ first second, target.Joins "cz" first second ↔
        simple.Offers "cz" [first, second] ∨ simple.Offers "cz" [second, first] := by
  obtain ⟨loci, phased, plain, pairs⟩ := phaseLoci_ok coupled found
  obtain ⟨placed, placing, places⟩ := placeAll_ok fun locus member name inside =>
    List.mem_append_left architecture.resonators (plain locus member name inside)
  obtain ⟨target, made, positions, offers⟩ := ofArchitecture_ok (fun _ => List.mem_append_left _) found phased placing
  refine ⟨target, made, fun first second => ?_⟩
  have reaches (first second : String) : simple.Offers "cz" [first, second] ↔ architecture.Reaches first second := by
    simp [Architecture.offers_simplified_iff coupled found unreserved simplified]
  rw [reaches, reaches, ← pairs, Joins, positions, offers]
  constructor
  · rintro ⟨i, j, one, two, listed⟩
    rwa [places one two, places two one] at listed
  · intro member
    have inside : first ∈ architecture.qubits ∧ second ∈ architecture.qubits := by
      rcases member with member | member
      · simpa using plain _ member
      · simpa [and_comm] using plain _ member
    obtain ⟨i, one⟩ := exists_position (List.mem_append_left architecture.resonators inside.1)
    obtain ⟨j, two⟩ := exists_position (List.mem_append_left architecture.resonators inside.2)
    exact ⟨i, j, one, two, by rwa [places one two, places two one]⟩

end Coupled

/-- Two qubits that are only connected through a resonator are a pair of the target. -/
theorem joins_twoQubitStar : ∃ target,
    ofArchitecture Move.twoQubitStar (numbered ["QB1", "QB2", "CR1"]) false = .ok target ∧
    target.Joins "cz" "QB1" "QB2" := by
  obtain ⟨target, made, joins⟩ := joins_iff_simplified Move.isStar_twoQubitStar.isCoupled rfl (by decide)
    Move.simplified_twoQubitStar
  refine ⟨target, made, (joins _ _).mpr (.inl ⟨_, rfl, ?_⟩)⟩
  exact Architecture.Gate.mem_loci_iff.mpr ⟨_, .tail _ (.tail _ List.mem_cons_self), List.mem_cons_self⟩

/-!
Layouts.
-/

/-- An operation whose name the architecture does not have adds no demand. -/
theorem foldlM_add_filter {known : Table String Places} {name : String} (absent : known.get? name = none) (width : Nat)
    (operations : List (Operation Nat)) (demands : Demands) :
    (operations.filter (·.name ≠ name)).foldlM (Demands.add known width) demands =
      operations.foldlM (Demands.add known width) demands := by
  induction operations generalizing demands with
  | nil => rfl
  | cons operation rest ih =>
    by_cases same : operation.name = name
    · have still : Demands.add known width demands operation = .ok demands := by simp [Demands.add, same, absent]
      rw [filter_cons_of_neg (by simp [same]), ih, foldlM_cons, still, Outcome.ok_bind]
    · rw [filter_cons_of_pos (by simp [same])]
      simp only [foldlM_cons, ih]

/-- The layout of a circuit is that of the circuit without the operations whose name the architecture does not have,
such as the rotations, which it has under another name. -/
theorem layout_filter {target : Target} {name : String} (absent : target.architecture.gates.get? name = none)
    (circuit : Circuit) :
    target.layout { circuit with operations := circuit.operations.filter (·.name ≠ name) } = target.layout circuit := by
  unfold layout
  congr 1
  funext _
  cases mapped : target.architecture.gates.mapM fun _ gate => places target.architecture gate with
  | error fault => rfl
  | ok known =>
    have unknown : known.get? name = none := by
      rwa [Table.get?_eq_none_iff, Table.keys_mapM mapped, ← Table.get?_eq_none_iff]
    simp only [Outcome.ok_bind, foldlM_add_filter unknown]

/-- A star with two qubits, of which only the second is calibrated for rotations. -/
def halfTurned : Target where
  architecture :=
    let gate (loci : List Names) : Architecture.Gate := ⟨⟨[("x", loci)]⟩, "x", ∅⟩
    { qubits := ["QB1", "QB2"], resonators := ["CR1"]
      gates := ⟨[("prx", gate [["QB2"]]), ("measure", gate [["QB1"], ["QB2"]]),
        ("cz", gate [["QB1", "CR1"], ["QB2", "CR1"]]), ("move", gate [["QB1", "CR1"], ["QB2", "CR1"]])]⟩ }
  positions := numbered ["QB1", "QB2", "CR1"]
  hasResonators := true
  hasRelays := false
  offers := ⟨[("delay", [[0], [1]]), ("measure", [[0], [1]]), ("id", [[0], [1], [2]]), ("r", [[1]]),
    ("move", [[0, 2], [1, 2]]), ("cz", [[0, 2], [1, 2]])]⟩

/-- A rotation is laid out where only readout is calibrated. -/
theorem layout_rotation : halfTurned.layout
    { width := 1, operations := [{ name := "r", wires := [0] }, { name := "measure", wires := [0] }] } = .ok [(0, 0)] :=
  (layout_filter (show halfTurned.architecture.gates.get? "r" = none from rfl) _).symm.trans (by decide +kernel)

end Transmon.Logical.Target
