import Transmon.Proofs.Move.Meaning

/-!
# What the simplified architecture promises

The simplified architecture of a star has no resonators. It offers the loci that are native to the chip and act on
qubits only, and a `cz` between two qubits that a move makes possible. A circuit that it accepts can always be brought
to the chip, whatever is done with moves and whether states go home at the end.
-/

namespace Transmon.Architecture

open Outcome List Table

variable {architecture arch simple : Architecture} {movers : Move.Partners} {name : String} {locus : List String}

/-- The movers are the qubits that can be moved into each resonator. -/
theorem movers_ok (supported : arch.gates.contains "move" = true)
    (move : ∀ locus, arch.Offers "move" locus → ∃ q res, locus = [q, res] ∧
      q ∈ arch.qubits ∧ res ∈ arch.resonators) :
    ∃ movers, arch.movers = .ok movers ∧
      ∀ q res, q ∈ movers.of res ↔ arch.Offers "move" [q, res] := by
  obtain ⟨gate, found⟩ := Option.isSome_iff_exists.mp supported
  have formed : ∀ locus ∈ gate.loci, ∃ q res, locus = [q, res] ∧
      (q ∈ arch.qubits ∧ res ∈ arch.resonators) :=
    fun locus mem => move locus ⟨gate, found, mem⟩
  refine ⟨Move.Partners.collect (fun q res => (res, q)) ∅ gate.loci, ?_, ?_⟩
  · unfold movers
    simp only [found]
    refine (Move.Partners.foldlM_eq_ok_iff
      (fun q res => q ∈ arch.qubits ∧ res ∈ arch.resonators) _ ?_).mpr ⟨formed, rfl⟩
    intro ps locus result
    split
    · next q res =>
      by_cases form : q ∈ arch.qubits ∧ res ∈ arch.resonators
      · simp [form]
      · have refused : q ∉ arch.qubits ∨ res ∉ arch.resonators := by tauto
        simp [form, refused, map_eq_ok_iff]
    · next noPair =>
      refine ⟨fun passed => by simp at passed, ?_⟩
      rintro ⟨q, res, rfl, -⟩
      exact (noPair q res rfl).elim
  · intro q res
    rw [Move.Partners.mem_of_collect]
    constructor
    · rintro (impossible | ⟨_, _, mem, same⟩)
      · simp at impossible
      · obtain ⟨rfl, rfl⟩ := Prod.mk.inj same
        exact ⟨gate, found, mem⟩
    · rintro ⟨other, same, mem⟩
      obtain rfl : gate = other := Option.some.inj (found.symm.trans same)
      exact .inr ⟨q, res, mem, rfl⟩

theorem simplifyLocus_ok (q : ∀ first second, locus = [first, second] → first ∈ arch.qubits) :
    ∃ part, simplifyLocus arch movers false name locus = .ok part := by
  unfold simplifyLocus
  split
  · next first second =>
    by_cases resonant : second ∈ arch.resonators
    · exact ⟨_, by simp [q first second rfl, resonant]; rfl⟩
    · exact ⟨_, by simp [q first second rfl, resonant]; rfl⟩
  · exact ⟨_, rfl⟩

variable {part : Bool × List (List String)}

/-- A pair that is made of a locus has a qubit that can be moved in the place of a resonator. -/
theorem locus_of_made (simplified : simplifyLocus arch movers false name locus = .ok part)
    {made : List String} (mem : made ∈ part.2) :
    ∃ first res moved, locus = [first, res] ∧ moved ∈ movers.of res ∧ made = [first, moved] := by
  unfold simplifyLocus at simplified
  split at simplified
  · next first second =>
    by_cases q : first ∈ arch.qubits
    · by_cases resonant : second ∈ arch.resonators
      · obtain rfl := by simpa [q, resonant] using simplified
        obtain ⟨moved, listed, rfl⟩ := mem_map.mp mem
        exact ⟨first, second, moved, rfl, mem_of_mem_filter listed, rfl⟩
      · obtain rfl := by simpa [q, resonant] using simplified
        simp at mem
    · simp [q, bind_eq_ok_iff] at simplified
  · obtain rfl := pure_eq_ok_iff.mp simplified
    simp at mem

variable {gate made : Gate} {parts : Table String (List (List String × Bool × List (List String)))}

theorem simplifyGate_ok (q : ∀ first second, [first, second] ∈ gate.loci → first ∈ arch.qubits) :
    ∃ made, simplifyGate arch movers false name gate = .ok made := by
  unfold simplifyGate
  obtain ⟨parts, split⟩ : ∃ parts, (gate.implementations.mapM fun _ loci =>
      loci.mapM fun locus => do
        return (locus, ← simplifyLocus arch movers false name locus)) = .ok parts := by
    refine mapM_ok fun e stored => mapM_ok fun locus mem => ?_
    have known : locus ∈ gate.loci := Gate.mem_loci_iff.mpr ⟨_, mem_map_of_mem stored, mem⟩
    obtain ⟨part, simplified⟩ : ∃ part, simplifyLocus arch movers false name locus = .ok part :=
      simplifyLocus_ok fun first second located => q first second (located ▸ known)
    exact ⟨_, by rw [simplified]; rfl⟩
  exact ⟨_, by rw [split]; rfl⟩

theorem mem_parts_iff (split : (gate.implementations.mapM fun _ loci => loci.mapM fun locus => do
    return (locus, ← simplifyLocus arch movers false name locus)) = .ok parts) :
    (locus, part) ∈ parts.values.flatten ↔
      locus ∈ gate.loci ∧ simplifyLocus arch movers false name locus = .ok part := by
  rw [mem_flatten]
  constructor
  · rintro ⟨_, listed, inside⟩
    obtain ⟨⟨key, loci⟩, stored, rfl⟩ := mem_map.mp listed
    obtain ⟨old, known, reached⟩ := exists_of_mem_mapM split stored
    obtain ⟨locus, mem, found⟩ := exists_of_mem_mapM reached inside
    obtain ⟨part, simplified, same⟩ := map_eq_ok_iff.mp found
    obtain ⟨rfl, rfl⟩ := Prod.mk.inj same
    exact ⟨Gate.mem_loci_iff.mpr ⟨_, mem_map_of_mem known, mem⟩, simplified⟩
  · rintro ⟨known, simplified⟩
    obtain ⟨_, listed, mem⟩ := Gate.mem_loci_iff.mp known
    obtain ⟨e, stored, rfl⟩ := mem_map.mp listed
    obtain ⟨made, kept, -, reached⟩ := exists_of_forall₂ (mapM_eq_ok_iff.mp split) stored
    obtain ⟨_, inside, found⟩ := exists_of_forall₂ (mapM_eq_ok_iff.mp reached) mem
    rw [simplified] at found
    obtain rfl := pure_eq_ok_iff.mp found
    exact ⟨_, mem_map_of_mem kept, inside⟩

/-- A locus stays, or is made of one of the operation. -/
theorem stays_or_made_iff : ((∃ loci ∈ (parts.map fun _ loci => (loci.filter fun e => e.2.1).map Prod.fst).values,
    locus ∈ loci) ∨ locus ∈ (parts.values.flatten.flatMap fun e => e.2.2).eraseDups) ↔
      ∃ source part, (source, part) ∈ parts.values.flatten ∧ (part.1 = true ∧ locus = source ∨ locus ∈ part.2) := by
  simp [Table.values, Table.map]
  grind

theorem exists_of_mem_simplifyGate (simplified : simplifyGate arch movers false name gate = .ok made)
    (mem : locus ∈ made.loci) : ∃ source part, (source ∈ gate.loci ∧
      simplifyLocus arch movers false name source = .ok part) ∧
        (part.1 = true ∧ locus = source ∨ locus ∈ part.2) := by
  obtain ⟨parts, split, same⟩ := bind_eq_ok_iff.mp simplified
  obtain rfl := pure_eq_ok_iff.mp same
  simp only [← mem_parts_iff split]
  refine stays_or_made_iff.mp ?_
  obtain ⟨_, listed, located⟩ := Gate.mem_loci_iff.mp mem
  dsimp only at listed
  split at listed
  · exact .inl ⟨_, listed, located⟩
  · obtain ⟨e, stored, rfl⟩ := mem_map.mp listed
    rcases mem_entries_insert stored with rfl | kept
    · exact .inr located
    · exact .inl ⟨_, mem_map_of_mem kept, located⟩

/-- What is made has a name of its own, so nothing that stays is lost if no implementation has this name. -/
theorem mem_simplifyGate (simplified : simplifyGate arch movers false name gate = .ok made)
    (unreserved : fictional ∉ gate.implementations.keys) {source : List String} (known : source ∈ gate.loci)
    (reached : simplifyLocus arch movers false name source = .ok part)
    (stays : part.1 = true ∧ locus = source ∨ locus ∈ part.2) : locus ∈ made.loci := by
  obtain ⟨parts, split, same⟩ := bind_eq_ok_iff.mp simplified
  obtain rfl := pure_eq_ok_iff.mp same
  have absent : fictional ∉ (parts.map fun _ loci => (loci.filter fun e => e.2.1).map Prod.fst).keys := by
    rwa [keys_map, keys_mapM split]
  have found := stays_or_made_iff.mpr ⟨source, part, (mem_parts_iff split).mpr ⟨known, reached⟩, stays⟩
  rw [Gate.mem_loci_iff]
  dsimp only
  split
  · next empty => exact found.resolve_right (by simp [isEmpty_iff.mp empty])
  · simpa [Table.values, Table.insert, Table.put_of_not_mem _ absent, or_and_right, exists_or] using found

/-- An architecture without resonators that offers only what is native to a chip, and a `cz` between two qubits of which
one can be moved into a resonator on which the other can act. -/
structure Abstracts (simple architecture : Architecture) : Prop where
  qubits : simple.qubits = architecture.qubits
  resonators : simple.resonators = []
  gates : ∀ name made, simple.gates.get? name = some made → name ≠ "move" ∧
    ∃ gate, architecture.gates.get? name = some gate ∧ ∀ locus ∈ made.loci, locus ∈ gate.loci ∨
      name = "cz" ∧ ∃ first resonator moved, architecture.Offers "cz" [first, resonator] ∧
        architecture.Offers "move" [moved, resonator] ∧ locus = [first, moved]

/-- The simplified architecture of a star can always be made. -/
theorem simplified_of_isStar (star : arch.IsStar) (resonant : arch.resonators ≠ []) :
    ∃ simple, arch.simplified false = .ok simple ∧ simple.Abstracts arch := by
  obtain ⟨movers, moving, mover⟩ := movers_ok star.supported star.move
  have nonempty : arch.resonators.isEmpty = false := by simpa using resonant
  have first_mem {name : String} {gate : Gate} (named : name ≠ "move") (found : arch.gates.get? name = some gate) :
      ∀ first second, [first, second] ∈ gate.loci → name = "cz" ∧ first ∈ arch.qubits := by
    intro first second mem
    obtain rfl := (star.pairs name first second ⟨gate, found, mem⟩).resolve_right named
    obtain ⟨_, _, same, q⟩ := star.cz _ ⟨gate, found, mem⟩
    obtain ⟨rfl, -⟩ : first = _ ∧ second = _ := by simpa using same
    exact ⟨rfl, q⟩
  obtain ⟨gates, changed⟩ : ∃ gates, ((arch.gates.filter fun name _ => name ≠ "move" || false).mapM
      fun name gate => if name = "move" then return gate else simplifyGate arch movers false name gate :
        Outcome (Table String Gate)) = .ok gates := by
    refine mapM_ok fun e stored => ?_
    obtain ⟨listed, kept⟩ := mem_filter.mp stored
    have named : e.1 ≠ "move" := by simpa using kept
    have found := get?_of_mem_entries star.distinct listed
    obtain ⟨made, simplified⟩ : ∃ made, simplifyGate arch movers false e.1 e.2 = .ok made :=
      simplifyGate_ok fun first second mem => (first_mem named found first second mem).2
    exact ⟨made, by rw [if_neg named, simplified]⟩
  refine ⟨{ arch with resonators := [], gates }, ?_, rfl, rfl, ?_⟩
  · simp only [simplified, nonempty, Bool.false_eq_true, if_false, moving, ok_bind, changed]
    rfl
  · intro name made listed
    obtain ⟨gate, kept, reached⟩ := get?_of_mapM changed listed
    rw [get?_filter_key fun name => name ≠ "move" || false] at kept
    split at kept
    · next permitted =>
      have named : name ≠ "move" := by simpa using permitted
      rw [if_neg named] at reached
      refine ⟨named, gate, kept, fun locus mem => ?_⟩
      obtain ⟨source, part, ⟨offered, reached⟩, ⟨-, rfl⟩ | new⟩ := exists_of_mem_simplifyGate reached mem
      · exact .inl offered
      · obtain ⟨first, res, moved, rfl, movable, located⟩ := locus_of_made reached new
        obtain ⟨rfl, -⟩ := first_mem named kept first res offered
        exact .inr ⟨rfl, first, res, moved, ⟨gate, kept, offered⟩, (mover moved res).mp movable, located⟩
    · cases kept

namespace Abstracts

variable {s : Circuit.Step}

/-- What is offered at a pair is native, or a `cz` through a resonator. -/
theorem offers_cases (abstracts : simple.Abstracts arch) (offered : simple.Offers name locus) :
    arch.Offers name locus ∨ ∃ first res moved, arch.Offers "cz" [first, res] ∧
      arch.Offers "move" [moved, res] ∧ locus = [first, moved] := by
  obtain ⟨made, listed, mem⟩ := offered
  obtain ⟨-, gate, found, origin⟩ := abstracts.gates name made listed
  exact (origin locus mem).imp (fun native => ⟨gate, found, native⟩) And.right

/-- A step that asks for no implementation and is accepted without resonators is accepted by the chip, or it is a `cz`
that can be performed through a resonator. -/
theorem checkStep_cases (abstracts : simple.Abstracts arch) (unspecified : s.implementation = none)
    (accepted : simple.checkStep none s = .ok ()) :
    s.name ≠ "move" ∧ (arch.checkStep none s = .ok () ∨ s.name = "cz" ∧
      ∃ first res moved, arch.Offers "cz" [first, res] ∧
        arch.Offers "move" [moved, res] ∧ [first, moved].Perm s.locus) := by
  obtain ⟨op, known, fits⟩ := checkStep_eq_ok_iff.mp accepted
  by_cases free : op.isFree = true
  · rw [if_pos free] at fits
    refine ⟨?_, .inl (checkStep_eq_ok_iff.mpr ⟨op, known, ?_⟩)⟩
    · intro named
      rw [named] at known
      cases known
      cases free
    · rw [if_pos free]
      intro name mem
      have component := mem_components_iff.mp (fits name mem)
      rw [abstracts.qubits, abstracts.resonators] at component
      exact mem_components_iff.mpr (.inl (component.resolve_right not_mem_nil))
  · rw [if_neg free] at fits
    obtain ⟨_, shown, permitted, fits⟩ := fits
    obtain ⟨made, listed, rfl⟩ := gate_of_allowed unspecified permitted
    obtain ⟨named, gate, found, origin⟩ := abstracts.gates _ _ listed
    refine ⟨named, ?_⟩
    by_cases gated : s.name = "cz"
    · obtain ⟨locus, offered, reordered⟩ := offers_of_checkStep_cz gated accepted
      rcases abstracts.offers_cases offered with native | ⟨first, res, moved, acts, moves, rfl⟩
      · exact .inl (checkStep_cz gated unspecified native reordered)
      · exact .inr ⟨gated, first, res, moved, acts, moves, reordered⟩
    · have native : ∀ locus ∈ made.loci, locus ∈ gate.loci :=
        fun locus mem => (origin locus mem).resolve_right fun other => gated other.1
      refine .inl (checkStep_eq_ok_iff.mpr ⟨op, known, ?_⟩)
      rw [if_neg free]
      exact ⟨gate.loci, _, allowed_of_unspecified unspecified found, fits.mono native⟩

end Abstracts

end Transmon.Architecture

namespace Transmon.Move

open Outcome List Table
open Circuit (Step)
open Architecture (IsStar Abstracts)

variable {architecture arch simple : Architecture} {s : Step}

/-- A `cz` that the chip accepts, or that can be performed through a resonator, acts on a pair of its components. -/
theorem realisable_of_simplified (star : arch.IsStar) (abstracts : simple.Abstracts arch)
    (unspecified : s.implementation = none) (accepted : simple.checkStep none s = .ok ()) :
    Tracking.Realisable arch s ∧ Paired s ∧ ∀ name ∈ s.locus, name ∈ arch.components := by
  obtain ⟨-, native | ⟨named, first, res, moved, acts, moves, reordered⟩⟩ :=
    abstracts.checkStep_cases unspecified accepted
  · obtain ⟨tracker, tracked⟩ := ofArchitecture_of_isStar star
    exact ⟨.inl native, paired_of_accepted (Tracker.tracks_of_ofArchitecture tracked).1 native,
      fun name mem => star.mem_components_of_checkStep native mem⟩
  · have standing : ∀ name ∈ [first, moved], name ∈ arch.qubits := by
      obtain ⟨_, _, sameActs, q⟩ := star.cz _ acts
      obtain ⟨_, _, sameMoves, mover, -⟩ := star.move _ moves
      obtain ⟨rfl, -⟩ : first = _ ∧ res = _ := by simpa using sameActs
      obtain ⟨rfl, -⟩ : moved = _ ∧ res = _ := by simpa using sameMoves
      simp [q, mover]
    have qubits : ∀ name ∈ s.locus, name ∈ arch.qubits :=
      fun name mem => standing name (reordered.mem_iff.mpr mem)
    have resolves : Resolution.Resolves arch s ⟨first, moved, res⟩ :=
      ⟨named, Architecture.eq_or_eq_of_pair_perm reordered, acts, moves⟩
    exact ⟨.inr ⟨fun name mem => star.apart name (qubits name mem), _, resolves⟩, resolves.paired,
      fun name mem => Architecture.mem_components_iff.mpr (.inl (qubits name mem))⟩

/-- The simplified architecture of a star promises only what the insertion of moves can deliver. It can be made; the
insertion is refused for no circuit that it accepts without asking for implementations; and a `cz` between two
components is accepted only if it is native to the chip, or one of the two can act on a resonator into which the other
can be moved. -/
theorem simplified_promises_kept (star : architecture.IsStar) (resonant : architecture.resonators ≠ []) :
    ∃ simple, architecture.simplified false = .ok simple ∧
      (∀ circuit : Circuit,
        (∀ step ∈ circuit.steps, step.implementation = none ∧ simple.checkStep none step = .ok ()) →
        ∀ existing restores, ∃ made mapping,
          insert architecture existing none restores circuit = .ok (made, mapping)) ∧
      ∀ (step : Step) (first second : String), step.name = "cz" → step.locus = [first, second] →
        simple.checkStep none step = .ok () →
        (∃ locus, architecture.Offers "cz" locus ∧ locus.Perm [first, second]) ∨
        ∃ resonator ∈ architecture.resonators,
          architecture.Offers "cz" [first, resonator] ∧ architecture.Offers "move" [second, resonator] ∨
          architecture.Offers "cz" [second, resonator] ∧ architecture.Offers "move" [first, resonator] := by
  obtain ⟨simple, simplified, abstracts⟩ := Architecture.simplified_of_isStar star resonant
  refine ⟨simple, simplified, ?_, ?_⟩
  · intro circuit accepted existing restores
    have each := fun step member =>
      realisable_of_simplified star abstracts (accepted step member).1 (accepted step member).2
    have moveFree : ∀ step ∈ circuit.steps, step.name ≠ "move" := fun step member =>
      (abstracts.checkStep_cases (accepted step member).1 (accepted step member).2).1
    have checked : architecture.checkMoves none .strict true circuit.steps = .ok () :=
      (checkMoves_strict_iff star.supported fun step member named => (moveFree step member named).elim).mpr
        (sandwiched_of_moveFree moveFree _)
    exact insert_returns star restores (prepared_of_moveFree moveFree existing)
      (fun step member => (each step member).2.2) (fun _ => checked) (fun step member => (each step member).1)
      (fun step member => (each step member).2.1)
  · intro step first second named located accepted
    obtain ⟨locus, offered, reordered⟩ := Architecture.offers_of_checkStep_cz named accepted
    rw [located] at reordered
    rcases abstracts.offers_cases offered with native | ⟨gate, resonator, moved, acts, moves, rfl⟩
    · exact .inl ⟨locus, native, reordered⟩
    · obtain ⟨_, _, same, -, present⟩ := star.move _ moves
      obtain ⟨-, rfl⟩ : moved = _ ∧ resonator = _ := by simpa using same
      refine .inr ⟨resonator, present, ?_⟩
      rcases Architecture.eq_or_eq_of_pair_perm reordered with same | same
      · obtain ⟨rfl, rfl⟩ : first = gate ∧ second = moved := by simpa using same
        exact .inl ⟨acts, moves⟩
      · obtain ⟨rfl, rfl⟩ : first = moved ∧ second = gate := by simpa using same
        exact .inr ⟨acts, moves⟩

/-- Two qubits that are only connected through a resonator get a `cz` between them, in both orders. -/
theorem simplified_twoQubitStar : twoQubitStar.simplified false = .ok { twoQubitStar with
    resonators := []
    gates := ⟨[("cz", { implementations :=
      ⟨[("x", []), ("y", []), ("__fictional", [["QB1", "QB2"], ["QB2", "QB1"]])]⟩ })]⟩ } := by
  have movers : twoQubitStar.movers = .ok ⟨[("CR1", ["QB1", "QB2"])]⟩ := by
    change (Architecture.Gate.loci _).foldlM _ ∅ = _
    rw [loci_of_twoQubitStar rfl]
    rfl
  rw [Architecture.simplified, movers]
  rfl

/-- The `cz` that only the resonator makes possible is promised, and the promise is kept for it. -/
theorem simplified_promise_kept_pairCircuit :
    ∃ simple, twoQubitStar.simplified false = .ok simple ∧
      (∀ step ∈ (pairCircuit none).steps, step.implementation = none ∧ simple.checkStep none step = .ok ()) ∧
      ∀ existing restores, ∃ made mapping,
        insert twoQubitStar existing none restores (pairCircuit none) = .ok (made, mapping) := by
  obtain ⟨simple, simplified, delivered, -⟩ := simplified_promises_kept isStar_twoQubitStar (by decide)
  have accepted : ∀ step ∈ (pairCircuit none).steps,
      step.implementation = none ∧ simple.checkStep none step = .ok () := by
    cases simplified_twoQubitStar.symm.trans simplified
    refine List.forall_mem_singleton.mpr ⟨rfl, Architecture.checkStep_cz rfl rfl ?_ (List.Perm.refl _)⟩
    exact ⟨_, rfl, Architecture.Gate.mem_loci_iff.mpr ⟨_, .tail _ (.tail _ List.mem_cons_self), List.mem_cons_self⟩⟩
  exact ⟨simple, simplified, accepted, delivered (pairCircuit none) accepted⟩

/-- A star with a gate at a place that is none of its components. -/
def strayStar : Architecture :=
  { twoQubitStar with gates := ⟨twoQubitStar.gates.entries ++ [("prx", { implementations := ⟨[("x", [[""]])]⟩ })]⟩ }

def strayCircuit : Circuit where
  name := "stray"
  steps := [{ name := "prx", locus := [""], arguments := [("angle_t", .float 0.25), ("phase_t", .float 0.125)] }]

/-- A gate at a place that is no component of the chip stays in the simplified architecture, which accepts it, but the
insertion of moves does not know the place. -/
theorem simplified_promise_broken_strayCircuit :
    (∃ simple, strayStar.simplified false = .ok simple ∧
      ∀ step ∈ strayCircuit.steps, step.implementation = none ∧ simple.checkStep none step = .ok ()) ∧
    ∀ existing restores, insert strayStar existing none restores strayCircuit = .error (.bare .missing) := by
  constructor
  · have movers : strayStar.movers = .ok ⟨[("CR1", ["QB1", "QB2"])]⟩ := by
      change (Architecture.Gate.loci _).foldlM _ ∅ = _
      rw [loci_of_twoQubitStar rfl]
      rfl
    refine ⟨_, by rw [Architecture.simplified, movers]; rfl, fun step member => ?_⟩
    obtain rfl := List.mem_singleton.mp member
    have known : Circuit.Native.named? "prx" = some { name := "prx", arity := 1, required := Circuit.Native.angles } := rfl
    refine ⟨rfl, (Architecture.checkStep_iff_of_named known rfl).mpr
      ⟨_, _, Architecture.allowed_of_unspecified rfl rfl, ?_⟩⟩
    exact Architecture.Gate.mem_loci_iff.mpr ⟨_, List.mem_cons_self, List.mem_cons_self⟩
  · intro existing restores
    have unknown : (complete strayStar ∅).get? "" = none := by
      rw [Table.get?_eq_none_iff, Mapping.mem_keys_complete, Architecture.mem_components_iff]
      decide
    have stops : (complete strayStar ∅).steps strayCircuit.steps = .error (.bare .missing) := by
      simp [Mapping.steps, Mapping.resolve, strayCircuit, Table.need, unknown]
      rfl
    have kept : prepared existing strayCircuit = .ok strayCircuit := by cases existing <;> rfl
    change ((Tracker.ofArchitecture twoQubitStar).bind fun _ => (prepared existing strayCircuit).bind fun _ => _) = _
    rw [ofArchitecture_twoQubitStar, kept]
    change ((complete strayStar ∅).steps strayCircuit.steps).bind _ = _
    rw [stops]
    rfl

end Transmon.Move
