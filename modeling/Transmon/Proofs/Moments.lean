import Transmon.Moments.Device
import Transmon.Proofs.Move.Intervals

/-!
# Moves in moments

The check of a circuit in moments looks at the moves of one resonator at a time, and only at whether they pair up. A
circuit whose states are all brought back has such pairs, so this check asks for less than the check that follows
states.
-/

namespace Transmon.Moments.Device

open Outcome

variable {d : Device} {c : Circuit} {a : Architecture} {held final : Circuit.Occupation} {qs rs free : Names}

/-- The qubits that are moved into a resonator or out of it, one for each move. -/
def movers (res : String) (ss : List Circuit.Step) : Names :=
  ss.filterMap fun s => if s.name = "move" ∧ s.locus[1]? = some res then s.locus[0]? else none

/-- With the qubit whose state waits in the resonator put first, the qubits moved from then on pair up. -/
theorem pairUp_movers {res : String} {ss : List Circuit.Step} (vacant : final.get? res = none)
    (run : ss.foldlM (Architecture.moveStep qs rs free) held = .ok final) :
    pairUp ((held.get? res).toList ++ movers res ss) = true := by
  induction ss generalizing held with
  | nil =>
    obtain rfl := pure_eq_ok_iff.mp run
    simp [vacant, movers, pairUp]
  | cons s ss ih =>
    obtain ⟨next, passed, later⟩ := bind_eq_ok_iff.mp run
    have paired := ih later
    by_cases named : s.name = "move"
    · obtain ⟨q, r, located⟩ := Move.locus_of_moveStep named passed
      rcases eq_or_ne r res with rfl | other
      · have first : movers r (s :: ss) = q :: movers r ss := by simp [movers, named, located]
        rcases ((Move.moveStep_move_iff named located).mp passed).2 with ⟨empty, -, rfl⟩ | ⟨owned, rfl⟩
        · simpa [first, empty, Table.get?_insert] using paired
        · simpa [first, owned, Table.get?_erase, pairUp] using paired
      · have first : movers res (s :: ss) = movers res ss := by simp [movers, located, other]
        rcases ((Move.moveStep_move_iff named located).mp passed).2 with ⟨-, -, rfl⟩ | ⟨-, rfl⟩
        · simpa [first, Table.get?_insert, other.symm] using paired
        · simpa [first, Table.get?_erase, other.symm] using paired
    · obtain ⟨-, rfl⟩ := (Move.moveStep_other_iff named).mp passed
      simpa [movers, named] using paired

theorem step_writes {op : Operation} {s : Circuit.Step} (plain : op.isUnconditional = true)
    (written : step op = .ok s) :
    s.locus = op.components ∧ (s.name = "move" ↔ op.kind? = some .move) := by
  have kind : op.kind? = some op.gate.kind := if_pos plain
  simp only [step, plain, Bool.not_true, Bool.false_eq_true, if_false] at written
  split at written
  all_goals simp only [bind_eq_ok_iff, pure_eq_ok_iff, throw, throwThe, MonadExceptOf.throw, reduceCtorEq] at written
  all_goals grind [bind_eq_ok_iff, pure_eq_ok_iff]

theorem movers_of_mapM {res : String} {ops : List Operation} {ss : List Circuit.Step}
    (plain : ∀ op ∈ ops, op.isUnconditional = true) (written : ops.mapM step = .ok ss) :
    movers res ss = (ops.filter (·.kind? = some .move)).filterMap fun op =>
      if op.components[1]? = some res then op.components[0]? else none := by
  induction ops generalizing ss with
  | nil =>
    obtain rfl := pure_eq_ok_iff.mp written
    rfl
  | cons op ops ih =>
    simp only [List.mapM_cons, bind_eq_ok_iff, pure_eq_ok_iff] at written
    obtain ⟨s, one, ss, others, rfl⟩ := written
    obtain ⟨located, named⟩ := step_writes (plain op List.mem_cons_self) one
    have later := ih (fun op mem => plain op (.tail _ mem)) others
    unfold movers at later ⊢
    by_cases moved : op.kind? = some .move
    · simp [List.filterMap_cons, named.mpr moved, moved, located, later]
    · simp [mt named.mp moved, moved, later]

/-- What the check that follows states accepts, the check in moments accepts, if each operation and the keys pass it. -/
theorem checkCircuit_of_checkMoves {mode : Compiler.MoveValidation} {written : Transmon.Circuit}
    (supported : a.gates.contains "move" = true) (asked : mode ≠ .none)
    (each : ∀ op ∈ c.flatten, d.check op = .ok () ∧ d.checkMove op = .ok ()) (keys : checkKeys [] c.flatten = .ok ())
    (serialized : toCircuit c = .ok written) (accepted : a.checkMoves none mode true written.steps = .ok ()) :
    d.checkCircuit c = .ok () := by
  have plain : ∀ op ∈ c.flatten, op.isUnconditional = true := by
    intro op member
    have passed := (each op member).1
    unfold check at passed
    simpa using ((unless_eq_ok_iff (by simp)).mp passed).1
  have steps : c.flatten.mapM step = .ok written.steps := by
    simp only [toCircuit, bind_eq_ok_iff, pure_eq_ok_iff, List.all_eq_true.mpr plain, if_true] at serialized
    grind
  obtain ⟨final, run, vacant⟩ := Move.exists_run_isEmpty_iff.mpr ((Move.checkMoves_iff supported asked).mp accepted)
  have paired : ∀ res, pairUp ((c.flatten.filter (·.kind? = some .move)).filterMap fun op =>
      if op.components[1]? = some res then op.components[0]? else none) = true := by
    intro res
    rw [← movers_of_mapM plain steps]
    simpa using pairUp_movers (Table.isEmpty_iff_get?.mp vacant res) run
  unfold checkCircuit
  dsimp only
  rw [forIn_ok fun op member => by rw [(each op member).1]; rfl, ok_bind, keys, ok_bind,
    forIn_ok fun op member => by rw [(each op (List.mem_of_mem_filter member)).2]; rfl, ok_bind,
    forIn_ok fun res _ => by rw [paired res]; rfl, ok_bind]
  rfl

/-- A state that goes into a resonator and back. -/
theorem checkCircuit_returned : (⟨["QB1"], ["CR1"], [], [(.move, [["QB1", "CR1"]])], [.move], none⟩ : Device).checkCircuit
    [[⟨⟨.move, []⟩, ["QB1", "CR1"], []⟩], [⟨⟨.move, []⟩, ["QB1", "CR1"], []⟩]] = .ok () :=
  checkCircuit_of_checkMoves (a := Move.twoQubitStar) rfl (show Compiler.MoveValidation.allowRotations ≠ .none by decide)
    (by simp; constructor <;> rfl) rfl rfl rfl

end Transmon.Moments.Device
