import Mathlib.Data.List.Induction
import Transmon.Moments.Device
import Transmon.Proofs.Basic

/-!
# Feedback

Steps are wired in one pass: a table of keys tells where each measurement stands, and a conditional step writes to the
measurement it waits for.
-/

namespace Transmon

open List

/-- The exact value of a number. -/
def Number.rat : Number → Rat
  | .int n => n
  | .float x => let p := Decimal.parts x; mkRat (p.signed p.ratio.1) p.ratio.2

/-- Halving is exact for a number, and so is doubling its half, as with rationals. -/
def Number.Scales (x : Number) : Prop :=
  ∀ y, x.divide (.int 2) = .ok y → (float y).rat = x.rat / 2 ∧ (float y * .int 2).rat = (float y).rat * 2

namespace Moments

open Outcome Wiring

variable {c : Circuit} {op : Operation} {s m : Circuit.Step} {w w' : Wiring} {ss : List Circuit.Step}

/-- A measurement and a conditional step that waits for it name each other. -/
structure Feeds (m s : Circuit.Step) : Prop where
  named : m.name = "measure"
  located : ∃ q, m.locus = [q] ∧ s.arguments.lookup "feedback_qubit" = some (.text q)
  told : m.arguments.lookup "feedback_key" = some (.text (textOf s "feedback_key"))
  keyed : textOf m "key" = textOf s "feedback_key"

/-- Every conditional step is fed by an earlier measurement. -/
def Fed (ss : List Circuit.Step) : Prop :=
  ∀ (j : Nat) s, ss[j]? = some s → s.name = "cc_prx" → ∃ i < j, ∃ m, ss[i]? = some m ∧ Feeds m s

/-- Measurements have keys of their own. -/
def Apart (ss : List Circuit.Step) : Prop :=
  ∀ (i j : Nat) m n, ss[i]? = some m → ss[j]? = some n → m.name = "measure" → n.name = "measure" →
    textOf m "key" = textOf n "key" → i = j

theorem Fed.append (fed : Fed ss) (other : s.name ≠ "cc_prx") : Fed (ss ++ [s]) := by
  intro j t there waits
  obtain ⟨i, earlier, m, held, feeds⟩ := fed j t (by grind) waits
  exact ⟨i, earlier, m, by grind, feeds⟩

/-- What a gate keeps that is written in a step and read back. -/
inductive Kept (g back : Gate) : Prop
  | rotation (turns : g.kind.isRotation = true) (kind : back.kind = .phasedX)
      (powers : ∀ n ∈ ["exponent", "phase_exponent"], ∃ x y, g.number n = .ok x ∧ back.number n = .ok y ∧
        (x.Scales → y.rat = x.rat))
  | measurement (kind : g.kind = .measurement) (same : back.kind = .measurement)
      (key : back.setting "key" = g.setting "key")
  | whole (kind : g.kind = .cz) (same : back.kind = .cz) (one : back.setting "exponent" = .ok (.int 1))
      (power : ∃ v, g.setting "exponent" = .ok v ∧ v.equal (.int 1) = true)
  | plain (kind : g.kind = .move ∨ g.kind = .reset) (same : back.kind = g.kind)

/-- The qubit has two levels and is told by its name alone. -/
def Qubit.Plain (q : Qubit) : Prop := q = .named q.text

/-- The condition is on the last result with a key. -/
def Condition.Latest (k : Condition) : Prop := k = .key k.text

/-- What an operation keeps that is written as a step and read back: its texts always, its qubits and conditions if the
texts tell them. -/
structure Alike (op back : Operation) : Prop where
  components : back.components = op.components
  qubits : (∀ q ∈ op.qubits, q.Plain) → back.qubits = op.qubits
  awaited : back.conditions.map Condition.text = op.conditions.map Condition.text
  conditions : (∀ k ∈ op.conditions, k.Latest) → back.conditions = op.conditions
  gate : Kept op.gate back.gate

/-- One measurement and a rotation that waits for it. -/
def waiting : Circuit :=
  [[⟨⟨.measurement, [("key", .text "m")]⟩, ["QB1"], []⟩],
   [⟨⟨.x, [("exponent", .float 0.5), ("phase_exponent", .int 0)]⟩, ["QB2"], [.key "m"]⟩]]

/-- A measurement and a rotation on a qubit that waits for it, by an odd power too large for its half to be exact. -/
def turning (q : Qubit) (k : Condition) : Circuit :=
  [[⟨⟨.measurement, [("key", .text k.text)]⟩, ["QB1"], []⟩],
   [⟨⟨.phasedX, [("exponent", .int 9007199254740993), ("phase_exponent", .int 0)]⟩, [q], [k]⟩]]

end Moments

end Transmon
