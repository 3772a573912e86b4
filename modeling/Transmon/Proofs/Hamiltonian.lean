import Mathlib.Algebra.BigOperators.Group.Finset.Piecewise
import Mathlib.Algebra.BigOperators.Group.List.Basic
import Mathlib.Tactic.LinearCombination
import Mathlib.Tactic.Linarith
import Mathlib.Tactic.Ring
import Transmon.Problem.Quadratic

/-!
# A Hamiltonian and the problem it is made from

A quadratic problem over bits `x` has a spin form over spins `2 x - 1` with the same energies. The operators of a
circuit read a bit the other way around: they give 1 where it is 0. So the Hamiltonian with the coefficients of the spin
form values a bitstring as the problem values the bitstring with all bits flipped.
-/

namespace Transmon.Problem.Model

open List

variable {m : Model Nat Rat}

/-- What a coupling of bits adds to the field of a spin. -/
def share (v : Nat) (c : Nat × Nat × Rat) : Rat :=
  (if c.1 = v then c.2.2 / 4 else 0) + if c.2.1 = v then c.2.2 / 4 else 0

/-- The coefficients over spins of what is given over bits. -/
def spinForm (m : Model Nat Rat) : Model Nat Rat where
  fields := m.fields.map fun v bias => bias / 2 + (m.couplings.map (share v)).sum
  couplings := m.couplings.map fun c => (c.1, c.2.1, c.2.2 / 4)
  offset := m.offset + (m.fields.entries.map (·.2 / 2)).sum + (m.couplings.map (·.2.2 / 4)).sum

theorem energy_eq (m : Model Nat Rat) (x : Nat → Rat) : m.energy x = (m.fields.entries.map fun e => e.2 * x e.1).sum
    + (m.couplings.map fun c => c.2.2 * x c.1 * x c.2.1).sum + m.offset := by
  have total (items : List Rat) : Quantity.sum items = items.sum := sum_eq_foldl.symm
  rw [energy, total, total]

theorem sum_shares {keys : List Nat} {couplings : List (Nat × Nat × Rat)} (nodup : keys.Nodup)
    (known : ∀ c ∈ couplings, c.1 ∈ keys ∧ c.2.1 ∈ keys) (f : Nat → Rat) :
    (keys.map fun v => (couplings.map (share v)).sum * f v).sum
      = (couplings.map fun c => c.2.2 / 4 * (f c.1 + f c.2.1)).sum := by
  have part {u : Nat} (bias : Rat) (mem : u ∈ keys) :
      (keys.map fun v => (if u = v then bias else 0) * f v).sum = bias * f u := by
    rw [← sum_toFinset _ nodup]
    simp [ite_mul, mem]
  induction couplings with
  | nil => simp
  | cons c rest ih =>
    obtain ⟨⟨first, second⟩, known⟩ := forall_mem_cons.mp known
    have own : (keys.map fun v => share v c * f v).sum = c.2.2 / 4 * (f c.1 + f c.2.1) := by
      simp only [share, add_mul, sum_map_add, part _ first, part _ second]
      ring
    simp only [map_cons, sum_cons, add_mul, sum_map_add, own, ih known]

/-- A problem over bits and its spin form have the same energies. -/
theorem energy_spinForm (nodup : m.unknowns.Nodup) (known : ∀ c ∈ m.couplings, c.1 ∈ m.unknowns ∧ c.2.1 ∈ m.unknowns)
    (x : Nat → Rat) : m.spinForm.energy (fun v => 2 * x v - 1) = m.energy x := by
  have shares := sum_shares nodup known fun v => 2 * x v - 1
  simp only [unknowns, Table.keys, map_map, Function.comp_def] at shares
  have fields : (m.fields.entries.map fun e => e.2 / 2 * (2 * x e.1 - 1)).sum + (m.fields.entries.map (·.2 / 2)).sum
      = (m.fields.entries.map fun e => e.2 * x e.1).sum := by
    rw [← sum_map_add]
    exact congrArg _ (map_congr_left fun e _ => by ring)
  have pairs : (m.couplings.map fun c => c.2.2 / 4 * (2 * x c.1 - 1) * (2 * x c.2.1 - 1)).sum
      + (m.couplings.map fun c => c.2.2 / 4 * (2 * x c.1 - 1 + (2 * x c.2.1 - 1))).sum + (m.couplings.map (·.2.2 / 4)).sum
      = (m.couplings.map fun c => c.2.2 * x c.1 * x c.2.1).sum := by
    rw [← sum_map_add, ← sum_map_add]
    exact congrArg _ (map_congr_left fun c _ => by ring)
  simp only [energy_eq, spinForm, Table.map, map_map, Function.comp_def, add_mul, sum_map_add, shares]
  linear_combination fields + pairs

/-- What bits are worth to a problem. -/
def quality (m : Model Nat Rat) (bits : Nat → Bool) : Rat := m.energy fun v => if bits v then 1 else 0

/-- What a Hamiltonian gives on the state of some bits: the operator of a qubit is 1 where the bit is 0. -/
def observed (m : Model Nat Rat) (bits : Nat → Bool) : Rat := m.energy fun v => if bits v then -1 else 1

/-- Energies of opposite spins differ by what the fields give. -/
theorem energy_sub_energy_neg (m : Model Nat Rat) (z : Nat → Rat) :
    m.energy z - m.energy (fun v => -z v) = 2 * (m.fields.entries.map fun e => e.2 * z e.1).sum := by
  have opposite (entries : List (Nat × Rat)) :
      (entries.map fun e => -(e.2 * z e.1)).sum = -(entries.map fun e => e.2 * z e.1).sum := by
    induction entries with
    | nil => simp
    | cons e rest ih => simp [ih]; ring
  simp only [energy_eq, mul_neg, neg_mul, neg_neg, opposite]
  ring

/-- Fields that give nothing on any bits are all zero: turning one spin shows its field. -/
theorem fields_eq_zero {entries : List (Nat × Rat)} (nodup : (entries.map Prod.fst).Nodup)
    (nothing : ∀ bits : Nat → Bool, (entries.map fun e => e.2 * if bits e.1 then -1 else 1).sum = 0) :
    ∀ e ∈ entries, e.2 = 0 := by
  intro e mem
  have turned : (entries.map fun d => d.2 * if d.1 = e.1 then 2 else 0).sum = e.2 * 2 := by
    rw [sum_map_eq_nsmul_single e, @count_eq_one_of_mem _ instBEqOfDecidableEq _ _ _ nodup.of_map mem]
    · simp
    · intro d other there
      have apart : d.1 ≠ e.1 := fun same => other (inj_on_of_nodup_map nodup there mem same)
      simp [apart]
  have up := nothing fun _ => false
  have down := nothing fun v => v = e.1
  have parts : (entries.map fun d => d.2 * 1).sum = (entries.map fun d => d.2 * if d.1 = e.1 then -1 else 1).sum
      + (entries.map fun d => d.2 * if d.1 = e.1 then 2 else 0).sum := by
    rw [← sum_map_add]
    exact congrArg _ (map_congr_left fun d _ => by split <;> ring)
  simp only [decide_eq_true_eq, Bool.false_eq_true, if_false] at up down
  linarith

/-- The Hamiltonian of a problem over bits values them as the problem values the opposite bits, so the two agree exactly
if the spin form has no fields. -/
theorem observed_spinForm (distinct : m.unknowns.Nodup)
    (known : ∀ c ∈ m.couplings, c.1 ∈ m.unknowns ∧ c.2.1 ∈ m.unknowns) :
    (∀ bits, m.spinForm.observed bits = m.quality fun v => !bits v) ∧
      ((∀ bits, m.spinForm.observed bits = m.quality bits) ↔ ∀ e ∈ m.spinForm.fields.entries, e.2 = 0) := by
  have valued (bits : Nat → Bool) : m.quality bits = m.spinForm.energy fun v => -(if bits v then -1 else 1) := by
    rw [quality, ← energy_spinForm distinct known]
    congr! 2 with v
    cases bits v <;> norm_num
  have differ (bits : Nat → Bool) : m.spinForm.observed bits - m.quality bits
      = 2 * (m.spinForm.fields.entries.map fun e => e.2 * if bits e.1 then -1 else 1).sum := by
    rw [valued, observed, energy_sub_energy_neg]
  refine ⟨fun bits => ?_, fun agree => fields_eq_zero ?_ fun bits => ?_, fun none bits => ?_⟩
  · rw [valued, observed]
    congr! 2 with v
    cases bits v <;> simp
  · simpa [spinForm, Table.map, unknowns, Table.keys, Function.comp_def] using distinct
  · linarith [differ bits, agree bits]
  · have zero : (m.spinForm.fields.entries.map fun e => e.2 * if bits e.1 then -1 else 1).sum = 0 :=
      List.sum_eq_zero fun x member => by
        obtain ⟨e, there, rfl⟩ := List.mem_map.mp member
        rw [none e there, zero_mul]
    linarith [differ bits]

/-- One bit that costs 1. -/
def oneBit : Model Nat Rat := ⟨⟨[(0, 1)]⟩, [], 0⟩

/-- The Hamiltonian of one bit gives 1 where the bit is 0 and costs nothing. -/
theorem observed_oneBit : oneBit.spinForm.observed (fun _ => false) = 1 ∧ oneBit.quality (fun _ => false) = 0 := by
  refine ⟨?_, by decide +kernel⟩
  rw [(observed_spinForm (by decide) (by simp [oneBit])).1]
  decide +kernel

end Transmon.Problem.Model
