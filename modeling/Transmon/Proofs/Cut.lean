import Mathlib.Data.Fintype.BigOperators
import Mathlib.Algebra.Order.BigOperators.Group.List
import Mathlib.Tactic.Linarith
import Mathlib.Tactic.Ring
import Transmon.Problem.Graphs
import Transmon.Proofs.Basic

/-!
# Cuts as a quadratic problem

The matrix of a graph values bits at minus the size of the cut that they make: the sum over its places is a sum over
the edges, in which an edge counts where its ends differ. Over all bits they differ as often as not.
-/

namespace Transmon.Problem

open Table Finset

/-- What an edge of whole weight puts at a place of the matrix. -/
def pull (e : Nat × Nat × Rat) (p : Nat × Nat) : Int :=
  let weight := e.2.2.num
  (if p = (e.1, e.2.1) then 2 * weight else 0) + (if p = (e.1, e.1) then -weight else 0)
    + if p = (e.2.1, e.2.1) then -weight else 0

/-- Whole entries stay whole, so that nothing is lost when a sum is cut. -/
theorem getD_addWhole {t : Table (Nat × Nat) Rat} {value : Nat × Nat → Int} (held : ∀ p, t.getD p 0 = value p)
    (place : Nat × Nat) (bias : Int) (p : Nat × Nat) :
    (addWhole t place bias).getD p 0 = (value p + if p = place then bias else 0 : Int) := by
  have whole (n : Int) : Quantity.whole (n : Rat) = n := by change (n : Rat).num.tdiv (n : Rat).den = n; simp
  have old : t.getD place Quantity.zero = value place := held place
  simp only [addWhole, update, getD, get?_insert] at held old ⊢
  split
  · subst place
    rw [Option.getD_some, old, ← Int.cast_add, whole]
    rfl
  · simp [held]

theorem getD_cutEntries {edges : List (Nat × Nat × Rat)} (whole : ∀ e ∈ edges, e.2.2.den = 1) (p : Nat × Nat) :
    (cutEntries edges).getD p 0 = ((edges.map (pull · p)).sum : Int) := by
  induction edges using List.reverseRecOn generalizing p with
  | nil => simp [cutEntries, getD]
  | append_singleton rest e ih =>
    have before := ih fun e mem => whole e (by simp [mem])
    have last : cutEntries (rest ++ [e]) = addWhole (addWhole (addWhole (cutEntries rest) (e.1, e.2.1)
        (2 * e.2.2.num : Int)) (e.1, e.1) (-e.2.2.num : Int)) (e.2.1, e.2.1) (-e.2.2.num : Int) := by
      simp [cutEntries, List.foldl_append, (Rat.den_eq_one_iff _).mp (whole e (by simp)), Quantity.ofInt]
    rw [last, getD_addWhole (getD_addWhole (getD_addWhole before _ _) _ _) _ _]
    simp [pull, add_assoc]

/-- A model of bits whose coefficients stand in a square matrix: those of single bits on the diagonal. -/
def Model.HasMatrix (m : Model Nat Rat) (rows : List (List Rat)) : Prop :=
  ∀ x : Nat → Rat, (∀ v, x v = 0 ∨ x v = 1) →
    m.energy x = ∑ i ∈ range rows.length, ∑ j ∈ range rows.length, (rows.getD i []).getD j 0 * (x i * x j)

theorem sum_pull {n : Nat} {e : Nat × Nat × Rat} (first : e.1 < n) (second : e.2.1 < n) (x : Nat → Rat) :
    ∑ i ∈ range n, ∑ j ∈ range n, (pull e (i, j) : Rat) * (x i * x j) = -(e.2.2.num * (x e.1 - x e.2.1) ^ 2) := by
  have place {u v : Nat} (row : u < n) (column : v < n) (bias : Int) : ∑ i ∈ range n, ∑ j ∈ range n,
      ((if (i, j) = (u, v) then bias else 0 : Int) : Rat) * (x i * x j) = bias * (x u * x v) := by
    simp [ite_and, row, column]
  simp only [pull, Int.cast_add, add_mul, sum_add_distrib, place, first, second]
  push_cast
  ring

/-- What a bitstring is worth to a model. -/
def Model.valued (m : Model Nat Rat) (bits : String) : Rat :=
  m.energy fun v => if bits.toList[v]? = some '1' then 1 else 0

def written {n : Nat} (bits : Fin n → Bool) : String := .ofList (.ofFn fun i => if bits i then '1' else '0')

/-- What an edge adds to the worth of a bitstring. -/
def loss (bits : String) (e : Nat × Nat × Rat) : Rat := if bits.toList[e.1]? = bits.toList[e.2.1]? then 0 else -e.2.2

variable {n : Nat} {e : Nat × Nat × Rat} {g : Graph Nat Rat} {m : Model Nat Rat}

theorem bit_written (bits : Fin n → Bool) (v : Fin n) :
    (written bits).toList[(v : Nat)]? = some (if bits v then '1' else '0') := by
  simp [written]

theorem loss_written (first : e.1 < n) (second : e.2.1 < n) (bits : Fin n → Bool) :
    loss (written bits) e = if bits ⟨e.1, first⟩ = bits ⟨e.2.1, second⟩ then 0 else -e.2.2 := by
  rw [loss, bit_written bits ⟨e.1, first⟩, bit_written bits ⟨e.2.1, second⟩]
  cases bits ⟨e.1, first⟩ <;> cases bits ⟨e.2.1, second⟩ <;> simp

/-- Turning over the bit at one end of an edge shows that its ends differ as often as not. -/
theorem sum_loss (first : e.1 < n) (second : e.2.1 < n) (apart : e.1 ≠ e.2.1) (one : e.2.2 = 1) :
    2 * ∑ bits : Fin n → Bool, loss (written bits) e = -2 ^ n := by
  let turned (bits : Fin n → Bool) := Function.update bits ⟨e.1, first⟩ !bits ⟨e.1, first⟩
  have twice : turned.Involutive := fun bits => by simp [turned]
  have pair (bits : Fin n → Bool) : loss (written bits) e + loss (written (turned bits)) e = -1 := by
    simp only [loss_written first second, turned, one]
    cases bits ⟨e.1, first⟩ <;> cases two : bits ⟨e.2.1, second⟩ <;> simp [apart.symm, two]
  calc 2 * ∑ bits, loss (written bits) e = ∑ bits, (loss (written bits) e + loss (written (turned bits)) e) := by
        rw [two_mul, sum_add_distrib, ← Equiv.sum_comp twice.toPerm fun bits => loss (written bits) e]; rfl
    _ = -2 ^ n := by simp [pair]

theorem neg_cutWeight (g : Graph Nat Rat) (bits : String) : -cutWeight g bits = (g.edges.map (loss bits)).sum := by
  have total (items : List Rat) : Quantity.sum items = items.sum := List.sum_eq_foldl.symm
  rw [cutWeight, total]
  induction g.edges with
  | nil => rfl
  | cons e rest ih =>
    rw [List.map_cons, List.sum_cons, ← ih]
    by_cases same : bits.toList[e.1]? = bits.toList[e.2.1]? <;> simp [same, loss, add_comm]

section Whole

variable (made : m.HasMatrix (cutMatrix g)) (simple : ∀ e ∈ g.edges, e.1 < g.order ∧ e.2.1 < g.order ∧ e.2.2.den = 1)

include made simple

/-- The sum over the matrix is a sum over the edges. -/
theorem energy_eq_sum {x : Nat → Rat} (binary : ∀ v, x v = 0 ∨ x v = 1) :
    m.energy x = (g.edges.map fun e => -(e.2.2.num * (x e.1 - x e.2.1) ^ 2)).sum := by
  have size : (cutMatrix g).length = g.order := by simp [cutMatrix, sparseMatrix]
  have entry {i j : Nat} (row : i ∈ range g.order) (column : j ∈ range g.order) :
      ((cutMatrix g).getD i []).getD j 0 = ((g.edges.map (pull · (i, j))).sum : Int) := by
    rw [← getD_cutEntries fun e mem => (simple e mem).2.2]
    simp_all [cutMatrix, sparseMatrix, Quantity.zero, Quantity.ofInt]
  rw [made x binary, size, sum_congr rfl fun i row => sum_congr rfl fun j column => by rw [entry row column]]
  generalize g.edges = edges at simple
  induction edges with
  | nil => simp
  | cons e rest ih =>
    obtain ⟨⟨first, second, -⟩, others⟩ := List.forall_mem_cons.mp simple
    simp only [List.map_cons, List.sum_cons, Int.cast_add, add_mul, sum_add_distrib, sum_pull first second, ih others]

theorem valued_eq_sum (bits : Fin g.order → Bool) : m.valued (written bits) = (g.edges.map (loss (written bits))).sum := by
  rw [Model.valued, energy_eq_sum made simple fun v => by split <;> simp]
  refine congrArg _ (List.map_congr_left fun e there => ?_)
  obtain ⟨first, second, whole⟩ := simple e there
  rw [loss_written first second, bit_written bits ⟨e.1, first⟩, bit_written bits ⟨e.2.1, second⟩,
    (Rat.den_eq_one_iff _).mp whole]
  cases bits ⟨e.1, first⟩ <;> cases bits ⟨e.2.1, second⟩ <;> simp

/-- Whole weights lose nothing in the matrix: bits are valued at minus the weight of their cut. -/
theorem valued_of_whole (bits : Fin g.order → Bool) : m.valued (written bits) = -cutWeight g (written bits) := by
  rw [valued_eq_sum made simple, neg_cutWeight]

end Whole

/-- A model that has the matrix of a graph without loops on the numbers below its order, where every edge counts 1,
values bits at minus their cut. The average over all bits and the greatest value are the ones set in advance. -/
theorem valued_eq_neg_cutWeight (made : m.HasMatrix (cutMatrix g))
    (simple : ∀ e ∈ g.edges, e.1 < g.order ∧ e.2.1 < g.order ∧ e.1 ≠ e.2.1 ∧ e.2.2 = 1) :
    (∀ bits : Fin g.order → Bool, m.valued (written bits) = -cutWeight g (written bits)) ∧
      cutAverage? g = some ((∑ bits : Fin g.order → Bool, m.valued (written bits)) / 2 ^ g.order) ∧
      IsGreatest (Set.range fun bits : Fin g.order → Bool => m.valued (written bits)) cutBound := by
  have counted := valued_eq_sum made fun e there => by obtain ⟨first, second, -, one⟩ := simple e there; simp [*]
  refine ⟨fun bits => ?_, ?_, ⟨fun _ => false, ?_⟩, ?_⟩
  · rw [counted, neg_cutWeight]
  · have halved : 2 * ∑ bits : Fin g.order → Bool, m.valued (written bits) = -(g.size * 2 ^ g.order) := by
      rw [sum_congr rfl fun bits _ => counted bits, Graph.size]
      clear counted
      generalize g.edges = edges at simple
      induction edges with
      | nil => simp
      | cons e rest ih =>
        obtain ⟨⟨first, second, apart, one⟩, others⟩ := List.forall_mem_cons.mp simple
        simp only [List.map_cons, List.sum_cons, sum_add_distrib, List.length_cons, Nat.cast_succ]
        linarith [sum_loss first second apart one, ih others]
    change (if (2 : Rat) = 0 then none else some (((-g.size : Int) : Rat) / 2)) = _
    rw [if_neg two_ne_zero, Option.some_inj, eq_div_iff (by positivity), div_mul_eq_mul_div, div_eq_iff two_ne_zero]
    push_cast
    linarith
  · refine (counted _).trans (List.sum_eq_zero fun q member => ?_)
    obtain ⟨e, there, rfl⟩ := List.mem_map.mp member
    simp [loss_written (simple e there).1 (simple e there).2.1]
  · rintro q ⟨bits, rfl⟩
    refine (counted bits).trans_le ((List.sum_le_card_nsmul _ 0 fun q member => ?_).trans_eq (nsmul_zero _))
    obtain ⟨e, there, rfl⟩ := List.mem_map.mp member
    unfold loss
    split <;> norm_num [(simple e there).2.2.2]

/-- A model of two bits and its matrix. -/
theorem hasMatrix_pair (a b c : Rat) : (⟨⟨[(0, a), (1, b)]⟩, [(0, 1, c)], 0⟩ : Model Nat Rat).HasMatrix
    [[a, c], [0, b]] := by
  intro x binary
  rcases binary 0 with zero | zero <;> rcases binary 1 with one | one <;>
    simp [Model.energy, Quantity.sum, Quantity.zero, Quantity.ofInt, sum_range_succ, zero, one]; ring

def oneEdge : Graph Nat Rat := .ofEdges [0, 1] [(0, 1, 1)]

def oneEdgeModel : Model Nat Rat := ⟨⟨[(0, -1), (1, -1)]⟩, [(0, 1, 2)], 0⟩

theorem valued_oneEdge : oneEdgeModel.valued (written fun v : Fin oneEdge.order => v.val == 0) = -1 := by
  have rows : cutMatrix oneEdge = [[-1, 2], [0, -1]] := by decide +kernel
  rw [(valued_eq_neg_cutWeight (rows ▸ hasMatrix_pair _ _ _ : oneEdgeModel.HasMatrix _) (by decide +kernel)).1]
  decide +kernel

def owedEdge : Graph Nat Rat := .ofEdges [0, 1] [(0, 1, -3)]

theorem valued_owedEdge : (⟨⟨[(0, 3), (1, 3)]⟩, [(0, 1, -6)], 0⟩ : Model Nat Rat).valued
    (written fun v : Fin owedEdge.order => v.val == 0) = 3 := by
  have rows : cutMatrix owedEdge = [[3, -6], [0, 3]] := by decide +kernel
  rw [valued_of_whole (rows ▸ hasMatrix_pair 3 3 (-6)) (by decide +kernel)]
  decide +kernel

end Transmon.Problem
