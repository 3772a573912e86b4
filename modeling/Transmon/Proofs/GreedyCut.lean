import Mathlib.Algebra.BigOperators.Ring.List
import Mathlib.Algebra.Order.BigOperators.Group.List
import Mathlib.Algebra.Order.Ring.Nat
import Transmon.Problem.Graphs
import Transmon.Proofs.Graph

/-!
# Local search for a cut

Turning over the bit of a node with more uncut than cut edges makes the cut larger. So the search ends after no more
turns than there are edges, and where it ends every node has at least half of its edges cut.
-/

namespace Transmon.Problem.GreedyCut

open List

variable {ε : Type} {g : Graph Nat ε} {bits last : List Bool} {fuel v : Nat}

def isCut (bits : List Bool) (d : Nat × Nat) : Bool := bits[d.1]? != bits[d.2]?

/-- The number of edges that are cut. -/
def cutSize (g : Graph Nat ε) (bits : List Bool) : Nat := g.pairs.countP (isCut bits)

/-- The number of edges at a node that are cut. -/
def cutDegree (g : Graph Nat ε) (bits : List Bool) (v : Nat) : Nat :=
  (g.neighbours v).countP fun w => isCut bits (v, w)

/-- So many turns lead from some bits to others, at which no node gains by a turn. -/
inductive Turns (g : Graph Nat ε) : Nat → List Bool → List Bool → Prop
  | stop {bits : List Bool} (settled : ∀ v ∈ g.nodes, gain g bits v ≤ 0) : Turns g 0 bits bits
  | turn {bits last : List Bool} {count v : Nat} (gains : 0 < gain g bits v)
      (rest : Turns g count (bits.modify v not) last) : Turns g (count + 1) bits last

theorem isCut_swap (d : Nat × Nat) : isCut bits d.swap = isCut bits d := by
  simp [isCut, bne_comm]

theorem cutSize_le : cutSize g bits ≤ g.size := by
  simpa [cutSize, Graph.size, Graph.pairs] using g.pairs.countP_le_length

theorem gain_eq : gain g bits v = g.degree v - 2 * cutDegree g bits v := by
  have counted : cutDegree g bits v = ((g.neighbours v).filter (bits[v]? != bits[·]?)).length :=
    countP_eq_length_filter
  rw [gain, counted]
  omega

/-- A turn adds to the cut what it gains. -/
theorem cutSize_modify (simple : g.IsSimple) (known : ∀ v ∈ g.nodes, v < bits.length) (there : v ∈ g.nodes) :
    (cutSize g (bits.modify v not) : Int) = cutSize g bits + gain g bits v := by
  have turned {w : Nat} (joined : w ∈ g.neighbours v) : isCut (bits.modify v not) (v, w) = !isCut bits (v, w) := by
    have apart : v ≠ w := fun same => simple.loopless v (same ▸ joined)
    obtain ⟨a, first⟩ : ∃ a, bits[v]? = some a := ⟨_, getElem?_eq_getElem (known v there)⟩
    obtain ⟨b, second⟩ : ∃ b, bits[w]? = some b := ⟨_, getElem?_eq_getElem (known w (simple.mem_nodes joined))⟩
    cases a <;> cases b <;> simp [isCut, apart, first, second]
  have kept {d : Nat × Nat} (away : d ∈ (g.removeNode v).pairs) : isCut (bits.modify v not) d = isCut bits d := by
    have joined := (simple.removeNode.mem_pairs.mp away).2
    grind [isCut, Graph.neighbours_removeNode]
  have here : (g.neighbours v).countP (fun w => isCut (bits.modify v not) (v, w)) =
      (g.neighbours v).countP fun w => !isCut bits (v, w) :=
    countP_congr fun w joined => by rw [turned joined]
  have away : (g.removeNode v).pairs.countP (isCut (bits.modify v not)) = (g.removeNode v).pairs.countP (isCut bits) :=
    countP_congr fun d away => by rw [kept away]
  have whole := (g.neighbours v).length_eq_countP_add_countP (fun w => isCut bits (v, w))
  rw [cutSize, cutSize, simple.countP_pairs v isCut_swap, simple.countP_pairs v isCut_swap, gain_eq, cutDegree,
    simple.degree_eq, here, away]
  simp only [Bool.not_eq_true, Bool.decide_eq_false] at whole
  omega

theorem turns_greedyCut (simple : g.IsSimple) (known : ∀ v ∈ g.nodes, v < bits.length)
    (enough : g.size ≤ cutSize g bits + fuel) :
    ∃ count, count + cutSize g bits ≤ g.size ∧ Turns g count bits (greedyCut g fuel bits) := by
  have bounded : cutSize g bits ≤ g.size := cutSize_le
  induction fuel generalizing bits with
  | zero =>
    refine ⟨0, by omega, .stop fun v there => ?_⟩
    have step := cutSize_modify simple known there
    have most : cutSize g (bits.modify v not) ≤ g.size := cutSize_le
    omega
  | succ fuel ih =>
    rw [greedyCut]
    split
    · next v found =>
      have gains : 0 < gain g bits v := by simpa using find?_some found
      have step := cutSize_modify simple known (mem_of_find?_eq_some found)
      obtain ⟨count, most, turns⟩ := @ih (bits.modify v not) (by simpa using known) (by omega) cutSize_le
      exact ⟨count + 1, by omega, .turn gains turns⟩
    · next none => exact ⟨0, by omega, .stop (by simpa using Option.eq_none_iff_forall_ne_some.mpr none)⟩

theorem Turns.settled {count : Nat} (turns : Turns g count bits last) (there : v ∈ g.nodes) :
    g.degree v ≤ 2 * cutDegree g last v := by
  induction turns with
  | stop settled =>
    have := settled v there
    rw [gain_eq] at this
    omega
  | turn _ _ ih => exact ih

/-- Half of the edges at every node make half of all edges. -/
theorem size_le_two_mul_cutSize (simple : g.IsSimple) (halved : ∀ v ∈ g.nodes, g.degree v ≤ 2 * cutDegree g bits v) :
    g.size ≤ 2 * cutSize g bits := by
  have all : 2 * g.size = (g.nodes.map fun v => (g.neighbours v).length).sum := by
    simp [← simple.length_darts, Graph.darts, length_flatMap]
  have cut : 2 * cutSize g bits = (g.nodes.map (cutDegree g bits)).sum := by
    rw [cutSize, ← simple.countP_darts isCut_swap, Graph.darts, countP_flatMap]
    simp only [Function.comp_def, countP_map]
    rfl
  have sums := sum_le_sum fun v there => simple.degree_eq ▸ halved v there
  rw [sum_map_mul_left] at sums
  omega

/-- The search makes no more turns than there are edges. Where it ends at least half of the edges are cut, at every node
and in all. -/
theorem greedyCut_halves (simple : g.IsSimple) (known : ∀ v ∈ g.nodes, v < bits.length) (enough : g.size ≤ fuel) :
    (∃ count ≤ g.size, Turns g count bits (greedyCut g fuel bits)) ∧ g.size ≤ 2 * cutSize g (greedyCut g fuel bits) ∧
      ∀ v ∈ g.nodes, g.degree v ≤ 2 * cutDegree g (greedyCut g fuel bits) v := by
  obtain ⟨count, most, turns⟩ := turns_greedyCut simple known (Nat.le_add_left_of_le enough)
  exact ⟨⟨count, Nat.le_of_add_right_le most, turns⟩, size_le_two_mul_cutSize simple fun _ => turns.settled,
    fun _ => turns.settled⟩

/-- From no cut at all, two turns cut both edges of a path. -/
theorem greedyCut_path : greedyCut (.path 3) 2 [false, false, false] = [true, false, true] ∧
    (Graph.path 3).size ≤ 2 * cutSize (.path 3) [true, false, true] := by
  have ends : greedyCut (.path 3) 2 [false, false, false] = [true, false, true] := by decide
  exact ⟨ends, ends ▸ (greedyCut_halves ⟨by decide, by decide, by decide, by decide⟩ (by decide) (by decide)).2.1⟩

end Transmon.Problem.GreedyCut
