import Mathlib.Algebra.BigOperators.Ring.List
import Mathlib.Data.Fintype.BigOperators
import Mathlib.Tactic.Linarith
import Transmon.Problem.Graphs
import Transmon.Proofs.Graph

/-!
# Independent sets

Taking nodes one by one, each with its neighbours out of the graph, leaves out only neighbours of what is taken. To
make chosen nodes independent, those with the most edges are dropped until no edge is left: each takes an edge with it,
so the loss does not grow where an edge costs at least what a node is worth.
-/

namespace Transmon.Problem.IndependentSet

open Table

section Greedy

variable {ν ε : Type} {g : Graph ν ε} {least? : (ν → Nat) → List ν → Option ν} {fuel : Nat}

/-- Nodes of which no two are joined, and to which every other node is joined. -/
structure IsMaximal [BEq ν] (g : Graph ν ε) (chosen : List ν) : Prop where
  known : ∀ u ∈ chosen, u ∈ g.nodes
  independent : ∀ u ∈ chosen, ∀ v ∈ chosen, v ∉ g.neighbours u
  maximal : ∀ v ∈ g.nodes, v ∈ chosen ∨ ∃ u ∈ chosen, v ∈ g.neighbours u

/-- One of some nodes is picked, whatever is measured. -/
def Picks (least? : (ν → Nat) → List ν → Option ν) : Prop :=
  ∀ measure nodes, (least? measure nodes = none → nodes = []) ∧ ∀ v, least? measure nodes = some v → v ∈ nodes

theorem picks_leastBy? : @Picks ν Graph.leastBy? := by
  have held (measure : ν → Nat) (first : ν) (rest : List ν) :
      rest.foldl (fun best b => if measure b < measure best then b else best) first ∈ first :: rest := by
    induction rest generalizing first with
    | nil => simp
    | cons b rest ih => grind [ih (if measure b < measure first then b else first)]
  intro measure nodes
  cases nodes with
  | nil => simp [Graph.leastBy?]
  | cons first rest => simpa [Graph.leastBy?] using held measure first rest

theorem isMaximal_greedySet [DecidableEq ν] (picks : Picks least?) (simple : g.IsSimple) (enough : g.order ≤ fuel) :
    IsMaximal g (greedySet least? fuel g) := by
  have order (g : Graph ν ε) : g.order = g.nodes.length := by simp [Graph.order, size, Graph.nodes, keys]
  have empty {g : Graph ν ε} (none : g.nodes = []) : IsMaximal g [] := by constructor <;> simp [none]
  induction fuel generalizing g with
  | zero => exact empty (List.length_eq_zero_iff.mp (by simpa [order] using enough))
  | succ fuel ih =>
    rw [greedySet]
    split
    · next stops => exact empty ((picks _ _).1 stops)
    · next v found =>
      have there := (picks _ _).2 v found
      have fewer : (g.removeNodes (v :: g.neighbours v)).order < g.order := by
        rw [order, order, Graph.nodes_removeNodes]
        exact List.length_filter_lt_length_iff_exists.mpr ⟨v, there, by simp⟩
      obtain ⟨known, independent, maximal⟩ := ih simple.removeNodes (Nat.le_of_lt_succ (fewer.trans_le enough))
      simp only [Graph.nodes_removeNodes, Graph.mem_neighbours_removeNodes,
        List.mem_filter] at known independent maximal
      constructor
      · grind
      · grind [simple.loopless v, simple.symm]
      · grind

end Greedy

/-- A bitstring chooses the places of its ones. -/
def chooses (bits : String) (v : Nat) : Bool := bits.toList[v]? = some '1'

theorem chooses_bitsAt {n v : Nat} {places : List Nat} : chooses (bitsAt n places) v ↔ v < n ∧ v ∈ places := by
  by_cases bound : v < n <;> simp [chooses, bitsAt, bound]

/-- However nodes are picked, the bits choose nodes of which no two are joined, and every other node is joined to one
of them. -/
theorem bits_greedySet {ε : Type} {g : Graph Label ε} {least? : (Label → Nat) → List Label → Option Label}
    (picks : Picks least?) (simple : g.IsSimple)
    (numbers : g.nodes.Perm ((List.range g.order).map fun (i : Nat) => .number i)) :
    ∃ bits, bitsOfLabels g.order (greedySet least? g.order g) = .ok bits ∧ bits.length = g.order ∧
      (∀ u v : Nat, chooses bits u → chooses bits v → .number v ∉ g.neighbours (.number u)) ∧
      ∀ v < g.order, ¬chooses bits v → ∃ u : Nat, chooses bits u ∧ .number v ∈ g.neighbours (.number u) := by
  obtain ⟨known, independent, maximal⟩ := isMaximal_greedySet picks simple (Nat.le_refl _)
  have number {label : Label} : label ∈ g.nodes ↔ ∃ i < g.order, Label.number i = label := by simp [numbers.mem_iff]
  set chosen := greedySet least? g.order g
  have placed : chosen.mapM (Label.position g.order) = .ok (chosen.map Label.toNat) := by
    refine Outcome.mapM_eq_ok_iff.mpr (List.forall₂_map_right_iff.mpr (List.forall₂_same.mpr fun label held => ?_))
    obtain ⟨i, bound, rfl⟩ := number.mp (known label held)
    simp [Label.position, bound, Label.toNat, Label.number?]
  have choice {v : Nat} : chooses (bitsAt g.order (chosen.map Label.toNat)) v ↔ .number v ∈ chosen := by
    rw [chooses_bitsAt, List.mem_map]
    constructor
    · rintro ⟨-, label, held, rfl⟩
      obtain ⟨i, -, rfl⟩ := number.mp (known label held)
      exact held
    · intro held
      obtain ⟨i, bound, same⟩ := number.mp (known _ held)
      exact ⟨by grind, _, held, rfl⟩
  refine ⟨bitsAt g.order (chosen.map Label.toNat), by simp [bitsOfLabels, placed], by simp [bitsAt], ?_, ?_⟩
  · simpa only [choice] using fun u v first second => independent _ first _ second
  · intro v bound absent
    rw [choice] at absent
    obtain held | ⟨u, held, joined⟩ := maximal (.number v) (number.mpr ⟨v, bound, rfl⟩)
    · exact absurd held absent
    · obtain ⟨i, -, rfl⟩ := number.mp (known u held)
      exact ⟨i, choice.mpr held, joined⟩

/-- On a path of three nodes the ends are taken, and the other node is joined to them. -/
theorem bits_greedySet_path :
    let g : Graph Label Unit := .ofEdges [.number 2, .number 1, .number 0]
      [(.number 0, .number 1, ()), (.number 1, .number 2, ())]
    bitsOfLabels 3 (greedySet Graph.leastBy? 3 g) = .ok "101" ∧
      ∃ u : Nat, chooses "101" u ∧ .number 1 ∈ g.neighbours (.number u) := by
  intro g
  have ends : bitsOfLabels 3 (greedySet Graph.leastBy? 3 g) = .ok "101" := by decide +kernel
  obtain ⟨bits, made, -, -, maximal⟩ := @bits_greedySet _ g _ picks_leastBy?
    ⟨by decide, by decide, by decide, by decide⟩ (by decide)
  obtain rfl := Except.ok.inj (made.symm.trans ends)
  exact ⟨ends, maximal 1 (by decide) (by decide)⟩

open Finset

section Thin

variable {ε : Type} {g : Graph Nat ε} {fuel n : Nat} {bits : String}

theorem greatestBy?_spec {α : Type} (measure : α → Nat) (first : α) (rest : List α) :
    ∃ best ∈ first :: rest, Graph.greatestBy? measure (first :: rest) = some best ∧
      ∀ item ∈ first :: rest, measure item ≤ measure best := by
  have every : let last := rest.foldl (fun best b => if measure best < measure b then b else best) first
      last ∈ first :: rest ∧ ∀ item ∈ first :: rest, measure item ≤ measure last := by
    induction rest generalizing first with
    | nil => simp
    | cons b rest ih => grind [ih (if measure first < measure b then b else first)]
  exact ⟨_, every.1, rfl, every.2⟩

/-- A node of the greatest degree has edges if there are any, and all of them go with it. -/
theorem exists_size_removeNode_lt (simple : g.IsSimple) (joined : g.size ≠ 0) :
    ∃ node ∈ g.nodes, Graph.greatestBy? g.degree g.nodes = some node ∧ (g.removeNode node).size < g.size := by
  obtain ⟨⟨u, v⟩, dart⟩ := List.exists_mem_of_length_pos (l := g.darts) (by rw [simple.length_darts]; omega)
  have there := Graph.mem_nodes_of_mem_neighbours (Graph.mem_darts.mp dart)
  obtain ⟨first, rest, nodes⟩ := List.exists_cons_of_ne_nil (List.ne_nil_of_mem there)
  obtain ⟨node, own, found, most⟩ := greatestBy?_spec g.degree first rest
  rw [← nodes] at own found most
  have some := List.length_pos_of_mem (Graph.mem_darts.mp dart)
  have least := most u there
  have parts := simple.countP_pairs node (p := fun _ => true) fun _ => rfl
  simp only [List.countP_true, Graph.pairs, List.length_map] at parts
  rw [simple.degree_eq, simple.degree_eq] at least
  exact ⟨node, own, found, by unfold Graph.size; omega⟩

/-- Taking out nodes of the greatest degree until no edge is left takes out no more nodes than there are edges. -/
theorem thinned_spec (simple : g.IsSimple) (enough : g.nodes.length ≤ fuel) :
    (thinned fuel g).nodes.Nodup ∧ (∀ v ∈ (thinned fuel g).nodes, v ∈ g.nodes) ∧
      (∀ u ∈ (thinned fuel g).nodes, ∀ v ∈ (thinned fuel g).nodes, v ∉ g.neighbours u) ∧
      g.nodes.length ≤ (thinned fuel g).nodes.length + g.size := by
  induction fuel generalizing g with
  | zero =>
    have none : g.nodes = [] := List.length_eq_zero_iff.mp (by omega)
    simp [thinned, none]
  | succ fuel ih =>
    rw [thinned]
    split
    · next bare =>
      have none : g.darts = [] := List.length_eq_zero_iff.mp (by rw [simple.length_darts, bare])
      refine ⟨simple.nodes, fun _ => id, fun u _ v _ joined => ?_, Nat.le_add_right ..⟩
      simpa [none] using Graph.mem_darts.mpr joined
    · next joined =>
      obtain ⟨node, own, found, fewer⟩ := exists_size_removeNode_lt simple joined
      have left : g.nodes.length = (g.removeNode node).nodes.length + 1 := by
        have others := simple.nodes.erase_eq_filter node
        have := List.length_erase_of_mem own
        simp only [Graph.nodes_removeNode]
        grind
      obtain ⟨nodup, known, independent, bound⟩ := @ih (g.removeNode node) simple.removeNode (by omega)
      simp only [found]
      refine ⟨nodup, ?_, ?_, by omega⟩ <;> grind [Graph.nodes_removeNode, Graph.neighbours_removeNode]

theorem card_chosen {places : List Nat} (nodup : places.Nodup)
    (held : ∀ v, v ∈ places ↔ v < n ∧ chooses bits v) : #{v ∈ range n | chooses bits v} = places.length := by
  rw [← List.toFinset_card_of_nodup nodup]
  exact congrArg card (by ext v; simp [held])

/-- Bits that choose joined nodes are cut down to independent ones among them, by no more nodes than they join
pairs. -/
theorem repaired_spec (simple : g.IsSimple) (numbers : g.nodes.Perm (List.range n)) :
    (repaired g bits).length = n ∧
      (∀ u v, chooses (repaired g bits) u → chooses (repaired g bits) v → v ∉ g.neighbours u) ∧
      (∀ v, chooses (repaired g bits) v → chooses bits v) ∧
      #{v ∈ range n | chooses bits v} ≤ #{v ∈ range n | chooses (repaired g bits) v}
        + g.pairs.countP fun e => chooses bits e.1 && chooses bits e.2 := by
  have order : g.order = n := by simpa [Graph.order, size, Graph.nodes, keys] using numbers.length_eq
  have node (v : Nat) : v ∈ g.nodes ↔ v < n := by simp [numbers.mem_iff]
  rw [repaired, order]
  set chosen := (bits.toList.zipIdx.filter (·.1 = '1')).map Prod.snd
  have places (v : Nat) : v ∈ chosen ↔ chooses bits v := by
    simp [chosen, chooses, List.mem_zipIdx_iff_getElem?]
  obtain ⟨part, nodes, joined⟩ := simple.part chosen
  have enough := (part.nodes.subperm fun v held => ((nodes v).mp held).2 : List.Subperm _ chosen).length_le
  obtain ⟨nodup, known, independent, bound⟩ := thinned_spec part enough
  set left := (thinned chosen.length (g.part Slots.listed chosen)).nodes
  have inside (v : Nat) (held : v ∈ left) : v < n ∧ chooses bits v :=
    ((nodes v).mp (known v held)).imp (node v).mp (places v).mp
  have choice (v : Nat) : chooses (bitsAt n left) v ↔ v ∈ left :=
    chooses_bitsAt.trans (and_iff_right_of_imp fun held => (inside v held).1)
  have both : (g.part Slots.listed chosen).size = g.pairs.countP fun e => chooses bits e.1 && chooses bits e.2 := by
    rw [simple.size_part]
    exact List.countP_congr fun e _ => by simp [places]
  simp only [choice]
  refine ⟨by simp [bitsAt], fun u v first second near => independent u first v second ?_,
    fun v held => (inside v held).2, ?_⟩
  · exact (joined u v).mpr ⟨near, (places u).mpr (inside u first).2, (places v).mpr (inside v second).2⟩
  · have before := card_chosen part.nodes fun v => by rw [nodes, node, places]
    have after := @card_chosen n (bitsAt n left) _ nodup fun v => by grind
    simp only [choice] at after
    omega

end Thin

/-- What an edit of a pair adds. -/
def worth (x : Nat → Rat) : Edit Label Rat → Rat
  | .quadratic u v bias => bias * (x u.toNat * x v.toNat)
  | _ => 0

def bit (bits : String) (v : Nat) : Rat := if chooses bits v then 1 else 0

/-- What bits are worth: the objective and the penalties. -/
def loss (p : IndependentSet Rat) (bits : String) : Rat :=
  ∑ i ∈ range p.objective.length, ∑ j ∈ range p.objective.length,
    (p.objective.getD i []).getD j 0 * (bit bits i * bit bits j) + (p.penalties.map (worth (bit bits))).sum

variable {g : Labelled} {penalty : Rat} {bits : String} {allowed : Bool}

theorem getD_objective_largest {i j : Nat} (row : i < g.graph.order) (column : j < g.graph.order) :
    ((largest g penalty).objective.getD i []).getD j 0 = if i = j then -1 else 0 := by
  have read : ((largest g penalty).objective.getD i []).getD j 0 =
      (⟨(List.range g.graph.order).map fun i => ((i, i), -1)⟩ : Table (Nat × Nat) Rat).getD (i, j) 0 := by
    simp [largest, make, sparseMatrix, Quantity.zero, Quantity.ofInt, row, column]
  rw [read, getD]
  split
  · next same =>
    have e : ((i, j), -1) ∈ (List.range g.graph.order).map fun i => ((i, i), (-1 : Rat)) := by simp [same, column]
    rw [get?_of_mem_entries ?_ e, Option.getD_some]
    simpa [keys, Function.comp_def] using List.nodup_range.map fun _ _ same => congrArg Prod.fst same
  · next apart =>
    rw [get?_eq_none_iff.mpr, Option.getD_none]
    simp only [keys, List.map_map, List.mem_map]
    grind

theorem sum_worth_penalties : ((largest g penalty).penalties.map (worth (bit bits))).sum =
    penalty * (largest g penalty).graph.pairs.countP fun e => chooses bits e.1 && chooses bits e.2 := by
  have every (pairs : List (Nat × Nat)) : (pairs.map fun e => penalty * (bit bits e.1 * bit bits e.2)).sum =
      penalty * pairs.countP (fun e => chooses bits e.1 && chooses bits e.2) := by
    induction pairs with
    | nil => simp
    | cons e rest ih =>
      rw [List.map_cons, List.sum_cons, ih]
      cases first : chooses bits e.1 <;> cases second : chooses bits e.2 <;>
        simp [bit, first, second, mul_add, add_comm]
  have fixed (values : List (Label × Int)) : ([.fix values].map (worth (bit bits))).sum = 0 := by simp [worth]
  rw [penalties, List.map_append, List.map_map, List.sum_append, fixed, add_zero, ← every]
  rfl

/-- Each chosen node counts -1 and each pair of joined ones the penalty. -/
theorem loss_largest : (largest g penalty).loss bits =
    penalty * (largest g penalty).graph.pairs.countP (fun e => chooses bits e.1 && chooses bits e.2)
      - #{v ∈ range g.graph.order | chooses bits v} := by
  have alone {i : Nat} (row : i ∈ range g.graph.order) : ∑ j ∈ range g.graph.order,
      ((largest g penalty).objective.getD i []).getD j 0 * (bit bits i * bit bits j) =
        if chooses bits i then -1 else 0 := by
    rw [sum_congr rfl fun j column => by rw [getD_objective_largest (mem_range.mp row) (mem_range.mp column)]]
    simp only [ite_mul, zero_mul, sum_ite_eq, row, if_true, bit]
    split <;> simp
  have size : (largest g penalty).objective.length = g.graph.order := by simp [largest, make, sparseMatrix]
  rw [loss, size, sum_worth_penalties, sum_congr rfl fun i row => alone row, ← sum_filter]
  simp [neg_add_eq_sub]

/-- What is made of bits is an independent part of what they choose, and it is worth no less. -/
theorem repair_spec (simple : (largest g penalty).graph.IsSimple)
    (numbers : (largest g penalty).graph.nodes.Perm (List.range g.graph.order)) (least : 1 ≤ penalty)
    (told : allowed = true ↔ ∀ e ∈ (largest g penalty).conflicts, ¬(chooses bits e.1 ∧ chooses bits e.2))
    (sized : bits.length = g.graph.order) :
    let fixed := (largest g penalty).repair allowed bits
    fixed.length = g.graph.order ∧
      (∀ u v, chooses fixed u → chooses fixed v → v ∉ (largest g penalty).graph.neighbours u) ∧
      (∀ v, chooses fixed v → chooses bits v) ∧ (largest g penalty).loss fixed ≤ (largest g penalty).loss bits := by
  simp only [repair]
  split
  · next yes =>
    refine ⟨sized, fun u v first second joined => ?_, fun _ => id, le_refl _⟩
    obtain pair | pair : (u, v) ∈ (largest g penalty).graph.pairs ∨ (v, u) ∈ (largest g penalty).graph.pairs := by
      simpa using simple.darts_perm.mem_iff.mp (Graph.mem_darts.mpr joined)
    · exact told.mp yes _ pair ⟨first, second⟩
    · exact told.mp yes _ pair ⟨second, first⟩
  · obtain ⟨length, independent, known, bound⟩ := @repaired_spec _ _ _ bits simple numbers
    refine ⟨length, independent, known, ?_⟩
    rw [loss_largest, loss_largest, List.countP_eq_zero.mpr]
    · set edges := (largest g penalty).graph.pairs.countP fun e => chooses bits e.1 && chooses bits e.2
      have more : (edges : Rat) ≤ penalty * edges := le_mul_of_one_le_left (Nat.cast_nonneg _) least
      have bound : ((_ : Nat) : Rat) ≤ _ := Nat.cast_le.mpr bound
      push_cast at bound ⊢
      linarith
    · rintro ⟨u, v⟩ pair both
      have both := Bool.and_eq_true_iff.mp both
      exact independent u v both.1 both.2 (simple.mem_pairs.mp pair).2

/-- Two joined nodes. -/
def joinedPair : Labelled := ⟨.ofEdges [.number 0, .number 1] [(.number 0, .number 1, ∅)], ∅⟩

theorem repair_joinedPair : (largest joinedPair (2 : Rat)).repair false "11" = "01" ∧
    (largest joinedPair 2).loss "01" ≤ (largest joinedPair 2).loss "11" := by
  have fixed : (largest joinedPair (2 : Rat)).repair false "11" = "01" := by decide +kernel
  exact ⟨fixed, fixed ▸ (repair_spec ⟨by decide, by decide, by decide, by decide⟩ (by decide) (by norm_num)
    (by decide) (by decide)).2.2.2⟩

end Transmon.Problem.IndependentSet
