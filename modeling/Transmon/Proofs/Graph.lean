import Mathlib.Data.List.Basic
import Mathlib.Data.List.Nodup
import Mathlib.Data.List.Perm.Lattice
import Mathlib.Data.Prod.Basic
import Transmon.Graph
import Transmon.Proofs.Basic

/-!
# Simple graphs

A graph is read by its rows. Of a simple graph each edge stands in the rows of both its ends, so its darts, which are
its edges with a direction, are its edges and their reverses. So are the darts of the part on some of its nodes.
-/

namespace Transmon.Slots

open List Table

variable {s : Slots} {n : Nat} {ns : List Nat}

/-- The numbers in a set. -/
def numbers (s : Slots) : List Nat := s.filled.map Prod.snd

theorem perm_toList : s.toList.Perm s.numbers := (mergeSort_perm ..).map _

theorem numbers_foldl_put : (ns.foldl put s).numbers = s.numbers ++ ns := by
  induction ns generalizing s with
  | nil => simp
  | cons n rest ih =>
    rw [foldl_cons, ih]
    simp [put, numbers]

theorem perm_insert : (s.insert n).numbers.Perm (s.numbers.insert n) := by
  have front : (s.put n).numbers.Perm (n :: s.numbers) :=
    @numbers_foldl_put s [n] ▸ perm_append_singleton n s.numbers
  have grown : (s.put n).grown.numbers.Perm (s.put n).numbers := by
    rw [Slots.grown, numbers_foldl_put]
    exact perm_toList
  have any : s.filled.any (·.2 == n) = decide (n ∈ s.numbers) := by
    rw [Bool.eq_iff_iff, decide_eq_true_iff]
    simp [numbers]
  rw [insert, any]
  by_cases held : n ∈ s.numbers
  · simp [held]
  · simp only [held, decide_false, Bool.false_eq_true, if_false, insert_of_not_mem, not_false_eq_true]
    split
    · exact front
    · exact grown.trans front

/-- A walk over a set of numbers meets each of them once. -/
theorem listed_spec : (listed ns).Nodup ∧ ∀ n, n ∈ listed ns ↔ n ∈ ns := by
  have every {s : Slots} (nodup : s.numbers.Nodup) : (ns.foldl insert s).numbers.Nodup ∧
      ∀ n, n ∈ (ns.foldl insert s).numbers ↔ n ∈ s.numbers ∨ n ∈ ns := by
    induction ns generalizing s with
    | nil => simpa using nodup
    | cons n rest ih =>
      have later := ih (perm_insert.nodup_iff.mpr (nodup.insert (a := n)))
      simp only [perm_insert.mem_iff, mem_insert_iff] at later
      grind
  obtain ⟨nodup, held⟩ := every (s := empty) nodup_nil
  exact ⟨perm_toList.nodup_iff.mpr nodup, fun n =>
    perm_toList.mem_iff.trans ((held n).trans (or_iff_right not_mem_nil))⟩

end Transmon.Slots

namespace Transmon.Graph

open List Table

variable {ν ε : Type} [DecidableEq ν] {g : Graph ν ε} {u v w : ν}

/-- Distinct nodes with distinct neighbours, where each is a neighbour of its neighbours and none is its own. -/
structure IsSimple (g : Graph ν ε) : Prop where
  nodes : g.nodes.Nodup
  rows : ∀ u ∈ g.nodes, (g.neighbours u).Nodup
  mutually : ∀ u ∈ g.nodes, ∀ v ∈ g.neighbours u, u ∈ g.neighbours v
  apart : ∀ u ∈ g.nodes, u ∉ g.neighbours u

theorem mem_entries (nodup : g.nodes.Nodup) {row : Table ν ε} :
    (u, row) ∈ g.rows.entries ↔ u ∈ g.nodes ∧ row = g.row u := by
  have own {row : Table ν ε} (entry : (u, row) ∈ g.rows.entries) : row = g.row u := by
    rw [Graph.row, Table.getD, Table.get?_of_mem_entries nodup entry, Option.getD_some]
  refine ⟨fun entry => ⟨Table.mem_keys_of_mem entry, own entry⟩, ?_⟩
  rintro ⟨there, rfl⟩
  obtain ⟨e, entry, rfl⟩ := mem_map.mp there
  exact own entry ▸ entry

/-- The edges with a direction. -/
def darts (g : Graph ν ε) : List (ν × ν) := g.nodes.flatMap fun u => (g.neighbours u).map (u, ·)

theorem mem_nodes_of_mem_neighbours (joined : v ∈ g.neighbours u) : u ∈ g.nodes := by
  by_contra absent
  have none : g.rows.get? u = none := Table.get?_eq_none_iff.mpr absent
  simp [neighbours, row, Table.getD, none] at joined

theorem IsSimple.symm (simple : g.IsSimple) (joined : v ∈ g.neighbours u) : u ∈ g.neighbours v :=
  simple.mutually u (mem_nodes_of_mem_neighbours joined) v joined

theorem IsSimple.loopless (simple : g.IsSimple) (u : ν) : u ∉ g.neighbours u := fun joined =>
  simple.apart u (mem_nodes_of_mem_neighbours joined) joined

theorem IsSimple.nodup (simple : g.IsSimple) (u : ν) : (g.neighbours u).Nodup := by
  by_cases there : u ∈ g.nodes
  · exact simple.rows u there
  · rw [eq_nil_iff_forall_not_mem.mpr fun v joined => there (mem_nodes_of_mem_neighbours joined)]
    exact nodup_nil

theorem IsSimple.mem_nodes (simple : g.IsSimple) (joined : v ∈ g.neighbours u) : v ∈ g.nodes :=
  mem_nodes_of_mem_neighbours (simple.symm joined)

theorem mem_darts : (u, v) ∈ g.darts ↔ v ∈ g.neighbours u := by
  simpa [darts] using mem_nodes_of_mem_neighbours

theorem walk_cons {seen : List ν} {row : Table ν ε} {rest : List (ν × Table ν ε)} :
    (walk seen ((u, row) :: rest)).map (fun e => (e.1, e.2.1)) =
      (row.keys.filter (· ∉ seen)).map (u, ·) ++ (walk (u :: seen) rest).map fun e => (e.1, e.2.1) := by
  rw [walk, map_append, Table.keys, filter_map, map_map]
  congr 1
  induction row.entries with
  | nil => rfl
  | cons e rest ih => by_cases held : e.1 ∈ seen <;> simp_all

/-- An edge is listed at the end that comes first. -/
theorem mem_walk {seen : List ν} {entries : List (ν × Table ν ε)} (nodup : (entries.map Prod.fst).Nodup) :
    (u, v) ∈ (walk seen entries).map (fun e => (e.1, e.2.1)) ↔ v ∉ seen ∧
      (entries.map Prod.fst).idxOf u ≤ (entries.map Prod.fst).idxOf v ∧ ∃ row, (u, row) ∈ entries ∧ v ∈ row.keys := by
  induction entries generalizing seen with
  | nil => simp [walk]
  | cons first rest ih =>
    obtain ⟨a, row⟩ := first
    obtain ⟨apart, nodup⟩ := nodup_cons.mp nodup
    simp only [walk_cons, mem_append, ih nodup, map_cons, idxOf_cons]
    grind

theorem walk_sublist {seen : List ν} {entries : List (ν × Table ν ε)} :
    ((walk seen entries).map fun e => (e.1, e.2.1)).Sublist (entries.flatMap fun e => e.2.keys.map (e.1, ·)) := by
  induction entries generalizing seen with
  | nil => simp [walk]
  | cons first rest ih =>
    rw [walk_cons, flatMap_cons]
    exact ((filter_sublist ..).map _).append ih

namespace IsSimple

variable (simple : g.IsSimple)

include simple

theorem darts_eq : g.darts = g.rows.entries.flatMap fun e => e.2.keys.map (e.1, ·) := by
  rw [darts, Graph.nodes, Table.keys, flatMap_map]
  exact flatMap_congr fun e entry => by rw [((mem_entries simple.nodes).mp entry).2]; rfl

theorem nodup_darts : g.darts.Nodup := by
  refine nodup_flatMap.mpr ⟨fun u _ => (simple.nodup u).map fun _ _ same => congrArg Prod.snd same, ?_⟩
  exact simple.nodes.imp fun apart => by simp [Function.onFun, disjoint_left, apart.symm]

theorem mem_pairs : (u, v) ∈ g.pairs ↔ g.nodes.idxOf u ≤ g.nodes.idxOf v ∧ v ∈ g.neighbours u := by
  have entry : (∃ row, (u, row) ∈ g.rows.entries ∧ v ∈ row.keys) ↔ v ∈ g.neighbours u := by
    simp only [mem_entries simple.nodes, and_assoc, exists_and_left, exists_eq_left]
    exact and_iff_right_of_imp mem_nodes_of_mem_neighbours
  rw [pairs, edges, mem_walk simple.nodes, entry]
  simp [Graph.nodes, Table.keys]

theorem degree_eq : g.degree u = (g.neighbours u).length := by
  have loopless : (g.row u).contains u = false := by
    simpa [Table.contains] using Table.get?_eq_none_iff.mpr (simple.loopless u)
  simp [degree, loopless, neighbours, Table.size, Table.keys]

/-- Every dart is an edge or the reverse of one. -/
theorem darts_perm : g.darts.Perm (g.pairs ++ g.pairs.map Prod.swap) := by
  have pairs : g.pairs.Nodup := (simple.darts_eq ▸ simple.nodup_darts).sublist walk_sublist
  have order {u v : ν} (joined : v ∈ g.neighbours u) : g.nodes.idxOf u ≠ g.nodes.idxOf v := fun same =>
    simple.loopless u (idxOf_inj (mem_nodes_of_mem_neighbours joined) |>.mp same ▸ joined)
  refine (perm_ext_iff_of_nodup simple.nodup_darts ?_).mpr fun (u, v) => ?_
  · refine pairs.append (pairs.map Prod.swap_injective) fun (u, v) here there => ?_
    simp [simple.mem_pairs] at here there
    have := order here.2
    omega
  · simp [simple.mem_pairs, mem_darts]
    grind [simple.symm]

/-- What holds of a dart and of its reverse holds of two darts for each edge. -/
theorem countP_darts {p : ν × ν → Bool} (symmetric : ∀ d, p d.swap = p d) :
    g.darts.countP p = 2 * g.pairs.countP p := by
  have reverse : p ∘ Prod.swap = p := funext symmetric
  rw [simple.darts_perm.countP_eq, countP_append, countP_map, reverse, Nat.two_mul]

theorem length_darts : g.darts.length = 2 * g.size := by
  simpa [size, pairs] using simple.countP_darts (p := fun _ => true) fun _ => rfl

end IsSimple

theorem keys_erase {t : Table ν ε} : (t.erase v).keys = t.keys.filter (!v == ·) := by
  rw [erase, Table.keys, Table.keys, filter_map]
  rfl

theorem nodes_removeNode : (g.removeNode v).nodes = g.nodes.filter (!v == ·) := by
  rw [removeNode, Graph.nodes, keys_map, keys_erase]
  rfl

theorem neighbours_removeNode :
    (g.removeNode v).neighbours u = if u = v then [] else (g.neighbours u).filter (!v == ·) := by
  simp only [neighbours, row, removeNode, Table.getD, Table.get?_map, Table.get?_erase]
  split
  · rfl
  · cases g.rows.get? u <;> simp [keys_erase]

theorem IsSimple.removeNode (simple : g.IsSimple) : (g.removeNode v).IsSimple where
  nodes := by simpa [nodes_removeNode] using simple.nodes.filter _
  rows u _ := by
    rw [neighbours_removeNode]
    split
    · exact nodup_nil
    · exact (simple.nodup u).filter _
  mutually := by grind [neighbours_removeNode, simple.symm]
  apart := by grind [neighbours_removeNode, simple.loopless]

variable {vs : List ν}

theorem nodes_removeNodes : (g.removeNodes vs).nodes = g.nodes.filter (· ∉ vs) := by
  induction vs generalizing g with
  | nil => simp [removeNodes]
  | cons v rest ih =>
    have later := @ih (g.removeNode v)
    rw [nodes_removeNode, filter_filter] at later
    exact later.trans (filter_congr fun w _ => by grind)

theorem mem_neighbours_removeNodes : w ∈ (g.removeNodes vs).neighbours u ↔ w ∈ g.neighbours u ∧ u ∉ vs ∧ w ∉ vs := by
  induction vs generalizing g with
  | nil => simp [removeNodes]
  | cons v rest ih => grind [@ih (g.removeNode v), neighbours_removeNode, removeNodes]

theorem IsSimple.removeNodes (simple : g.IsSimple) : (g.removeNodes vs).IsSimple := by
  induction vs generalizing g with
  | nil => exact simple
  | cons v rest ih => exact ih simple.removeNode

/-- The edges at a node, once in each direction, and those of the graph without it. -/
theorem IsSimple.darts_removeNode (simple : g.IsSimple) (v : ν) : g.darts.Perm
    ((g.neighbours v).map (v, ·) ++ ((g.neighbours v).map (·, v) ++ (g.removeNode v).darts)) := by
  refine (perm_ext_iff_of_nodup simple.nodup_darts ?_).mpr fun (a, b) => ?_
  · have rows := simple.nodup v
    refine (rows.map fun _ _ same => congrArg Prod.snd same).append
      ((rows.map fun _ _ same => congrArg Prod.fst same).append simple.removeNode.nodup_darts ?_) ?_ <;>
    · intro (a, b)
      grind [mem_darts, neighbours_removeNode, simple.loopless]
  · grind [mem_darts, neighbours_removeNode, simple.symm]

theorem IsSimple.countP_pairs (simple : g.IsSimple) (v : ν) {p : ν × ν → Bool} (symmetric : ∀ d, p d.swap = p d) :
    g.pairs.countP p = (g.neighbours v).countP (fun w => p (v, w)) + (g.removeNode v).pairs.countP p := by
  have reverse (w : ν) : p (w, v) = p (v, w) := symmetric (v, w)
  have parts := (simple.darts_removeNode v).countP_eq p
  simp only [countP_append, countP_map, Function.comp_def, reverse, simple.countP_darts symmetric,
    simple.removeNode.countP_darts symmetric] at parts
  omega

section Part

variable {ε : Type} {g : Graph Nat ε} {chosen : List Nat}

/-- The part of a simple graph on some nodes. -/
theorem IsSimple.part (simple : g.IsSimple) (chosen : List Nat) : (g.part Slots.listed chosen).IsSimple ∧
    (∀ u, u ∈ (g.part Slots.listed chosen).nodes ↔ u ∈ g.nodes ∧ u ∈ chosen) ∧
    ∀ u v, v ∈ (g.part Slots.listed chosen).neighbours u ↔ v ∈ g.neighbours u ∧ u ∈ chosen ∧ v ∈ chosen := by
  have entry (u : Nat) (row : Table Nat ε) : (u, row) ∈ (g.part Slots.listed chosen).rows.entries ↔
      u ∈ g.nodes ∧ u ∈ chosen ∧ row = (g.row u).filter fun v _ => chosen.contains v := by
    rw [Graph.part]
    split
    · simp [hasNode, Table.contains, Table.isSome_get?_iff, Slots.listed_spec.2]
      grind [Graph.nodes]
    · simp [induced, keeping, Table.map, Table.filter, mem_entries simple.nodes]
      grind
  have nodup : (g.part Slots.listed chosen).nodes.Nodup := by
    rw [Graph.part]
    split
    · simpa [Graph.nodes, Table.keys, Function.comp_def] using Slots.listed_spec.1
    · rw [induced, keeping, Graph.nodes, keys_map]
      exact simple.nodes.sublist (filter_sublist.map _)
  generalize g.part Slots.listed chosen = part at entry nodup
  have nodes (u : Nat) : u ∈ part.nodes ↔ u ∈ g.nodes ∧ u ∈ chosen := by
    simp [Graph.nodes, Table.keys, entry]
  have row {u : Nat} (there : u ∈ part.nodes) : part.neighbours u = (g.neighbours u).filter chosen.contains := by
    have own := (entry u _).mp ((mem_entries nodup).mpr ⟨there, rfl⟩)
    rw [neighbours, own.2.2, neighbours, Table.filter, Table.keys, Table.keys, filter_map]
    rfl
  have joined (u v : Nat) : v ∈ part.neighbours u ↔ v ∈ g.neighbours u ∧ u ∈ chosen ∧ v ∈ chosen := by
    by_cases there : u ∈ part.nodes
    · simp [row there, ((nodes u).mp there).2]
    · grind [mem_nodes_of_mem_neighbours]
  refine ⟨⟨nodup, fun u there => row there ▸ (simple.nodup u).filter _, ?_, ?_⟩, nodes, joined⟩
  · grind [simple.symm]
  · grind [simple.loopless]

/-- The edges of a part are those with both ends in it. -/
theorem IsSimple.size_part (simple : g.IsSimple) :
    (g.part Slots.listed chosen).size = g.pairs.countP fun e => chosen.contains e.1 && chosen.contains e.2 := by
  obtain ⟨part, -, joined⟩ := simple.part chosen
  have same : (g.part Slots.listed chosen).darts.Perm
      (g.darts.filter fun e => chosen.contains e.1 && chosen.contains e.2) := by
    refine (perm_ext_iff_of_nodup part.nodup_darts (simple.nodup_darts.filter _)).mpr fun (u, v) => ?_
    simp [mem_darts, joined]
  have length := same.length_eq
  rw [← countP_eq_length_filter, part.length_darts, simple.countP_darts fun e => Bool.and_comm ..] at length
  omega

end Part

end Transmon.Graph
