import Mathlib.Data.List.Chain
import Mathlib.Data.List.Perm.Subperm
import Mathlib.Logic.Equiv.Basic
import Transmon.Proofs.Graph

/-!
# Colourings of edges

An edge gets its colour in three moves. A fan grows around one of its ends, in which the colour of each leaf is free on
the leaf before it. The path of two colours from that end is inverted, after which one of them is free on the end and on
some leaf. The colours of the fan up to that leaf move on by one leaf, and the leaf takes the free colour.
-/

namespace Transmon.Graph

open List

/-- The colours of the edges between nodes. -/
abbrev Hues (ν : Type) := ν → ν → Option Nat

namespace Hues

variable {ν : Type} {f : Hues ν} {a b s u v w x y : ν} {c d k k' : Nat} {e : Option Nat} {fan rest seen S : List ν}

/-- No two edges at a node have the same colour. -/
structure Proper (f : Hues ν) : Prop where
  symm : ∀ a b, f a b = f b a
  loopless : ∀ a, f a a = none
  apart : ∀ a b b' c, f a b = some c → f a b' = some c → b = b'

def Free (f : Hues ν) (c : Nat) (a : ν) : Prop := ∀ b, f a b ≠ some c

/-- A leaf may follow another one in a fan. -/
def Follows (f : Hues ν) (v a b : ν) : Prop := ∃ c, f v b = some c ∧ f.Free c a

/-- Distinct neighbours of a node. The edge to the first has no colour yet, and the colour of each other one is free on
the leaf before it. -/
structure IsFan (f : Hues ν) (v : ν) (fan : List ν) : Prop where
  nodup : fan.Nodup
  outside : v ∉ fan
  start : ∀ x ∈ fan.head?, f v x = none
  chain : fan.IsChain (f.Follows v)

/-- A path of the colours `c` and `d` from `s` through the nodes seen to `v`. Its next edge would have the colour `k`,
the one before had the other colour. -/
structure Trail (f : Hues ν) (c d : Nat) (s : ν) (seen : List ν) (v : ν) (k k' : Nat) : Prop where
  free : f.Free c s
  colours : k = c ∧ k' = d ∨ k = d ∧ k' = c
  nodup : (v :: seen).Nodup
  closed : ∀ u ∈ seen, ∀ w, f u w = some c ∨ f u w = some d → w ∈ seen ∨ w = v ∧ f u w = some k'
  back : ∀ w, f v w = some k' → w ∈ seen
  inner : ∀ u ∈ seen, u ≠ s → ¬f.Free d u
  entered : v ≠ s → ¬f.Free k' v
  still : f.Free d s → seen = [] ∧ v = s ∧ k = d

/-- Nodes that the edges of two colours do not leave. The second colour is free on at most one of them apart from
`s`. -/
structure Component (f : Hues ν) (c d : Nat) (s : ν) (S : List ν) : Prop where
  start : s ∈ S
  closed : ∀ u ∈ S, ∀ w, f u w = some c ∨ f u w = some d → w ∈ S
  single : ∀ u ∈ S, ∀ w ∈ S, u ≠ s → w ≠ s → f.Free d u → f.Free d w → u = w
  alone : f.Free d s → S = [s]

theorem Trail.start (free : f.Free c s) : f.Trail c d s [] s d c := by
  constructor <;> simp_all [Free]

theorem Trail.next (trail : f.Trail c d s seen v k k') (proper : f.Proper) (edge : f v w = some k) :
    f.Trail c d s (v :: seen) w k' k := by
  obtain ⟨unused, colours, nodup, closed, back, inner, entered, still⟩ := trail
  obtain ⟨symm, loopless, apart⟩ := proper
  have reverse : f w v = some k := symm w v ▸ edge
  have ne : c ≠ d := by
    rintro rfl
    obtain ⟨-, rfl, rfl⟩ := still unused
    exact unused w edge
  have other : w ≠ v := by grind
  have new : w ∉ seen := fun mem => by
    have := closed w mem v
    grind
  refine ⟨unused, by grind, by grind, fun u mem x two => ?_, fun x there => ?_, fun u mem far => ?_,
    fun _ free => free v reverse, fun free => ?_⟩
  · rcases mem_cons.mp mem with rfl | mem
    · have := apart u w x k edge
      grind
    · grind
  · exact apart w v x k reverse there ▸ mem_cons_self
  · rcases mem_cons.mp mem with rfl | mem
    · have := entered far
      grind [Free]
    · exact inner u mem far
  · obtain ⟨-, rfl, rfl⟩ := still free
    exact absurd edge (free w)

theorem Trail.component (trail : f.Trail c d s seen v k k') (started : s ∈ v :: seen) (free : f.Free k v) :
    f.Component c d s (v :: seen) := by
  obtain ⟨unused, colours, nodup, closed, back, inner, entered, still⟩ := trail
  refine ⟨started, fun u mem w two => ?_, by grind, by grind⟩
  have := free w
  grind

variable [DecidableEq ν]

/-- The colours with another one for an edge. -/
def paint (f : Hues ν) (a b : ν) (e : Option Nat) : Hues ν := fun x y =>
  if x = a ∧ y = b ∨ x = b ∧ y = a then e else f x y

theorem Proper.paint (proper : f.Proper) (ne : a ≠ b) (free : ∀ c, e = some c → f.Free c a ∧ f.Free c b) :
    (f.paint a b e).Proper := by
  obtain ⟨symm, loopless, apart⟩ := proper
  constructor
  · grind [Hues.paint]
  · grind [Hues.paint]
  · intro x y z c first second
    have := apart x y z c
    grind [Hues.paint, Free]

/-- The colours of a fan move on by one leaf, and the edge to the second leaf has none. -/
theorem IsFan.turn (isFan : f.IsFan v (a :: b :: rest)) (proper : f.Proper) (given : f v b = some c)
    (free : f.Free c a) :
    ((f.paint v b none).paint v a (some c)).Proper ∧ ((f.paint v b none).paint v a (some c)).IsFan v (b :: rest) := by
  obtain ⟨nodup, outside, start, chain⟩ := isFan
  constructor
  · refine (proper.paint (by grind) (by simp)).paint (by grind) fun c' same => ?_
    obtain rfl := Option.some.inj same
    have := proper.apart v b
    constructor <;> intro x <;> grind [paint, Free]
  · refine ⟨nodup.tail, by grind, by grind [paint], ?_⟩
    refine (isChain_cons_cons.mp chain).2.imp_of_mem_tail_imp fun p q first second ⟨k, held, absent⟩ => ?_
    refine ⟨k, by grind [paint], fun y => ?_⟩
    have := absent y
    grind [paint]

/-- The colours with two of them exchanged at some nodes. -/
def swapped (f : Hues ν) (c d : Nat) (S : List ν) : Hues ν := fun a b =>
  if a ∈ S ∨ b ∈ S then (f a b).map (Equiv.swap c d) else f a b

theorem map_swap_eq_some_iff : e.map (Equiv.swap c d) = some k ↔ e = some (Equiv.swap c d k) := by
  cases e <;> simp [Equiv.swap_apply_eq_iff]

theorem map_swap_of_ne (first : e ≠ some c) (second : e ≠ some d) : e.map (Equiv.swap c d) = e := by
  cases e with
  | none => rfl
  | some k => exact congrArg some (Equiv.swap_apply_of_ne_of_ne (by grind) (by grind))

/-- One more edge of a path is exchanged. -/
theorem Trail.swapped_next (trail : f.Trail c d s seen v k k') (proper : f.Proper) (edge : f v w = some k) :
    (f.swapped c d seen).paint v w (some k') = f.swapped c d (v :: seen) := by
  obtain ⟨unused, colours, nodup, closed, back, inner, entered, still⟩ := trail
  have swap : Equiv.swap c d k = k' := by rcases colours with ⟨rfl, rfl⟩ | ⟨rfl, rfl⟩ <;> simp
  have others (b : ν) (far : b ∉ seen) (ne : b ≠ w) : (f v b).map (Equiv.swap c d) = f v b := by
    have := proper.apart v b w k
    have := back b
    exact map_swap_of_ne (by grind) (by grind)
  funext a b
  grind [paint, swapped, proper.symm, proper.loopless]

theorem Trail.swapped_end (trail : f.Trail c d s seen v k k') (proper : f.Proper) (free : f.Free k v) :
    f.swapped c d seen = f.swapped c d (v :: seen) := by
  obtain ⟨unused, colours, nodup, closed, back, inner, entered, still⟩ := trail
  have others (b : ν) (far : b ∉ seen) : (f v b).map (Equiv.swap c d) = f v b := by
    have := back b
    have := free b
    exact map_swap_of_ne (by grind) (by grind)
  funext a b
  grind [swapped, proper.symm]

section Swapped

variable (component : f.Component c d s S) (proper : f.Proper)

include component proper

theorem swapped_apply : f.swapped c d S a b = if a ∈ S then (f a b).map (Equiv.swap c d) else f a b := by
  have := component.closed b
  have : a ∉ S → b ∈ S → (f a b).map (Equiv.swap c d) = f a b := fun far there =>
    map_swap_of_ne (by grind [proper.symm a b]) (by grind [proper.symm a b])
  grind [swapped]

theorem free_swapped_iff : (f.swapped c d S).Free k a ↔ f.Free (if a ∈ S then Equiv.swap c d k else k) a := by
  simp only [Free, swapped_apply component proper]
  split <;> simp only [ne_eq, map_swap_eq_some_iff]

theorem proper_swapped : (f.swapped c d S).Proper where
  symm a b := by simp only [swapped, proper.symm a b, or_comm]
  loopless a := by simp [swapped, proper.loopless]
  apart a b b' k first second := by
    simp only [swapped_apply component proper] at first second
    split at first
    · next there =>
      rw [if_pos there, map_swap_eq_some_iff] at second
      exact proper.apart a b b' _ (map_swap_eq_some_iff.mp first) second
    · next there =>
      rw [if_neg there] at second
      exact proper.apart a b b' k first second

/-- A leaf still follows another one after the exchange, unless the fan can stop before it. -/
theorem follows_swapped (free : f.Free c s) (follows : f.Follows s a b) (goes : ¬(f.swapped c d S).Free d a) :
    (f.swapped c d S).Follows s a b := by
  obtain ⟨k, held, absent⟩ := follows
  refine ⟨Equiv.swap c d k, by simp [swapped_apply component proper, component.start, held], ?_⟩
  have := free b
  rw [free_swapped_iff component proper] at goes ⊢
  by_cases same : k = d
  · grind [Equiv.swap_apply_left, Equiv.swap_apply_right]
  · grind [Equiv.swap_apply_of_ne_of_ne]

/-- After the exchange the second colour is free on some leaf of a fan that could not grow. -/
theorem exists_free_swapped (isFan : f.IsFan s fan) (last : fan.getLast? = some y) (free : f.Free d y)
    (all : ∀ w, f s w = some d → w ∈ fan) : ∃ a ∈ fan, (f.swapped c d S).Free d a := by
  have leaf := mem_of_getLast? last
  have keeps {a : ν} (far : a ∉ S) (free : f.Free d a) : (f.swapped c d S).Free d a := by
    rwa [free_swapped_iff component proper, if_neg far]
  have away {a : ν} (mem : a ∈ fan) : a ≠ s := fun same => isFan.outside (same ▸ mem)
  by_cases inside : y ∈ S
  · have used : ¬f.Free d s := fun free => away leaf (by simpa [component.alone free] using inside)
    obtain ⟨w, given⟩ : ∃ w, f s w = some d := by simpa [Free] using used
    -- The leaf with the colour is not the first. The colour is free on the leaf before it, which is not the last.
    obtain ⟨front, back, rfl⟩ := append_of_mem (all w given)
    rcases eq_nil_or_concat front with rfl | ⟨front, a, rfl⟩
    · simp [isFan.start w (by simp)] at given
    · obtain ⟨k, held, absent⟩ := (isChain_append.mp isFan.chain).2.2 a (by simp) w rfl
      obtain rfl : k = d := by simpa [held] using given
      have ne : a ≠ y := by grind [isFan.nodup]
      refine ⟨a, by simp, keeps (fun inside' => ne ?_) absent⟩
      exact component.single a inside' y inside (away (by simp)) (away leaf) absent free
  · exact ⟨y, leaf, keeps inside free⟩

end Swapped

end Hues

variable {ν : Type} [DecidableEq ν]

section Edges

variable {ε : Type} {g h i : Graph ν ε} {load : ε} {a b u v : ν}

/-- The same nodes with the same neighbours. -/
def SameShape (g h : Graph ν ε) : Prop := h.nodes = g.nodes ∧ ∀ u, h.neighbours u = g.neighbours u

theorem SameShape.refl : SameShape g g := ⟨rfl, fun _ => rfl⟩

theorem SameShape.trans (first : SameShape g h) (second : SameShape h i) : SameShape g i :=
  ⟨second.1.trans first.1, fun u => (second.2 u).trans (first.2 u)⟩

theorem IsSimple.of_sameShape (simple : g.IsSimple) (same : SameShape g h) : h.IsSimple := by
  obtain ⟨nodes, rows⟩ := same
  constructor <;> simp only [nodes, rows]
  exacts [simple.nodes, simple.rows, simple.mutually, simple.apart]

theorem isSome_edge?_iff : (g.edge? u v).isSome = true ↔ v ∈ g.neighbours u := Table.isSome_get?_iff

theorem mem_neighbours_congr (same : ∀ v, h.edge? u v = g.edge? u v) : v ∈ h.neighbours u ↔ v ∈ g.neighbours u := by
  rw [← isSome_edge?_iff, same, isSome_edge?_iff]

theorem row_setEdge : (g.setEdge u v load).row a =
    if a = v then (if a = u then (g.row a).modify v fun _ => load else g.row a).modify u fun _ => load
    else if a = u then (g.row a).modify v fun _ => load else g.row a := by
  have row_modify {g : Graph ν ε} {u : ν} (change : Table ν ε → Table ν ε) (empty : change ∅ = ∅) :
      (⟨g.rows.modify u change⟩ : Graph ν ε).row a = if a = u then change (g.row a) else g.row a := by
    unfold row Table.getD
    rw [Table.get?_modify]
    split
    · cases g.rows.get? a <;> simp [empty]
    · rfl
  unfold setEdge
  rw [row_modify (fun row => row.modify u fun _ => load) rfl, row_modify (fun row => row.modify v fun _ => load) rfl]

theorem edge?_setEdge : (g.setEdge u v load).edge? a b =
    if a = u ∧ b = v ∨ a = v ∧ b = u then (g.edge? a b).map fun _ => load else g.edge? a b := by
  unfold edge?
  rw [row_setEdge]
  grind [Table.get?_modify, Option.map_map, Function.comp_def]

theorem sameShape_setEdge : SameShape g (g.setEdge u v load) := by
  refine ⟨by rw [Graph.nodes, setEdge, Table.keys_modify, Table.keys_modify, Graph.nodes], fun a => ?_⟩
  rw [neighbours, row_setEdge, neighbours]
  grind [Table.keys_modify]

theorem mem_rows_entries (simple : g.IsSimple) :
    (∃ r, (u, r) ∈ g.rows.entries ∧ (v, load) ∈ r.entries) ↔ g.edge? u v = some load := by
  simp only [mem_entries simple.nodes]
  constructor
  · rintro ⟨_, ⟨-, rfl⟩, held⟩
    exact Table.get?_of_mem_entries (simple.nodup u) held
  · intro held
    have joined : v ∈ g.neighbours u := isSome_edge?_iff.mp (by simp [held])
    exact ⟨_, ⟨mem_nodes_of_mem_neighbours joined, rfl⟩, Table.mem_entries_of_get? held⟩

theorem mem_edges (simple : g.IsSimple) : (u, v, load) ∈ g.edges ↔ (u, v) ∈ g.pairs ∧ g.edge? u v = some load := by
  have row {seen : List ν} {rows : List (ν × Table ν ε)} {e : ν × ν × ε} (mem : e ∈ walk seen rows) :
      ∃ r, (e.1, r) ∈ rows ∧ (e.2.1, e.2.2) ∈ r.entries := by
    induction rows generalizing seen with
    | nil => simp [walk] at mem
    | cons first rows ih =>
      rcases mem_append.mp mem with here | later
      · obtain ⟨f, held, given⟩ := mem_filterMap.mp here
        grind
      · grind
  have stored {e : ν × ν × ε} (mem : e ∈ g.edges) : g.edge? e.1 e.2.1 = some e.2.2 :=
    (mem_rows_entries simple).mp (row mem)
  refine ⟨fun mem => ⟨mem_map.mpr ⟨_, mem, rfl⟩, stored mem⟩, ?_⟩
  rintro ⟨pair, held⟩
  obtain ⟨⟨u', v', load'⟩, mem, same⟩ := mem_map.mp pair
  obtain ⟨rfl, rfl⟩ : u' = u ∧ v' = v := by simpa using same
  obtain rfl : load' = load := by simpa [stored mem] using held
  exact mem

end Edges

variable {g h : Graph ν (Option Nat)} {a b s u v w x y : ν} {c d k k' : Nat} {e : Option Nat} {fan rest seen : List ν}
  {ps : List Nat}

/-- The colours of the edges of a graph. -/
def colour? (g : Graph ν (Option Nat)) : Hues ν := fun u v => (g.edge? u v).join

theorem joined_of_colour? (given : g.colour? u v = some c) : v ∈ g.neighbours u :=
  isSome_edge?_iff.mp (by simp [Option.join_eq_some_iff.mp given])

theorem colour?_setEdge (simple : g.IsSimple) (joined : v ∈ g.neighbours u) :
    (g.setEdge u v e).colour? = g.colour?.paint u v e := by
  obtain ⟨i, here⟩ := Option.isSome_iff_exists.mp (isSome_edge?_iff.mpr joined)
  obtain ⟨j, there⟩ := Option.isSome_iff_exists.mp (isSome_edge?_iff.mpr (simple.symm joined))
  funext a b
  rw [colour?, edge?_setEdge, Hues.paint]
  split
  · next same => rcases same with ⟨rfl, rfl⟩ | ⟨rfl, rfl⟩ <;> simp [here, there]
  · rfl

/-- What holds while edges are coloured. The palette has more colours than a node has neighbours. -/
structure Coloured (g : Graph ν (Option Nat)) (ps : List Nat) : Prop where
  simple : g.IsSimple
  proper : g.colour?.Proper
  listed : ∀ u v c, g.colour? u v = some c → c ∈ ps
  nodup : ps.Nodup
  room : ∀ u, (g.neighbours u).length < ps.length

/-- The graph and another one of the same shape that is coloured, with one more coloured edge. -/
structure Recoloured (g : Graph ν (Option Nat)) (ps : List Nat) (v x : ν) (h : Graph ν (Option Nat)) : Prop where
  shape : SameShape g h
  coloured : h.Coloured ps
  isSome : ∀ a b, (h.colour? a b).isSome ↔ (g.colour? a b).isSome ∨ a = v ∧ b = x ∨ a = x ∧ b = v

section Coloured

variable (coloured : g.Coloured ps)

include coloured

theorem get?_coloursOn : (g.coloursOn v).get? c = some w ↔ g.colour? v w = some c := by
  have listed (w : ν) (c : Nat) : (w, some c) ∈ (g.row v).entries ↔ g.colour? v w = some c := by
    rw [colour?, Option.join_eq_some_iff]
    exact ⟨Table.get?_of_mem_entries (coloured.simple.nodup v), Table.mem_entries_of_get?⟩
  have whole : g.coloursOn v = .ofList ((g.row v).entries.filterMap fun e => e.2.map (·, e.1)) := by
    rw [coloursOn, Table.ofList, Table.insertMany, foldl_filterMap]
    congr 1
    funext x e
    cases e.2 <;> rfl
  have read {c : Nat} {w : ν} (found : (g.coloursOn v).get? c = some w) : g.colour? v w = some c := by
    have mem := Table.get?_ofList_mem (whole ▸ found)
    simpa [← listed] using mem
  refine ⟨read, fun given => ?_⟩
  have held : c ∈ (g.coloursOn v).keys := by
    rw [whole, Table.mem_keys_ofList]
    simpa [listed] using ⟨w, given⟩
  obtain ⟨w', found⟩ := Option.isSome_iff_exists.mp (Table.isSome_get?_iff.mpr held)
  rw [found, coloured.proper.apart v w w' c given (read found)]

theorem mem_freeColours : c ∈ g.freeColours ps v ↔ c ∈ ps ∧ g.colour?.Free c v := by
  simp [freeColours, Hues.Free, ← get?_coloursOn coloured, Table.contains, Option.eq_none_iff_forall_ne_some]

/-- A node has fewer neighbours than there are colours, so one of them is free. -/
theorem freeColours_ne_nil : g.freeColours ps u ≠ [] := by
  intro empty
  have used : ps ⊆ (g.neighbours u).filterMap (g.colour? u) := fun c mem => by
    have taken : ¬g.colour?.Free c u := fun free => not_mem_nil (empty ▸ (mem_freeColours coloured).mpr ⟨mem, free⟩)
    obtain ⟨v, given⟩ : ∃ v, g.colour? u v = some c := by simpa [Hues.Free] using taken
    exact mem_filterMap.mpr ⟨v, joined_of_colour? given, given⟩
  have := (coloured.nodup.subperm used).length_le.trans (length_filterMap_le ..)
  have := coloured.room u
  omega

/-! ## Fans -/

theorem nextLeaf?_eq_some (found : g.nextLeaf? ps v x fan = some w) :
    w ∉ fan ∧ g.colour?.Follows v x w ∧ w ∈ g.neighbours v := by
  obtain ⟨c, mem, leaf⟩ := exists_of_findSome?_eq_some found
  obtain ⟨w', held, last⟩ := Option.bind_eq_some_iff.mp leaf
  have given := (get?_coloursOn coloured).mp held
  split at last
  · cases last
  · next absent =>
    obtain rfl := Option.some.inj last
    exact ⟨by simpa using absent, ⟨c, given, ((mem_freeColours coloured).mp mem).2⟩, joined_of_colour? given⟩

theorem mem_of_nextLeaf?_eq_none (stops : g.nextLeaf? ps v x fan = none) (mem : d ∈ ps) (free : g.colour?.Free d x)
    (given : g.colour? v w = some d) : w ∈ fan := by
  have none := findSome?_eq_none_iff.mp stops d ((mem_freeColours coloured).mpr ⟨mem, free⟩)
  simpa [(get?_coloursOn coloured).mpr given] using none

end Coloured

/-- A fan of neighbours from `x` to `y` that cannot grow: whatever colour is free on `y` leads to a leaf. -/
structure IsGrown (g : Graph ν (Option Nat)) (ps : List Nat) (v x y : ν) (fan : List ν) : Prop where
  isFan : g.colour?.IsFan v fan
  joined : ∀ w ∈ fan, w ∈ g.neighbours v
  first : fan.head? = some x
  last : fan.getLast? = some y
  all : ∀ c ∈ ps, g.colour?.Free c y → ∀ w, g.colour? v w = some c → w ∈ fan

theorem isGrown_growFan (coloured : g.Coloured ps) {fuel : Nat} (isFan : g.colour?.IsFan v fan)
    (joined : ∀ w ∈ fan, w ∈ g.neighbours v) (first : fan.head? = some x) (last : fan.getLast? = some w)
    (enough : (g.neighbours v).length < fan.length + fuel) : ∃ y, g.IsGrown ps v x y (g.growFan ps v fuel w fan) := by
  induction fuel generalizing fan w with
  | zero =>
    have := (isFan.nodup.subperm joined).length_le
    omega
  | succ fuel ih =>
    rw [growFan]
    cases found : g.nextLeaf? ps v w fan with
    | none =>
      exact ⟨w, isFan, joined, first, last, fun c mem free w => mem_of_nextLeaf?_eq_none coloured found mem free⟩
    | some leaf =>
      obtain ⟨new, follows, near⟩ := nextLeaf?_eq_some coloured found
      have start : (fan ++ [leaf]).head? = some x := by simp [first]
      have grown : g.colour?.IsFan v (fan ++ [leaf]) := by
        refine ⟨nodup_append.mpr ⟨isFan.nodup, by simp, by grind⟩, ?_, ?_, ?_⟩
        · grind [isFan.outside, coloured.simple.loopless v]
        · exact start ▸ first ▸ isFan.start
        · exact isFan.chain.append (.singleton leaf) (by simpa [last] using follows)
      exact ih grown (by grind) start (by simp) (by simp; omega)

theorem isGrown_maximalFan (coloured : g.Coloured ps) (joined : x ∈ g.neighbours v) (bare : g.colour? v x = none) :
    ∃ y, g.IsGrown ps v x y (g.maximalFan ps v x) := by
  have := coloured.simple.loopless v
  exact isGrown_growFan coloured ⟨by simp, by grind, by simpa using bare, .singleton x⟩ (by simpa using joined) rfl rfl
    (by simp)

/-! ## Paths -/

theorem colour?_foldl_exchanged (coloured : g.Coloured ps) {fuel : Nat}
    (trail : g.colour?.Trail c d s seen v k k') (started : s ∈ v :: seen) (inside : ∀ u ∈ v :: seen, u ∈ g.nodes)
    (enough : g.order < fuel + seen.length + 1) (same : SameShape g h) (now : h.colour? = g.colour?.swapped c d seen) :
    ∃ S, g.colour?.Component c d s S ∧
      let h' := (consecutive (v :: g.alternatingPath fuel v k k')).foldl (fun h edge => h.exchanged c d edge) h
      SameShape g h' ∧ h'.colour? = g.colour?.swapped c d S := by
  induction fuel generalizing seen v k k' h with
  | zero =>
    have few := (trail.nodup.subperm inside).length_le
    simp only [Graph.nodes, Table.keys, length_map, length_cons] at few
    simp only [Graph.order, Table.size] at enough
    omega
  | succ fuel ih =>
    rw [alternatingPath]
    cases found : (g.coloursOn v).get? k with
    | none =>
      have free : g.colour?.Free k v := fun w given => by simp [(get?_coloursOn coloured).mpr given] at found
      exact ⟨_, trail.component started free, same, now.trans (trail.swapped_end coloured.proper free)⟩
    | some w =>
      have edge := (get?_coloursOn coloured).mp found
      have joined := joined_of_colour? edge
      have next := trail.next coloured.proper edge
      have held : h.edge? v w = some (some k) := by
        refine Option.join_eq_some_iff.mp ((congrFun₂ now v w).trans ?_)
        have := next.nodup
        grind [Hues.swapped]
      have exchanged : h.exchanged c d (v, w) = h.setEdge v w (some k') := by
        have := trail.colours
        grind [Graph.exchanged]
      refine ih (h := h.exchanged c d (v, w)) next (by grind) (by grind [coloured.simple.mem_nodes])
        (by simp; omega) ?_ ?_
      · exact exchanged ▸ same.trans sameShape_setEdge
      · rw [exchanged, colour?_setEdge (coloured.simple.of_sameShape same) (same.2 v ▸ joined), now]
        exact trail.swapped_next coloured.proper edge

theorem colour?_invertPath (coloured : g.Coloured ps) (there : v ∈ g.nodes) (free : g.colour?.Free c v) :
    ∃ S, g.colour?.Component c d v S ∧ SameShape g (g.invertPath v c d) ∧
      (g.invertPath v c d).colour? = g.colour?.swapped c d S := by
  refine colour?_foldl_exchanged coloured (.start free) (.head _) (by simpa using there) ?_ .refl ?_
  · simp only [length_nil]
    omega
  · funext a b
    simp [Hues.swapped]

/-! ## Rotations -/

theorem Coloured.of_sameShape (coloured : g.Coloured ps) (same : SameShape g h) (proper : h.colour?.Proper)
    (listed : ∀ u v c, h.colour? u v = some c → c ∈ ps) : h.Coloured ps :=
  ⟨coloured.simple.of_sameShape same, proper, listed, coloured.nodup, fun u => same.2 u ▸ coloured.room u⟩

/-- A rotation leaves the edge to the first leaf as it was before only in the colours that it moves, so what counts is
the graph in which this edge has no colour. -/
theorem colour?_rotateFan {f : Hues ν} (simple : g.IsSimple) (now : g.colour?.paint v x none = f)
    (joined : ∀ w ∈ x :: rest, w ∈ g.neighbours v) (proper : f.Proper) (isFan : f.IsFan v (x :: rest))
    (listed : ∀ a b c, f a b = some c → c ∈ ps) (mem : d ∈ ps) (free : f.Free d v)
    (last : ∀ y ∈ (x :: rest).getLast?, f.Free d y) :
    let h := g.rotateFan v d (x :: rest)
    SameShape g h ∧ h.colour?.Proper ∧ (∀ a b c, h.colour? a b = some c → c ∈ ps) ∧
      ∀ a b, (h.colour? a b).isSome ↔ (f a b).isSome ∨ a = v ∧ b = x ∨ a = x ∧ b = v := by
  induction rest generalizing g f x with
  | nil =>
    have painted : (g.setEdge v x (some d)).colour? = f.paint v x (some d) := by
      rw [colour?_setEdge simple (joined x (.head _)), ← now]
      funext a b
      grind [Hues.paint]
    have ne := isFan.outside
    simp only [rotateFan, painted]
    exact ⟨sameShape_setEdge, proper.paint (by grind) (by grind), by grind [Hues.paint], by grind [Hues.paint]⟩
  | cons y rest ih =>
    obtain ⟨⟨k, held, absent⟩, -⟩ := isChain_cons_cons.mp isFan.chain
    have nodup := isFan.nodup
    have outside := isFan.outside
    obtain ⟨proper', isFan'⟩ := isFan.turn proper held absent
    have reverse := proper.symm y v ▸ held
    have given : g.edge? v y = some (some k) := by
      have := congrFun₂ now v y
      exact Option.join_eq_some_iff.mp (by grind [Hues.paint, colour?])
    have same : SameShape g (g.setEdge v x (some k)) := sameShape_setEdge
    have next : (g.setEdge v x (some k)).colour?.paint v y none = (f.paint v y none).paint v x (some k) := by
      rw [colour?_setEdge simple (joined x (.head _)), ← now]
      funext a b
      grind [Hues.paint]
    rw [rotateFan, given, Option.getD_some]
    obtain ⟨shape, proper, listed, isSome⟩ := ih (simple.of_sameShape same) next
      (fun w mem => same.2 v ▸ joined w (.tail _ mem)) proper' isFan' (by grind [Hues.paint])
      (fun w => by have := free w; grind [Hues.paint, Hues.Free]) fun z ends w => by
        have := last z (by grind) w
        have := mem_of_getLast? ends
        grind [Hues.paint]
    refine ⟨same.trans shape, proper, listed, fun a b => ?_⟩
    rw [isSome]
    grind [Hues.paint]

theorem upTo_spec {α : Type} {R : α → α → Prop} {p : α → Bool} {fan : List α} (chain : fan.IsChain R)
    (stops : ∃ a ∈ fan, p a) :
    upTo p fan <+: fan ∧ (∃ a, (upTo p fan).getLast? = some a ∧ p a) ∧
      (upTo p fan).IsChain fun a b => R a b ∧ p a = false := by
  induction fan with
  | nil => simp at stops
  | cons a fan ih =>
    rw [upTo]
    by_cases here : p a
    · simp [here]
    · obtain ⟨front, ⟨z, ends, stop⟩, chain'⟩ := ih chain.tail (by grind)
      simp only [here]
      refine ⟨by simpa using front, ⟨z, by simp [getLast?_cons, ends], stop⟩, ?_⟩
      refine chain'.cons fun b first => ⟨?_, by simpa using here⟩
      cases fan with
      | nil => simp [upTo] at first
      | cons b' fan =>
        obtain rfl : b' = b := by simpa [upTo] using first
        exact (isChain_cons_cons.mp chain).1

/-! ## Whole graphs -/

section Whole

variable {pick : Graph ν (Option Nat) → ν → List Nat → Nat} (picks : ∀ h u l, l ≠ [] → pick h u l ∈ l)

include picks

theorem recoloured_colourEdge (coloured : g.Coloured ps) (joined : x ∈ g.neighbours v) (bare : g.colour? v x = none) :
    g.Recoloured ps v x (colourEdge pick ps g (v, x)) := by
  obtain ⟨y, isFan, near, first, last, all⟩ := isGrown_maximalFan coloured joined bare
  have free_pick (u : ν) := (mem_freeColours coloured).mp (picks g u _ (freeColours_ne_nil coloured (u := u)))
  obtain ⟨palette, free⟩ := free_pick v
  obtain ⟨palette', free'⟩ := free_pick y
  simp only [colourEdge, getLastD_eq_getLast?, last, Option.getD_some]
  generalize g.maximalFan ps v x = fan at *
  generalize pick g v (g.freeColours ps v) = c at *
  generalize pick g y (g.freeColours ps y) = d at *
  obtain ⟨S, component, shape, now⟩ := colour?_invertPath (d := d) coloured (mem_nodes_of_mem_neighbours joined) free
  generalize g.invertPath v c d = h at *
  have proper' : h.colour?.Proper := now ▸ Hues.proper_swapped component coloured.proper
  have listed' : ∀ a b k, h.colour? a b = some k → k ∈ ps := by
    intro a b k given
    have := coloured.listed a b
    rw [now, Hues.swapped] at given
    grind [Hues.map_swap_eq_some_iff]
  have coloured' := coloured.of_sameShape shape proper' listed'
  have bare' : h.colour? v x = none := by simp [now, Hues.swapped, bare]
  have stops (a : ν) : (h.freeColours ps a).contains d = true ↔ h.colour?.Free d a := by
    rw [contains_iff_mem, mem_freeColours coloured', and_iff_right palette']
  obtain ⟨a, mem, stop⟩ := Hues.exists_free_swapped component coloured.proper isFan last free' (all d palette' free')
  obtain ⟨front, ⟨z, ends, stop'⟩, chain⟩ := upTo_spec (p := fun a => (h.freeColours ps a).contains d) isFan.chain
    ⟨a, mem, (stops a).mpr (now ▸ stop)⟩
  generalize upTo (fun a => (h.freeColours ps a).contains d) fan = short at *
  cases short with
  | nil => cases ends
  | cons x' rest =>
    obtain ⟨more, rfl⟩ := front
    obtain rfl : x' = x := by simpa using first
    have front : x' :: rest <+: x' :: rest ++ more := prefix_append ..
    have isFan' : h.colour?.IsFan v (x' :: rest) := by
      refine ⟨isFan.nodup.sublist front.sublist, fun mem => isFan.outside (front.subset mem), by simpa using bare', ?_⟩
      refine chain.imp fun a b ⟨follows, goes⟩ => ?_
      rw [now]
      exact Hues.follows_swapped component coloured.proper free follows fun stop =>
        Bool.eq_false_iff.mp goes ((stops a).mpr (now ▸ stop))
    have same : h.colour?.paint v x' none = h.colour? := by
      funext a b
      have := proper'.symm v x'
      grind [Hues.paint]
    obtain ⟨shape', proper, listed, isSome⟩ := colour?_rotateFan coloured'.simple same
      (fun w mem => shape.2 v ▸ near w (front.subset mem)) proper' isFan' listed' palette' (by
        rwa [now, Hues.free_swapped_iff component coloured.proper, if_pos component.start, Equiv.swap_apply_right])
      fun y' ends' => by
        obtain rfl : z = y' := by simpa [ends] using ends'
        exact (stops z).mp stop'
    refine ⟨shape.trans shape', coloured'.of_sameShape shape' proper listed, fun a b => (isSome a b).trans ?_⟩
    simp only [now, Hues.swapped]
    grind

theorem foldl_colourEdge (coloured : g.Coloured ps) {es : List (ν × ν)} (joined : ∀ e ∈ es, e.2 ∈ g.neighbours e.1)
    (bare : ∀ e ∈ es, g.colour? e.1 e.2 = none) (once : es.Pairwise fun e e' => e ≠ e' ∧ e.swap ≠ e') :
    let h := es.foldl (colourEdge pick ps) g
    SameShape g h ∧ h.Coloured ps ∧
      ∀ a b, (h.colour? a b).isSome ↔ (g.colour? a b).isSome ∨ (a, b) ∈ es ∨ (b, a) ∈ es := by
  induction es generalizing g with
  | nil => exact ⟨.refl, coloured, by simp⟩
  | cons e es ih =>
    obtain ⟨v, x⟩ := e
    obtain ⟨apart, once⟩ := pairwise_cons.mp once
    have done := recoloured_colourEdge picks coloured (joined (v, x) (.head _)) (bare (v, x) (.head _))
    have later : ∀ e ∈ es, (colourEdge pick ps g (v, x)).colour? e.1 e.2 = none := by
      rintro ⟨a, b⟩ mem
      refine Option.not_isSome_iff_eq_none.mp fun given => ?_
      rcases (done.isSome a b).mp given with given | ⟨rfl, rfl⟩ | ⟨rfl, rfl⟩
      · simp [bare _ (.tail _ mem)] at given
      · exact (apart _ mem).1 rfl
      · exact (apart _ mem).2 rfl
    obtain ⟨shape, coloured, isSome⟩ := ih done.coloured (by grind [done.shape.2]) later once
    refine ⟨done.shape.trans shape, coloured, fun a b => ?_⟩
    rw [foldl_cons, isSome, done.isSome]
    grind

end Whole

/-- The edges of a colour are those that have it. -/
theorem mem_colourClasses (simple : g.IsSimple) (proper : g.colour?.Proper) {n : Nat} {es : List (ν × ν)}
    (held : (colourClasses n g)[c]? = some es) : (u, v) ∈ es ∨ (v, u) ∈ es ↔ g.colour? u v = some c := by
  have mem (u v : ν) : (u, v) ∈ es ↔ (u, v) ∈ g.pairs ∧ g.colour? u v = some c := by
    simp only [colourClasses, getElem?_map, Option.map_eq_some_iff] at held
    obtain ⟨i, at_c, rfl⟩ := held
    obtain rfl : c = i := by simpa using (List.getElem?_eq_some_iff.mp at_c).2
    rw [colour?, Option.join_eq_some_iff, ← mem_edges simple]
    simp
  rw [mem, mem, ← proper.symm u v, ← or_and_right, and_iff_right_of_imp]
  intro given
  have joined := joined_of_colour? given
  simpa [simple.mem_pairs, joined, simple.symm joined] using Nat.le_total ..

/-- Entries that move to the front of a table stay in it. -/
theorem get?_moved {ε : Type} {r : Table ν ε} {front : List ν} (nodup : r.keys.Nodup) (once : front.Nodup) :
    let t : Table ν ε := ⟨front.filterMap (fun v => (r.get? v).map (v, ·)) ++ r.entries.filter (!front.contains ·.1)⟩
    t.keys.Nodup ∧ ∀ v, t.get? v = r.get? v := by
  intro t
  have first : (front.filterMap fun v => (r.get? v).map (v, ·)).map Prod.fst = front.filter (r.get? · |>.isSome) := by
    clear once
    induction front with
    | nil => rfl
    | cons v front ih => cases held : r.get? v <;> simp [held, ih]
  have keys : t.keys.Nodup := by
    rw [Table.keys, map_append, first]
    refine nodup_append.mpr ⟨once.filter _, nodup.sublist (filter_sublist.map _), ?_⟩
    grind [contains_iff_mem]
  refine ⟨keys, fun v => Option.ext fun x => ?_⟩
  have mem : (v, x) ∈ t.entries ↔ r.get? v = some x := by
    have held : (v, x) ∈ r.entries ↔ r.get? v = some x := ⟨Table.get?_of_mem_entries nodup, Table.mem_entries_of_get?⟩
    simp only [t, mem_append, mem_filterMap, mem_filter, held, Option.map_eq_some_iff, Prod.mk.injEq]
    grind [contains_iff_mem]
  exact ⟨fun found => mem.mp (Table.mem_entries_of_get? found),
    fun found => Table.get?_of_mem_entries keys (mem.mpr found)⟩

/-- A graph that is built anew has the same edges. -/
theorem rebuilt_spec (simple : g.IsSimple) : g.rebuilt.IsSimple ∧ ∀ u v, g.rebuilt.edge? u v = g.edge? u v := by
  have row (u : ν) : (g.rebuilt.neighbours u).Nodup ∧ ∀ v, g.rebuilt.edge? u v = g.edge? u v := by
    have nodup := simple.nodup u
    unfold neighbours edge? Graph.row Table.getD at *
    rw [rebuilt, Table.get?_map]
    cases held : g.rows.get? u with
    | none => simp
    | some r =>
      rw [held] at nodup
      exact get?_moved nodup (simple.nodes.sublist (takeWhile_sublist _))
  have joined (u v : ν) : v ∈ g.rebuilt.neighbours u ↔ v ∈ g.neighbours u := mem_neighbours_congr (row u).2
  refine ⟨⟨?_, fun u _ => (row u).1, by grind [simple.symm], by grind [simple.loopless]⟩, fun u => (row u).2⟩
  rw [Graph.nodes, rebuilt, Table.keys_map]
  exact simple.nodes

/-- The edges of a simple graph are coloured with one more colour than the greatest degree, whichever free colours are
picked: every edge has a colour, edges that meet have different ones, and each class holds the edges of its colour. -/
theorem edgeColouring_proper (g : Graph ν (Option Nat)) (pick : Graph ν (Option Nat) → ν → List Nat → Nat)
    (simple : g.IsSimple) (inhabited : g.nodes ≠ []) (bare : ∀ u ∈ g.nodes, ∀ v ∈ g.neighbours u, g.colour? u v = none)
    (picks : ∀ h u l, l ≠ [] → pick h u l ∈ l) :
    ∃ most h, g.greatestDegree? = some most ∧ edgeColouring pick g = some (most + 1, h) ∧
      (∀ u v, v ∈ h.neighbours u ↔ v ∈ g.neighbours u) ∧
      (∀ u v, v ∈ g.neighbours u → ∃ c ≤ most, h.colour? u v = some c) ∧ h.colour?.Proper ∧
      (colourClasses (most + 1) h).length = most + 1 ∧ ∀ (c : Nat) es, (colourClasses (most + 1) h)[c]? = some es →
        ∀ u v, (u, v) ∈ es ∨ (v, u) ∈ es ↔ h.colour? u v = some c := by
  obtain ⟨most, degrees⟩ : ∃ most, g.greatestDegree? = some most :=
    Option.isSome_iff_exists.mp (by simpa [greatestDegree?, Option.isSome_iff_ne_none] using inhabited)
  obtain ⟨simple', edges⟩ := rebuilt_spec simple
  have joined (u v : ν) : v ∈ g.rebuilt.neighbours u ↔ v ∈ g.neighbours u := mem_neighbours_congr (edges u)
  have blank (u v : ν) : g.rebuilt.colour? u v = none := by
    refine Option.eq_none_iff_forall_ne_some.mpr fun c given => ?_
    have given : g.colour? u v = some c := (congrArg Option.join (edges u v)).symm.trans given
    have near := joined_of_colour? given
    simp [bare u (mem_nodes_of_mem_neighbours near) v near] at given
  have room (u : ν) : (g.rebuilt.neighbours u).length < (List.range (most + 1)).length := by
    have fewer := ((simple'.nodup u).subperm fun v near => (joined u v).mp near).length_le
    rw [length_range]
    by_cases there : u ∈ g.nodes
    · have most := (max?_eq_some_iff.mp degrees).2 _ (mem_map_of_mem there)
      rw [simple.degree_eq] at most
      omega
    · have empty : g.neighbours u = [] := eq_nil_iff_forall_not_mem.mpr fun v near =>
        there (mem_nodes_of_mem_neighbours near)
      simp only [empty, length_nil] at fewer
      omega
  have start : g.rebuilt.Coloured (.range (most + 1)) := by
    refine ⟨simple', ?_, by simp [blank], nodup_range, room⟩
    constructor <;> simp [blank]
  have once : g.rebuilt.pairs.Pairwise fun e e' => e ≠ e' ∧ e.swap ≠ e' := by
    obtain ⟨nodup, -, disjoint⟩ := nodup_append.mp (simple'.darts_perm.nodup_iff.mp simple'.nodup_darts)
    exact nodup.imp_of_mem fun {e e'} mem mem' ne =>
      ⟨ne, fun same => disjoint e' mem' e.swap (mem_map.mpr ⟨e, mem, rfl⟩) same.symm⟩
  obtain ⟨shape, coloured, isSome⟩ := foldl_colourEdge picks start
    (fun e mem => (simple'.mem_pairs.mp mem).2) (fun e _ => blank e.1 e.2) once
  refine ⟨most, _, degrees, by rw [edgeColouring, degrees]; rfl, fun u v => shape.2 u ▸ joined u v, fun u v near => ?_,
    coloured.proper, by simp [colourClasses],
    fun c es held u v => mem_colourClasses coloured.simple coloured.proper held⟩
  have either : (u, v) ∈ g.rebuilt.pairs ∨ (v, u) ∈ g.rebuilt.pairs := by
    simpa [simple'.mem_pairs, joined, near, simple.symm near] using Nat.le_total ..
  obtain ⟨c, given⟩ := Option.isSome_iff_exists.mp ((isSome u v).mpr (.inr either))
  exact ⟨c, Nat.lt_succ_iff.mp (mem_range.mp (coloured.listed u v c given)), given⟩

/-- A triangle with one more node. -/
def paw : Graph Nat (Option Nat) := ofEdges [] [(0, 1, none), (0, 2, none), (1, 2, none), (0, 3, none)]

theorem edgeColouring_proper_paw : ∃ h, edgeColouring leastColour paw = some (4, h) ∧ h.colour?.Proper := by
  obtain ⟨most, h, degree, made, -, -, proper, -⟩ := edgeColouring_proper paw leastColour (by constructor <;> decide)
    (by decide) (by decide) fun _ _ l some => by cases l <;> simp_all [leastColour]
  obtain rfl : 3 = most := Option.some.inj ((by decide : paw.greatestDegree? = some 3).symm.trans degree)
  exact ⟨h, made, proper⟩

end Transmon.Graph
