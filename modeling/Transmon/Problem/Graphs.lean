import Transmon.Problem.Quadratic
import Transmon.Value

/-!
Problems about graphs: cuts and independent sets.
-/

namespace Transmon.Problem

open Quantity

abbrev Notes := Table String Value

structure Labelled where
  graph : Graph Label Notes
  notes : Table Label Notes

/-- The natural number that stands for a whole number among slots: a negative one counts back from the number of words,
and the last word is not used. -/
def slotKey (n : Int) := (if 0 ≤ n then n else 18446744073709551616 + min n (-2)).toNat

def Label.listed (ls : List Label) :=
  let keyed := ls.filterMap fun l => l.number?.map fun n => (slotKey n, l)
  let x := (Slots.listed (keyed.map Prod.fst)).filterMap (keyed.lookup ·)
  if x.length = ls.length then x else sorted ls

structure Numbered (ε : Type) where
  graph : Graph Nat ε
  numbers : Table Label Nat
  labels : Table Nat Label

def areNums (ls : List Label) := (List.range ls.length).all fun (i : Nat) => ls.contains (.number i)

def Label.toNat (l : Label) := (l.number?.getD 0).toNat

/-- Numbers the nodes in their order; a graph on exactly the numbers from zero on stays as it is, whatever its order. -/
def numbered {ε : Type} (g : Graph Label ε) : Numbered ε :=
  let ns := g.nodes.zipIdx
  { numbers := ⟨ns⟩
    labels := ⟨ns.map .swap⟩
    graph :=
      if areNums g.nodes then
        ⟨⟨g.rows.entries.map fun e => (e.1.toNat, ⟨e.2.entries.map fun f => (f.1.toNat, f.2)⟩)⟩⟩
      else g.relabelled fun l => (⟨ns⟩ : Table Label Nat).getD l 0 }

def ascending (ns : List Nat) := ns.mergeSort.eraseDups

def weight? (ns : Notes) := (ns.get? "weight").map Value.number?

def weightClass (ns : Notes) := ((ns.get? "weight").getD .none).className

def checkCut (ns : Nat) (bits : String) : Check := do
  let len := bits.length
  if len ≠ ns then refuse s!"The input bitstring has length {len} whereas the graph has {ns} nodes."
  if 2 < bits.toList.eraseDups.length then
    refuse (s!"The string {bits} contains more than 2 distinct characters, so it doesn't represent a partition of "
      ++ "the graph into 2 distinct sets.")

def cutWeight {K : Type} [Quantity K] (g : Graph Nat K) (bits : String) :=
  let chars := bits.toList
  sum ((g.edges.filter fun e => chars[e.1]? != chars[e.2.1]?).map (·.2.2))

/-- Entries are taken to fit the integers of the machine. -/
def addWhole {κ K : Type} [BEq κ] [Quantity K] (es : Table κ K) (place : κ) (bias : K) :=
  es.update place zero fun old => ofInt (whole (old + bias))

/-- The matrix whose quadratic form is minus the weight of a cut. Its entries are whole: a sum is cut toward zero
each time that something is added. -/
def cutEntries {K : Type} [Quantity K] (edges : List (Nat × Nat × K)) :=
  edges.foldl (fun es e => addWhole (addWhole (addWhole es (e.1, e.2.1) (ofInt 2 * e.2.2)) (e.1, e.1) (-e.2.2))
    (e.2.1, e.2.1) (-e.2.2)) ∅

def cutMatrix {K : Type} [Quantity K] (g : Graph Nat K) := sparseMatrix g.order (cutEntries g.edges)

/-- The average over all cuts when the edges count alike. -/
def cutAverage? {K : Type} [Quantity K] (g : Graph Nat K) : Option K := over? (ofInt (-g.size)) (ofInt 2)

def cutBound {K : Type} [Quantity K] : K := zero

def weighted (g : Labelled) : Outcome (Graph Nat Number) := do
  if !areNums g.graph.nodes then refuse "Graph nodes should be labelled by integers starting with 0."
  g.graph.edges.forM fun e => do
    let ends := s!"The edge between nodes {e.1.text} and {e.2.1.text} "
    match weight? e.2.2 with
    | none => refuse s!"{ends}is missing the 'weight' attribute."
    | some none =>
      failWith .type (ends ++ "has a 'weight' of type " ++ weightClass e.2.2
        ++ ", expected ``float`` or ``int``.")
    | some (some _) => return ()
  return (numbered g.graph).graph.mapEdges fun ns => ((weight? ns).bind id).getD 0

def bitsAt (n : Nat) (ps : List Nat) : String :=
  .ofList ((List.range n).map fun i => if ps.contains i then '1' else '0')

/-- Removes the busiest nodes until no edge is left. -/
def thinned {ε : Type} : Nat → Graph Nat ε → Graph Nat ε
  | 0, g => g
  | fuel + 1, g =>
    if g.size = 0 then g
    else
      if let some n := Graph.greatestBy? g.degree g.nodes then thinned fuel (g.removeNode n) else g

def repaired {ε : Type} (g : Graph Nat ε) (bits : String) : String :=
  let chosen := (bits.toList.zipIdx.filter (·.1 = '1')).map Prod.snd
  bitsAt g.order (thinned chosen.length (g.part Slots.listed chosen)).nodes

/-- Takes a node with the fewest neighbours and leaves these out. -/
def greedySet {ν ε : Type} [BEq ν] (least? : (ν → Nat) → List ν → Option ν) : Nat → Graph ν ε → List ν
  | 0, _ => []
  | fuel + 1, g =>
    match least? g.degree g.nodes with
    | none => []
    | some n => n :: greedySet least? fuel (g.removeNodes (n :: g.neighbours n))

/-- The number of edges that a node would gain if its bit were turned over: uncut edges less cut ones. -/
def gain {ε : Type} (g : Graph Nat ε) (bits : List Bool) (n : Nat) : Int :=
  let cut := ((g.neighbours n).filter (bits[n]? != bits[·]?)).length
  (g.degree n) - cut - cut

/-- Turns nodes over while that cuts more edges. -/
def greedyCut {ε : Type} (g : Graph Nat ε) : Nat → List Bool → List Bool
  | 0, bits => bits
  | fuel + 1, bits =>
    if let some n := g.nodes.find? (0 < gain g bits ·) then greedyCut g fuel (bits.modify n not) else bits

structure IndependentSet (K : Type) where
  graph : Graph Nat Notes
  objective : List (List K)
  penalty : K
  upper : Option K
  fixed : Fixing
  free : List Label
  conflicts : List (Nat × Nat)
  edits : List (Edit Nat K)

namespace IndependentSet

variable {K : Type} [Quantity K]

def make (g : Graph Label Notes) (objective : List (List K)) (penalty : K) (upper : Option K) : IndependentSet K :=
  let graph := (numbered g).graph
  { graph, objective, penalty, upper
    fixed := ∅
    free := graph.nodes.map fun (v : Nat) => .number v
    conflicts := graph.pairs
    edits := [] }

def largest (g : Labelled) (penalty : K) :=
  let n := g.graph.order
  make g.graph (sparseMatrix n ⟨(List.range n).map fun i => ((i, i), ofInt (-1))⟩) penalty (some zero)

variable (p : IndependentSet K)

def fix (vs : List (Label × Int)) : Outcome (IndependentSet K × List (Label × Int)) := do
  checkFixing p.fixed vs
  let chosen := (vs.filter (·.2 = 1)).map (·.1)
  let joined (u v : Label) : Bool :=
    match u, v with
    | .number a, .number b => 0 ≤ a && 0 ≤ b && p.graph.hasEdge a.toNat b.toNat
    | _, _ => false
  if (Model.pairsOf chosen).any fun e => joined e.1 e.2 then
    refuse "Can't fix two neighboring nodes to 1 in an independent set problem."
  if chosen.any fun u => !p.graph.nodes.any fun (v : Nat) => u = .number v then fail (.other "NetworkXError")
  let dropped := ascending ((chosen.map (p.graph.neighbours ·.toNat)).flatten.filter fun (v : Nat) =>
    p.free.contains (.number v))
  let all := ((⟨vs⟩ : Fixing).insertMany (dropped.map fun (v : Nat) => (.number v, 0))).entries
  let ns := all.map (·.1)
  pure ({ p with
    fixed := p.fixed.insertMany all
    free := p.free.filter (!ns.contains ·)
    conflicts := p.conflicts.filter fun e => !(ns.contains (.number e.1) || ns.contains (.number e.2)) }, all)

def repair (allowed : Bool) (bits : String) := if allowed then bits else repaired p.graph bits

def penalties : List (Edit Label K) :=
  p.graph.pairs.map (fun e => .quadratic (.number e.1) (.number e.2) p.penalty) ++ [.fix p.fixed.entries]

end IndependentSet

/-- The problem to choose nodes of the greatest total weight. A node has its weight at the place of its label. -/
def heaviest (g : Labelled) (penalty : Number) : Outcome (IndependentSet Number) := do
  g.graph.nodes.forM fun v => do
    let ns := g.notes.getD v ∅
    match weight? ns with
    | none => refuse s!"Node {v.text} is missing the 'weight' attribute."
    | some none =>
      failWith .type ("Node " ++ v.text ++ " has a 'weight' of type " ++ weightClass ns
        ++ ", expected ``float`` or ``int``.")
    | some (some _) => return ()
  let n := g.graph.order
  let es ← g.graph.nodes.mapM fun v => do
    let place ← (match v with
      | .name _ => fail .index
      | l => l.position n)
    pure ((place, place), -((weight? (g.notes.getD v ∅)).bind id).getD 0)
  let obj := sparseMatrix n (.ofList es)
  return .make g.graph obj penalty (if obj.all fun r => r.all fun x => !below x zero then some 0 else none)

def bitsOfLabels (n : Nat) (ls : List Label) := return bitsAt n (← ls.mapM (Label.position n))

/-!
Problems made from what was drawn at random.
-/

inductive Distribution
  | normal | twoValued | uniform
deriving DecidableEq

def Distribution.ofName : String → Outcome Distribution
  | "gaussian" | "normal" => pure .normal
  | "rademacher" => pure .twoValued
  | "uniform" => pure .uniform
  | _ => refuse "Invalid distribution. Choose either 'gaussian', 'rademacher' or 'uniform'."

/-- The couplings of a spin glass: what was drawn above the diagonal, over the root of the number of spins. A draw of
two values gives zeros and ones, which become minus one and one. -/
def spinGlass (d : Distribution) (spins : Nat) (drawn : List Floats) : List Floats :=
  let root := (Numeric.ofNat spins).sqrt
  let coupling (x : Float) : Float := if d = .twoValued then 2.0 * x - 1.0 else x
  drawn.zipIdx.map fun (r, i) => r.zipIdx.map fun (x, j) => (if i < j then coupling x else 0.0) / root

/-- The first graph that is acceptable, what remains after it, and the number of graphs that were drawn. A graph without
nodes is neither connected nor not. -/
def firstAccepted {ν ε : Type} [BEq ν] (mustConnect : Bool) : List (Graph ν ε) →
    Outcome (Graph ν ε × List (Graph ν ε) × Nat)
  | [] => fail .exhausted
  | g :: xs => do
    if g.order = 0 then fail (.other "NetworkXPointlessConcept")
    if g.components.length = 1 || !mustConnect then return (g, xs, 1)
    let (x, xs, count) ← firstAccepted mustConnect xs
    pure (x, xs, count + 1)

def acceptedGraphs {ν ε : Type} [BEq ν] (mustConnect : Bool) : Nat → List (Graph ν ε) → Outcome (List (Graph ν ε) × Nat)
  | 0, _ => pure ([], 0)
  | wanted + 1, drawn => do
    let (g, xs, count) ← firstAccepted mustConnect drawn
    let (x, more) ← acceptedGraphs mustConnect wanted xs
    pure (g :: x, count + more)

def countedShots (n : Nat) : Nat → Chars → Counts → Counts
  | 0, _, x => x
  | shots + 1, bits, x => countedShots n shots (bits.drop n) (x.add (.ofList (bits.take n)) 1)

end Transmon.Problem
