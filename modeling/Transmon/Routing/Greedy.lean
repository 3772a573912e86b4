import Transmon.Graph.Matching
import Transmon.Routing.Route

/-!
An assignment by two colours.
-/

namespace Transmon.Routing

open Problem Quantity Layer Transmon.Graph Slots

variable {K : Type}

structure Strands where
  (chains loops : List (List Nat))

namespace Strands

def joined (s : Strands) := s.chains.flatten ++ s.loops.flatten

def walk (g : Graph Nat K) : Nat → Nat → Nat → List Nat
  | 0, _, _ => []
  | count + 1, last, n =>
    if let some next := (g.neighbours n).find? (· ≠ last) then next :: walk g count n next
    else walk g count last n

variable (g : Graph Nat K)

def unrolled := do
  let x ← leastBy? g.degree g.nodes
  let next ← (g.neighbours x).head?
  pure (g.degree x, x :: next :: walk g (g.order - 2) x next)

def twoColoured : Outcome (Graph Nat K) := do
  let (colours, coloured) ← require .invalid ((g.mapEdges fun _ => none).edgeColouring leastColour)
  let x :: second :: _ := (colourClasses colours coloured).mergeSort fun a b => b.length ≤ a.length
    | fail .index
  let chosen := x ++ second
  let kept := g.keeping (fun _ => true) fun u v => chosen.contains (u, v) || chosen.contains (v, u)
  return kept.part listed (chosen.flatMap fun e => [e.1, e.2]).eraseDups

def make : Outcome Strands := do
  let two ← twoColoured g
  let strands := two.components.filterMap fun ns => unrolled (two.part listed (listed ns)).rebuilt
  pure ⟨(strands.filter (·.1 = 1)).map Prod.snd, (strands.filter (·.1 = 2)).map Prod.snd⟩

def everySecond : List Nat → List (Nat × Nat)
  | a :: b :: xs => (a, b) :: everySecond xs
  | _ => []

def layers (s : Strands) :=
  let strands := s.chains ++ s.loops
  [strands.flatMap everySecond, strands.flatMap (everySecond ·.tail)]

end Strands

/-- Lays a chain along the nodes of a graph, always on to a neighbour of the least degree; nodes behind it are taken
away. -/
def layChain {ν : Type} [BEq ν] (g : Graph ν Unit) (n : ν) : List Nat → Outcome (List (ν × Nat))
  | [] => pure []
  | v :: xs => do
    let some next := leastBy? g.degree (g.neighbours n)
      | failWith .runtime ("The greedy algorithm for embedding the chain failed "
          ++ "(``current_node`` has no neighbors). Check if there is enough :class:`HardQubit`\\s in "
          ++ "``hardware_graph`` or define a custom ``embedded_chain`` method of the "
          ++ "``QPU`` subclass.")
    return (next, v) :: (← layChain (g.removeNode n) next xs)

def embedChain {ν : Type} [BEq ν] (chain : List Nat) (g : Graph ν Unit) := do
  let g := g.rebuilt
  let n ← require .invalid (leastBy? g.degree g.nodes)
  let v :: rest := chain | fail .index
  return (n, v) :: (← layChain g n rest)

/-- The part of a grid that is left when the cells that come first in an order are taken away, down to a number. -/
def trimmed (height w n : Nat) (x : Nat × Nat → Nat × Nat → Bool) :=
  let grid := grid height w
  grid.removeNodes ((grid.nodes.mergeSort x).take (grid.order - n))

def halfRoot (n : Nat) := ((List.range (n + 1)).find? fun c => 2 * n ≤ 4 * c * c).getD 0

/-- Compact parts of a grid with a number of cells: close to a disc, to a square, and to a rectangle twice as long as
wide. -/
def compactParts (n : Nat) : List (Graph (Nat × Nat) Unit) :=
  let disc (c : Nat × Nat) : List Int :=
    let centre : Int := 2 * (halfRoot n) - 1
    let away (x : Nat) : Int := (2 * x - centre) * (2 * x - centre)
    [-(away c.1 + away c.2), -c.1, -c.2]
  let square (c : Nat × Nat) : List Int := [-((max c.1 c.2 : Nat) : Int), -c.1, -c.2]
  let oblong (c : Nat × Nat) : List Int := [-((max c.1 (2 * c.2) : Nat) : Int), -c.1, c.2]
  let byKey (k : Nat × Nat → List Int) (a b : Nat × Nat) := Text.lexical (k a) (k b)
  let long := (2 * n).sqrt + 1
  [trimmed long long n (byKey disc), trimmed (n.sqrt + 1) (n.sqrt + 1) n (byKey square),
    trimmed long ((n / 2).sqrt + 1) n (byKey oblong)]

def cellsInOrder (cs : List (Nat × Nat)) :=
  cs.mergeSort fun a b => decide (a.1 < b.1) || (a.1 == b.1 && decide (a.2 ≤ b.2))

def filled (chain : List Nat) (n : Nat) (part : Graph (Nat × Nat) Unit) : Outcome (Table (Nat × Nat) Nat) := do
  let laid ← embedChain chain part
  let bare := (cellsInOrder part.nodes).filter (!(laid.map .fst).contains ·)
  pure ⟨laid ++ bare.zip (listed ((List.range n).filter (!chain.contains ·)))⟩

/-- A chain laid through a compact part of a grid that has a place on a device; the first of some parts that allows
it. -/
def embedIn (d : Device) (chain : List Nat) (n : Nat) : List (Graph (Nat × Nat) Unit) → Outcome (Table Nat Nat)
  | [] => failWith .runtime "No more subgraphs."
  | part :: xs =>
    match filled chain n part with
    | .error f => if f.kind = .runtime then embedIn d chain n xs else .error f
    | .ok vs => do
      let some placed := d.graph.placement? part listed | embedIn d chain n xs
      pure ⟨← placed.mapM fun e => do pure (e.1, ← vs.need e.2)⟩

def twoColourAssignment (d : Device) (p : Model Nat K) : Outcome (Assignment × List (List Edge)) := do
  let strands ← Strands.make p.graph
  let chain := strands.joined
  let x ← (match d.chain with
    | some along => do return (∅ : Table Nat Nat).insertMany ((← along).zip chain)
    | none => embedIn d chain p.size (compactParts p.size))
  let a ← Assignment.make d p.unknowns (some x)
  let ls ← strands.layers.mapM fun ps => ps.mapM fun e => return .of (← a.hardware e.1) (← a.hardware e.2)
  pure (a, ls)

/-!
The greedy router.
-/

/-- The state of the greedy router: the route, the pairs it wants to bring together with their qubits, and how many
qubits are between each two that have yet to meet. Pairs that are wanted and pairs of a matching are sets, and `order`
is the order in which they are walked. -/
structure Greedy (K : Type) where
  route : Route K
  buffer : List Edge
  busy : List Nat
  dists : Graph Nat Int
  order : List (Nat × Nat) → List (Nat × Nat) := id

namespace Greedy

variable {K : Type}

def onRoute {α : Type} : Work (Route K) α → Work (Greedy K) α := .within route fun route s => { s with route }

def between (r : Route K) (u v : Nat) := do r.device.between (← r.now.hardware u) (← r.now.hardware v)

variable (r : Route K)

def distAt (swap : Option Edge) (e : Edge) := do
  let p ← r.now.hardware e.low
  let q ← r.now.hardware e.high
  let some s := swap | r.device.between p q
  if s.touches p || s.touches q then r.device.between p q else pure 0

def totalDist (swap : Option Edge) (ps : List Edge) := return (← ps.mapM (distAt r swap)).foldl (· + ·) 0

def anyApart (r : Route K) : List Edge → Outcome Bool
  | [] => pure false
  | e :: xs => do if 0 < (← distAt r none e) then pure true else anyApart r xs

def gain (ps : List Edge) (swap : Edge) := do
  let before ← totalDist r (some swap) ps
  let now ← r.now.exchanged swap.low swap.high
  return before - (← totalDist { r with now } (some swap) ps)

def partners (dists : Graph Nat Int) (v : Nat) : Outcome (List (Nat × Int)) := do
  if !dists.hasNode v then fail (.other "NetworkXError")
  return (dists.row v).entries

def closest? : List (Nat × Int) → Option (Nat × Int)
  | [] => none
  | x :: xs => some (xs.foldl (fun best e => if e.2 < best.2 then e else best) x)

def dropDist (u v : Nat) : Work (Greedy K) Unit := do
  if !(← get).dists.hasEdge u v then fail (.other "NetworkXError")
  modify fun s => { s with dists := s.dists.removeEdge u v }

def engage (v : Nat) : Work (Greedy K) Unit := do
  let s ← get
  if let some (u, _) := closest? ((← partners s.dists v).filter (!s.busy.contains ·.1)) then
    set { s with
      buffer := including (.of v u) s.buffer
      busy := including u (including v s.busy) }

def release (e : Edge) : Work (Greedy K) Unit := do
  dropDist e.low e.high
  modify fun s => { s with
    buffer := s.buffer.filter (· ≠ e)
    busy := s.busy.filter (!e.touches ·) }
  let (u, v) := e.ends
  engage u
  engage v

def remeasure (v : Nat) : Work (Greedy K) Unit := do
  for (u, _) in ← partners (← get).dists v do
    let s ← get
    set { s with dists := s.dists.setEdge v u (← between s.route v u) }

def inLast (fits : Device → Edge → Layer → Bool) (e : Edge) := r.layers.getLast?.any (fits r.device e ·)

def swapAlong [Quantity K] (e : Edge) (p q : Nat) : Work (Greedy K) Unit := do
  onRoute (Route.exchange e)
  let now := (← get).route.now
  let u ← now.logical p
  let v ← now.logical q
  remeasure u
  remeasure v

variable [Quantity K]

/-- Lets pairs interact that are next to each other, along a matching. Says whether there are any. -/
def meetAll : Work (Greedy K) Bool := do
  let r := (← get).route
  let adjacent ← r.left.pairs.filterMapM fun (u, v) => do
    let p ← r.now.hardware u
    let q ← r.now.hardware v
    return if r.device.graph.hasEdge p q && inLast r canMeet (.of p q) then some (q, p, ()) else none
  for (p, q) in (← get).order (ofEdges [] adjacent).maximalMatching do
    let now := (← get).route.now
    let u ← now.logical p
    let v ← now.logical q
    onRoute (Route.interact (.of p q))
    if (← get).buffer.contains (.of u v) then release (.of u v) else dropDist u v
  pure !adjacent.isEmpty

def replacement? (s : Greedy K) (v : Nat) : Outcome (Option (Int × Edge)) := do
  let some (u, dist) := closest? (← partners s.dists v) | pure none
  return if s.busy.contains u then none else some (dist, .of v u)

def better (a b : Option (Int × Edge)) :=
  match a, b with
  | some a, some b => some (if a.1 ≤ b.1 then a.2 else b.2)
  | some a, none => some a.2
  | none, some b => some b.2
  | none, none => none

def renew : Work (Greedy K) Unit := do
  let s ← get
  for (u, v) in s.order (s.buffer.map Edge.ends) do
    let s ← get
    let e := Edge.of u v
    let first ← replacement? s u
    let y ← replacement? s v
    if let some x := better first y then
      set { s with
        buffer := including x (s.buffer.filter (· ≠ e))
        busy := including x.high (including x.low (s.busy.filter (!e.touches ·))) }

/-- Exchanges along matchings that bring the buffer closer together, as long as there is an exchange that does and for
at most a given number of times. Says whether there was any. -/
def approach : Nat → Work (Greedy K) Bool
  | 0 => pure false
  | times + 1 => do
    let s ← get
    let r := s.route
    let helpful ← r.active.pairs.filterMapM fun (p, q) => do
      if !inLast r canSwap (.of p q) then return none
      let gained ← gain r s.buffer (.of p q)
      return if gained = 1 || gained = 2 then some (p, q, gained.toNat) else none
    if helpful.isEmpty then return false
    for (p, q) in s.order (ofEdges [] helpful).greatestMatching do
      let s ← get
      if 1 ≤ (← gain s.route s.buffer (.of p q)) then swapAlong (.of p q) p q
    let _ ← approach times
    pure true

def stepCloser : Work (Greedy K) Unit := do
  let s ← get
  let (u, v) ← require .missing (s.order (s.buffer.map Edge.ends)).head?
  let p ← s.route.now.hardware u
  let q ← s.route.now.hardware v
  let a :: b :: _ ← s.route.device.path p q | fail .type
  swapAlong (.of a b) a b

def newLayer : Work (Greedy K) Unit := onRoute (modify fun r => { r with layers := r.layers ++ [∅] })

def turn : Work (Greedy K) Unit := do
  let met ← meetAll
  renew
  let s ← get
  match s.buffer with
  | _ :: _ =>
    if ← anyApart s.route s.buffer then if !(met || (← approach s.route.now.held.size)) then stepCloser
    newLayer
  | [] =>
    if let (u, v) :: _ := s.route.left.pairs then
      set { s with buffer := [.of u v], busy := including v (including u s.busy) }

def turns : Nat → Work (Greedy K) Unit
  | 0 => fail .runtime
  | fuel + 1 => do
    if !(← get).route.left.pairs.isEmpty then
      turn
      turns fuel

variable (d : Device) (p : Model Nat K) (order : List (Nat × Nat) → List (Nat × Nat) := id)

def bound := 16 * (p.couplings.length + 1) * (d.graph.order + 1) * (d.graph.order + 1)

def begin : Outcome (Greedy K) := do
  let (start, ls) ← twoColourAssignment d p
  let route := Route.begin d p start
  let measured ← route.left.pairs.mapM fun (u, v) => do pure (u, v, ← between route u v)
  let work : Work (Greedy K) Unit := ls.flatten.forM fun e => do
    onRoute (Route.interact e)
    let now := (← get).route.now
    dropDist (← now.logical e.low) (← now.logical e.high)
  let s ← work.after { route, buffer := [], busy := [], dists := .ofEdges [] measured, order }
  let buffer := s.dists.maximalMatching
  pure { s with
    buffer := buffer.map fun e => .of e.1 e.2
    busy := buffer.flatMap fun e => [e.1, e.2] }

def routed : Outcome (Route K) := do
  let work : Work (Greedy K) Unit := do
    newLayer
    turns (bound d p)
  return (← work.after (← begin d p order)).route

end Greedy

end Transmon.Routing
