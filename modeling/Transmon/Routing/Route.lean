import Transmon.Problem.Quadratic

/-!
Devices: which qubits there are, which pairs of them can act on each other, and where they lie.
-/

namespace Transmon.Routing

structure Edge where
  (low high : Nat)
deriving DecidableEq

namespace Edge

def of (a b : Nat) : Edge := ⟨min a b, max a b⟩

variable (e : Edge)

def touches (q : Nat) := e.low == q || e.high == q

def ends :=
  match Slots.listed [e.low, e.high] with
  | [a, b] => (a, b)
  | _ => (e.low, e.high)

def text :=
  let (a, b) := e.ends
  s!"frozenset(\x7b{a}, {b}\x7d)"

def atMost (a b : Edge) := decide (a.low < b.low) || (a.low == b.low && decide (a.high ≤ b.high))

def sorted (es : List Edge) := es.mergeSort atMost

end Edge

def inOrder (ns : List Nat) := ns.mergeSort.eraseDups

structure Device where
  graph : Graph Nat Unit
  layout : Option (Table Nat (Number × Number))
  chain : Option (Outcome (List Nat))
  paths : Table Nat (Table Nat (List Nat))

namespace Device

def make (graph : Graph Nat Unit) (layout : Option (Table Nat (Number × Number)))
    (chain : Option (Outcome (List Nat))) : Device :=
  { graph, layout, chain, paths := ⟨graph.nodes.map fun q => (q, graph.shortestPaths q)⟩ }

variable (d : Device)

def qubits := inOrder d.graph.nodes

def hasEdge (e : Edge) := d.graph.hasEdge e.low e.high

def slots := (Graph.ofEdges [] d.graph.edges).pairs

def path (a b : Nat) := require .missing ((d.paths.getD a ∅).get? b)

def between (a b : Nat) := return (((← d.path a b).length : Nat) : Int) - 2

def cellOf (cols : Nat) (cell : Nat × Nat) := cell.1 * cols + cell.2

def layoutOf (cs : List (Nat × Nat)) : Table Nat (Number × Number) :=
  ⟨cs.zipIdx.map fun e => (e.2, (.int e.1.1, .int e.1.2))⟩

def rowChain (rs cols : Nat) :=
  (List.range rs).flatMap fun i =>
    let row := (List.range cols).map fun j => cellOf cols (i, j)
    if i % 2 = 0 then row else row.reverse

def grid (rs cols : Nat) : Device :=
  let cs := (List.range rs).flatMap fun i => (List.range cols).map fun j => (i, j)
  make ((Graph.grid rs cols).relabelled (cellOf cols)) (some (layoutOf cs)) (some (.ok (rowChain rs cols)))

def line (n : Nat) :=
  make (.path n) (some ⟨(List.range n).map fun (q : Nat) => (q, (.float 0.0, .int q))⟩) (some (fail .noAttr))

def star (ls : Nat) := make (.star ls) none none

def crystalHoles? : Nat → Option (Nat × List (Nat × Nat))
  | 20 => some (5, [(0, 0), (0, 3), (0, 4), (4, 0), (4, 4)])
  | 54 => some (9, [(0, 0), (0, 1), (0, 2), (0, 3), (0, 6), (0, 7), (0, 8), (1, 0), (1, 1), (1, 7), (1, 8), (2, 0),
      (2, 8), (3, 8), (5, 0), (6, 0), (6, 8), (7, 0), (7, 1), (7, 7), (7, 8), (8, 0), (8, 1), (8, 2), (8, 6), (8, 7),
      (8, 8)])
  | _ => none

def crystalCells (n : Nat) := do
  let (w, holes) ← require .missing (crystalHoles? n)
  let cs := (List.range w).flatMap fun i => (List.range w).map fun j => (i, j)
  return cs.filter (!holes.contains ·)

variable (es : List (Nat × Nat))

def gathered : Graph Nat Unit :=
  let ns := (es.flatMap fun e => [e.1, e.2]).eraseDups
  .ofEdges ns (ns.flatMap fun u => ((es.filter (·.1 = u)).map (·.2)).eraseDups.map fun v => (u, v, ()))

def crystal (isDirected : Bool) : Outcome Device := do
  let graph := if isDirected then gathered es else .ofEdges [] (es.map fun e => (e.1, e.2, ()))
  return make graph (some (layoutOf (← crystalCells graph.order))) none

def cells? : Option (Table Nat (Int × Int)) := do
  let es ← (← d.layout).entries.mapM fun e => do
    let (.int x, .int y) := e.2 | none
    some (e.1, (x, y))
  pure ⟨es⟩

end Device

/-!
Routing: bringing the coupled qubits of a problem together on a device.
-/

open Problem Quantity

/-- Which variable each qubit holds. -/
structure Assignment where
  held : Table Nat Nat

namespace Assignment

variable (a : Assignment)

def logical (q : Nat) := a.held.need q

def hardware (v : Nat) := require .missing ((a.held.entries.reverse.find? (·.2 = v)).map Prod.fst)

/-- An assignment of logical qubits to hardware qubits, both as walks over the sets of them list them; some may be given
in advance. -/
def make (dev : Device) (unknowns : List Nat) (x : Option (Table Nat Nat)) : Outcome Assignment := do
  let hard := Slots.ofList dev.graph.nodes
  let logical := Slots.ofList unknowns
  let some x := x | pure ⟨⟨hard.toList.zip logical.toList⟩⟩
  let taken := x.values
  if taken.eraseDups.length ≠ taken.length then
    refuse "The initial mapping between hardware and logical qubits is not bijective!"
  if x.size < logical.toList.length then
    pure ⟨x.insertMany ((hard.without (.ofList x.keys)).zip (logical.without (.ofList taken)))⟩
  else pure ⟨x⟩

def exchanged (p q : Nat) : Outcome Assignment := return ⟨(a.held.insert p (← a.logical q)).insert q (← a.logical p)⟩

def relabelled (u v : Nat) : Outcome Assignment :=
  return ⟨(a.held.insert (← a.hardware u) v).insert (← a.hardware v) u⟩

def moved (s target : Nat) : Outcome Assignment := do
  if let some v := a.held.get? target then
    refuse s!"The target qubit {target} is already occupied by a logical qubit {v}."
  pure ⟨(a.held.insert target (← a.logical s)).erase s⟩

def update (ps : List (Nat × Nat)) : Work Assignment Unit := ps.forM fun e => do set (← (← get).exchanged e.1 e.2)

end Assignment

/-- Gates that are done at the same time. -/
structure Layer where
  (meets swaps : List Edge)
  blocked : List Nat

namespace Layer

instance : EmptyCollection Layer := ⟨⟨[], [], []⟩⟩

def isFree (l : Layer) (e : Edge) := !(l.blocked.contains e.low || l.blocked.contains e.high)

variable (d : Device) (e : Edge) (l : Layer)

def canMeet := d.hasEdge e && !l.meets.contains e && (l.swaps.contains e || l.isFree e)

def canSwap := d.hasEdge e && (l.swaps.contains e || l.meets.contains e || l.isFree e)

def toggled {α : Type} [BEq α] (a : α) (xs : List α) :=
  if xs.contains a then xs.filter fun b => !(a == b) else xs ++ [a]

def including {α : Type} [BEq α] (a : α) (xs : List α) := if xs.contains a then xs else xs ++ [a]

def meeting := { l with meets := l.meets ++ [e], blocked := including e.high (including e.low l.blocked) }

def swapping :=
  { l with
    swaps := toggled e l.swaps
    blocked := if l.meets.contains e then l.blocked else toggled e.high (toggled e.low l.blocked) }

def meet : Work Layer Unit := do
  if !canMeet d e (← get) then refuse s!"Interaction gate {e.text} cannot be applied in layer"
  modify (meeting e)

def swap : Work Layer Unit := do
  if !canSwap d e (← get) then refuse s!"Swap gate {e.text} cannot be applied in layer"
  modify (swapping e)

def make (meets ss : List Edge) : Outcome Layer :=
  let work : Work Layer Unit := do
    meets.forM (meet d)
    ss.forM (swap d)
  work.after ∅

def among (slots : List (Nat × Nat)) (ps : List Edge) := slots.filter fun s => ps.contains (.of s.1 s.2)

/-- Changes the first of the last layers that all fit, or a new one. -/
def slide (fits : Layer → Bool) (change : Layer → Layer) (ls : List Layer) :=
  let count := (ls.reverse.takeWhile fits).length
  if count = 0 then ls ++ [change ∅] else ls.modify (ls.length - count) change

end Layer

structure Route (K : Type) where
  device : Device
  problem : Model Nat K
  (start now : Assignment)
  left : Graph Nat K
  layers : List Layer

inductive Operation (K : Type)
  | hadamards (qubits : List Nat)
  | rzz (angle : K) (a b : Nat)
  | swap (a b : Nat)
  | rz (angle : K) (q : Nat)
  | mixings (angle : K) (qubits : List Nat)
  | controlled (a b : Nat)
  | move (a b : Nat)
  | barrier
  | measure (qubits bits : List Nat)

structure Circuit (K : Type) where
  (qubits bits : Nat)
  operations : List (Operation K)

namespace Route

variable {K : Type}

def begin (device : Device) (problem : Model Nat K) (start : Assignment) : Route K :=
  { device, problem, start, now := start, left := problem.graph, layers := [∅] }

variable (r : Route K)

def active := r.device.graph.part Slots.listed r.now.held.keys

def swapCount := r.layers.foldl (fun total l => total + l.swaps.length) 0

def settlePair (u v : Nat) : Work (Route K) Unit := do
  let r ← get
  if !r.left.hasEdge u v then fail (.other "NetworkXError")
  set { r with left := r.left.removeEdge u v }

variable [Quantity K] (e : Edge)

/-- The logical pair for which a pair of hardware qubits needs a gate. What is coupled by nothing needs none and is
settled at once. -/
def due : Work (Route K) (Option (Nat × Nat)) := do
  let r ← get
  if !r.device.hasEdge e then refuse s!"Interaction gate on hardware qubits {e.text} not supported on hardware graph."
  let (p, q) := e.ends
  let u ← r.now.logical p
  let v ← r.now.logical q
  if isZero (← require .invalid (r.problem.coupling? u v)) then
    settlePair u v
    return none
  if !r.left.hasEdge u v then
    refuse (s!"interaction gate between hardware qubits {p} and {q}, i.e., logical qubits {u} and {v} "
      ++ "does not process any remaining interaction")
  return some (u, v)

def interact : Work (Route K) Unit := do
  if let some (u, v) ← due e then
    modify fun r => { r with layers := Layer.slide (Layer.canMeet r.device e) (.meeting e) r.layers }
    settlePair u v

def attempt : Work (Route K) Unit := do
  let r ← get
  if r.left.hasEdge (← r.now.logical e.low) (← r.now.logical e.high) then interact e

/-- Exchanges what a pair holds and, if asked to, lets it interact if this is left to do. The gate is placed before
it turns out whether both hold something. -/
def exchange (attempting : Bool := false) : Work (Route K) Unit := do
  let r ← get
  if !r.device.hasEdge e then refuse s!"SWAP gate on hardware qubits {e.text} not supported on hardware graph."
  modify fun r => { r with layers := Layer.slide (Layer.canSwap r.device e) (.swapping e) r.layers }
  let now ← r.now.exchanged e.low e.high
  modify ({ · with now })
  if attempting then attempt e

def turn (angle bias : K) := ofInt 2 * angle * bias

/-- The gates of a layer, and what is held after it. -/
def layerGates (reg : List Nat) (gamma : K) (l : Layer) (now : Assignment) :
    Outcome (List (Operation K) × Assignment) := do
  let wire (q : Nat) := require .invalid (reg.findIdx? (· == q))
  let slots := r.device.slots
  let ss := Layer.among slots l.swaps
  let meetings ← (Layer.among slots l.meets).mapM fun s => do
    let w ← require .invalid (r.problem.coupling? (← now.logical s.1) (← now.logical s.2))
    if isZero w then pure []
    else pure [.rzz (turn gamma w) (← wire s.1) (← wire s.2)]
  let exchanges ← ss.mapM fun s => do return .swap (← wire s.1) (← wire s.2)
  pure (meetings.flatten ++ exchanges, ← (Assignment.update ss).after now)

def layersGates (r : Route K) (reg : List Nat) (gamma : K) : List Layer → Assignment →
    Outcome (List (Operation K) × Assignment)
  | [], now => pure ([], now)
  | l :: xs, now => do
    let (x, now) ← r.layerGates reg gamma l now
    let (more, now) ← r.layersGates reg gamma xs now
    pure (x ++ more, now)

def rounds (r : Route K) (reg : List Nat) : List (K × K) → List Layer → Assignment →
    Outcome (List (Operation K) × Assignment)
  | [], _, now => pure ([], now)
  | (gamma, beta) :: xs, ls, now => do
    let (gs, now) ← r.layersGates reg gamma ls now
    let fs ← now.held.entries.mapM fun e =>
      return .rz (turn gamma (← require .invalid (r.problem.field? e.2))) (← require .invalid (reg.findIdx? (· == e.1)))
    let (more, now) ← r.rounds reg xs ls.reverse now
    pure (gs ++ fs ++ [.mixings (ofInt 2 * beta) (.range reg.length)] ++ more, now)

variable (betas gammas : List K)

def paired : Outcome (List (K × K)) := do
  if betas.length ≠ gammas.length then refuse "The lengths of ``gammas`` and ``betas`` need to be the same!"
  return gammas.zip betas

def circuit : Outcome (Circuit K) := do
  let reg := r.now.held.keys.mergeSort
  let ws := List.range reg.length
  let (gs, now) ← r.rounds reg (← paired betas gammas) r.layers r.start
  pure ⟨reg.length, reg.length, .hadamards ws :: gs ++ [.barrier, .measure ws (← reg.mapM now.logical)]⟩

end Route

end Transmon.Routing
