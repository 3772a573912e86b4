import Transmon.Routing.Route

/-!
Routing on a star: all interactions go through the qubit in the middle.
-/

namespace Transmon.Routing

open Problem Quantity

inductive Step
  | moveIn (q : Nat)
  | moveOut (q : Nat)
  | meet (q : Nat)
deriving DecidableEq

def Step.undone : Step → Step
  | moveIn q => moveOut q
  | moveOut q => moveIn q
  | meet q => meet q

def Step.isMove : Step → Bool
  | meet _ => false
  | _ => true

structure StarRoute (K : Type) where
  route : Route K
  steps : List Step

namespace StarRoute

variable {K : Type}

def centre := 0

variable (d : Device)

def begin (p : Model Nat K) (start : Assignment) : StarRoute K :=
  { route := { Route.begin d p start with layers := [] }, steps := [] }

def holds (s : StarRoute K) (q : Nat) := s.route.now.held.contains q

def moveCount (s : StarRoute K) := (s.steps.filter Step.isMove).length

def onRoute {α : Type} : Work (Route K) α → Work (StarRoute K) α :=
  .within StarRoute.route fun route s => { s with route }

def move (step : Step) (source target : Nat) : Work (StarRoute K) Unit := do
  modify fun s => { s with steps := s.steps ++ [step] }
  onRoute do
    let now ← (← get).now.moved source target
    modify ({ · with now })

variable (q : Nat)

def moveIn : Work (StarRoute K) Unit := do
  let s ← get
  if s.holds centre then refuse "The central resonator is occupied, another qubit can't be moved in."
  if !s.holds q then refuse "The target qubit is not assigned a logical qubit."
  move (.moveIn q) q centre

def moveOut : Work (StarRoute K) Unit := do
  let s ← get
  if !s.holds centre then refuse "The central resonator is empty, a qubit can't be moved out of it."
  if s.holds q then refuse "The target qubit is already occupied by a logical qubit."
  move (.moveOut q) centre q

def meet : Work (StarRoute K) Unit := do
  let s ← get
  if !s.holds centre then refuse "The central resonator is empty, interaction can't be applied."
  if !s.holds q then refuse "The target qubit is 'empty', interaction can't be applied."
  modify fun s => { s with steps := s.steps ++ [.meet q] }
  onRoute do
    let now := (← get).now
    Route.settlePair (← now.logical centre) (← now.logical q)

def noLayer {α : Type} : Work (StarRoute K) α := do fail (if (← get).steps.isEmpty then .index else .noAttr)

variable [Quantity K] (e : Edge)

def interact : Work (StarRoute K) Unit := do if (← onRoute (Route.due e)).isSome then noLayer

def attempt : Work (StarRoute K) Unit := do
  let r := (← get).route
  let u ← r.now.logical e.low
  let v ← r.now.logical e.high
  if r.left.hasEdge u v then interact e

def exchange : Work (StarRoute K) Unit := do
  if !(← get).route.device.hasEdge e then
    refuse s!"SWAP gate on hardware qubits {e.text} not supported on hardware graph."
  noLayer

def wire := require .invalid (d.qubits.findIdx? (· == q))

def stepGates (r : Route K) (gamma : K) (now : Assignment) : Step → Outcome (List (Operation K) × Assignment)
  | .moveIn q => do pure ([.move q centre], ← now.moved q centre)
  | .moveOut q => do pure ([.move q centre], ← now.moved centre q)
  | .meet q => do
    let w ← require .invalid (r.problem.coupling? (← now.logical centre) (← now.logical q))
    if isZero w then return ([], now)
    let a ← wire r.device centre
    let b ← wire r.device q
    pure ([.controlled a b, .rz (Route.turn gamma w) b, .controlled a b], now)

def stepsGates (r : Route K) (gamma : K) : List Step → Assignment → Outcome (List (Operation K) × Assignment)
  | [], now => pure ([], now)
  | s :: xs, now => do
    let (x, now) ← stepGates r gamma now s
    let (more, now) ← stepsGates r gamma xs now
    pure (x ++ more, now)

/-- The rounds of a circuit, every second one through the steps backward. The qubits that are turned together are
named by `order`. -/
def rounds (r : Route K) (order : List Nat) : List (K × K) → List Step → Assignment →
    Outcome (List (Operation K) × Assignment)
  | [], _, now => pure ([], now)
  | (gamma, beta) :: xs, ss, now => do
    let (gs, now) ← stepsGates r gamma ss now
    let fs ← now.held.entries.mapM fun e =>
      return .rz (Route.turn gamma (← require .invalid (r.problem.field? e.2))) (← wire r.device e.1)
    let (more, now) ← rounds r order xs (ss.reverse.map .undone) now
    pure (gs ++ fs ++ [.mixings (ofInt 2 * beta) order] ++ more, now)

/-- The circuit of a route. The qubits that hold something are listed in the order that the moves of all rounds leave
behind, and measured into the bits in this order. -/
def circuit (s : StarRoute K) (betas gammas : List K) : Outcome (Circuit K) := do
  let angles ← Route.paired betas gammas
  let start := s.route.start
  let (_, last) ← rounds s.route [] angles s.steps start
  let order := last.held.keys
  let (gs, _) ← rounds s.route order angles s.steps start
  pure ⟨s.route.device.graph.order, start.held.size,
    .hadamards order :: gs ++ [.barrier, .measure order (.range order.length)]⟩

/-- Takes a variable to the middle and lets it meet all that it has still to meet. -/
def visit (v : Nat) : Work (StarRoute K) Unit := do
  let q ← (← get).route.now.hardware v
  moveIn q
  ((← get).route.left.neighbours v).forM fun u => do meet (← (← get).route.now.hardware u)
  moveOut q

variable (p : Model Nat K)

/-- Variables of which one is in every coupling, as few as can be. -/
def cover := (Slots.ofList p.graph.nodes).without (.ofList (p.graph.greatestIndependentSet Slots.listed))

def routed : Outcome (StarRoute K) := do
  let ls := (Slots.ofList d.graph.nodes).without (.ofList [centre])
  let work : Work (StarRoute K) Unit := (cover p).forM visit
  work.after (begin d p (← Assignment.make d p.unknowns (some ⟨ls.zip p.unknowns⟩)))

end StarRoute

end Transmon.Routing

/-!
Layouts of a circuit on a chip: which wires a circuit uses, the circuit on these alone, and how good layouts are.
-/

namespace Transmon.Routing.Layouts

structure Call (α : Type) where
  name : String
  wires : List Nat
  params : List α
  bits : List Nat

variable {α : Type} (cs : List (Call α))

def used (part : Call α → List Nat) :=
  ((cs.filter fun c => c.name ≠ "barrier" && c.name ≠ "delay").flatMap part).mergeSort.eraseDups

/-- The circuit on the wires and bits that are used, numbered anew. What acts on none of these wires is left out. -/
def reduced : Outcome (List (Call α)) := do
  let ws := used cs Call.wires
  let bits := used cs Call.bits
  let kept ← cs.mapM fun c => do
    let used := c.wires.filterMap fun q => ws.findIdx? (· == q)
    if used.isEmpty then return none
    let cells ← c.bits.mapM fun b => require .missing (bits.findIdx? (· == b))
    return some { c with wires := used, bits := cells }
  return kept.filterMap id

def interactions :=
  cs.filterMap fun c => do
    let [a, b] := c.wires | none
    if c.name = "barrier" then none else some (a, b)

/-- The layouts of found maps from places on the chip to wires: the sets of qubits that they use, each once. A wire
for which there is no place has none. -/
def layouts (ns : List Nat) (n : Nat) (x : List (List (Nat × Nat))) : Outcome (List (List (Option Nat))) := do
  let made ← x.mapM fun map => do
    let placed ← map.mapM fun e => do
      if n ≤ e.2 then fail .index
      pure (e.2, ← require .index ns[e.1]?)
    return (List.range n).map fun q => (placed.reverse.find? (·.1 = q)).map Prod.snd
  return made.foldl (fun kept l =>
    if kept.any fun k => k.all l.contains && l.all k.contains then kept else kept ++ [l]) []

def qubitName (n i : Nat) :=
  if i < n then return s!"QB{i + 1}" else refuse s!"Qubit index {i} is not found on the backend."

variable (ps singles : Table String Float)

def fidelity (c : Call α) : Outcome Float :=
  let name (q : Nat) := s!"QB{q + 1}"
  match c.wires with
  | [a, b] =>
    if c.name = "barrier" then pure 1.0
    else ps.need s!"['{name a}', '{name b}']"
  | q :: _ => if c.name = "r" || c.name = "x" then singles.need (name q) else pure 1.0
  | [] => pure 1.0

def cost (cs : List (Call α)) := return 1.0 - (← cs.mapM (fidelity ps singles)).foldl (· * ·) 1.0

def ranked (n : Nat) (ps singles : Table String Float) (ls : List (List Nat))
    (cs : List (List (Call α))) : Outcome (List (Names × Float)) := do
  let costs ← (ls.zip cs).mapM fun e => do
    let error ← cost ps singles e.2
    pure (← e.1.mapM (qubitName n), error)
  return costs.mergeSort fun a b => a.2 ≤ b.2

end Transmon.Routing.Layouts
