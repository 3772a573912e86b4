import Transmon.Request.Ansatz
import Transmon.Routing.Greedy
import Transmon.Routing.Star

/-!
Requests about devices, assignments, layers and routes, and about circuits that are routed for a device.
-/

namespace Transmon.Request.Routes

open Form Problem Routing StarRoute Layer Device

variable (j : Json)

def toPair {α : Type} (read : Json → Outcome α) (j : Json) := pairOf read read j .invalid

def byNum {α : Type} (read : Json → Outcome α) (j : Json) : Outcome (List (Nat × α)) := do
  (← toFields j).mapM fun e => do pure (← require .invalid e.1.toNat?, ← read e.2)

def pairsD (n : String) := listD j n (toPair toNat)

def toLayout : Outcome (Table Nat (Number × Number)) := return ⟨← byNum (toPair toNum) j⟩

def needCount (n : String) := do
  let count ← needInt j n
  if count < 0 then fail (.other "NetworkXError") else pure count.toNat

def toDevice : Outcome Device := do
  match textD j "kind" "" with
  | "grid" => return .grid (← needCount j "rows") (← needCount j "columns")
  | "line" => .line <$> needCount j "n"
  | "star" => .star <$> needCount j "n"
  | "crystal" => crystal (← pairsD j "edges") (boolD j "directed" true)
  | _ =>
    let graph : Graph Nat Unit := .ofEdges (← j.each "nodes" toNat) ((← pairsD j "edges").map fun e => (e.1, e.2, ()))
    let l ← given? j "layout" toLayout
    if l.isNone && !graph.isPlanar then fail (.other "NetworkXException")
    return .make graph l none

variable (r : Json)

def deviceOf := needAs r "qpu" toDevice

def problemOf := needAs r "problem" toModel

def toEdge (k : Fault.Kind) (j : Json) : Outcome Edge := do
  let [a, b] := (← listOf j toNat).eraseDups | fail k
  return .of a b

def edges (es : List Edge) := naturalPairs ((Edge.sorted es).map fun e => (e.low, e.high))

def ordered (ps : List (Nat × Nat)) := naturalPairs (cellsInOrder ps)

def layout (l : Table Nat (Number × Number)) : Json :=
  .list (l.entries.mergeSort fun a b => a.1 ≤ b.1) fun e => .array [e.1, [quantity e.2.1, quantity e.2.2]]

def device : Result := do
  let d ← deviceOf r
  let dists ← (← pairsD r "pairs").mapM fun e =>
    return Json.array [e.1, e.2, .int (((← d.path e.1 e.2).length : Nat) - 1 : Int)]
  let asked ← r.each "ask" fun x => do return Json.bool (d.hasEdge (← toEdge .type x))
  let chain ← (if boolD r "chain" false then do
      pure [("chain", naturals (← (← require .noAttr d.chain)))]
    else pure [])
  return [("qubits", naturals d.qubits), ("edges", edges (d.graph.pairs.map fun e => .of e.1 e.2)),
    ("distances", dists), ("has_edge", asked)]
    ++ (d.layout.map ("layout", layout ·)).toList ++ chain

def toGiven : Outcome (Table Nat Nat) := return ⟨← byNum toNat j⟩

variable (d : Device)

def startOf (p : Model Nat Number) : Outcome Assignment := do
  Assignment.make d p.unknowns (← given? r "initial" toGiven)

def assignment (a : Assignment) : Json :=
  let back := (∅ : Table Nat Nat).insertMany (a.held.entries.map fun e => (e.2, e.1))
  [("hard2log", ordered a.held.entries), ("log2hard", ordered back.entries)]

def gateOf (k : Fault.Kind) := needAs r "gate" (toEdge k)

def assignmentStep (r : Json) : Action Assignment Json := do
  let now ← get
  match verb r with
  | "swap_log" =>
    let e ← gateOf r .invalid
    set (← now.relabelled e.low e.high)
  | "swap_hard" =>
    let e ← gateOf r .invalid
    set (← now.exchanged e.low e.high)
  | "move" =>
    let [s, t] ← needList r "gate" toNat | fail .type
    set (← now.moved s t)
  | "update" =>
    let ps (n : String) : Outcome (List Edge) := return (← r.each n (toEdge .type)).eraseDups
    Assignment.update (among d.slots (← make d (← ps "int") (← ps "swap")).swaps)
  | "show" => pure ()
  | _ => fail .noAttr
  assignment <$> get

def layerFields (l : Layer) : Fields :=
  [("int", edges l.meets), ("swap", edges l.swaps), ("blocked", naturals (inOrder l.blocked))]

def layerStep (r : Json) : Action Layer Json := do
  let e ← gateOf r .type
  let changed := return ("value", .null) :: layerFields (← get)
  match verb r with
  | "int_gate_applicable" => return canMeet d e (← get)
  | "swap_gate_applicable" => return canSwap d e (← get)
  | "apply_int_gate" =>
    meet d e
    changed
  | "apply_swap_gate" =>
    swap d e
    changed
  | _ => fail .noAttr

def operation : Routing.Operation Number → Json
  | .hadamards qs => call "h" [naturals qs]
  | .rzz angle a b => call "rzz" [quantity angle, a, b]
  | .swap a b => call "swap" [a, b]
  | .rz angle q => call "rz" [quantity angle, q]
  | .mixings angle qs => call "rx" [quantity angle, naturals qs]
  | .controlled a b => call "cx" [a, b]
  | .move a b => call "append" [[call "MoveGate"], naturals [a, b]]
  | .barrier => call "barrier"
  | .measure qs bits => call "measure" [naturals qs, naturals bits]

def circuit (c : Routing.Circuit Number) : Json :=
  (call "QuantumCircuit" [c.qubits, c.bits] :: c.operations.map operation)

variable (t : Route Number)

def routeFields : Fields :=
  [("mapping", ordered t.now.held.entries), ("left", ordered (t.left.pairs.map fun e => (min e.1 e.2, max e.1 e.2)))]

def layeredFields := routeFields t ++ [("layers", .list t.layers (layerFields ·)), ("swaps", .int t.swapCount)]

def starStep : Step → Json
  | .moveIn q => .array ["move_in", q]
  | .moveOut q => .array ["move_out", q]
  | .meet q => .array ["int", q]

def starFields (s : StarRoute Number) :=
  routeFields s.route ++ [("layers", .list s.steps starStep), ("moves", .int s.moveCount)]

def toAngles := do
  let [betas, gammas] ← toNumRows j | fail .invalid
  pure (betas, gammas)

def activePairs := edges (t.active.pairs.map fun e => .of e.1 e.2)

/-- A step on a route, or a look at what it has become. -/
def stepOn {σ : Type} (route : σ → Route Number) (draw : σ → List Number → List Number → Outcome (Routing.Circuit Number))
    (s : σ → Fields) (act : String → Action σ Unit) : Action σ Json := do
  match verb r with
  | "build" =>
    let (betas, gammas) ← needAs r "angles" toAngles
    return circuit (← draw (← get) betas gammas)
  | "active" => return activePairs (route (← get))
  | x =>
    act x
    return s (← get)

def routeStep :=
  stepOn r id (·.circuit) layeredFields fun
    | "apply_swap" => do Route.exchange (← gateOf r .type) (boolD r "attempt_int" false)
    | "apply_int" => do Route.interact (← gateOf r .invalid)
    | "attempt_apply_int" => do Route.attempt (← gateOf r .invalid)
    | _ => fail .noAttr

def starRouteStep :=
  let q := needNat r "qubit"
  stepOn r (·.route) (·.circuit) starFields fun
    | "apply_move_in" => do moveIn (← q)
    | "apply_move_out" => do moveOut (← q)
    | "apply_directed_int" => do meet (← q)
    | "apply_swap" => do exchange (← gateOf r .type)
    | "apply_int" => do interact (← gateOf r .invalid)
    | "attempt_apply_int" => do attempt (← gateOf r .invalid)
    | _ => fail .noAttr

def isStar : Bool := textD (r.get "qpu") "kind" "" = "star"

def patternFields (vs : Table Nat Nat) : Fields :=
  let name (q : Nat) : Int := ((vs.get? q).map .ofNat).getD (-1)
  let numbers (ns : List Int) : Json := .list ns .int
  let pair (e : Edge) : List Int := [min (name e.low) (name e.high), max (name e.low) (name e.high)]
  let ps (es : List Edge) : Json := .list ((es.map pair).mergeSort Text.lexical) numbers
  let layer (l : Layer) : Json :=
    [("int", ps l.meets), ("swap", ps l.swaps), ("blocked", numbers ((l.blocked.map name).mergeSort))]
  let place (a : Assignment) (v : Nat) : Int := if let .ok q := a.hardware v then name q else -1
  [("layers", .list t.layers layer), ("swaps", t.swapCount), ("left", t.left.pairs.length),
    ("moved", .list ((t.start.held.entries.map fun e => [name e.1, place t.now e.2]).mergeSort Text.lexical) numbers)]

def router (r : Json) : Result := do
  let d ← deviceOf r
  let p ← problemOf r
  let withCircuit (fs : Fields) (build : List Number → List Number → Outcome (Routing.Circuit Number)) : Result := do
    let some j := present? r "angles" | pure fs
    let (betas, gammas) ← toAngles j
    return fs ++ [("circuit", circuit (← build betas gammas))]
  let layered (t : Route Number) := withCircuit (layeredFields t) t.circuit
  match textD r "router" "" with
  | "sn" => layered (← networkRouted d p)
  | "star" =>
    let s ← routed d p
    withCircuit (starFields s) s.circuit
  | "greedy" => layered (← Greedy.routed d p)
  | "two_color" =>
    let (made, ls) ← twoColourAssignment d p
    pure [("mapping", ordered made.held.entries),
      ("layers", .list ls fun es => naturalPairs (es.map fun e => (e.low, e.high)))]
  | "hardwired" =>
    let (t, ns) ← Pattern.routed d p
    return patternFields t ns
  | _ => fail .missing

def routerPart : Result := do
  match what r with
  | "chains" =>
    let strands ← Strands.make (← problemOf r).graph
    return .object [("chains", .list strands.chains naturals), ("loops", .list strands.loops naturals)]
  | "embed_chain" => ordered <$> embedChain (← needList r "chain" toNat) (← deviceOf r).graph
  | "subgraphs" => return .list (compactParts (← needNat r "n")) fun p => naturalPairs (cellsInOrder p.nodes)
  | "rectangle" =>
    let some x ← rectangle? (← deviceOf r) (← needNat r "h") (← needNat r "w") | pure .null
    return naturals [x.corner, x.width, x.height]
  | "swap_sets" =>
    let s ← SwapSets.make ⟨← needAs r "layout" (byNum (toPair toInt))⟩
    return .list [s.oddRows, s.evenRows, s.evenColumns, s.oddColumns] edges
  | "crystal_layout" => return layout (layoutOf (← crystalCells (← needNat r "n")))
  | "nearest" =>
    let vs ← needAs r "values" toNums
    let i := Ansatz.nearestIndex (vs.map Number.toFloat) (← needAs r "value" toNum).toFloat
    pure [.int i, quantity (← require .invalid vs[i]?)]
  | _ => fail .missing

def transpiled : Result := do
  let m ← problemOf r
  let ls ← Ansatz.layerCount (toPlain (r.get "layers" (.int 1)))
  let s : Ansatz.Schedule Number := ⟨ls, ← Ansatz.chosenAngles ls none none (Ansatze.optValue r "angles"), false⟩
  let o := r.group "kwargs"
  if o.fields.any fun e => e.1 ≠ "seed" then fail .type
  let seed := o.get "seed" (.int 1337)
  let answer (asked : List Json) (cs : Json) : Json := .object [("asked", asked), ("circuit", cs)]
  let plain := return ← Ansatze.circuit ⟨s, m.size, m⟩ true
  let routed (route : Device → Outcome (Route Number)) : Result := do
    let d ← crystal (← pairsD r "edges") true
    return answer [call "transpile" [] [("layout_method", "default"), ("optimization_level", .int 3),
      ("routing_method", "none"), ("seed_transpiler", seed)]] (circuit (← (← route d).circuit s.betas s.gammas))
  match present? r "transpiler" with
  | none => return answer [] (← plain)
  | some (.text "Default") => return answer [call "transpile" [] [("seed_transpiler", seed)]] (← plain)
  | some (.text "HardwiredTranspiler") => routed fun d => do return (← Pattern.routed d m).1
  | some (.text "SparseTranspiler") => routed (Greedy.routed · m)
  | some (.text "SwapNetwork") => routed (networkRouted · m)
  | some (.text "MinimumVertexCover") =>
    let cs := circuit (← (← StarRoute.routed (.star m.size) m).circuit s.betas s.gammas)
    let ns ← needTexts r "names"
    let some centre := ns.findIdx? (· == "COMPR1") | refuse "Qubit 'COMPR1' is not found on the backend."
    return answer [call "transpile_to_IQM" [] [("existing_moves_handling", "keep"),
      ("initial_layout", naturals (centre :: .range m.size)), ("perform_move_routing", false)]] cs
  | some x => refuse s!"Unknown transpiler provided: {x.shown}"

end Transmon.Request.Routes

/-!
Requests about the ansatz along a pattern and about layouts on a chip.
-/

namespace Transmon.Request.Layouting

open Form Problem Ansatz Routing.Layouts

variable (r : Json)

def toWeights : Outcome (Weights Number) := return ⟨← needAs r "W" toNumRows, ← needAs r "w" toNums⟩

def patternedOp : PatternedOp → List Json
  | .gate g => [ansatzGate (·) g]
  | .exchange a b => [call "cx" [a, b], call "cx" [b, a], call "cx" [a, b]]
  | .measure qs bits => [call "measure" [naturals qs, naturals bits]]

def layersHint := "please set num_layers = 1\n"

def patternedCalls : Outcome (Option (List Json)) := do
  let size ← needNat r "n"
  let made ← patterned (← toWeights r) size (← intD r "layers" 1) (← needAs r "theta" toNums)
  return made.map fun ops => call "QuantumCircuit" [size, size] :: ops.flatMap patternedOp

def patternedAnswer : Result := do
  match what r with
  | "circuit" =>
    let some cs ← patternedCalls r | return .object [("exit", layersHint)]
    pure cs
  | "objective" => quantity <$> (← toWeights r).ofBits (← needText r "bits")
  | "expectation" => quantity <$> (← toWeights r).mean (← needAs r "counts" toCounts).entries
  | "energy" =>
    let w ← toWeights r
    let [gamma, beta] ← needAs r "params" toNums | fail .invalid
    let floats : Weights Float := ⟨w.couplings.map (·.map Number.toFloat), w.fields.map Number.toFloat⟩
    rounded 9 <$> floats.expected gamma.toFloat beta.toFloat
  | "swap" =>
    let [m, n] ← needList r "mn" toInt | fail .invalid
    return ← swapped (← needAs r "vector" toItems) m n
  | _ => fail .missing

def askedReduced (qs : List Nat) : Json := .array ["reduce", naturals qs]

def patternedLayout : Result := do
  let size ← needNat r "n"
  let ps ← placesFor size
  let best ← needList r "best" toNat
  let transpiling := call "transpile" [] [("coupling_map", "reduced"), ("optimization_level", .int 3)]
  let some cs ← patternedCalls r | return .object [("exit", layersHint)]
  let asked (n : String) (named : Fields) : Json := .array [n, named]
  return .object
    [("asked", [askedReduced ps, transpiling, asked "optimize_single_qubit_gates" [],
      asked "matching_layouts" [], asked "evaluate_costs" [("opt_level", .int 2)], askedReduced best, transpiling]),
     ("circuit", .array ["QuantumCircuit", .int 20, size, "compose",
      [("clbits", naturals (.range size)), ("qubits", naturals best)]]),
     ("inner", cs.length), ("inner_first", cs.take 3)]

variable (j : Json)

def toCall : Outcome (Call Json) :=
  return ⟨← needText j "name", ← needList j "qubits" toNat, (j.get "params").items, ← j.each "clbits" toNat⟩

def toCalls := listOf j toCall

def param := if let .ok n := toNum j then quantity n else j

def namedCall (c : Call Json) :=
  call c.name (c.params.map param ++ c.wires.map (fun q => .text s!"q{q}") ++ c.bits.map fun b => .text s!"c{b}")

def toMaps := listOf j (Routes.byNum toNat)

def layouts : Result := do
  let cs ← needAs r "circuit" toCalls
  let ws := used cs Call.wires
  match what r with
  | "active" => pure [naturals ws, naturals (used cs Call.bits)]
  | "deflate" => return call "QuantumCircuit" [ws.length, (used cs Call.bits).length] :: (← reduced cs).map namedCall
  | "match" =>
    let ps := interactions (← reduced cs)
    let made ← Routing.Layouts.layouts (← needList r "nodes" toNat) ws.length (← needAs r "found" toMaps)
    let s ← made.mapM fun l => do
      if l.contains none && 1 < l.eraseDups.length then fail .type
      return Json.array ((Routing.inOrder (l.filterMap id)).map (.int ·) ++ if l.contains none then [.null] else [])
    let isStrict := boolD r "strict" true
    let graph := [call (if isStrict then "PyDiGraph" else "PyGraph") [] [("multigraph", false)],
      call "add_nodes_from" [naturals (.range ws.length)], call "add_edges_from_no_data" [naturalPairs ps]]
    let o := Json.object [("call_limit", .int 30000000), ("id_order", false), ("induced", false), ("subgraph", true)]
    return .object [("layouts", s),
      ("asked", [.text (if isStrict then "directed" else "undirected"), .array graph, o])]
  | _ => fail .missing

def toFidelities : Outcome (Table String Float) := return ⟨← fieldsOf j fun x => do return (← toNum x).toFloat⟩

def layoutCosts : Result := do
  let size ← needNat r "n"
  let bits ← needNat r "bits"
  let ls ← needList r "layouts" (listOf · toNat)
  let cs ← needList r "transpiled" toCalls
  let costs ← ranked size (← needAs r "two" toFidelities) (← needAs r "one" toFidelities) ls cs
  let asked := ls.flatMap fun l =>
    [askedReduced l, call "transpile" [] [("basis_gates", texts ["r", "cz"]), ("coupling_map", "reduced"),
      ("optimization_level", r.get "level")],
     call "compose" [] [("clbits", naturals (.range bits)), ("qubits", naturals l)]]
  return .object [("costs", .list costs fun e => [texts e.1, rounded 9 e.2]), ("asked", asked)]

end Transmon.Request.Layouting
