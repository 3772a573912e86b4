import Transmon.Request.Problem

/-!
Requests about the alternating ansatz, its training, and problems made from random draws.
-/

namespace Transmon.Request.Ansatze

open Form Problem Ansatz

structure State where
  schedule : Ansatz.Schedule Number
  qubits : Nat
  model : Option (Model Nat Number)
  problem : Instance Number
  knowsTrees : Bool

def State.ansatz (s : State) : Outcome Alternating := return ⟨s.schedule, s.qubits, ← require .noAttr s.model⟩

variable (r : Json)

def optValue (n : String) := (present? r n).map toPlain

def toState : Outcome State := do
  let k := textD r "kind" "qubo"
  if !(["qubo", "tree", "bare"].contains k) then fail .missing
  let ls ← layerCount (toPlain (r.get "layers"))
  let angles ← chosenAngles ls (optValue r "betas") (optValue r "gammas") (optValue r "initial_angles")
  let desc := r.group "instance"
  let m ← given? desc "problem" toModel
  let size ← intD desc "dim" ((m.map Model.size).getD 0)
  pure {
    schedule := ⟨ls, angles, false⟩
    qubits := size.toNat
    model := if k = "bare" then none else m
    problem := { (← Problems.toInstance desc) with size := size.toNat }
    knowsTrees := k = "tree" }

variable (s : Ansatz.Schedule Number)

def scheduleFields : Fields :=
  [("angles", quantities s.angles.values), ("layers", s.layers), ("trained", s.isTrained)]

def assigned (n : String) (v : Json) : Outcome (Ansatz.Schedule Number) := do
  let ns (xs : List Number) : Value := .list (xs.map fun | .int i => .int i | .float x => .float x)
  let y := if v.isNull then none else some (toPlain v)
  match n with
  | "num_layers" => s.withLayers <$> layerCount (toPlain v)
  | "betas" => pure ⟨s.layers, ← chosenAngles s.layers y (some (ns s.gammas)) none, false⟩
  | "gammas" => pure ⟨s.layers, ← chosenAngles s.layers (some (ns s.betas)) y none, false⟩
  | "angles" => pure ⟨s.layers, ← chosenAngles s.layers none none y, false⟩
  | _ => fail .noAttr

def circuit (a : Alternating) (isMeasured : Bool) :=
  return call "QuantumCircuit" [a.qubits] :: (← a.gates).map (ansatzGate fun (q : Nat) => q)
    ++ if isMeasured then [call "measure_all"] else []

def step : Action State Json := do
  let st ← get
  match verb r with
  | "state" =>
    let s := st.schedule
    return scheduleFields s ++ [("betas", quantities s.betas), ("gammas", quantities s.gammas), ("qubits", st.qubits)]
  | "set" =>
    let made ← assigned st.schedule (textD r "name" "") (r.get "value")
    set { st with schedule := made }
    return scheduleFields made
  | "ramp" =>
    let x ← need r "beta"
    let gamma ← needAs r "gamma" toNum
    let beta ← match toNum x with
      | .ok beta => pure beta
      | .error f => do
        let s := st.schedule
        let rising ← Number.divide 1 (.int s.layers)
        set { st with schedule := { s with angles := ← s.angles.write 0 (.float rising * gamma) } }
        throw f
    let made ← st.schedule.ramped beta gamma
    set { st with schedule := made }
    return scheduleFields made
  | "tree" =>
    let m ← require .noAttr st.model
    let field ← given? r "field" toNum
    let m := field.elim m fun field => { m with fields := m.fields.map fun _ _ => field }
    let st := { st with model := some m }
    set st
    if !st.knowsTrees then fail .noAttr
    let made ← st.schedule.onTree m
    set { st with schedule := made }
    return .object (scheduleFields made ++ [("printed", .text s!"QAOA depth p =  {made.layers}")])
  | "graph" =>
    let m ← require .noAttr st.model
    return .object
      [("edges", .list m.graph.edges fun e => .array [e.1, e.2.1, quantity e.2.2]),
       ("nodes", .list m.fields.entries fun e => .array [e.1, quantity e.2])]
  | "estimate" =>
    let share ← checkedShare (← given? r "cvar" toNum)
    let (v, _) := (st.problem.tailMean (← needAs r "counts" toCounts) share).run.run Instance.nothingKnown
    pure [("cvar", quantity share), ("shots", [r.get "shots"]), ("value", quantity (← v))]
  | "sample" =>
    pure [("counts", counts (mirrored (← needAs r "counts" toCounts))), ("shots", r.get "shots" (.int 20000))]
  | "circuit" => return ← circuit (← st.ansatz) (boolD r "measurements" true)
  | "quimb" => return call "Circuit" [st.qubits] :: (← (← st.ansatz).gates).map networkGate
  | "circuit_nodes" =>
    let chosen ← (needList r "nodes" fun node => do
      let n ← toInt node
      if n < 0 then fail .missing
      pure n.toNat)
    let (entering, gs) ← (← st.ansatz).coneGates chosen
    let name (q : Nat) : Json := toString q
    return call "QuantumCircuit" [.int 0, (ascending chosen).length]
      :: entering.flatMap (fun q => [call "add_register" [name q], call "h" [name q]]) ++ gs.map (ansatzGate name)
  | "transpiled" =>
    match present? r "transpiler" with
    | none | some (.text "Default") => return ← circuit (← st.ansatz) true
    | some _ => failWith .type ("Currently, only IQM backends are supported with transpilation other than "
        ++ "'Default' or `None`.")
  | "single_layer" =>
    Alternating.checkSingle st.schedule.layers
    rounded 9 <$> (← st.ansatz).singleLayerValue
  | _ => fail .noAttr

def answer := continuing r (toState r) step

def train : Result := do
  let m ← needAs r "problem" toModel
  let ls ← layerCount (toPlain (r.get "layers" (.int 1)))
  let start := (← chosenAngles ls none none (optValue r "angles")).values
  let ps ← needAs r "points" toNumRows
  let value (angles : List Number) : Result :=
    if boolD r "sum" false then return quantity (Quantity.sum angles)
    else do rounded 9 <$> Alternating.singleLayerValue ⟨⟨ls, ⟨angles, false⟩, false⟩, m.size, m⟩
  let fs := m.unknowns.map (m.field ·)
  let cs := m.couplings.map fun c => ((min c.1 c.2.1, max c.1 c.2.1), c.2.2)
  return .object
    [("angles", quantities (ps.getLastD start)),
     ("asked", .array [[quantities start, textD r "method" "COBYLA", ← ps.mapM value]]),
     ("trained", true), ("fields", quantities fs),
     ("interactions", quantityRows (sparseMatrix m.size (.ofList cs)))]

def askedNums (d : Distribution) (spins : Nat) : Json :=
  let size := ("size", naturals [spins, spins])
  match d with
  | .normal => [.text "normal", naturals [0, 1], [size]]
  | .uniform => [.text "uniform", naturals [0, 1], [size]]
  | .twoValued => .array ["binomial", .array [], [("n", .int 1), ("p", .float 0.5), size]]

def spinGlasses : Result := do
  let spins ← needNat r "n"
  let drawn := (r.get "values").items
  let n := textD r "distribution" "gaussian"
  let made ← (List.range (← needInt r "count").toNat).mapM fun k => do
    let distribution ← Distribution.ofName n
    let mat := spinGlass distribution spins (← listOf (← require .exhausted drawn[k]?) toFloats)
    pure (askedNums distribution spins,
      .array [call "SpinMatrix" [.list mat (roundedList 9)] [("vartype", "SPIN")]])
  return .object
    [("asked", .array ["seed", r.get "seed" (.int 1337)] :: made.map Prod.fst), ("made", .list made Prod.snd)]

def cutGraph :=
  match r.field? "graph" with
  | some j => toGraph j
  | none =>
    let k := (toPlain (r.get "value")).className
    failWith .type s!"Supported input is either a NetworkX graph or a MaxCutInstance. Given type: {k}"

def cutProblems : Result := do
  let ns ← needInt r "n"
  let count := (← needInt r "count").toNat
  let opts := r.group "kwargs"
  if !opts.fields.all fun e => ["graph_family", "p", "d", "break_z2", "seed", "enforce_connected"].contains e.1 then
    fail .type
  let drawn ← r.each "graphs" fun g => do return (← toGraph g).graph
  let seed ← intD opts "seed" 1337
  let probability ← numD opts "p" (.float 0.5)
  let deg ← intD opts "d" 3
  let draw ← (match textD opts "graph_family" "erdos-renyi" with
    | "erdos-renyi" => pure ["erdos_renyi_graph", ns, number probability]
    | "regular" => pure ["random_regular_graph", deg, ns]
    | _ =>
      if count = 0 then pure []
      else refuse "Invalid random graph type. Choose either 'regular' or 'erdos-renyi'." : Outcome (List Json))
  let (x, draws) ← acceptedGraphs (boolD opts "enforce_connected" false) count drawn
  return .object
    [("made", .list x fun g => Problems.pairsInOrder (numbered g).graph.pairs),
     ("asked", .list (.range draws) fun (k : Nat) => .array (draw ++ [.int (seed + k)]))]

def drawn : Result := do
  match what r with
  | "sk" => spinGlasses r
  | "greedy_cut" =>
    let x := (← cutGraph r).graph
    if !boolD r "instance" false then
      x.nodes.forM fun v => do
        let near := x.neighbours v
        if !near.isEmpty then (v :: near).forM fun u => discard (u.position x.order)
    let g := (numbered x).graph
    let made := greedyCut g (g.size + 1) ((textD r "start" "").toList.map (· == '1'))
    return String.ofList (made.map fun b => if b then '1' else '0')
  | "cut_type" => do
    discard (cutGraph r)
    fail .type
  | "maxcut" => cutProblems r
  | _ => return counts (countedShots (← needNat r "n") (← needInt r "shots").toNat (textD r "bits" "").toList ∅)

end Transmon.Request.Ansatze
