import Transmon.Form.Logical
import Transmon.Moments.Device

/-!
Requests about circuits on an architecture, and about moves.
-/

namespace Transmon.Request.Moves

open Form Move Tracking

def toMoveValidation (j : Json) := do
  match Compiler.MoveValidation.ofName (textD j "moves" "strict") with
  | .unknown _ => fail .invalid
  | mode => pure mode

variable (r : Json)

def circuitsOf := do needList r "circuits" toNative

def check : Result := do
  let a ← needAs r "architecture" toArch
  let m ← mappingOf r
  let mode ← toMoveValidation r
  let mustReturn := boolD r "close" true
  match what r with
  | "mapping" => a.checkMapping (← circuitsOf r) m
  | "instruction" => a.checkStep m (← needAs r "instruction" toNativeStep)
  | "circuits" => a.checkCircuits m mode mustReturn (← circuitsOf r)
  | _ => a.checkMoves m mode mustReturn (← needAs r "circuit" toNative).steps
  pure .null

def toExisting :=
  if let some j := present? r "existing" then require .invalid (j.text?.bind Existing.ofName?)
  else pure .keep

def transform : Result := do
  match what r with
  | "insert" =>
    let c ← needAs r "circuit" toNative
    let a ← needAs r "architecture" toArch
    let (made, m) ← insert a (← toExisting r) (← mappingOf r) (boolD r "restore" true) c
    return nativeCircuitFields made ++ (m.map ("mapping", textTable ·)).toList
  | "remove" => nativeCircuit <$> remove (← needAs r "circuit" toNative)
  | "simplify" => architecture <$> (← needAs r "architecture" toArch).simplified !(boolD r "remove" true)
  | _ =>
    let m ← needAs r "mapping" toTextTable
    let ns := if boolD r "inverse" false then Mapping.inverse m else m
    nativeSteps <$> ns.steps (← needAs r "instructions" toNativeSteps)

def partners (t : Partners) : Json := .table t.entries fun e => texts (Text.sorted e)

def resolution (way : Resolution) := texts [way.gate, way.moved, way.resonator]

def toResolution (j : Json) : Outcome Resolution := do
  let [g, moved, res] ← toTexts j | fail .invalid
  pure ⟨g, moved, res⟩

def pairOf := do
  let [q, res] ← needTexts r "locus" | fail .type
  pure (q, res)

def tracker (t shared : Tracker) : Json :=
  .object
    [("owner", textTable shared.owners), ("holder", textTable t.holders), ("resonators", texts (Text.sorted t.resonators)),
     ("q2r", partners t.moves), ("r2q", partners t.movers),
     ("gates", .table t.gates.entries partners)]

def step (a : Outcome Architecture) (r : Json) : Action Tracker (Tracker → Json) := do
  match verb r with
  | "state" => tracker <$> get
  | "apply" =>
    let (q, res) ← pairOf r
    discard (move q res)
    let owners := (← get).owners
    return fun _ => textTable owners
  | "create" =>
    let (q, res) ← pairOf r
    let ss ← bring q res
    return fun _ => nativeSteps ss
  | "restore" =>
    let ns ← if let some y := present? r "resonators" then toTexts y else pure (← get).resonators
    let ss ← restore ns
    return fun _ => nativeSteps ss
  | "sequence" =>
    let ss ← perform (← needAs r "resolution" toResolution) (← needAs r "instruction" toNativeStep)
    return fun _ => nativeSteps ss
  | "insert" =>
    let ss ← needAs r "instructions" toNativeSteps
    let made ← realiseAll (← a) ss
    return fun _ => nativeSteps made
  | "holding" =>
    let qs ← needTexts r "qubits"
    let x := (← get).holding qs
    return fun _ => texts x
  | "map" =>
    let locus ← needTexts r "locus"
    let x := (← get).resolve locus
    return fun _ => texts x
  | "resolutions" =>
    let g ← needAs r "instruction" toNativeStep
    let ways ← (← get).resolutions g
    let sorted := (ways.map fun way => [way.gate, way.moved, way.resonator]).mergeSort Text.lexical
    return fun _ => .list sorted texts
  | "best" =>
    let g ← needAs r "instruction" toNativeStep
    let lookahead ← toNativeSteps (r.get "lookahead" (.array []))
    let way ← (← get).best g lookahead
    return fun _ => (way.map resolution).getD .null
  | _ => fail .noAttr

def trace (a : Outcome Architecture) : List Json → Tracker → List (Outcome (Tracker → Json)) × Tracker
  | [], t => ([], t)
  | r :: xs, t =>
    let (answer, t) := (step a r).run.run t
    let (answers, t) := trace a xs t
    (answer :: answers, t)

def answer : Answer :=
  let arch := needAs r "architecture" toArch
  let start :=
    if let some c := r.field? "circuit" then do Tracker.ofSteps (← toNative c).steps
    else do Tracker.ofArchitecture (← arch)
  .given start fun t =>
    let (answers, final) := trace arch (r.get "steps").items t
    .steps (answers.map fun a => a.map fun s => s final)

end Transmon.Request.Moves

/-!
Requests about logical circuits and targets.
-/

namespace Transmon.Request.Logicals

open Form Logical

variable (r : Json)

def measurementKey : Result := do
  let k ← Readout.Key.ofText (← needText r "text")
  return .object [("name", k.register), ("len", k.length), ("creg", k.regIndex),
    ("clbit", k.bitIndex), ("text", k.toText)]

def tell : Result := do
  let c ← needAs r "circuit" toLogical
  let ns ← needAs r "names" toNumberedNames
  return .list (← c.toSteps .radians ns (← textsD r "allowed" [])) toldStep

def tellBack : Result := do
  let ss ← needList r "instructions" fun x =>
    return ({
      name := ← needText x "name"
      locus := ← needTexts x "qubits"
      arguments := toPlainEntries (x.get "args").fields } : Circuit.Step)
  let rebuilt ← Rebuilt.ofSteps .radians (.ofList (← fieldsOf (← need r "indices") toNat))
    (← needAs r "layout" toLayout) ss
  pure [("calls", rebuiltCalls rebuilt), ("layout", layout rebuilt.layout)]

variable (j : Json)

def existingOf (n : String) :=
  if let some x := present? j n then some <$> require .invalid (x.text?.bind Move.Existing.ofName?)
  else pure none

def prepOf : Outcome Prep :=
  return {
    routesMoves := boolD j "perform_move_routing" true
    optimises := boolD j "optimize_single_qubits" true
    ignoresBarriers := boolD j "ignore_barriers" false
    dropsFinalTurns := boolD j "remove_final_rzs" true
    existing := ← existingOf j "existing_moves_handling" }

def opsOf (n : String) := do listD r n (toOperation (← r.each "cregs" toRegister))

def rotations : Result := do
  let o := r.get "options"
  let turning ← joinRotations (← intD r "qubits" 0).toNat (← opsOf r "nodes")
    (← opsOf r "translated") (boolD o "drop_final_rz" true)
  pure [("nodes", .list turning.done prepared), ("phase", rounded 9 turning.phase),
    ("removed", boolD o "ignore_barriers" false)]

def matrices : Result := do
  let n ← needText r "gate"
  let mat := argument (toPlain (← need r "unitary"))
  return .list (← opsOf r "nodes") fun o =>
    if o.name = n then [.text "UnitaryGate", naturals o.wires, [mat]]
    else prepared (.kept o)

def plugins : Named Prep :=
  [("MoveGateRoutingPlugin", {}),
   ("IQMDefaultSchedulingPlugin", {}),
   ("MoveGateRoutingOnlyPlugin", { optimises := false }),
   ("MoveGateRoutingKeepExistingMovesPlugin", { existing := some .keep }),
   ("MoveGateRoutingRemoveExistingMovesPlugin", { existing := some .remove }),
   ("MoveGateRoutingTrustExistingMovesPlugin", { existing := some .trust }),
   ("MoveGateRoutingWithExactRZPlugin", { dropsFinalTurns := false }),
   ("MoveGateRoutingWithRZOptimizationIgnoreBarriersPlugin", { ignoresBarriers := true }),
   ("MoveGateRoutingOnlyKeepExistingMovesPlugin", { optimises := false, existing := some .keep }),
   ("MoveGateRoutingOnlyRemoveExistingMovesPlugin", { optimises := false, existing := some .remove }),
   ("MoveGateRoutingOnlyTrustExistingMovesPlugin", { optimises := false, existing := some .trust }),
   ("OnlyRZOptimizationPlugin", { routesMoves := false }),
   ("OnlyRZOptimizationExactPlugin", { routesMoves := false, dropsFinalTurns := false }),
   ("OnlyRZOptimizationIgnoreBarriersPlugin", { routesMoves := false, ignoresBarriers := true }),
   ("OnlyRZOptimizationExactIgnoreBarriersPlugin",
    { routesMoves := false, dropsFinalTurns := false, ignoresBarriers := true })]

def passes (s : Json) : Result := do
  let n ← needText s "plugin"
  let prep ← require .noAttr (plugins.lookup n)
  let isLowest := n = "IQMDefaultSchedulingPlugin" && (toPlain (s.get "level")).number?.any (Number.same 0)
  let prep := if isLowest then { prep with optimises := false } else prep
  let t := s.get "target" "plain"
  return .list (← prep.passes (!t.isNull) (t.text? = some "plain")) pass

def assign (d : Device) (s : Json) : Result := do
  let c ← needAs s "circuit" toLogical
  let o := s.group "kwargs"
  let ps ← given? o "restrict_to_qubits" (listOf · toComponent)
  let given := o.get "initial_layout"
  let a ← d.assignment c (← prepOf o) (!given.isNull) ps (text? o "scheduling_method")
  let own := ["perform_move_routing", "optimize_single_qubits", "ignore_barriers", "remove_final_rzs",
    "existing_moves_handling", "restrict_to_qubits", "initial_layout", "scheduling_method", "target"]
  return .object [("target", ← targetFields a.target),
    ("layout", (a.layout.map naturalPairs).getD given),
    ("options", .object (o.fields.filter (!own.contains ·.1) ++ [("scheduling_method", .text a.method)]))]

def asked : Outcome Value := do
  let x := toPlain j
  if x.isFixed then pure x else fail .type

def step (d : Device) (r : Json) : Result := do
  let ps := needList r "qubits" toComponent
  match verb r with
  | "target" =>
    let t ← match textD r "which" "plain" with
      | "plain" => pure d.plain
      | "resonators" => pure d.withResonators
      | _ => d.real
    return ← targetFields t
  | "info" =>
    return .object
      [("qubits", texts d.components), ("resonators", !d.architecture.resonators.isEmpty),
       ("coupling", .list d.plain.couplings naturals), ("name", "IQMBackend"),
       ("plugin", "iqm_default_scheduling")]
  | "index" => return ← d.position (← needAs r "name" asked).plain
  | "name" =>
    let x ← needAs r "index" asked
    let some (_, n) := d.names.entries.find? fun e => x.number?.any (Number.same (.int e.1))
      | refuse s!"Qubit index {x.plain} is not found on the backend."
    pure n
  | "restrict" =>
    let o := r.get "kwargs"
    let t ← d.restrict (← ps) (boolD o "include_resonators" false) (boolD o "include_fake_czs" true)
    return (← targetFields t) ++ [("architecture", architecture t.architecture)]
  | "restrict_target" => return ← targetFields (← d.withResonators.restrict (← ps))
  | "layout" =>
    let restriction ← given? r "restrict" (listOf · toComponent)
    let l ← d.layout (← needAs r "circuit" toLogical) restriction
    pure [("layout", naturalPairs l)]
  | "validate" =>
    let mode ← Moves.toMoveValidation r
    let ns ← given? r "names" toNumberedNames
    d.validate (← needAs r "circuit" toLogical) mode ns
    pure .null
  | "transpile" => assign d r
  | "plugin" => passes r
  | _ => fail .noAttr

def answer :=
  let start := do Device.ofArchitecture (← needAs r "architecture" toArch)
  continuing r start fun r => do step (← get) r

def route (r : Json) : Result := do
  let ws := (← needList r "registers" toRegister).flatMap fun r => (List.range r.size).map fun i => ⟨r.name, i, []⟩
  let cregs ← r.each "cregs" toRegister
  let operations ← opsOf r "nodes"
  let d ← Device.ofArchitecture (← needAs r "architecture" toArch)
  if operations.isEmpty then return .object [("same", true)]
  let order ← match present? r "layout" with
    | none => pure (.range ws.length)
    | some x => listOf x toNat
  let l : Layout := { wires := .ofList ((← order.mapM (itemAt ws ·)).zipIdx.map fun (b, i) => (i, b)) }
  let final ← given? r "final" fun x => return .ofList ((← listOf x toNat).zipIdx.map fun (w, i) => (i, w))
  let c : Logical.Circuit := { width := ws.length, registers := cregs, operations }
  let routed ← d.plain.route ((← existingOf r "existing").getD .keep) c l final
  let node (o : Logical.Operation Bit) : List Json :=
    ((opCalls o).map (·.items)).map fun made =>
      match o.name, made with
      | "r", .text "r" :: angle :: phase :: xs => .array ["r", [angle, phase], xs]
      | "delay", m :: span :: ws :: _ => [m, .array [], [span, ws]]
      | _, m :: xs => [m, .array [], xs]
      | _, [] => .null
  let bits := (routed.rebuilt.layout.wires.entries.mergeSort fun a b => a.1 ≤ b.1).map (bit ·.2)
  let ends := (routed.final.entries.mergeSort fun a b => a.1 ≤ b.1).map fun e => .array [e.1, bit e.2]
  return .object [("nodes", routed.rebuilt.operations.flatMap node), ("order", bits), ("final", .array ends)]

def gateRules (r : Json) : Result := do
  let gs ← listD r "statements" fun
    | .array [rule, ps] => do
      let n ← toText rule
      if n ≠ "U" && n ≠ "u3" then fail .missing
      let s := match ← Moments.ofAngles (← listOf ps toNum) with
        | .inl g => [g.kind.name, .table g.settings argument]
        | .inr angles => ["QasmUGate", .list angles fun x => argument (.float x)]
      return Json.array (s ++ [.int 3, .int 1, .text n])
    | _ => fail .invalid
  pure [("text", ← need r "text"), ("gates", gs), ("basic", texts ["U"]), ("all", texts ["U", "u3"])]

end Transmon.Request.Logicals
