import Transmon.Client.Model
import Transmon.Form.Schedule
import Transmon.Station
import Transmon.Token

/-!
JSON forms of architectures and of circuits for them.
-/

namespace Transmon.Form

variable (j : Json)

def toNativeStep : Outcome Circuit.Step := do
  let o ← Circuit.Native.named (← needText j "name")
  pure {
    name := o.name
    locus := ← needTexts j "qubits"
    arguments := toPlainEntries (j.get "args").fields
    implementation := text? j "implementation" }

def toNativeSteps := listOf j toNativeStep

def nativeStep (s : Circuit.Step) : Json :=
  .array ([.text s.name, texts s.locus, echo (.dict s.arguments)] ++ (s.implementation.map .text).toList)

def nativeSteps (ss : List Circuit.Step) : Json := .list ss nativeStep

def toNative : Outcome Circuit :=
  return {
    name := textD j "name" "c"
    steps := ← needAs j "instructions" toNativeSteps
    notes := toPlain (j.get "metadata") }

def nativeCircuitFields (c : Circuit) : Fields :=
  [("name", c.name), ("instructions", nativeSteps c.steps), ("metadata", echo c.notes)]

def nativeCircuit (c : Circuit) : Json := nativeCircuitFields c

def toTextTable : Outcome (Table String String) := .ofList <$> fieldsOf j toText

def textTable (t : Table String String) : Json := .table t.entries .text

def mappingOf (r : Json) : Outcome (Option Mapping) := given? r "mapping" toTextTable

def toLoci := listOf j toTexts

def toGateInfo : Outcome Architecture.Gate := do
  let impls ← fieldsOf (← need j "implementations") fun x => toLoci (x.get "loci" x)
  if (j.field? "override_default_implementation").any (!·.isObject) then
    refuse "'override_default_implementation' must be a dict."
  let overrides ← ((j.field? "override_default_implementation").getD (j.group "override")).fields.mapM fun e =>
    return (e.1.splitOn ",", ← toText e.2)
  pure {
    implementations := .ofList impls
    default := textD j "default_implementation" (textD j "default" ((impls.head?.map Prod.fst).getD ""))
    overrides := .ofList overrides }

def toArch : Outcome Architecture := do
  let gs ← readAll toGateInfo (j.get "gates").fields
  pure {
    calsetId := textD j "calibration_set_id" "00000000-0000-0000-0000-000000000000"
    qubits := ← needTexts j "qubits"
    resonators := ← textsD j "computational_resonators" []
    gates := .ofList gs }

def overridePairs (overrides : List (Names × String)) : Json := .list overrides fun e => [texts e.1, e.2]

def gateInfo (g : Architecture.Gate) : Json :=
  .object
    [("implementations", .table g.implementations.entries fun loci => .list (loci.mergeSort Text.lexical) texts),
     ("default", g.default), ("override", overridePairs g.overrides.entries)]

def architecture (a : Architecture) : Json :=
  [("qubits", texts a.qubits), ("resonators", texts a.resonators), ("gates", .table a.gates.entries gateInfo)]

def archRecord (a : Architecture) : Json :=
  let gate (g : Architecture.Gate) : Json :=
    .object [("implementations", .object (g.implementations.keys.map (·, .object []))),
      ("default_implementation", g.default),
      ("override_default_implementation", .object (g.overrides.entries.map fun e => (",".intercalate e.1, e.2)))]
  .object [("calibration_set_id", a.calsetId), ("qubits", texts a.qubits),
    ("computational_resonators", texts a.resonators),
    ("gates", .table a.gates.entries gate)]

/-!
JSON forms of control stations.
-/

variable (j : Json)

def toTiming : Outcome Timing := return ⟨← needFloat j "rate", ← needInt j "gran", ← needInt j "min"⟩

def toReadoutCtrl (l : String) (j : Json) : Outcome ReadoutCtrl :=
  return ⟨l ++ "__readout", ← toTiming j, ⟨← needFloat j "center", ← needInt j "start", ← needInt j "stop"⟩⟩

def toGenerators (c : Chip.Topology) (fn : String) : Outcome (Table String Generator) := do
  let ps ← textsD j fn []
  let missing ← textsD j "no_awg" []
  let special := j.group "awg_overrides"
  let fb ← if fn = "drive" then toNameLists (j.group "feedback") else pure ∅
  let generators ← ((c.qubits ++ c.couplers).filter ps.contains).filterMapM fun p => do
    let n := s!"{p}__{fn}.awg"
    if missing.contains n then return none
    let timing ← toTiming (← if let some own := special.field? n then pure own else need j "awg")
    return some (p, ⟨n, timing, fb.getD p []⟩)
  pure ⟨generators⟩

def toStation : Outcome Station := do
  let c ← toTopology j
  let readout := j.group "readout"
  let readouts ← c.probeLines.filterMapM fun l => do
    let some x := readout.field? l | pure none
    return some (l, ← toReadoutCtrl l x)
  Station.make c ⟨readouts⟩ (← toGenerators j c "drive") (← toGenerators j c "flux")

def channels (t : Channels) : Json := .table t.entries channel

def lines (t : Table String (Table String String)) : Json := .table t.entries textTable

def controllers (all : Named Ctrl) : Json :=
  .table all fun c =>
    let common := [("sampling_rate", float c.samplingRate), ("instruction_duration_granularity", float c.granularity),
      ("instruction_duration_min", float c.minimum), ("compatible_instructions", texts c.commands),
      ("is_virtual", false), ("blocks_component", true)]
    match c.role with
      | .generator ss hasOscillator hasMixerCorrection =>
        object "AWGProperties" (common ++ [("fast_feedback_sources", texts ss),
          ("local_oscillator", hasOscillator), ("mixer_correction", hasMixerCorrection)])
      | .readout start stop =>
        object "ReadoutProperties" (common ++ [("integration_start_dead_time", float start),
          ("integration_stop_dead_time", float stop)])

/-!
JSON forms of what a client and its server talk about.
-/

open Client

def toSpec : Outcome Spec := .ofList <$> fieldsOf j toLoci

def specification (s : Spec) : Json := .table s.entries (·.map texts)

def specificationOf : Outcome Spec := do
  match ← need j "operations" with
  | .array ns => Spec.expanded (← ns.mapM toText) (← needTexts j "qubits") (← needAs j "qubit_connectivity" toLoci)
  | ops => do (← toSpec ops).checked

def toMode {α : Type} (j : Json) (n : String) (ofName : String → α) (isKnown : α → Bool)
    (usual : Option α) : Outcome (Option α) :=
  match j.field? n with
  | none => pure usual
  | some .null => pure none
  | some (.text s) => if isKnown (ofName s) then return some (ofName s) else fail .invalid
  | some _ => fail .invalid

def runOptionNames : Names :=
  ["max_circuit_duration_over_t2", "heralding_mode", "move_gate_validation", "move_gate_frame_tracking",
   "active_reset_cycles", "dd_mode", "dd_strategy"]

def toRunOptions : Outcome Options := do
  let usual : Options := {}
  let heralding ← toMode j "heralding_mode" .ofName (fun | .unknown _ => false | _ => true) usual.heralding
  let validation ← toMode j "move_gate_validation" .ofName (fun | .unknown _ => false | _ => true) usual.validation
  let tracking ← toMode j "move_gate_frame_tracking" .ofName (fun | .unknown _ => false | _ => true) usual.tracking
  let decoupling ← toMode j "dd_mode" .ofName (fun | .unknown _ => false | _ => true) usual.decoupling
  let strategy ← strategyShape.read (j.get "dd_strategy")
  checkFields j.fields [] runOptionNames
  let o : Options :=
    { durationOverCoherence := j.get "max_circuit_duration_over_t2"
      heralding, validation, tracking
      resetCycles := j.get "active_reset_cycles"
      decoupling, strategy }
  o.check
  pure o

def runOptions (o : Options) : Json :=
  .object
    [("max_circuit_duration_over_t2", o.durationOverCoherence),
     ("heralding_mode", optText (o.heralding.map Compiler.HeraldingMode.name)),
     ("move_gate_validation", optText (o.validation.map Compiler.MoveValidation.name)),
     ("move_gate_frame_tracking", optText (o.tracking.map Compiler.FrameTracking.name)),
     ("active_reset_cycles", o.resetCycles), ("dd_mode", optText (o.decoupling.map Compiler.DecouplingMode.name)),
     ("dd_strategy", o.strategy)]

/-!
JSON forms of calls to servers, of answers to come, and of what a client runs on.
-/

def toContent : Outcome Http.Content :=
  match j.field? "json", j.field? "hex" with
  | some v, _ => return .text v.spaced
  | none, some ds => do .bytes <$> require .invalid (Wire.ofHex? (← toText ds))
  | none, none => return .text (textD j "text" "")

def toReply : Outcome Http.Reply :=
  match j.field? "raise" with
  | some n => do return .broken ⟨← toText n, textD j "message" ""⟩
  | none => do
    let history ← j.each "history" toInt
    return .answer { status := ← intD j "status" 200, content := ← toContent j, history }

def toHost (ver : String) : Outcome Host := do
  let replies ← j.each "responses" toReply
  let env ← readAll toText (j.get "env").fields
  let fs ← readAll toText (j.get "files").fields
  pure {
    now := ← intD j "now" 0
    environment := .ofList env
    files := .ofList fs
    line := { replies }
    version := textD j "version" ver }

def toParams (fs : Fields) (ys : Names := ["client_signature"]) : Outcome (Named String) := do
  checkFields fs [] (Token.params.map Prod.fst ++ ys)
  return fs.map fun e => (e.1, if toBool e.2 then e.2.shown else "")

def payload : Http.Payload → Json
  | .form fs => fs
  | .text c => c
  | .bytes c => .object [("bytes", c.length)]

def httpAct : Http.Act → Json
  | .sleep secs => [("sleep", number secs)]
  | .call call =>
    let hs := call.headers.map fun e => (e.1, optText e.2)
    .object ([("method", .text call.method), ("url", .text call.url)]
      ++ (if hs.isEmpty then [] else [("headers", .object hs)])
      ++ (if call.query.isEmpty then [] else [("params", .object call.query)])
      ++ (call.payload.map ("data", payload ·)).toList
      ++ (call.timeout.map ("timeout", number ·)).toList)

def httpActs (acts : List Http.Act) : Json := .list acts httpAct

end Transmon.Form
