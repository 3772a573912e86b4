import Transmon.Client.Basic
import Transmon.Request.Remote

/-!
Requests about what a client and its server talk about.
-/

namespace Transmon.Request.Clients

open Form Client

def isSized : Json → Bool
  | .text _ | .array _ | .object _ => true
  | _ => false

def nameText : Json → Outcome String
  | .array _ | .object _ => fail .type
  | j => pure j.shown

variable (r : Json)

def stepRequest : Result := do
  let o ← Circuit.Native.wellNamed (← needAs r "name" nameText)
  let i := r.get "implementation"
  Circuit.checkImpl i.text?
  let locus := (r.get "qubits").items.map toPlain
  o.checkCount locus
  let args := toPlainEntries (r.get "args").fields
  o.checkArgs args
  return .object
    [("name", o.name), ("implementation", i), ("qubits", .list locus echo),
     ("args", echo (.dict args)), ("symmetric", o.isSymmetric), ("arity", o.arity)]

def countSteps (j : Json) : Result := do
  let .array items := j | refuse "Instructions of a circuit should be packed in a tuple"
  for item in items do if item.isObject then discard (toNativeStep item)
  Circuit.checkFilled items
  if !items.all Json.isObject then refuse "Every instruction in a circuit should be of type <Instruction>"
  pure items.length

def overrides : Outcome (Table Names String) := do
  let wrongKey : Outcome Names := refuse "'override_default_implementation' keys must be strings or tuples."
  if r.hasField "number_key" then let _ ← wrongKey
  match r.field? "pairs" with
  | some ps =>
    let es ← listOf ps fun pair => do
      match pair with
      | .array [.text ns, n] => pure (ns.splitOn ",", ← toText n)
      | .array [.array ns, n] => pure (← ns.mapM toText, ← toText n)
      | .array [_, n] => pure (← wrongKey, ← toText n)
      | _ => fail .invalid
    return .ofList es
  | none =>
    let .object fields := r.get "value" | refuse "'override_default_implementation' must be a dict."
    .ofList <$> fields.mapM fun e => do pure (e.1.splitOn ",", ← toText e.2)

def overridden : Result := return overridePairs (← overrides r).entries

def property : Result :=
  let md := Metadata.ofJson r
  match textD r "property" "" with
  | "shots" => md.property "shots" "shots"
  | "circuits" => md.circuitsOf
  | "heralding_mode" => md.property "heralding_mode" "heralding mode"
  | "dd_mode" => md.property "dd_mode" "dynamical decoupling mode"
  | "dd_strategy" => md.property "dd_strategy" "dynamical decoupling strategy"
  | "parameters" => pure md.params
  | "request" => pure md.req
  | "circuits_batch" => pure md.circuits
  | "calibration_set_id" | "cocos_version" | "timestamps" => pure .null
  | _ => fail .noAttr

def addressPart : Json → String
  | .text s => s
  | x => x.shown

def model : Result := do
  match what r with
  | "instruction" => stepRequest r
  | "no_name" =>
    let p := textD r "check" ""
    refuse s!"Could not validate {p} because the name of the instruction did not pass validation"
  | "circuit_name" =>
    let n ← need r "name"
    if !isSized n then fail .type
    if !toBool n then refuse "A circuit should have a non-empty string for a name."
    pure n
  | "circuit_instructions" => countSteps (← need r "instructions")
  | "circuit" =>
    let c ← needAs r "circuit" toNative
    return nativeCircuitFields c ++ [("qubits", texts (Text.sorted c.components))]
  | "mapping" => return .list (← needAs r "mapping" toFields) fun e => .array [e.1, echo (toPlain e.2)]
  | "specification" =>
    let a ← needAs r "a" specificationOf
    let some x := r.field? "b" | pure [("operations", specification a)]
    pure [("operations", specification a), ("equivalent", ← a.equivalent (← specificationOf x))]
  | "compare" => return ← (← needAs r "a" toSpec).equivalent (← needAs r "b" toSpec)
  | "sort_key" => return .list (← needTexts r "names") fun n => .array [Text.letters n, (Text.numsIn n).headD 0, n]
  | "override" => overridden r
  | "architecture" =>
    let a ← needAs r "architecture" toArch
    pure [("components", texts a.components), ("loci", .table a.gates.entries (·.loci.map texts))]
  | "options" => runOptions <$> needAs r "options" toRunOptions
  | "standard_dd" => pure standardStrategy
  | "status" =>
    let status ← require .invalid ((r.get "value").text?.bind Status.ofName?)
    return .object [("value", status.name), ("terminal", status.isFinal)]
  | "result" => return (← result (← needAs r "value" toFields)).2
  | "metadata" => property r
  | "json" => docOf (← needAs r "value" toTagged)
  | "url" =>
    let endpoint ← require .missing (Endpoint.ofName? (← needText r "endpoint"))
    let url ← endpoint.url (← needText r "base") ((r.get "args").items.map addressPart)
    return .object [("url", url), ("supported", true)]
  | _ => fail .missing

end Transmon.Request.Clients

/-!
Requests about a client that runs circuits.
-/

namespace Transmon.Request.Runs

open Form
open Transmon.Client

def timeoutOf (s : Json) (i : Nat) (usual : Number) :=
  if let some x := Remote.argument? s i "timeout_secs" then toNum x else pure usual

def calOf (s : Json) := (Remote.argument? s 0 "calibration_set_id").bind fun x => (Remote.plainArg x).text?

def runOf (s : Json) : Outcome Run := do
  let x := Json.object (Remote.named s)
  pure {
    circuits := ← needList s "circuits" toNative
    opts := (← given? x "options" toRunOptions).getD {}
    mapping := ← given? x "qubit_mapping" toTextTable
    settings := x.get "custom_settings"
    calibration := (x.field? "calibration_set_id").bind fun id => (Remote.plainArg id).text?
    shots := x.get "shots" (.int 1) }

def value (s : Json) : Talk Json := do
  let j : Talk String := Remote.argText s 0 "job_id"
  let timeout : Talk Number := timeoutOf s 1 patience
  let jobTimeout : Talk Number := timeoutOf s 1 jobPatience
  match verb s with
  | "get_about" => .onStation .about
  | "get_health" => .onStation (.doc "health")
  | "get_run" => .result (← j) (← timeout)
  | "get_run_status" => .status (← j) (← timeout)
  | "get_run_counts" => .counts (← j) (← timeout)
  | "wait_for_results" => .awaitResult (← j) (← jobTimeout)
  | "wait_for_compilation" => .awaitCompilation (← j) (← jobTimeout)
  | "abort_job" =>
    .abort (← j) (← timeout)
    pure .null
  | "get_static_quantum_architecture" => .connections
  | "get_dynamic_quantum_architecture" => archRecord <$> .architecture (calOf s)
  | "get_quality_metric_set" => .metrics (calOf s)
  | "get_calibration_set" => .calSet (calOf s)
  | "get_feedback_groups" => return .list (← .feedbackGroups) texts
  | "get_supported_client_libraries" => return (← .libraries (← timeoutOf s 0 patience)).getD .null
  | "create_run_request" => return (← .prepare (← runOf s)).doc
  | "submit_circuits" => return ← .runCircuits (← runOf s)
  | "close_auth_session" => return ← .close
  | _ => fail .noAttr

def drain : Work Host (Json × Names) := do
  let h ← get
  let (acts, line) := h.line.drained
  set { h with line, warnings := [] }
  pure (httpActs acts, h.warnings)

def step (r : Json) : Talk Json := do
  if verb r = "opened" then
    let (cs, ws) ← .onHost drain
    return [("value", .object [("class", "StationControlClient"), ("warnings", texts ws)]), ("calls", cs)]
  let r ← value r
  let (cs, ws) ← .onHost drain
  return withCalls r cs ws

def answer (r : Json) :=
  let start := do Link.open (← toHost r "20.1.0") (← needText r "url") (← toParams (r.get "kwargs").fields)
  continuing r start step

end Transmon.Request.Runs
