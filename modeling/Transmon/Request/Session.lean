import Transmon.Circuit.Qir
import Transmon.Request.Compiler
import Transmon.Request.Logical
import Transmon.Session

/-!
Requests about architectures, sessions with a station, and results.
-/

namespace Transmon.Request.Sessions

open Form Session Text

variable (r : Json)

def architecture : Result := do
  let c ← needAs r "topology" toTopology
  match what r with
  | "static" =>
    let static := StaticArch.ofChip c
    pure [("qubits", texts static.qubits), ("resonators", texts static.resonators),
      ("connectivity", .list static.connectivity texts)]
  | _ =>
    let x ← Architecture.ofObservations c Operation.library (← needTexts r "observations")
    let gate (g : Architecture.Gate) : Json :=
      let overrides := g.overrides.entries.mergeSort fun a b => lexical a.1 b.1
      .object
        [("implementations", .table g.implementations.entries (·.map texts)),
         ("default", g.default), ("override", .list overrides fun e => [texts e.1, e.2])]
    pure [("qubits", texts x.qubits), ("resonators", texts x.resonators), ("gates", .table x.gates.entries gate)]

variable (j : Json)

def scriptedFault : Option Fault := do
  let m := textD j "message" ""
  return match (← (j.field? "raise").bind Json.text?) with
  | "RequestException" => .hinted .connection m
  | "ValueError" => .hinted .invalid m
  | "KeyError" => .hinted .missing (quoted m)
  | "KeyboardInterrupt" => .bare .interrupted
  | x => .hinted (.other x) m

def toLink : Outcome Link := do
  let es ← fieldsOf j (listOf · fun x => return if let some f := scriptedFault x then .failure f else .value x)
  pure { replies := .ofList es }

def start : Outcome Session := return { link := ← toLink (r.group "station") }

def act : Act → Json
  | .call n args named => .array [n, texts args, .table named .text]
  | .sleep secs => .array ["sleep", secs]

def told (work : Talk Json) : Action Session Json := do
  modify ({ · with link.acts := [] })
  pure [("value", (← work)), ("calls", .list (← get).link.acts act)]

def byId := told do return ← calSet (← needText r "id")

def latest (l : Talk String) := told do
  let (es, id) ← latestCalSet (← l)
  return .array [es, id]

def providerStep := if verb r = "get" then byId r else latest (needText r "chip")

def provider := continuing r (start r) providerStep

def shownStrategy (st : Compiler.DecouplingStrategy) :=
  let flag (b : Bool) : String := if b then "True" else "False"
  let ts := match st.targets with
    | none => "None"
    | some [] => "frozenset()"
    | some ns => s!"frozenset({Names.shown (.ofList ns)})"
  let ratio (n : Number) : String := match n with
    | .int n => toString n
    | .float x => Decimal.render x
  let pat : Compiler.DecouplingPattern → String
    | .letters t => quoted t
    | .rotations ps => listed (ps.map fun e => tupled [Decimal.render e.1, Decimal.render e.2])
  let seqs := st.sequences.map fun s => tupled [ratio s.ratio, pat s.pattern, quoted s.alignment]
  s!"DDStrategy(merge_contiguous_waits={flag st.joinsWaits}, target_qubits={ts}, "
    ++ s!"skip_leading_wait={flag st.skipsLeading}, skip_trailing_wait={flag st.skipsTrailing}, "
    ++ s!"gate_sequences={listed seqs})"

def shownOptions (o : Compiler.Options) : Named String :=
  let st := match o.strategy with
    | .standard => "None"
    | .custom st => shownStrategy st
    | .unknown s => s
  let cs := if let some n := o.resetCycles then toString n else "None"
  [("measurement_mode", o.measurement.name), ("heralding_mode", o.heralding.name),
   ("dd_mode", o.decoupling.name), ("dd_strategy", st),
   ("circuit_boundary_mode", o.boundary.name), ("move_gate_validation", o.moveValidation.name),
   ("move_gate_frame_tracking", o.frameTracking.name), ("active_reset_cycles", cs)]

def compiler : Talk Json := do
  let st ← needAs r "station" toStation
  let o ← toOptions (r.get "options")
  let x := (r.get "calset").fields
  let es ← if x.isEmpty then do pure (← latestCalSet (← chipLabel)).1 else pure x
  let made ← Compiler.make st (← toObs (es)) false
  let s := (shownOptions o).map fun e => (e.1, Json.text e.2)
  return s ++ [("stages", texts (made.stages.map Compiler.Stage.name))]

def runResult (run : RunResult) : Json :=
  .object
    [("status", .text (if run.isReady then "READY" else "FAILED")),
     ("result", opt (shownResults echo) run.results), ("message", run.msg), ("start", run.start),
     ("end", run.finish), ("id", run.id.toText)]

def step : Action Session Json := do
  match verb r with
  | "chip_label" => told do return ← chipLabel
  | "latest" => latest chipLabel
  | "by_id" => byId r
  | "topology" => told do return texts (← toTopology (← chipRecord)).qubits
  | "settings" => told stationSettings
  | "compiler" => told (compiler r)
  | "execute" =>
    let ms ← needAs r "readout" toMappings
    tryCatch (told do return runResult (← execute ms (textD r "heralding" "none" != "none"))) fun f => do
      if f.isFailure then throw f
      return .object [("interrupted", true), ("calls", .list (← get).link.acts act)]
  | _ => fail .missing

def answer := continuing r (start r) step

def counted (xs : Names) : Json := .object ((Names.ofList xs).map fun x => (x, xs.count x))

def memoryRecord (id status : String) (start finish : Json) (memories : List Names) : Json :=
  let rs := memories.zipIdx.map fun (memory, i) =>
    Json.object
      [("shots", memory.length), ("success", true),
       ("data", [("memory", texts memory), ("counts", counted memory), ("metadata", .object [])]),
       ("header", .object [("name", toString i)]), ("calibration_set_id", .null)]
  .object
    [("backend_name", ""), ("backend_version", ""), ("qobj_id", ""), ("job_id", id),
     ("success", status == "READY"), ("results", rs), ("date", .null), ("status", status),
     ("timestamps", [("start_time", start), ("end_time", finish)])]

def bitRecord : Result := do
  let status ← needText r "status"
  if !(["READY", "FAILED", "PROGRESS", "PENDING"].contains status) then fail .invalid
  let some j := present? r "result"
    | refuse s!"Cannot format station control result without result.Job status is \"{status}\""
  let shots := toPlain (← need r "shots")
  let isExact := textD r "heralding" "none" == "none"
  let memories ← listOf j fun x => do Readout.bitstrings (← fieldsOf x toPlains) shots isExact
  return memoryRecord (textD r "id" "id") status (r.get "start") (r.get "end") memories

def circuitOf : Result := do
  let steps ← needList r "instructions" fun x =>
    return ({ name := ← needText x "name", locus := ← needTexts x "qubits"
              arguments := toPlainEntries (x.get "args").fields
              implementation := text? x "implementation" } : Circuit.Step)
  return circuit { name := ← needText r "name", steps }

def combined (whole : Int → Int → Int) (real : Float → Float → Float) : Value → Value → Outcome Value
  | .int m, .int n => return .int (whole m n)
  | a, b => do return .float (real (← require .type a.float?) (← require .type b.float?))

def sum := combined (· + ·) (· + ·)

def plainFunction : String → Outcome (Names × (Value → Values → Outcome (Compiler.Wrapped Value)))
  | "none" => fail .invalid
  | "one" => pure ([], fun data _ => do pure { data := ← sum data (.int 1) })
  | "two" => pure (["a"], fun data args => do pure { data := ← combined (· * ·) (· * ·) data (args.headD .none) })
  | "default" => pure (["a"], fun data args => return { data := ← sum (← sum data (args.headD .none)) (.int 7) })
  | "context" => pure (["a"], fun data args =>
      return { data, entries := .ofList [("a", ← sum (args.headD .none) (.int 1)), ("n", data)] })
  | "pair" => pure ([], fun data _ =>
      match data with
      | .dict entries => pure { data, entries := .ofList entries }
      | _ => pure { data := .tuple [data, data] })
  | "triple" => pure ([], fun data _ => pure { data := .tuple [data, .dict [], .int 1] })
  | _ => fail .missing

def wrapped : Result := do
  let (needed, fn) ← plainFunction (← needText r "function")
  let c := Table.ofList (toPlainEntries (r.group "context").fields)
  let (d, after) ← Compiler.wrap needed fn (toPlain (r.get "data")) c
  pure [("data", value d), ("context", value (.dict after.entries)), ("given", value (.dict c.entries))]

end Transmon.Request.Sessions

/-!
Requests to a compiler and a session together: logical circuits on a station, programs in an intermediate
representation, and the view of a compiled playlist.
-/

namespace Transmon.Request.Linked

open Form
open Session (Backend)

variable (r : Json)

def logicalsOf := do
  let cs ← needList r "circuits" toLogical
  return if boolD r "single" false then cs.take 1 else cs

def start : Outcome Backend := do
  let d ← Logical.Device.ofArchitecture (← needAs r "architecture" toArch)
  pure {
    session := { link := ← Sessions.toLink (r.group "scripted") }
    compiler := ← Compilers.start r
    names := d.names }

def reading (r : Session.Reading) :=
  let status := if r.run.isReady then "READY" else "FAILED"
  Sessions.memoryRecord r.run.id.toText status r.run.start r.run.finish r.memories

def prepared : Work Backend Json := do
  let cs ← logicalsOf r
  let made ← need r "request"
  let some id := present? made "calibration_set_id"
    | refuse "RunRequest created by IQMBackend has no calibration set id."
  let es ← Backend.online (Session.calSet (← toText id))
  let c ← Compiler.make (← get).compiler.builder.station (← toObs (es)) false
  let m ← Compilers.toMapping (present? made "mapping")
  return .object
    [("circuits", [← Sessions.circuitOf made]), ("mapping", opt (.table · .text) m),
     ("asked", [naturals [cs.length, 1]]), ("calset", c.calibration.length)]

def step : Action Backend Json :=
  match verb r with
  | "convert" =>
    return .list (← Backend.told (← needAs r "names" toNumberedNames) (← textsD r "custom" []) (← logicalsOf r)) circuit
  | "run" => do
    let r ← Backend.run (← logicalsOf r) (← needInt r "shots")
    pure [("result", reading r), ("status", "DONE"), ("submit", .null), ("name", "IQMPullaBackend"), ("max", .null)]
  | "to_pulla" => prepared r
  | _ => fail .missing

def answer := continuing r (start r) step

variable (j : Json)

def toArg : Outcome Qir.Arg := do
  match j with
  | .object [("qubit", n)] => .qubit <$> toInt n
  | .object [("result", n)] => .result <$> toInt n
  | .object [("double", v)] => .double <$> toFloat v
  | .object [("int", n)] => .whole <$> toInt n
  | .object [("variable", s)] => .symbol <$> toText s
  | _ => fail .missing

def toCall : Outcome (Option Qir.Call) := do
  let some callee := j.field? "call" | pure none
  return some { callee := ← toText callee, arguments := ← j.each "args" toArg }

def toFunction : Outcome Qir.Function := do
  let attrs ← j.each "attributes" (pairOf toText toText · .invalid)
  let blocks ← j.each "blocks" fun block => do return (← listOf block toCall).filterMap id
  pure {
    isEntry := boolD j "entry" false
    qubits := ← given? j "qubits" toInt
    results := ← given? j "results" toInt
    attrs, blocks }

def toModule : Outcome Qir.Module := do
  let flags := (j.get "flags").fields.filterMap fun e => do
    let .int n := e.2 | none
    some (e.1, n)
  pure { functions := ← j.each "functions" toFunction, flags, source := textD j "source" "" }

def program : Result := do
  let c ← needAs r "module" toModule
  let (qs, made) ← c.circuit
  let session : Session := { link := ← Sessions.toLink (r.group "scripted") }
  let st ← needAs r "station" toStation
  let latest := do Session.latestCalSet (← Session.chipLabel)
  let (es, _) ← (latest.run.run session).1
  let _ ← Compiler.make st (← toObs (es)) false
  let x ← (r.get "mapping").fields.mapM fun e => do pure (← require .invalid (Decimal.int? e.1), ← toText e.2)
  let ps ← Qir.components qs (.ofList x)
  let s := if boolD r "bitcode" false then "bitcode" else "ir"
  return .object
    [("read", texts [s]), ("circuits", [circuit made]), ("mapping", .table ps .text), ("warnings", texts c.warnings)]

def untagged : Json → Json
  | .float x => rounded 9 x
  | .array xs => xs.map untagged
  | .object fs => (fs.map fun e => (e.1, untagged e.2)).filter fun e => e.1 != "type"
  | j => j
decreasing_by all_goals grind

def commandFields (c : Playlist.Command) := ((untagged (command c)).get "operation").fields

def shownFields : Playlist.Command → Fields
  | .readout _ (.multiplexed _ false ps _) _ =>
    [("probe_pulse", Playlist.CommandKind.multiplexedIq.name),
     ("entries", .list ps fun p => .object (("name", p.kind.name) :: commandFields p))]
  | c => commandFields c

def entry : Playlist.Entry → Json
  | .common isEnd nanos =>
    .object [("name", .text (if isEnd then "Wait at end" else "Wait at start")),
      ("params", [("duration", rounded 9 nanos), ("truncated_duration", .int 150)])]
  | .played c n nanos =>
    let pictured := (Playlist.Entry.played c n nanos).pictured?.map ("wave_img_idx", Json.int ·)
    .object ([("name", .text c.kind.name),
      ("params", .object (shownFields c ++ [("duration", rounded 9 nanos)]))] ++ pictured.toList)

def viewed (p : Playlist) (views : List Playlist.View) : Json :=
  let seg (v : Playlist.View) : Json := .table v.entries fun e => .object [("instructions", e.map entry)]
  let images (ns : List Nat) : Json := .object (ns.map fun (n : Nat) => (toString n, "image"))
  .object [("playlists", .list views seg), ("waveforms", .table (p.pictures views).entries images)]

def compiledPlaylist := do
  let c ← Compilers.start r
  let ((d, _), _) ← ((Compiler.compile (← needAs r "circuits" toCircuits)).run.run c).1
  let .playlist p := d | fail .type
  pure p

def viewStep (p : Playlist) (r : Json) : Result := do
  let ps ← listOf (r.get "segments" (.array [.int 0])) toInt
  if verb r = "dict" then return viewed p (← p.view ps)
  p.checkPositions ps
  let _ ← p.view ps
  pure .null

end Transmon.Request.Linked
