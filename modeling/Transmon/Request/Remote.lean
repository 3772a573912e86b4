import Transmon.Form.Settings
import Transmon.Remote.Station

/-!
Requests about a station over the network, about tasks for it and about the states of its jobs.
-/

namespace Transmon.Request.Remote

open Form Transmon.Remote.Errand Transmon.Task Uuid
open Transmon.Remote

def plainArg : Json → Json
  | .object [("$uuid", .text id)] => .text ((ofText id).toOption.elim id toText)
  | .array xs => xs.map plainArg
  | .object fs => fs.map fun e => (e.1, plainArg e.2)
  | x => x
decreasing_by all_goals grind

def plainFields (fs : Fields) : Fields := fs.map fun e => (e.1, plainArg e.2)

variable (r : Json)

def placed := (r.get "args").items

def named := (r.get "kwargs").fields

variable (i : Nat) (n : String)

def argument? := (placed r)[i]?.or ((named r).lookup n)

def argument : Result := require .type (argument? r i n)

def argText := return (plainArg (← argument r i n)).shown

def signatures : Named Names :=
  let set := ["observation_set_id"]
  [("get_about", []), ("get_health", []), ("get_configuration", []), ("get_exa_configuration", []),
   ("get_or_create_software_version_set", ["software_version_set"]), ("get_settings", []),
   ("get_chip_design_record", ["dut_label"]), ("get_channel_properties", []), ("sweep", ["sweep_definition"]),
   ("get_sweep", ["sweep_id"]), ("delete_sweep", ["sweep_id"]), ("get_sweep_results", ["sweep_id"]),
   ("run", ["run_definition", "update_progress_callback", "wait_job_completion"]), ("get_run", ["run_id"]),
   ("create_observations", ["observation_definitions"]), ("update_observations", ["observation_updates"]),
   ("create_observation_set", ["observation_set_definition"]), ("get_observation_set", set),
   ("update_observation_set", ["observation_set_update"]), ("finalize_observation_set", set),
   ("get_observation_set_observations", set), ("get_default_calibration_set", []),
   ("get_default_calibration_set_observations", []), ("get_default_dynamic_quantum_architecture", []),
   ("get_dynamic_quantum_architecture", ["calibration_set_id"]), ("get_default_calibration_set_quality_metrics", []),
   ("get_calibration_set_quality_metrics", ["calibration_set_id"]), ("get_duts", []), ("get_dut_fields", ["dut_label"]),
   ("create_sequence_metadata", ["sequence_metadata_definition"]),
   ("save_sequence_result", ["sequence_result_definition"]), ("get_sequence_result", ["sequence_id"]),
   ("get_static_quantum_architecture", ["dut_label"]), ("get_job", ["job_id"]), ("abort_job", ["job_id"]),
   ("get_calibration_set_values", ["calibration_set_id"]), ("get_latest_calibration_set_id", ["dut_label"]),
   ("_wait_job_completion", ["task_id", "update_progress_callback"])]

def queries : Names := ["query_runs", "query_observations", "query_observation_sets", "query_sequence_metadatas"]

def checkArgs : Check := do
  let count := (placed r).length + if boolD r "progress" false then 1 else 0
  let x := (named r).map Prod.fst
  if queries.contains (verb r) then if count ≠ 0 || x.contains "model" then fail .type
  else if let some ns := signatures.lookup (verb r) then
    let needed := if verb r = "run" then ns.take 1 else ns
    if ns.length < count || x.any (!(ns.drop count).contains ·)
      || needed.any (!(ns.take count ++ x).contains ·) then fail .type

def askedAs : Outcome String := do
  let isFixed (x : Json) : Bool := match x with
    | .array _ => false
    | .object fs => fs.any (·.1 == "$uuid")
    | _ => true
  if !((placed r).all isFixed && (named r).all (isFixed ·.2)) then fail .type
  return (Json.array [placed r, named r]).compact

def draftOf (j : Json) : Result := do
  (← require .missing (Draft.names.lookup (← needText j "$model"))).shape.read (plainArg (j.group "fields"))

def draftsOf (j : Json) : Result := return ← listOf j draftOf

def listing (l : Listing) : Json := .object [("items", l.items), ("meta", l.about)]

def job (j : JobRecord) : Json :=
  [("job_id", j.id), ("job_status", j.status.name), ("job_error", j.error), ("position", j.position),
    ("job_result", [("job_id", j.id), ("parallel_sweep_progress", j.progress), ("interrupted", false)])]

def obsQuery : Outcome Fields := do
  let known := ["mode", "dut_label", "dut_field", "tags", "invalid", "run_ids", "sequence_ids", "limit"]
  let x := named r
  if !(placed r).isEmpty || x.any (!known.contains ·.1) then fail .type
  let _ ← require .type (x.lookup "mode")
  return cleanedValid (plainFields x)

def changeStep : Errand Json := do
  let text (n : String) : Errand String := argText r 0 n
  let draft (n : String) : Errand Json := do draftOf (← argument r 0 n)
  match verb r with
  | "get_or_create_software_version_set" => return ← versionSet (← argument r 0 "software_version_set")
  | "sweep" => sweep (← toSweepDef (← need (← argument r 0 "sweep_definition") "$sweep"))
  | "delete_sweep" => call "delete" ("sweeps/" ++ (← text "sweep_id")) *> pure .null
  | "run" =>
    let defn ← toRunDef (← need (← argument r 0 "run_definition") "$run")
    return ← perform defn ((argument? r 2 "wait_job_completion").all toBool)
  | "create_observations" =>
    listing <$> .listing (← .send "post" "observations" (← draftsOf (← argument r 0 "observation_definitions")))
  | "update_observations" =>
    return ← records (← (← send "patch" "observations" (← draftsOf (← argument r 0 "observation_updates"))).json)
  | "create_observation_set" => exchange "post" "observation-sets" (← draft "observation_set_definition") setShape
  | "update_observation_set" => exchange "patch" "observation-sets" (← draft "observation_set_update") setShape
  | "finalize_observation_set" =>
    let id ← text "observation_set_id"
    call "post" s!"observation-sets/{id}/finalize" *> pure .null
  | "create_sequence_metadata" =>
    exchange "post" "sequence-metadatas" (← draft "sequence_metadata_definition") seqShape
  | "save_sequence_result" =>
    let c ← draft "sequence_result_definition"
    let n := (← c.part "sequence_id").shown
    exchange "put" s!"sequence-results/{n}" c seqResultShape
  | "abort_job" => abort (← text "job_id") *> pure .null
  | "_wait_job_completion" => return ← wait (← text "job_id")
  | _ => fail .noAttr

def queryStep :=
  let asked (p : String) (clean : Fields → Fields) : Errand Json := do
    listing <$> query p (clean (plainFields (named r)))
  match verb r with
  | "query_runs" => asked "runs" cleaned
  | "get_observations" => do return ← list "observations" (← obsQuery r)
  | "query_observations" => asked "observations" cleanedValid
  | "query_observation_sets" => asked "observation-sets" cleanedValid
  | "query_sequence_metadatas" => asked "sequence-metadatas" cleaned
  | _ => changeStep r

def fetchStep : Errand Json := do
  let text (n : String) : Errand String := argText r 0 n
  match verb r with
  | "get_about" => about
  | "get_health" => doc "health"
  | "get_configuration" => configuration
  | "get_exa_configuration" => experimentConfig
  | "get_settings" => brief <$> settings
  | "get_chip_design_record" => chipDesign (← text "dut_label") (← askedAs r)
  | "get_channel_properties" => controllers <$> controllers
  | "get_sweep" => sweepRecord <$> sweepRecord (← text "sweep_id")
  | "get_sweep_results" => sweepResults <$> sweepResults (← text "sweep_id")
  | "get_run" => runRecord <$> runRecord (← text "run_id")
  | "get_observation_set" => record setShape ("observation-sets/" ++ (← text "observation_set_id"))
  | "get_observation_set_observations" =>
    let id ← text "observation_set_id"
    return ← list s!"observation-sets/{id}/observations"
  | "get_default_calibration_set" => record setShape "calibration-sets/default"
  | "get_default_calibration_set_observations" => return ← list "calibration-sets/default/observations"
  | "get_default_dynamic_quantum_architecture" => archRecord <$> fetchArch "default"
  | "get_dynamic_quantum_architecture" => archRecord <$> architecture (← text "calibration_set_id") (← askedAs r)
  | "get_default_calibration_set_quality_metrics" => metrics "default"
  | "get_calibration_set_quality_metrics" => metrics (← text "calibration_set_id")
  | "get_duts" => return ← list "duts"
  | "get_dut_fields" => return ← list "dut-fields" [("dut_label", plainArg (← argument r 0 "dut_label"))]
  | "get_sequence_result" => record seqResultShape ("sequence-results/" ++ (← text "sequence_id"))
  | "get_static_quantum_architecture" => connections (← text "dut_label") (← askedAs r)
  | "get_job" => job <$> .job (← text "job_id")
  | _ => queryStep r

def value : Errand Json := do
  match verb r with
  | "class" => pure "StationControlClient"
  | "version" => pure "v1"
  | "root_url" => return (← get).root
  | _ =>
    checkArgs r
    fetchStep r

def drain : Work Host Fields := do
  let h ← get
  let (acts, line) := h.line.drained
  set { h with line, notes := [] }
  let notes := h.notes.map fun e => .array [e.1, e.2]
  return ("calls", httpActs acts) :: if notes.isEmpty then [] else [("logs", .array notes)]

def step : Errand Json := do
  let hasProgress := boolD r "progress" false
  modify ({ · with progress := [] })
  if verb r = "calls" then return ← onHost drain
  let r ← value r
  let cs ← onHost drain
  let progress := (← get).progress.map .array
  return .object (("value", r) :: cs ++ if hasProgress then [("progress", .array progress)] else [])

def answer :=
  let start := do
    let host ← toHost r "9.1.0"
    let bearer := match (r.field? "token").bind Json.text? with
      | some t => .fixed t
      | none => .none
    let st : Connection := { root := ← needText r "url", bearer, desk := { host } }
    (if boolD r "auto" false then (do if ← discover then throw unready) else connect).after st
  continuing r start step

variable (record : Json)

def writtenMoment (n : String) := return (n, optMoment (← momentOf (record.get n)) " ")

def writtenMoments : Outcome Fields :=
  ["created_timestamp", "modified_timestamp", "begin_timestamp", "end_timestamp"].mapM (writtenMoment record)

def writtenSweep : Result := do
  let status ← require .invalid (Job.Status.ofName? (← needText record "job_status"))
  return .object ([("sweep_id", .text (← ofText (← needText record "sweep_id")).toText),
    ("dut_label", record.get "dut_label"), ("settings", .null), ("sweeps", "[]"),
    ("return_parameters", record.get "return_parameters")] ++ (← writtenMoments record)
    ++ [("job_status", .text status.name)])

def writtenRun : Result := do
  let plain (ns : Names) : Fields := ns.map fun n => (n, record.get n)
  let (before, after) := RunRecord.plainMembers.splitAt 6
  let hardSweeps ← (record.get "hard_sweeps").fields.mapM fun e =>
    return (e.1, .text (← Sweep.write (← toTagged e.2)))
  return .object ([("run_id", .text (← ofText (← needText record "run_id")).toText)] ++ plain before
    ++ [("hard_sweeps", .object hardSweeps)] ++ plain after
    ++ [("sweep_data", ← needAs record "sweep_data" writtenSweep)] ++ (← writtenMoments record))

def layOut (o j : Json) :=
  let j := if boolD o "sort_keys" false then j.sorted else j
  if let some (.int blanks) := present? o "indent" then j.indented blanks.toNat else j.spaced

def stored : Result := do
  match what r with
  | "settings" => brief <$> Settings.readStored (← needText r "text")
  | "encode" => return layOut (r.group "kwargs") (← Sweep.doc false (← toTagged (r.get "value")))
  | "encode_return" =>
    let xs ← (Table.ofList (← needList r "pairs" (pairOf toText toTagged · .invalid))).entries.mapM fun e =>
      return .object [("parameter", storedParam (← Param.make e.1)), ("hard_sweeps", ← Sweep.doc false e.2)]
    return (Json.array xs).spaced
  | "round" => decoded <$> Sweep.read (← Sweep.write (← toTagged (r.get "value")))
  | _ => writtenRun (← need r "run")

def definition : Result := do
  let view (t : String) (m : Wire.Msg) : Result := Wire.toJson schema Wire.camelCase Settings.maxDepth t m
  let back (packed : Wire.Bytes) : Result := do
    let (back, queue) ← toSweep packed
    pure [sweepDef back, queue]
  match what r with
  | "sweep" => view "SweepRequest" (← (← needAs r "sweep" toSweepDef).pack)
  | "sweep_back" => back (← ofSweep (← needAs r "sweep" toSweepDef) (textD r "queue" "sweeps"))
  | "wrong_payload" => back (← ofRun (← needAs r "run" toRunDef) "sweeps")
  | "run" => view "RunDefinition" (← (← needAs r "run" toRunDef).pack)
  | "run_back" =>
    let packed ← (← needAs r "run" toRunDef).pack
    let inline ← match present? r "inline" with
      | some y => do pure (Wire.nested 12 (← (← toSweepDef y).pack))
      | none => pure []
    runDef <$> RunDef.unpack (packed ++ inline)
  | "results" =>
    let rs ← fieldsOf (← need r "results") fun rows => listOf rows fun x => (toPlain x).toArray (some (.floating 64))
    let packed ← packResults (← needText r "id") rs
    return .object [("bytes", packed.length), ("back", sweepResults (← unpackResults packed))]
  | "datetime" =>
    let moment ← momentOf (r.get "text")
    pure [optMoment moment, optMoment moment " "]
  | "sweep_data" => writtenSweep (← need r "data")
  | _ => fail .missing

def clean : Result := do
  let vs := (r.get "values").fields
  if r.hasField "model" && (vs.lookup "model").isSome then fail .type
  return .object (match textD r "model" "" with
    | "ObservationData" | "ObservationSetData" | "ObservationDefinition" | "ObservationLite" | "ObservationUpdate"
    | "ObservationSetDefinition" | "ObservationSetUpdate" | "ObservationSetWithObservations" | "QualityMetrics" =>
      cleanedValid vs
    | _ => cleaned vs)

structure Bar where
  (label total value : Json)
  draws : Nat := 0

def redraw (bars : Table String Bar) (statuses : List Json) :=
  statuses.foldlM (fun bars status => do
    match status with
    | .array [label, value, total] =>
      if (toPlain label).parts.isSome || label.isObject then fail .type
      let bar := (bars.get? label.compact).getD { label, total, value }
      return bars.insert label.compact { bar with value, draws := bar.draws + 1 }
    | .array _ | .text _ | .object _ => fail .invalid
    | _ => fail .type) bars

def progress : Result := do
  let (_, s) ← (r.get "statuses").items.foldlM (fun (bars, s) report => do
    let bars ← redraw bars (← toItems report)
    let drawn := bars.entries.map fun e => .array [e.2.label, e.2.total, e.2.value, e.2.draws]
    pure (bars, s ++ [Json.array drawn])) (∅, [])
  pure s

/-- Answers a request that compares the states of jobs. A text is compared whatever its case; one that names no state
differs from all and cannot be ordered. -/
def status : Result := do
  let x ← require .invalid (Job.Status.ofName? (← needText r "a"))
  let y ← needText r "b"
  let z ← if boolD r "text" false then require .type (Job.Status.ofName? y.toLower)
    else require .invalid (Job.Status.ofName? y)
  let (a, b) := (x.rank, z.rank)
  return .object [("text", x.name), ("eq", a == b), ("ne", a != b), ("lt", .bool (a < b)),
    ("le", .bool (a ≤ b)), ("gt", .bool (b < a)), ("ge", .bool (b ≤ a)), ("terminal", x.isFinal)]

end Transmon.Request.Remote
