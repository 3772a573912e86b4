import Transmon.Form.Client

/-!
A station that is talked to over the network.
-/

namespace Transmon.Remote

open Host
open Json.Shape (plain)

inductive Bearer
  | none
  | fixed (token : String)
  | managed

structure Connection where
  root : String
  bearer : Bearer := .none
  desk : Token.Desk
  docs : Table String Json := ∅
  settings : Option Settings.Tree := none
  controllers : Option (Named Ctrl) := none
  archs : Table String Architecture := ∅
  designs : Option String := none
  progress : List (List Json) := []

abbrev Errand := Work Connection

namespace Errand

def atDesk {α : Type} (work : Token.Management α) : Errand α :=
  .within Connection.desk (fun desk st => { st with desk }) work

def onHost {α : Type} (work : Work Host α) := atDesk (.onHost work)

def patience : Number := .int 600

def authorization : Errand (Named (Option String)) := do
  match (← get).bearer with
  | .none => return []
  | .fixed t => return [("Authorization", some t)]
  | .managed => return [("Authorization", ← atDesk (.bearer 1))]

def reasonOf (r : Http.Response) := do
  let .ok doc := r.json | pure r.text
  return (← doc.member "detail").shown

def call (method p : String) (headers : Named String := []) (query : Fields := [])
    (payload : Option Http.Payload := none) : Errand Http.Response := do
  let ty := match payload with
    | some (.text _) => [("Content-Type", "application/json; charset=UTF-8")]
    | some _ => [("Content-Type", "application/octet-stream")]
    | none => []
  let t ← authorization
  let url := (← get).root ++ "/" ++ p
  let headers := (headers ++ ty).map (fun e => (e.1, some e.2)) ++ t
  let r ← onHost (send { method, url, headers, query, payload, timeout := some patience })
  if !r.isOk then (Http.Failure.ofCode r.status).raise (← reasonOf r)
  pure r

def doc (p : String) := do (← call "get" p).json

def kept (n : String) : Errand Json → Errand Json :=
  keeping (·.docs.get? n) fun made st => { st with docs := st.docs.insert n made }

def about := kept "about" (doc "about")

def configuration := kept "configuration" (doc "configuration")

def experimentConfig : Errand Json :=
  kept "exa/configuration" do
    return ← require .badEncoding (Wire.text? (← call "get" "exa/configuration").bytes)

def settings : Errand Transmon.Settings.Tree :=
  keeping (·.settings) (fun t st => { st with settings := some t }) do
    Settings.unpackTree Settings.maxDepth (← Wire.read Settings.schema "SettingNode" (← call "get" "settings").bytes)

def controllers : Errand (Named Ctrl) :=
  keeping (·.controllers) (fun x st => { st with controllers := some x }) do
    let r ← call "get" "channel-properties" [("accept", "application/octet-stream")]
    Ctrl.unpackAll true (← Wire.read Ctrl.schema "ChannelPropertyDictionary" r.bytes)

def chipDesign (l : String) (k : String := l) : Errand Json :=
  kept s!"chip-design-records/{k}" do
    let fetched ← .attempt (doc s!"chip-design-records/{l}")
    let st ← get
    match fetched, st.designs with
    | .error f, some root =>
      if f.kind = .other Http.Failure.notFound.name then
        Chip.Library.record st.desk.host.files.entries root "" l
      else throw f
    | fetched, _ => fetched

def versionSet (versions : Json) := do
  require .invalid (Decimal.int? (← call "post" "software-version-sets" [] [] (some (.text versions.spaced))).text)

def checkVersions : Errand Unit := do
  let versionOf (t : String) : Errand Text.Version := require .badVersion (Text.Version.ofString? t)
  let own ← versionOf (← get).desk.host.version
  let server ← match ← (← (← about).member "software_versions").member "iqm-station-control-client" with
    | .text s => versionOf (s.replace " (local editable)" "+local")
    | _ => fail .noAttr
  if own.major ≠ server.major then
    refuse (s!"station-control-client version '{own.shown}' is not compatible with the station control server, "
      ++ s!"please use station-control-client version compatible with version '{server.shown}'.")
  if !own.build.isEmpty || !server.build.isEmpty then
    onHost (note "WARNING" (s!"Client ('{own.shown}') and/or server ('{server.shown}') is using a local version of "
      ++ "the station-control-client. Client and server compatibility cannot be guaranteed."))
  else if own.minor > server.minor then
    onHost (note "WARNING" (s!"station-control-client version '{own.shown}' is newer minor version than "
      ++ s!"'{server.shown}' used by the station control server, some new client features might not be supported."))

def connect : Errand Unit := do
  checkVersions
  modify fun st =>
    { st with designs := (st.desk.host.valueOf? "CHIP_DESIGN_RECORD_FALLBACK_URL").filter (!·.isEmpty) }

def unready : Fault := .because .runtime "Failed to initialize the client."

def discover : Errand Bool :=
  .retelling (fun _ => unready) do
    let headers ← authorization
    let r ← onHost (send { method := "get", url := (← get).root ++ "/about", headers })
    r.checkStatus
    match (← r.json).field? "iqm_server" with
    | some (.bool true) => pure true
    | _ =>
      connect
      pure false

end Errand

def anyRecord : Json → Outcome Json
  | .object fs =>
    return ← fs.mapM fun e => do
      if e.1.endsWith "_timestamp" then pure (e.1, ← Json.Shape.moment.read e.2) else pure e
  | x => pure x

/-- An observation set, with further fields. -/
def setShape (ys : Named Json.Shape := []) : Json.Shape :=
  .record (plain ["observation_set_type", "observation_ids", "describes_id", "invalid", "dut_label", "observation_set_id"]
      ++ [("created_timestamp", .moment), ("end_timestamp", .moment)] ++ ys)
    [("describes_id", .null), ("invalid", false)]

def metricsShape := setShape [("observations", .any), ("calibration_set", setShape)]

def seqResultShape : Json.Shape :=
  .record (plain ["sequence_id", "data", "final"]
    ++ [("created_timestamp", .moment), ("modified_timestamp", .moment)]) []

def seqShape : Json.Shape :=
  .record (plain ["sequence_id", "origin_id", "origin_uri"] ++ [("created_timestamp", .moment)]) []

def connectionsShape : Json.Shape := .record (plain ["qubits", "computational_resonators", "connectivity"]) []

inductive Draft
  | observation | obsUpdate | obsSet | obsSetUpdate | sequence | seqResult
deriving DecidableEq

def Draft.names : Named Draft :=
  [("observation", .observation), ("observation_update", .obsUpdate), ("observation_set", .obsSet),
   ("observation_set_update", .obsSetUpdate), ("sequence_metadata", .sequence),
   ("sequence_result", .seqResult)]

def Draft.shape : Draft → Json.Shape
  | .observation =>
    .record (plain ["dut_field", "value", "unit", "uncertainty", "invalid", "dut_label", "source", "tags"])
      [("uncertainty", .null), ("invalid", false), ("tags", .array [])]
  | .obsUpdate => .record (plain ["observation_id", "invalid"]) []
  | .obsSet =>
    .record (plain ["observation_set_type", "observation_ids", "describes_id", "invalid"])
      [("describes_id", .null), ("invalid", false)]
  | .obsSetUpdate => .record (plain ["observation_set_id", "observation_ids", "invalid"]) [("observation_ids", .null)]
  | .sequence => .record (plain ["sequence_id", "origin_id", "origin_uri"]) []
  | .seqResult => .record (plain ["sequence_id", "data", "final"]) []

variable (vs : Fields)

def cleaned : Fields :=
  vs.filter fun e => match e.2 with
    | .null | .object [] => false
    | _ => true

def cleanedValid := cleaned (if (vs.lookup "invalid").isSome then vs else vs ++ [("invalid", .bool false)])

structure Listing where
  items : List Json
  about : Json

namespace Errand

def records : Json → Errand (List Json)
  | .array xs => liftM (xs.mapM anyRecord)
  | _ => fail .type

def list (p : String) (query : Fields := []) := do records (← (← call "get" p [] query).json)

def listMembers := ["count", "order_by", "limit", "offset", "errors"]

def listing (r : Http.Response) : Errand Listing := do
  let j ← r.json
  let about ← match j.get "meta" with
    | .object fs =>
      if fs.any (!listMembers.contains ·.1) then fail .type
      let about := Json.object (listMembers.map fun n => (n, (fs.lookup n).getD .null))
      let es := about.get "errors"
      if Form.toBool es then
        let s := "\n  - ".intercalate (← Form.toTexts es)
        onHost (note "WARNING" s!"Errors in station control response:\n  - {s}")
      pure about
    | x => pure x
  pure { items := ← records (← j.part "items"), about }

def query (p : String) (vs : Fields) := do listing (← call "get" p [] vs)

def record (s : Json.Shape) (p : String) := do s.read (← doc p)

variable (method p : String)

def send (c : Json) := call method p [] [] (some (.text c.sorted.spaced))

def exchange (c : Json) (s : Json.Shape) := do s.read (← (← send method p c).json)

def connections (l : String) (k : String := l) : Errand Json :=
  kept s!"static-quantum-architectures/{k}" (record connectionsShape s!"static-quantum-architectures/{l}")

def fetchArch (set : String) := do Form.toArch (← doc s!"calibration-sets/{set}/dynamic-quantum-architecture")

def architecture (set k : String) : Errand Architecture :=
  keeping (·.archs.get? k) (fun x st => { st with archs := st.archs.insert k x }) (fetchArch set)

def metrics (set : String) : Errand Json := do
  match ← record metricsShape s!"calibration-sets/{set}/metrics" with
  | .object fs =>
    return ← fs.mapM fun e => do if e.1 = "observations" then return (e.1, .array (← records e.2)) else pure e
  | x => pure x

def sweep (d : SweepDef) : Errand Json := do
  (← call "post" "sweeps" [] [] (some (.bytes (← Task.ofSweep d "sweeps")))).json

variable (id : String)

def sweepRecord := do SweepRecord.ofJson (← doc s!"sweeps/{id}")

def runRecord := do RunRecord.ofJson (← doc s!"runs/{id}")

def sweepResults := do Task.unpackResults (← call "get" s!"sweeps/{id}/results").bytes

end Errand

structure JobRecord where
  id : Json
  status : Job.Status
  (progress error position : Json)

def JobRecord.ofJson (j : Json) : Outcome JobRecord := do
  let status ← Task.statusOf j
  pure {
    id := j.get "job_id"
    status
    progress := j.get "progress" (.array [])
    error := j.get "job_error"
    position := j.get "position" }

namespace Errand

variable (id : String)

def job := do JobRecord.ofJson (← doc s!"jobs/{id}")

def abort : Errand Unit := do let _ ← call "post" s!"jobs/{id}/abort"

def poll : Errand JobRecord := do
  let x ← job id
  if x.status = .failed then failWith (.other Http.Failure.internal.name) s!"Job: {x.id.shown}\n{x.error.shown}"
  pure x

def tell (statuses : List Json) : Errand Unit := modify fun s => { s with progress := s.progress ++ [statuses] }

def inQueue (done total : Int) : Json := .array ["Progress in queue", done, total]

def waitForStart (id : String) : Nat → Int → Errand Job.Status
  | 0, _ => fail .exhausted
  | fuel + 1, most => do
    let x ← poll id
    if Job.Status.executionStarted.rank ≤ x.status.rank then
      if most ≠ 0 then tell [inQueue most most]
      return x.status
    let .int pos := x.position | fail .type
    let most := max most pos
    if pos ≠ 0 then tell [inQueue (most - pos) most]
    onHost (sleep 1)
    waitForStart id fuel most

def waitForEnd (id : String) : Nat → Errand Unit
  | 0 => fail .exhausted
  | fuel + 1 => do
    let found ← poll id
    tell found.progress.items
    if !found.status.isFinal then
      onHost (sleep 1)
      waitForEnd id fuel

def polls : Errand Nat := return (← get).desk.host.line.replies.length + 1

def wait : Errand Bool := do
  onHost (note "INFO" s!"Waiting for job ID: {id}")
  let waiting := do if !(← waitForStart id (← polls) 0).isFinal then waitForEnd id (← polls)
  tryCatch (do waiting; pure false) fun f => do
    if f.isFailure then throw f
    onHost (note "INFO" s!"Caught {f.text}, revoking job {id}")
    abort (← Uuid.ofText id).toText
    pure true

def perform (d : RunDef) (isAwaited : Bool) : Errand Bool := do
  let r ← call "post" "runs" [] [] (some (.bytes (← Task.ofRun d "sweeps")))
  if isAwaited then wait (← (do (← r.json).member "job_id")).shown
  else pure false

end Errand

end Transmon.Remote
