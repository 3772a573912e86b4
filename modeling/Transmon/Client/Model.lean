import Transmon.Architecture
import Transmon.Task

/-!
What a client and its server talk about: specifications of devices, options of a run, the states of a job, runs and
their results, and the addresses of the server's services.
-/

namespace Transmon.Client

open Json.Shape (plain)

abbrev Spec := Table String (List Names)

namespace Spec

def expanded (ns qs : Names) (connectivity : List Names) : Outcome Spec := do
  let es ← ns.mapM fun n => do
    let o ← Circuit.Native.named n
    pure (o.name, if o.arity = 2 then connectivity else qs.map ([·]))
  return .ofList es

def checked (s : Spec) : Outcome Spec := do
  for n in s.keys do discard (Circuit.Native.named n)
  pure s

def sameLoci (a b : List Names) := a.all b.contains && b.all a.contains

def agree (b : Spec) : Named (List Names) → Outcome Bool
  | [] => pure true
  | (n, loci) :: xs => do
    let o ← Circuit.Native.named n
    let form (locus : Names) : Names := if o.isSymmetric then Text.sorted locus else locus
    if sameLoci (loci.map form) ((b.getD n []).map form) then agree b xs else pure false

def equivalent (a b : Spec) := if Names.same a.keys b.keys then agree b a.entries else pure false

end Spec

/-- The states of a job as its owner sees them. -/
inductive Status
  | job (state : Job.Status) | processing | pendingDeletion | deletionFailed | deleted | unknown
deriving DecidableEq

def Status.name : Status → String
  | job s => s.name
  | processing => "processing"
  | pendingDeletion => "pending deletion"
  | deletionFailed => "deletion failed"
  | deleted => "deleted"
  | unknown => "unknown"

def Status.ofName? (n : String) :=
  if n = "pending execution" then some (job .pendingExecution)
  else ((Job.Status.ofName? n).map job).or
    ([processing, pendingDeletion, deletionFailed, deleted, unknown].find? (·.name = n))

def Status.isFinal : Status → Bool
  | job s => s.isFinal
  | deleted | deletionFailed => true
  | _ => false

structure Options where
  durationOverCoherence : Json := .null
  heralding : Option Compiler.HeraldingMode := some .none
  validation : Option Compiler.MoveValidation := some .strict
  tracking : Option Compiler.FrameTracking := some .full
  resetCycles : Json := .null
  decoupling : Option Compiler.DecouplingMode := some .disabled
  strategy : Json := .null

def Options.check (o : Options) : Check := do
  if o.tracking = some .full && !([some .strict, some .allowRotations, none].contains o.validation) then
    refuse ("Unable to perform full MOVE gate frame tracking if MOVE gate validation is not" ++
      " \"strict\" or \"allow_prx\".")

def strategyDefaults : Fields :=
  [("merge_contiguous_waits", true), ("target_qubits", .null), ("skip_leading_wait", true),
   ("skip_trailing_wait", true), ("gate_sequences", .array [])]

def blank (ns : Names) : Fields := ns.map (·, .null)

def strategyShape : Json.Shape := .record (plain (strategyDefaults.map Prod.fst)) strategyDefaults

def standardStrategy : Json :=
  (Json.object strategyDefaults).setField "gate_sequences"
    (.list Compiler.DecouplingStrategy.standard.sequences fun seq =>
      .array [
        match seq.ratio with
        | .int n => n
        | .float x => .float x,
        match seq.pattern with
        | .letters s => s
        | .rotations ps => .list ps fun e => .array [.float e.1, .float e.2],
        seq.alignment])

def modeDefaults : Fields :=
  [("max_circuit_duration_over_t2", .null), ("heralding_mode", "none"), ("move_validation_mode", "strict"),
   ("move_gate_frame_tracking_mode", "full"), ("dd_mode", "disabled"), ("dd_strategy", .null)]

def paramsShape : Json.Shape := .record (plain ("shots" :: modeDefaults.map Prod.fst)) modeDefaults

def stepShape : Json.Shape :=
  .record (plain ["name", "implementation", "qubits", "args"]) [("implementation", .null), ("args", .object [])]

def circuitShape : Json.Shape :=
  .record [("name", .any), ("instructions", .list stepShape), ("metadata", .any)] [("metadata", .null)]

def runShape : Json.Shape :=
  .record (("circuits", .list circuitShape) :: plain ("shots" :: "custom_settings" :: "calibration_set_id" ::
      "qubit_mapping" :: "active_reset_cycles" :: modeDefaults.map Prod.fst))
    (blank ["custom_settings", "calibration_set_id", "qubit_mapping", "active_reset_cycles"] ++ modeDefaults)

def metadataShape : Json.Shape :=
  .record [("calibration_set_id", .any), ("request", runShape), ("parameters", paramsShape),
      ("circuits_batch", .list circuitShape), ("cocos_version", .any), ("timestamps", .any)]
    (blank ["calibration_set_id", "request", "parameters", "circuits_batch", "cocos_version", "timestamps"])

def resultShape : Json.Shape :=
  .record [("measurements", .any), ("message", .any), ("metadata", metadataShape), ("warnings", .any)]
    (blank ["measurements", "message", "warnings"])

def stateShape : String × Json.Shape := ("status", .word fun s => (Status.ofName? s).map Status.name)

def statusShape : Json.Shape := .record (stateShape :: plain ["message", "warnings"]) (blank ["message", "warnings"])

def countsShape : Json.Shape :=
  .record [stateShape, ("counts_batch", .list (.record (plain ["measurement_keys", "counts"]) []))]
    (blank ["counts_batch"])

def librariesShape : Json.Shape :=
  .table (.record (plain ["name", "package_name", "repo_url", "package_url", "min", "max"])
    (blank ["package_name", "repo_url", "package_url"]))

def result (fs : Fields) : Outcome (Status × Json) := do
  let status := ((← require .missing (fs.lookup "status")).text?.bind Status.ofName?).getD .unknown
  pure (status, .object (("status", status.name) :: (← resultShape.read (fs.filter (·.1 != "status"))).fields))

structure Metadata where
  params : Json := .null
  req : Json := .null
  circuits : Json := .null

namespace Metadata

def ofJson (j : Json) : Metadata := ⟨j.get "parameters", j.get "request", j.get "circuits_batch"⟩

variable (m : Metadata)

def property (n ws : String) :=
  match m.params, m.req with
  | .null, .null => refuse s!"No {ws} information available in the metadata"
  | .null, r => r.part n
  | ps, _ => ps.part n

def circuitsOf :=
  match m.circuits, m.req with
  | .null, .null => refuse "No circuits information available in the metadata"
  | .null, r => r.part "circuits"
  | cs, _ => pure cs

end Metadata

def document? : Value → Option Json
  | .none => some .null
  | .bool b => some (b)
  | .int n => some (n)
  | .float x => if x.isFinite then some (.float x) else none
  | .text s => some (s)
  | .list xs | .tuple xs => .array <$> xs.mapM document?
  | .dict es => do return ← es.mapM fun e => do pure (e.1, ← document? e.2)
  | .array _ shape xs => do return Form.nested shape (← xs.mapM document?)
  | .scalar (.floating 64) v | .scalar (.text _) v => document? v
  | _ => none
decreasing_by all_goals grind

def docOf (v : Value) : Outcome Json :=
  if let some j := document? v then pure j
  else refuse "Object contains values that are not JSON serializable"

inductive Endpoint
  | result | params | calsetId | circuits | errorLog | submit | counts | status | timeline | abort
deriving DecidableEq

namespace Endpoint

/-- The names of the endpoints, with what stands before and behind the number of a job in their addresses. -/
def table : List (Endpoint × String × Names) :=
  [(result, "GET_JOB_RESULT", ["jobs/", "/measurements"]),
   (params, "GET_JOB_REQUEST_PARAMETERS", ["jobs/", "/request_parameters"]),
   (calsetId, "GET_JOB_CALIBRATION_SET_ID", ["jobs/", "/calibration_set_id"]),
   (circuits, "GET_JOB_CIRCUITS_BATCH", ["jobs/", "/circuits_batch"]),
   (errorLog, "GET_JOB_ERROR_LOG", ["jobs/", "/error_log"]), (submit, "SUBMIT_JOB", ["circuits"]),
   (counts, "GET_JOB_COUNTS", ["circuits/", "/counts"]), (status, "GET_JOB_STATUS", ["jobs/", "/status"]),
   (timeline, "GET_JOB_TIMELINE", ["jobs/", "/timeline"]), (abort, "ABORT_JOB", ["jobs/", "/abort"])]

variable (e : Endpoint)

def pattern := ((table.lookup e).map Prod.snd).getD []

def ofName? (n : String) := (table.find? (·.2.1 = n)).map Prod.fst

def below (base p : String) := if base.isEmpty || base.endsWith "/" then base ++ p else base ++ "/" ++ p

def url (base : String) (args : Names) : Outcome String :=
  match e.pattern, args with
  | [p], [] => return below base p
  | [before, after], [j] => return below base (before ++ j ++ after)
  | _, _ => fail .type

end Endpoint

end Transmon.Client
