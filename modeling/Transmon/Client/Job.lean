import Transmon.Client.Basic
import Transmon.Logical.Circuit

/-!
Jobs: runs that were sent, with what is known of them.
-/

namespace Transmon.Client

open Form

structure Service (σ : Type) where
  await : String → Number → Work σ Json
  status : String → Work σ Json
  (abort warn : String → Work σ Unit)

def Service.online : Service Link where
  await job timeout := Talk.awaitResult job timeout
  status job := Talk.status job
  abort job := Talk.abort job
  warn said := Talk.onHost (Host.warn said)

structure Job where
  id : String
  notes : Fields := []
  results : Named Names := []
  calibration : Json := .null
  req : Json := .null
  circuitNotes : Option (List Json) := none

inductive Job.Stage
  | initializing | queued | validating | running | done | cancelled | error
deriving DecidableEq

namespace Job

def Stage.name : Stage → String
  | .initializing => "INITIALIZING"
  | .validating => "VALIDATING"
  | .queued => "QUEUED"
  | .running => "RUNNING"
  | .done => "DONE"
  | .cancelled => "CANCELLED"
  | .error => "ERROR"

def Stage.all : List Stage := [.cancelled, .done, .error, .initializing, .queued, .running, .validating]

def Stage.ofName? (n : String) := all.find? (·.name = n)

def stageOf : Status → Stage
  | .job .pendingExecution => .running
  | .job .ready => .done
  | .job .failed | .deletionFailed => .error
  | .job .aborted | .deleted => .cancelled
  | _ => .queued

def metadataOf (r : Json) : Outcome Metadata := return .ofJson (← r.part "metadata")

def circuitName (c : Json) := return (← c.part "name").shown

def measured (j : Json) := fieldsOf j toPlains

def format (j : Job) (r : Json) : Outcome (Named Names) := do
  match r.get "measurements" with
  | .null =>
    let status := (textD r "status" "").toUpper
    refuse s!"Cannot format IQM result without measurements. Job status is \"{status}\""
  | ms =>
    let md ← metadataOf r
    let shots := toPlain ((j.notes.lookup "shots").getD (← md.property "shots" "shots"))
    let isExact := (← md.property "heralding_mode" "heralding mode").text? = some "none"
    let cs ← toItems (← md.circuitsOf)
    ((← toItems ms).zip cs).mapM fun (x, c) =>
      return (← circuitName c, ← Readout.bitstrings (← measured x) shots isExact)

def take (r : Json) : Work Job Unit := do
  let known ← r.part "metadata"
  modify fun job => { job with
    calibration := known.get "calibration_set_id", req := known.get "request" }
  match known.get "timestamps" with
  | .null => pure ()
  | ms => modify fun j => { j with notes := Table.put "timestamps" ms j.notes }
  let results ← format (← get) r
  modify ({ · with results })
  if (← get).circuitNotes.isNone && !(← get).req.isNull then
    let ns ← (← toItems (← (← metadataOf r).circuitsOf)).mapM (·.part "metadata")
    modify ({ · with circuitNotes := some ns })

def counts (texts : Names) : Table String Nat := texts.foldl (fun t s => t.update s 0 (· + 1)) ∅

def report (j : Job) : Outcome Json := do
  let rs ← j.results.zipIdx.mapM fun ((n, memory), i) => do
    let ns ← if let some ns := j.circuitNotes then itemAt ns i else pure (.object [])
    let counted := (counts memory).entries.map fun e => (e.1, Json.int e.2)
    return .object [("shots", memory.length), ("success", true),
      ("data", [("memory", texts memory), ("counts", counted), ("metadata", ns)]),
      ("header", .object [("name", n)]), ("calibration_set_id", j.calibration)]
  return .object [("backend_name", .null), ("backend_version", .null), ("qobj_id", .null), ("job_id", j.id),
    ("success", true), ("results", .array rs), ("request", j.req),
    ("timestamps", (j.notes.lookup "timestamps").getD .null)]

abbrev Following (σ : Type) := Work (σ × Job)

namespace Following

variable {σ : Type}

def serving {α : Type} (work : Work σ α) : Following σ α := .within Prod.fst (fun s st => (s, st.2)) work

def onJob {α : Type} (work : Work Job α) : Following σ α := .within Prod.snd (fun j s => (s.1, j)) work

def id : Following σ String := return (← Uuid.ofText (← get).2.id).toText

def await (service : Service σ) (timeout : Number) (stops : Bool) : Following σ Json := do
  let j ← id
  match ← .attempt (serving (service.await j timeout)) with
  | .ok r => pure r
  | .error f =>
    if f.kind ≠ .timeout || !stops then throw f
    match ← .attempt (serving (service.abort j)) with
    | .ok () => failWith .timeout "Job cancelled successfully."
    | .error failure =>
      if failure.kind = .notStopped then failWith .notStopped "Failed to cancel job." else throw failure

variable (service : Service σ)

def result (timeout : Number := jobPatience) (stops : Bool := false) : Following σ Json := do
  if (← get).2.results.isEmpty then onJob (take (← await service timeout stops))
  report (← get).2

def stage : Following σ Stage := do
  if !(← get).2.results.isEmpty then return .done
  return stageOf (← Talk.statusOf (← serving (service.status (← id))))

def cancel : Following σ Bool := do
  match ← .attempt (serving (service.abort (← id))) with
  | .ok () => pure true
  | .error f =>
    if f.kind ≠ .notStopped then throw f
    serving (service.warn s!"Failed to cancel job: {f.text}")
    pure false

def failure := return (← serving (service.status (← id))).get "message"

def submit : Following σ Json :=
  failWith .unsupported ("You should never have to submit jobs by calling this method. When running circuits "
    ++ "through RemoteIQMBackend, the submission will happen under the hood. The job instance that you get is only for "
    ++ "checking the progress and retrieving the results of the submitted job.")

end Following

end Job

end Transmon.Client
