import Transmon.Compiler.Standard
import Transmon.Logical.Circuit
import Transmon.Task

/-!
A line to a station.
-/

namespace Transmon

namespace Session

inductive Reply
  | value (value : Json)
  | failure (fault : Fault)

inductive Act
  | call (name : String) (args : Names) (named : Named String)
  | sleep (seconds : Nat)

structure Link where
  replies : Table String (List Reply) := ∅
  acts : List Act := []

namespace Link

variable (l : Link)

def note (act : Act) := { l with acts := l.acts ++ [act] }

def call (n : String) (args : Names) (named : Named String) : Outcome Json × Link :=
  let noted := l.note (.call n args named)
  match l.replies.getD n [] with
  | [] => (hint .missing (Text.quoted n), noted)
  | reply :: xs =>
    let left := if xs.isEmpty then [reply] else xs
    let r := match reply with
      | .value v => .ok v
      | .failure f => .error f
    (r, { noted with replies := noted.replies.insert n left })

def size := l.replies.values.foldl (fun total replies => total + replies.length) 0

end Link

end Session

/-!
A session with a station.
-/

structure Session where
  link : Session.Link
  cals : Table String Fields := ∅
  settings : Option Json := none

namespace Session

abbrev Talk := Work Session

def ask (n : String) (args : Names) (named : Named String := []) : Talk Json := do
  let session ← get
  let (reply, link) := session.link.call n args named
  set { session with link }
  reply

def sleep (secs : Nat) : Talk Unit := modify fun s => { s with link := s.link.note (.sleep secs) }

def attr (r : Json) (n : String) : Talk Json :=
  if let some v := r.field? n then pure v
  else hint .noAttr s!"'types.SimpleNamespace' object has no attribute '{n}'"

def items (a : Json) : Talk (List Json) := Form.toItems a

def fetchObs (id : String) : Talk Fields := do
  let k ← attr (← ask "get_observation_set" [id]) "observation_set_type"
  if k != "calibration-set" then refuse "Observation set type is not 'calibration-set'"
  let es ← (← items (← ask "get_observation_set_observations" [id])).mapM fun o =>
    return (← Form.toText (← attr o "dut_field"), ← attr o "value")
  return (Table.ofList es).entries

def calSet (id : String) : Talk Fields :=
  .retelling (fun _ => .because .runtime "Could not fetch calibration set from the database.") <|
    keeping (·.cals.get? id) (fun obs session => { session with cals := session.cals.insert id obs }) (fetchObs id)

def latestCalSet (c : String) : Talk (Fields × Json) :=
  let ws (f : Fault) : Fault :=
    .because .runtime s!"Could not fetch latest calibration set id from the database: {f.text}"
  .retelling ws do
    let sets ← items (← ask "query_observation_sets" []
      [("observation_set_type", "calibration-set"), ("dut_label", c), ("invalid", "False"),
       ("end_timestamp__isnull", "False"), ("order_by", "-end_timestamp"), ("limit", "1")])
    let x :: _ := sets | hint .index "list index out of range"
    let id ← attr x "observation_set_id"
    pure (← calSet ((id.text?).getD ""), id)

def chipLabel : Talk String := do
  let chips ← tryCatch (do items (← ask "get_duts" [])) fun f =>
    if f.kind = .connection then failWith .noChipLabel s!"Failed to retrieve the chip label: {f.text}"
    else throw f
  match chips with
  | [c] => Form.toText (← attr c "label")
  | _ => failWith .noChipLabel s!"Expected exactly one chip label, but got {chips.length}"

def chipRecord : Talk Json :=
  .retelling (fun _ => .because .noChipDesign "Could not fetch chip design record") do
    ask "get_chip_design_record" [← chipLabel]

def stationSettings : Talk Json :=
  keeping (·.settings) (fun fetched session => { session with settings := some fetched }) <|
    Work.retelling (fun _ => .because .noStationSettings "Could not fetch station settings") (ask "get_settings" [])

/-!
Running compiled circuits in a session.
-/

open Form

structure RunResult where
  id : Uuid
  isReady : Bool
  start : Json := .null
  finish : Json := .null
  results : Option Readout.Results := none
  msg : Json := .null

def toMappings (j : Json) : Outcome (List Readout.Mapping) := listOf j (fieldsOf · toTexts)

def toSweepResults (a : Json) := fieldsOf a (listOf · toPlains)

def shownResults (write : Value → Json) (rs : Readout.Results) : Json :=
  .list rs fun c => .table c fun rows => .list rows fun r => r.map write

def follow (id : Uuid) (ms : List Readout.Mapping) (isHeralded : Bool) : Nat → Talk RunResult
  | 0 => fail .timeout
  | fuel + 1 => do
    let sweep ← ask "get_sweep" [id.toText]
    let status ← require .invalid (Job.Status.ofName? (← toText (← attr sweep "status")))
    let ended (isReady : Bool) : RunResult := { id, isReady, start := sweep.get "begin", finish := sweep.get "end" }
    if status.rank ≤ Job.Status.executionStarted.rank then
      if toBool (← ask "_wait_job_completion" [id.toText]) then fail .interrupted
    else if status = .ready then
      let rs ← Readout.ofSweep (← toSweepResults (← ask "get_sweep_results" [id.toText])) ms isHeralded
      return { ended true with results := some rs }
    else if status = .failed || status = .aborted then
      return { ended false with msg := ← require .missing ((← ask "get_job" [id.toText]).field? "job_error") }
    sleep 1
    follow id ms isHeralded fuel

def execute (ms : List Readout.Mapping) (isHeralded : Bool) : Talk RunResult := do
  let _ ← chipLabel
  let r ← ask "sweep" []
  let id ← Uuid.ofText (← toText (← require .missing (r.field? "job_id")))
  tryCatch (follow id ms isHeralded (2 * (← get).link.size + 2)) fun f => do
    if !f.isFailure then let _ ← ask "abort_job" [id.toText]
    throw f

/-!
Logical circuits on a station.
-/

structure Reading where
  run : RunResult
  memories : List Names

def Reading.ofRun (run : RunResult) (shots : Value) (isExact : Bool) : Outcome Reading :=
  match run.results with
  | none =>
    let status := if run.isReady then "READY" else "FAILED"
    refuse s!"Cannot format station control result without result.Job status is \"{status}\""
  | some cs => do
    let memories ← cs.mapM fun c => Readout.bitstrings (c.map fun e => (e.1, e.2.map .list)) shots isExact
    pure { run, memories }

structure Backend where
  session : Session
  compiler : Compiler
  names : Table Nat String

namespace Backend

def told (ns : Table Nat String) (allowed : Names) (cs : List Logical.Circuit) : Outcome (List Circuit) :=
  cs.mapM fun c => return { name := c.name, steps := ← c.toSteps .radians ns allowed }

def online {α : Type} (work : Talk α) : Work Backend α :=
  .within Backend.session (fun session backend => { backend with session }) work

def tuning {α : Type} (work : Compiler.Tuning α) : Work Backend α :=
  .within Backend.compiler (fun compiler backend => { backend with compiler }) work

def run (cs : List Logical.Circuit) (shots : Int) : Work Backend Reading := do
  let ((_, c), b) ← tuning (Compiler.compile (← told (← get).names [] cs))
  let _ ← ((Compiler.settings c (shots)).run.run b).1
  let ls := if let some (.readout ls) := c.get? "readout_mappings" then ls else []
  let isExact := (← c.opts).heralding == .none
  Reading.ofRun (← online (execute ls !isExact)) (.int shots) isExact

end Backend

end Session

end Transmon
