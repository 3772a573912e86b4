import Transmon.Playlist.Record
import Transmon.Settings.Wire

/-!
The states of a job, in the order in which it goes through them.
-/

namespace Transmon

namespace Job

inductive Status
  | received | validationStarted | validationEnded | fetchCalStarted | fetchCalEnded
  | compilationStarted | compilationEnded | saveSweepMetadataStarted | saveSweepMetadataEnded
  | pendingExecution | executionStarted | executionEnded | postProcessingPending | postProcessingStarted
  | postProcessingEnded | ready | failed | aborted
deriving DecidableEq

namespace Status

def all :=
  [received, validationStarted, validationEnded, fetchCalStarted, fetchCalEnded, compilationStarted,
   compilationEnded, saveSweepMetadataStarted, saveSweepMetadataEnded, pendingExecution, executionStarted,
   executionEnded, postProcessingPending, postProcessingStarted, postProcessingEnded, ready, failed, aborted]

def name : Status → String
  | received => "received"
  | validationStarted => "validation_started"
  | validationEnded => "validation_ended"
  | fetchCalStarted => "fetch_calibration_started"
  | fetchCalEnded => "fetch_calibration_ended"
  | compilationStarted => "compilation_started"
  | compilationEnded => "compilation_ended"
  | saveSweepMetadataStarted => "save_sweep_metadata_started"
  | saveSweepMetadataEnded => "save_sweep_metadata_ended"
  | pendingExecution => "pending_execution"
  | executionStarted => "execution_started"
  | executionEnded => "execution_ended"
  | postProcessingPending => "post_processing_pending"
  | postProcessingStarted => "post_processing_started"
  | postProcessingEnded => "post_processing_ended"
  | ready => "ready"
  | failed => "failed"
  | aborted => "aborted"

def ofName? (n : String) := all.find? (·.name == n)

def rank (s : Status) := all.idxOf s

def isFinal : Status → Bool
  | ready | failed | aborted => true
  | _ => false

end Status

end Job

/-!
Tasks for a station: sweeps over parameters, and runs of experiments that hold a sweep.
-/

open Wire

structure SweepDef where
  id : Uuid
  dut : String
  settings : Settings.Tree
  sweeps : List (List Sweep) := []
  returned : Names := []
  playlist : Option Playlist := none

structure RunDef where
  id : Uuid
  (user experiment label : String)
  opts : Dict := []
  properties : Dict := []
  versionSet : Int
  hardSweeps : Named (List (List Sweep)) := []
  components : Names := []
  dataParams : Names := []
  sweepParams : Names := []
  sweep : SweepDef

namespace Task

def authority := "iqm-data-definitions"

def sweepName := "iqm.data_definitions.station_control.v1.SweepRequest"

def runName := "iqm.data_definitions.station_control.v2.RunDefinition"

def wrapped (n : String) (c : Msg) :=
  text 1 s!"{authority}/{n}"
    ++ (match encode c with
      | [] => []
      | bs => [(2, .block bs)])

def schema : Wire.Schema
  | "TaskRequest" => [.one 1 "queue_name" .text, .part 2 "payload" "Any", .one 3 "sweep_id" .text]
  | "Any" => [.one 1 "type_url" .text, .one 2 "value" .octets]
  | "SweepResultsResponse" => [.one 1 "sweep_id" .text, .one 2 "results" (.table "Arrays")]
  | "SweepRequest" =>
    [.one 1 "sweep_id" .text, .part 2 "settings" "SettingNode", .part 3 "sweeps" "CartesianSweep",
      .many 4 "return_parameters" .text, .one 6 "dut_label" .text, .part 7 "playlist" "Playlist"]
  | "RunDefinition" =>
    [.one 1 "run_id" .text, .one 2 "username" .text, .one 3 "experiment_name" .text, .one 4 "experiment_label" .text,
      .part 5 "options" "Struct", .part 6 "additional_run_properties" "Struct",
      .one 7 "software_version_set_id" .natural, .one 8 "hard_sweeps" (.table "CartesianSweep"),
      .many 9 "components" .text, .many 10 "default_sweep_parameters" .text, .many 11 "default_data_parameters" .text]
  | t =>
    match Playlist.schema t, Settings.schema t with
    | [], [] => Sweep.schema t
    | [], x | x, _ => x

def unwrapped? (n : String) (holder : Msg) := do
  let a ← holder.text 1
  if a.contains '/' && (a.splitOn "/").getLast? = some n then
    return some (← read schema (((n.splitOn ".").getLast?).getD n) ((holder.blocks 2).getLastD []))
  pure none

end Task

def SweepDef.pack (d : SweepDef) : Outcome Msg := do
  let ss ← Settings.packTree false d.settings
  let sweeps ← Sweep.packAll false d.sweeps
  let pl ← if let some p := d.playlist then do pure [(7, .block (← p.pack))] else pure []
  return text 1 d.id.toText ++ nested 2 ss ++ nested 3 sweeps ++ texts 4 d.returned
    ++ [(6, .block (ofText d.dut))] ++ pl

def SweepDef.unpack (m : Msg) : Outcome SweepDef := do
  let playlist ← match m.blocks 7 with
    | [] => pure none
    | bs => some <$> Playlist.unpack bs.flatten
  pure {
    id := ← Uuid.ofText (← m.text 1)
    dut := ← m.text 6
    settings := ← Settings.unpackTree Settings.maxDepth (← m.nested 2)
    sweeps := ← Sweep.unpackAll (← m.nested 3)
    returned := ← m.texts 4
    playlist }

def RunDef.pack (d : RunDef) : Outcome Msg := do
  let o ← Value.packTable d.opts
  let props ← Value.packTable d.properties
  if !isWord d.versionSet then fail .invalid
  let sweep ← d.sweep.pack
  let hardSweeps ← d.hardSweeps.mapM fun e => do pure (e.1, ← Sweep.packAll false e.2)
  return text 1 d.id.toText ++ text 2 d.user ++ text 3 d.experiment ++ text 4 d.label
    ++ nested 5 o ++ nested 6 props ++ number 7 d.versionSet.toNat
    ++ table 8 hardSweeps ++ texts 9 d.components ++ texts 10 d.sweepParams
    ++ texts 11 d.dataParams ++ nested 13 (Task.wrapped Task.sweepName sweep)

def RunDef.unpack (m : Msg) : Outcome RunDef := do
  let inline ← m.nested 12
  let sweep ← if (← inline.text 1).isEmpty then do
      pure ((← Task.unwrapped? Task.sweepName (← m.nested 13)).getD [])
    else pure inline
  pure {
    id := ← Uuid.ofText (← m.text 1)
    user := ← m.text 2
    experiment := ← m.text 3
    label := ← m.text 4
    opts := ← Value.unpackTable (← m.nested 5)
    properties := ← Value.unpackTable (← m.nested 6)
    versionSet := m.number 7
    hardSweeps := ← (← m.table 8).toList.mapM fun e => do pure (e.1, ← Sweep.unpackAll e.2)
    components := ← m.texts 9
    sweepParams := ← m.texts 10
    dataParams := ← m.texts 11
    sweep := ← SweepDef.unpack sweep }

namespace Task

def req (n : String) (c : Msg) (queue : String) (sweep : Uuid) :=
  encode (text 1 queue ++ nested 2 (wrapped n c) ++ text 3 sweep.toText)

def ofSweep (d : SweepDef) (queue : String) := return req sweepName (← d.pack) queue d.id

def ofRun (d : RunDef) (queue : String) := return req runName (← d.pack) queue d.sweep.id

def toSweep (bs : Bytes) := do
  let m ← read schema "TaskRequest" bs
  let some c ← unwrapped? sweepName (← m.nested 2) | refuse "Can't unpack SweepDefinition from task TaskRequest"
  pure (← SweepDef.unpack c, ← m.text 1)

def packResults (id : String) (rs : Named Values) : Outcome Bytes := do
  let arrays ← rs.mapM fun e => do
    let packed ← e.2.mapM fun
      | .array t shape xs => Value.packArray t shape xs
      | _ => fail .type
    pure (e.1, packed.flatMap (nested 1))
  return encode (text 1 id ++ table 2 arrays)

def unpackResults (bs : Bytes) : Outcome (Named Values) := do
  let m ← read schema "SweepResultsResponse" bs
  (← m.table 2).toList.mapM fun e => do pure (e.1, ← (← e.2.msgs 1).mapM Value.unpackArray)

end Task

structure Timestamps where
  (created modified begun ended : Option Text.Moment)

structure SweepRecord extends Timestamps where
  id : Uuid
  dut : Json
  settings : Settings.Tree
  sweeps : List Sweep.Decoded
  returned : Json
  status : Job.Status

structure RunRecord extends Timestamps where
  id : Uuid
  members : Fields
  hardSweeps : Named (List (List Sweep))
  sweep : SweepRecord

namespace Task

def momentOf : Json → Outcome (Option Text.Moment)
  | .text s => if s.isEmpty then pure none else some <$> Text.Moment.read s
  | j => if Form.toBool j then fail .type else pure none

def timestampsOf (j : Json) : Outcome Timestamps := do
  let moment (n : String) : Outcome (Option Text.Moment) := do momentOf (← j.member s!"{n}_timestamp")
  pure ⟨← moment "created", ← moment "modified", ← moment "begin", ← moment "end"⟩

def statusOf (j : Json) := do
  let .text s ← j.member "job_status" | fail .invalid
  require .invalid (Job.Status.ofName? s)

def idOf : Json → Outcome Uuid
  | .text s => Uuid.ofText s
  | .null => fail .type
  | _ => fail .noAttr

def textOf : Json → Outcome String
  | .text s => pure s
  | _ => fail .type

def groupsOf (xs : List Sweep.Decoded) : Outcome (List (List Sweep)) :=
  let x : Sweep.Decoded → SweepItem
    | .sweep s => .sweep s
    | y => .other y.shownClass
  Sweep.groups (xs.map fun
    | .tuple ps => .group (ps.map x)
    | y => x y)

end Task

def SweepRecord.ofJson (j : Json) : Outcome SweepRecord := do
  let member (n : String) := j.member n
  pure {
    id := ← Task.idOf (← member "sweep_id")
    dut := ← member "dut_label"
    settings := ← Settings.readStored (← Task.textOf (← member "settings"))
    sweeps := ← Sweep.readSweeps (← Task.textOf (← member "sweeps"))
    returned := ← member "return_parameters"
    toTimestamps := ← Task.timestampsOf j
    status := ← Task.statusOf j }

def RunRecord.plainMembers : Names :=
  ["username", "experiment_name", "experiment_label", "options", "additional_run_properties", "software_version_set_id",
   "components", "default_data_parameters", "default_sweep_parameters"]

def RunRecord.ofJson (j : Json) : Outcome RunRecord := do
  let member (n : String) := j.member n
  let id ← Task.idOf (← member "run_id")
  let (before, after) := plainMembers.splitAt 6
  let x ← before.mapM fun n => do pure (n, ← member n)
  let .object stored ← member "hard_sweeps" | fail .noAttr
  let hardSweeps ← stored.mapM fun e => do pure (e.1, ← Task.groupsOf (← Sweep.readSweeps (← Task.textOf e.2)))
  let y ← after.mapM fun n => do pure (n, ← member n)
  pure {
    id, hardSweeps
    members := x ++ y
    sweep := ← SweepRecord.ofJson (← member "sweep_data")
    toTimestamps := ← Task.timestampsOf j }

end Transmon
