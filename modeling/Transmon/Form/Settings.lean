import Transmon.Form.Schedule
import Transmon.Settings.Station
import Transmon.Task

/-!
JSON forms of parameters, settings, trees of settings, sweeps and arrays with named dimensions.
-/

namespace Transmon.Form

def toDataKind : Json → Outcome DataKind
  | .text n => .one <$> require .missing (DataType.ofName? n)
  | .array xs => do .either <$> xs.mapM fun x => do require .missing (DataType.ofName? (← toText x))
  | _ => fail .missing

variable (j : Json)

def toParam : Outcome Param := do
  let n ← needText j "name"
  let d ← if let some d := j.field? "data" then toDataKind d else pure (.one .float)
  let coll ← match j.field? "collection" with
    | some coll => require .missing (Collection.ofName? (← toText coll))
    | none => pure .scalar
  let is ← match present? j "element_indices" with
    | some (.array xs) => some <$> xs.mapM toInt
    | some (.int i) => pure (some [i])
    | some _ => pure (some [])
    | none => pure none
  Param.make n (textD j "label" "") (textD j "unit" "") d coll is

def dataKind : DataKind → Json
  | .one t => t.name
  | .either types => texts (types.map DataType.name)

def param (p : Param) : Json :=
  .object ([("name", .text p.name), ("label", .text p.label), ("unit", .text p.unit), ("data", dataKind p.data),
    ("collection", p.collection.name)]
    ++ (if let some is := p.indices then [("indices", .list is .int)] else [])
    ++ (if let some (n, l) := p.parent then [("parent", texts [n, l])] else []))

def toSource := (present? j "source").map toPlain

def toSetting := do
  Setting.make (← needAs j "parameter" toParam) (← toTagged (j.get "value")) (boolD j "read_only" false) ""
    (toSource j)

def setting (s : Setting) : Json :=
  .object ([("parameter", param s.param), ("value", tagged s.value), ("path", s.path)]
    ++ (if s.readOnly then [("read_only", .bool true)] else [])
    ++ (if let some source := s.source then [("source", echo source)] else []))

mutual

def toAssigned : Nat → Json → Outcome Settings.Assigned
  | 0, _ => fail .type
  | fuel + 1, j => do
    if j.hasField "children" then .tree <$> toTree fuel j
    else if j.hasField "value" then .setting <$> toSetting j
    else .param <$> needAs j "parameter" toParam

def toTree : Nat → Json → Outcome Settings.Tree
  | 0, _ => fail .type
  | fuel + 1, j => do
    let n ← needText j "name"
    let cs ← readAll (toAssigned fuel) (j.get "children").fields
    if cs.any fun e => e.1 = "name" then fail .type
    Settings.Tree.make n cs (textD j "path" "") (boolD j "align" true) (boolD j "generate_paths" true)

end

def maxTreeDepth := 400

variable (j : Json)

def settingsTree := toTree maxTreeDepth j

def tree : Settings.Tree → Json
  | { name, path, aligned, settings, subtrees, extras := _ } =>
    .object [("name", name), ("path", path), ("align", aligned),
      ("settings", .table settings setting), ("subtrees", subtrees.map fun e => (e.1, tree e.2))]
decreasing_by grind

def child : Settings.Child → Json
  | .setting s => setting s
  | .tree t => tree t

def brief (t : Settings.Tree) : Json :=
  (Table.entries (.ofList (t.allSettings.map fun s => (s.path, tagged s.value))))

def toSettingsLocus : Json → Outcome Settings.Locus
  | .text s => return .written s
  | x => .listed <$> toTexts x

def roundedTwelve : Value → Value
  | .float x => .float (Decimal.toSignificant x 12)
  | .complex re im => .complex (Decimal.toSignificant re 12) (Decimal.toSignificant im 12)
  | .list xs => .list (xs.map roundedTwelve)
  | .tuple xs => .tuple (xs.map roundedTwelve)
  | y => y

def sweep (s : Sweep) : Json :=
  .object [("type", s.kind.name), ("parameter", param s.param), ("data", tagged (roundedTwelve (.list s.data)))]

def decoded : Sweep.Decoded → Json
  | .value v => tagged v
  | .sweep s => sweep s
  | .list xs => xs.map decoded
  | .tuple xs => .object [("$tuple", xs.map decoded)]
  | .table es => es.map fun e => (e.1, decoded e.2)
decreasing_by all_goals grind

def toSweep : Outcome Sweep := do
  let k ← require .missing (SweepKind.ofName? (textD j "type" "Sweep"))
  let p ← needAs j "parameter" toParam
  let spacing ← given? j "options" fun o => do
    let (n, fs) ← typed o
    Sweep.Spacing.make n (← readAll toTagged fs)
  Sweep.ofSpacing k p spacing (← given? j "data" toTagged)

def toSweepItem : Json → Outcome SweepItem
  | .array xs => .group <$> xs.mapM single
  | x => single x
where
  single : Json → Outcome SweepItem
    | .object fs => .sweep <$> toSweep (fs)
    | x => return .other (toPlain x).shownClass

def namedArray (a : NamedArray) : Fields :=
  [("name", a.name), ("dims", texts a.dims), ("shape", .list a.shape fun (n : Nat) => n),
    ("values", tagged a.values), ("attrs", echo (.dict a.attrs)),
    ("coords", texts (Text.sorted (a.coords.map Prod.fst)))]

/-!
JSON forms of tasks for a station and of what was done for them.
-/

def toSweepDef : Outcome SweepDef := do
  let playlist ← given? j "playlist" fun c => do Playlist.unpack (← toBytes c)
  pure {
    id := ← Uuid.ofText (← needText j "id")
    dut := textD j "dut" "M1"
    settings := ← needAs j "settings" settingsTree
    sweeps := ← Sweep.groups (← j.each "sweeps" toSweepItem)
    returned := ← textsD j "return" []
    playlist }

def toRunDef : Outcome RunDef :=
  return {
    id := ← Uuid.ofText (← needText j "id")
    user := textD j "user" "u"
    experiment := textD j "experiment" "e"
    label := textD j "label" "l"
    opts := toPlainEntries (j.get "options").fields
    properties := toPlainEntries (j.get "properties").fields
    versionSet := ← intD j "version_set" 1
    hardSweeps := ← readAll (fun j => do Sweep.groups (← j.items.mapM toSweepItem)) (j.get "hard_sweeps").fields
    components := ← textsD j "components" []
    dataParams := ← textsD j "data_parameters" []
    sweepParams := ← textsD j "sweep_parameters" []
    sweep := ← toSweepDef (← need j "sweep") }

def storedDataKind : DataKind → Json
  | .one t => t.code
  | .either types => .list types (·.code)

def storedParam (p : Param) : Json :=
  .object [("name", p.name), ("label", p.label), ("unit", p.unit),
    ("data_type", storedDataKind p.data), ("collection_type", p.collection.code),
    ("element_indices", opt (.list · .int) p.indices)]

def storedSweep (s : Sweep) : Json := [("parameter", storedParam s.param), ("data", echo (.list s.data))]

def storedSweeps (gs : List (List Sweep)) : Json := .list gs (·.map storedSweep)

def storedItem : Sweep.Decoded → Json
  | .sweep s => storedSweep s
  | .tuple ps => .array (ps.map fun
    | .sweep s => storedSweep s
    | _ => .null)
  | _ => .null

def sweepDef (d : SweepDef) : Json :=
  .object [("sweep_id", d.id.toText), ("dut_label", d.dut), ("settings", brief d.settings),
    ("sweeps", storedSweeps d.sweeps), ("return_parameters", texts d.returned),
    ("playlist", opt (names ·.channels.keys) d.playlist)]

def runDef (d : RunDef) : Json :=
  .object [("run_id", d.id.toText), ("username", d.user), ("experiment_name", d.experiment),
    ("experiment_label", d.label), ("options", echo (.dict d.opts)),
    ("additional_run_properties", echo (.dict d.properties)), ("software_version_set_id", d.versionSet),
    ("hard_sweeps", .table d.hardSweeps storedSweeps),
    ("components", texts d.components), ("default_data_parameters", texts d.dataParams),
    ("default_sweep_parameters", texts d.sweepParams), ("sweep_definition", sweepDef d.sweep)]

def optMoment (m : Option Text.Moment) (between : String := "T") := optText (m.map (·.written between))

def timestamps (t : Timestamps) : Fields :=
  [("created_timestamp", optMoment t.created), ("modified_timestamp", optMoment t.modified),
    ("begin_timestamp", optMoment t.begun), ("end_timestamp", optMoment t.ended)]

def sweepRecord (r : SweepRecord) : Json :=
  .object ([("sweep_id", .text r.id.toText), ("dut_label", r.dut), ("settings", brief r.settings),
    ("sweeps", .list r.sweeps storedItem), ("return_parameters", r.returned)]
    ++ timestamps r.toTimestamps ++ [("job_status", .text r.status.name)])

def runRecord (r : RunRecord) : Json :=
  .object ([("run_id", .text r.id.toText)] ++ r.members
    ++ [("hard_sweeps", .table r.hardSweeps storedSweeps), ("sweep_data", sweepRecord r.sweep)]
    ++ timestamps r.toTimestamps)

def sweepResults (rs : Named Values) : Json := .table rs (·.map tagged)

end Transmon.Form
