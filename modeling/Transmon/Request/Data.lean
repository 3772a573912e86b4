import Transmon.Form.Client
import Transmon.Form.Compiler
import Transmon.Installed
import Transmon.Logging
import Transmon.Session
import Transmon.Yaml

/-!
Requests about chip designs and configuration files.
-/

namespace Transmon

namespace Request.Library

open Form Installed
open Chip (Component ComponentKind Design)

def components (k : ComponentKind) (j : Json) (n : String) := do
  let y ← (j.get n).items.mapM fun x =>
    return Design.component k (← needText x "name") (← textsD x "connections" []) (textD x "function" "")
  return Design.arranged y

variable (r : Json)

def design : Outcome Design := do
  let j ← need r "chad"
  pure {
    variant := textD j "variant" "A"
    qubits := ← components .qubit j "qubits"
    couplers := ← components .coupler j "couplers"
    probeLines := ← components .probeLine j "probe_lines"
    launchers := ← components .launcher j "launchers"
    resonators := ← components .resonator j "computational_resonators" }

variable (es : Named Names)

def nameLists : Json := .table es texts

def sortedLists := nameLists (es.map fun e => (e.1, Text.sorted e.2))

def designStep (s : Json) : Action Design Json := do
  let d ← get
  let ns ← textsD s "names" []
  match verb s with
  | "names" =>
    return nameLists [("qubits", Design.names d.qubits), ("couplers", Design.names d.couplers),
      ("probe_lines", Design.names d.probeLines), ("resonators", Design.names d.resonators),
      ("all", d.all.map Prod.fst)]
  | "component" =>
    let x ← require .missing (d.all.lookup (← needText s "name"))
    return .array [x.kind.name, x.name, texts x.connections]
  | "filter" => texts <$> d.qubitsAmong ns
  | "probe_lines" => return texts (Text.sorted (← d.probeLinesFor ns))
  | "operations" =>
    let (qs, cs) ← d.defaultOps ns
    pure [sortedLists qs, sortedLists cs]
  | "couplers" => nameLists <$> d.couplersFor ns
  | "probe_line_mapping" => nameLists <$> d.probeLineMapping ns
  | "common_coupler" =>
    let [first, y] := ns | fail .type
    return ← d.commonCoupler first y
  | "topology" =>
    let t ← d.topology
    pure [("qubits", texts t.qubits), ("resonators", texts t.resonators), ("couplers", texts t.couplers),
      ("probe_lines", texts t.probeLines), ("variant", d.variant),
      ("coupler_to", sortedLists t.couplerComponents.toList),
      ("probe_line_to", sortedLists t.probeLineComponents.toList)]
  | _ => fail .missing

def designs := continuing r (design r) designStep

def files := readAll toText (r.get "files").fields

def records (kindName : Fault.Kind → String) (r : Json) : Result := do
  let files ← files r
  let root ← needText r "root"
  if root.isEmpty then refuse "QCMDataClient 'root_url' cannot be empty, it must be a valid HTTP or file URL."
  let root := textD r "new_root" root
  let fallback := textD r "fallback" ""
  let answers := (← needTexts r "labels").map fun l =>
    match Chip.Library.record files root fallback l with
    | .ok x => Json.object [("record", x)]
    | .error f =>
      .object (("error", kindName f.kind) :: match f.msg with
        | some s => [("message", s)]
        | none => [])
  return .object [("root", root), ("answers", answers)]

def configuration : Result := do
  let p ← needText r "path"
  match present? r "data" with
  | some d => tagged <$> Yaml.stored (← toTagged d)
  | none =>
    let some c := Chip.Library.file? (← files r) p | fail (.other "FileNotFoundError")
    match Yaml.read c with
    | .ok v => return tagged v
    | .error (some f) => throw f
    | .error none => refuse s!"Failed to load YAML file from {p}."

def loggers : Result := do
  let x := (r.get "loggers").fields.map fun e => (e.1, match e.2 with
    | .text level => return some level
    | level => if toBool level then fail .noAttr else pure none)
  let es ← Logging.configuration x (textD r "default_level" "INFO") (boolD r "verbose" false)
  return .object (es ++ [("filter", .list (← r.each "levels" toInt) (Logging.isInformation ·))])

def installed : Result := do
  match present? r "directory" with
  | some dir =>
    let isCopy := isWorkingCopy (← toText dir) ((← files r).map Prod.fst)
    let asked := if isCopy then [.array [texts describing, .object [("text", true), ("timeout", .int 5)]]] else []
    return .object [("value", if isCopy then (Text.strip (textD r "output" "")) else .null), ("asked", .array asked)]
  | none =>
    let packages ← needList r "packages" fun x => do
      let [n, version, files] ← toItems x | fail .invalid
      let named : Package := { name := ← toText n, version := ← toText version }
      if files.isNull then pure named else pure { named with files := some (← toTexts files) }
    return .object [("versions", .list (← versions (← needText r "python") packages).entries fun e => texts [e.1, e.2]),
      ("reloaded", .int (if boolD r "reload" false then 1 else 0))]

end Request.Library

/-!
Requests about the layout of a chip.
-/

namespace Request.Chips

open Form

def describe (c : Chip.Topology) : Json :=
  .object
    [("qubits", texts c.qubits), ("resonators", texts c.resonators), ("couplers", texts c.couplers),
     ("probe_lines", texts c.probeLines), ("all", names c.all),
     ("coupler_to_components", nameLists c.couplerComponents),
     ("component_to_couplers", .table c.componentCouplers.entries names),
     ("probe_line_to_components", nameLists c.probeLineComponents),
     ("component_to_probe_line", .table c.probeLineOf.entries .text)]

def step (r : Json) : Action Chip.Topology Json := do
  let c ← get
  let ps := needTexts r "components"
  match verb r with
  | "neighbor_couplers" => return names (c.neighborCouplers (← ps))
  | "connecting_couplers" => return names (c.connectingCouplers (← ps))
  | "neighbor_locus_components" => return names (c.neighborComponents (← ps))
  | "connected_probe_lines" => return names (c.connectedProbeLines (← ps))
  | "connected_coupler_map" => return nameLists (c.connectedCouplers (← ps))
  | "coupler_for" => return ← c.couplerOf (← ps)
  | "boundary" =>
    let mode := Chip.Topology.BoundaryMode.ofName (← needText r "mode")
    let (inside, cs) ← c.boundary mode (← ps) (← needTexts r "couplers")
    pure [names inside, names cs]
  | "describe" => return describe c
  | "is" =>
    let p ← needText r "component"
    return .list ([c.qubits, c.couplers, c.probeLines, c.resonators].map (·.contains p)) .bool
  | "limit_values" =>
    let limit ← needTexts r "limit_to"
    return nameLists ((← needAs r "dict" toNameLists).filter fun _ vs => Names.meets vs limit)
  | "set_locus_mapping" =>
    let m ← needList r "mapping" (pairOf toLocus toTexts)
    set (← c.setMapping (← needText r "name") (.ofList m))
    pure .null
  | "map_locus" => return opt texts (c.mapLocus (← needAs r "locus" toLocus) (text? r "name"))
  | "map_to_locus" => return opt locus (c.locusOf (← needTexts r "mapped") (← needText r "name"))
  | "loci" =>
    let size ← given? r "dimension" toInt
    return .list (c.loci (← needText r "name") size) locus
  | "common_resonator" =>
    let [x, y] ← needTexts r "qubits" | fail .type
    return ← c.commonResonator x y
  | "all_common_resonators" => return names (c.allCommonResonators (← needTexts r "qubits"))
  | _ => fail .missing

def answer (r : Json) := continuing r (needAs r "chip" toTopology) step

end Request.Chips

/-!
Requests about values and their wire formats, and about small tables of a station.
-/

namespace Request.Data

open Form Schedule.Decoupling

variable (r : Json)

def content := needAs r "hex" toBytes

/-- The bytes of a message, and what is read back from them. -/
def written (t : String) (m : Wire.Msg) (unpack : Wire.Msg → Outcome Value) : Result := do
  let c := Wire.encode m
  pure [("hex", bytes c), ("back", tagged (← unpack (← Wire.read Value.schema t c)))]

def unpacked (t : String) (unpack : Wire.Msg → Outcome Value) : Result :=
  return tagged (← unpack (← Wire.read Value.schema t (← content r)))

def unpackTable (m : Wire.Msg) : Outcome Value := .dict <$> Value.unpackTable m

def table : Result := do
  written "Struct" (← Value.packTable (← fieldsOf (← need r "data") toTagged)) unpackTable

def datum : Result := do written "Datum" (← Value.pack (← needAs r "value" toTagged)) Value.unpack

def sequence : Result := do
  written "Sequence" (← Value.packSeq (← needAs r "value" toTagged)) fun m => do .list <$> Value.unpackItems m

def value : Result := do
  let x ← toTagged (r.get "value")
  match verb r with
  | "validate" => tagged <$> x.ofRecord
  | "serialize" => return tagged x.record
  | "validate_sweep" => tagged <$> x.ofSweepRecord
  | "serialize_sweep" => tagged <$> x.sweepRecord
  | "decode_json" => tagged <$> x.ofRecordOrTuple
  | "encode_json" =>
    match x with
    | .complex _ _ | .array _ _ _ => return tagged x.record
    | .tuple xs => return tagged (.tupleRecord xs)
    | _ => fail .missing
  | "native" => return tagged x.native
  | _ => fail .missing

def dataType : Result := do
  let n ← needText r "type"
  let x ← toTagged (r.get "value")
  let t := require .missing (DataType.ofName? n)
  match verb r with
  | "cast" => tagged <$> (← t).cast x
  | "validate" => return (← t).admits x
  | "collect" => tagged <$> (← require .missing (Collection.ofName? n)).cast x
  | _ => fail .missing

def points : Value → Json
  | .float x => rounded 9 x
  | .complex re im => roundedComplex 9 ⟨re, im⟩
  | .list xs => xs.map points
  | y => Form.value y

def spacing : Result := do
  let spacing ← Sweep.Spacing.ofConfig (← fieldsOf (← need r "config") toTagged)
  return .object [("type", spacing.name), ("data", points (← spacing.points))]

def status : Result := do
  match r.field? "code" with
  | some code => return (Http.Failure.ofCode (← toInt code)).name
  | none =>
    let n ← needText r "name"
    if let some failure := Http.Failure.ofName? n then pure failure.code
    else if n = "StationControlError" then return Http.Failure.internal.code else fail .missing

def decoupling : Result := do
  let ints (xs : List Int) : Json := .list xs .int
  match verb r with
  | "near_split" => ints <$> split (← needInt r "number") (← needInt r "parts") (← intD r "step" 1)
  | "waiting_slots" =>
    let (even, odd) ← intervals (← needInt r "duration") (← needInt r "pulses")
      (← needInt r "min") (← needText r "alignment")
    pure [ints even, ints odd]
  | "pattern" => return .list (← ofPattern (← needText r "pattern")) fun e => [float e.1, float e.2]
  | "sequence" =>
    let segs ← needList r "segments" fun seg => do .ofInstructions <$> listOf seg toInstr
    let is ← Schedule.Decoupling.sequence segs (← needAs r "wait" toNum) (← needInt r "gran") (← needInt r "min")
      (textD r "alignment" "center")
    return .list is instruction
  | "urn" => do return .list (← robustPhases (← needInt r "n")) float
  | _ => fail .missing

def readout : Result := do
  let ms ← needAs r "mappings" Session.toMappings
  match verb r with
  | "names" => return texts (Text.sorted (Readout.labels ms))
  | "triggers" =>
    return .array [.table (Readout.triggerCounts ms).toList (.int ·), .list (Readout.labelsByCircuit ms) texts]
  | "map" =>
    let x ← needAs r "results" Session.toSweepResults
    Session.shownResults Form.value <$> Readout.ofSweep x ms (textD r "heralding" "none" != "none")
  | _ => fail .missing

def calTree : Result := do
  let t ← Calibration.treeOf ((← needAs r "calset" toFields).map fun e => (e.1, toPlain e.2))
  return Form.calTree t fun d => echo (.dict d)

def centers : Result := do
  let x ← needAs r "channels" toChannels
  let lines ← fieldsOf (← need r "component_channels") fun l => do pure ⟨← fieldsOf l toText⟩
  let obs ← needAs r "calset" toObs
  let frequency? (n : String) : Option Float := (obs.lookup n).bind Value.float?
  channels <$> Station.tuned x ⟨lines⟩ frequency?

def sources : Result := do
  let p ← needText r "component"
  let obs ← fieldsOf (← need r "calset") toTagged
  let shown (o setting : String) (isRequired : Bool) : Json :=
    let x := match Station.observed obs o isRequired with
      | .ok v => tagged (v.getD .none)
      | .error f => .object [("missing", f.msg.getD "")]
    .object [("observation", o), ("setting", setting), ("required", isRequired), ("found", x)]
  let group (sources : List Station.Source) : Json :=
    .list sources fun s => shown (s.observation p) (s.setting p) s.isRequired
  pure [("per_qubit", group Station.qubitSources), ("per_coupler", group Station.couplerSources),
    ("per_probe_line", group Station.probeLineSources),
    ("per_qpu", [shown Station.endDelayObs Station.endDelaySetting true]),
    ("per_boundary_qubit", group Station.boundaryQubitSources),
    ("per_boundary_coupler", group Station.boundaryCouplerSources)]

def deprecation : Result := return ← Notice.deprecation (← needText r "old") (text? r "new") (← needText r "since")

def toCtrl (j : Json) : Outcome Ctrl := do
  let commands := (← toCommandKinds (← textsD j "compatible" [])).map Playlist.CommandKind.name
  let role ← if textD j "kind" "" = "awg" then do
      pure (.generator (← textsD j "feedback" []) (boolD j "lo" false) (boolD j "mixer" false))
    else do pure (.readout (← needFloat j "start") (← needFloat j "stop"))
  pure ⟨← needFloat j "rate", ← needFloat j "gran", ← needFloat j "min", commands, role⟩

def ctrlsOf (c : Wire.Bytes) : Result :=
  return controllers (← Ctrl.unpackAll (boolD r "convert" true)
    (← Wire.read Ctrl.schema "ChannelPropertyDictionary" c))

def ctrlTable : Result := do
  let written := Wire.encode (Ctrl.packAll (← fieldsOf (← need r "channels") toCtrl))
  pure [("hex", bytes written), ("back", ← ctrlsOf r written)]

end Request.Data

end Transmon
