import Transmon.Chip
import Transmon.Timebox
import Transmon.Waveform.Sampling

/-!
JSON forms of envelopes.
-/

namespace Transmon.Form

open InstrKind

def decimalsOf (n : String) := if n = "coefficients" then 6 else 9

def shapeValue (m : String) : ShapeValue → Json
  | .whole n => n
  | .real x => float x
  | .flag b => b
  | .reals xs => roundedList (decimalsOf m) xs

def waveform (w : Waveform) :=
  object w.kind.name (("n_samples", w.size) ::
    .zipWith (fun (f : ShapeKind.Field) v => (f.name, shapeValue f.name v)) w.kind.fields w.shape.values)

def toShapeValue (t : ShapeKind.FieldType) (v : Json) : Outcome ShapeValue :=
  match t with
  | .whole => .whole <$> toInt v
  | .real => .real <$> toFloat v
  | .flag => return .flag (toBool v)
  | .reals => .reals <$> toFloats v

def waveformOfFields (k : ShapeKind) (fs : Fields) : Outcome Waveform := do
  let own := k.fields
  let required := (own.filter (·.default.isNone)).map ShapeKind.Field.name
  let opt := (own.filter (·.default.isSome)).map ShapeKind.Field.name
  let sized := k != .samples
  checkFields fs (if sized then "n_samples" :: required else required) opt
  if k == .samples then
    let some v := fs.lookup "samples" | pure ()
    let lengths := listShape 8 v
    if lengths.length ≠ 1 then
      let shape := Text.tupled (lengths.map toString)
      refuse s!"Incorrect shape {shape} for waveform samples. Samples should be a 1D array."
  let size ← if sized then toInt ((fs.lookup "n_samples").getD .null) else pure 0
  let vs ← own.mapM fun f =>
    if let some v := fs.lookup f.name then toShapeValue f.type v
    else return .real (f.default.getD 0.0)
  Waveform.make size (← require .type (Shape.ofValues? k vs))

def toWaveform (j : Json) := do
  let (n, fs) ← typed j
  waveformOfFields (← require .missing (ShapeKind.ofName? n)) fs

/-!
JSON forms of instructions and acquisitions.
-/

def iqPulse (p : IQPulse) :=
  object "IQPulse" (("duration", number p.duration) :: Instruction.pulseFields float (waveform p.waveI)
    (waveform p.waveQ) p.scaleI p.scaleQ p.phase p.modulation p.phaseStep)

def multiplexed (p : MultiplexedPulse) :=
  object "MultiplexedIQPulse"
    [("duration", number p.duration), ("entries", .list p.entries fun e => [iqPulse e.1, e.2])]

def acquisition {ω : Type} (p : ω → Json) (a : Acquisition ω) :=
  let (n, fs) := a.fields (.int ·) (.text ·) float p
  object n fs

def instruction (i : Instruction) :=
  let lasting (d : Number) (fs : Fields) := object i.kind.name (("duration", number d) :: fs)
  match i with
  | .plain d | .wait d | .block d | .nothing d => lasting d []
  | .virtualRz d phase => lasting d [("phase_increment", float phase)]
  | .iqPulse p => iqPulse p
  | .realPulse d w scale => lasting d [("wave", waveform w), ("scale", float scale)]
  | .fluxPulse d w scale frames =>
    lasting d [("wave", waveform w), ("scale", float scale), ("rzs", .list frames fun f => .array [f.1, float f.2])]
  | .conditional d cond os => lasting d [("condition", cond), ("outcomes", os.map instruction)]
  | .multiplexed p => multiplexed p
  | .readout t =>
    lasting t.duration [("probe_pulse", multiplexed t.probePulse),
      ("acquisitions", .list t.acquisitions (acquisition iqPulse))]
  | .moveMarker d q res detuning => lasting d [("qubit", q), ("resonator", res), ("detuning", float detuning)]

variable (fs : Fields)

def fieldOf (n : String) := (fs.lookup n).getD .null

def floatOf (n : String) (default : Float) := if let some v := fs.lookup n then toFloat v else pure default

/-- Reads what has a type. -/
def typedAs {α : Type} (t : String) (read : Fields → Outcome α) (j : Json) : Outcome α := do
  let (n, fs) ← typed j
  if n ≠ t then fail .noAttr
  read fs

def iqPulseOfFields : Outcome IQPulse := do
  let get := fieldOf fs
  let floatD := floatOf fs
  checkFields fs ["duration", "wave_i", "wave_q"]
    ["scale_i", "scale_q", "phase", "modulation_frequency", "phase_increment"]
  pure {
    duration := ← toNum (get "duration")
    waveI := ← toWaveform (get "wave_i")
    waveQ := ← toWaveform (get "wave_q")
    scaleI := ← floatD "scale_i" 1.0
    scaleQ := ← floatD "scale_q" 0.0
    phase := ← floatD "phase" 0.0
    modulation := ← floatD "modulation_frequency" 0.0
    phaseStep := ← floatD "phase_increment" 0.0 }

variable (j : Json)

def toIqPulse := typedAs "IQPulse" iqPulseOfFields

def multiplexedOfFields : Outcome MultiplexedPulse := do
  checkFields fs ["duration", "entries"] []
  let es ← listOf (fieldOf fs "entries") (pairOf toIqPulse toInt)
  pure ⟨← toNum (fieldOf fs "duration"), es⟩

def toMultiplexed := typedAs "MultiplexedIQPulse" multiplexedOfFields

/-- Reads an acquisition whose weights are read by `toWeights`. -/
def acquisitionWith {ω : Type} (toWeights : Json → Outcome ω) (n : String) (fs : Fields) :
    Outcome (Acquisition ω) := do
  let get := fieldOf fs
  let check (ys : Names) := checkFields fs ("label" :: "delay_samples" :: ys)
  let l := toText (get "label")
  let delay := toInt (get "delay_samples")
  let ws := toWeights (get "weights")
  match n with
  | "AcquisitionMethod" =>
    check [] []
    return .plain (← l) (← delay)
  | "TimeTrace" =>
    check ["duration_samples"] []
    return .timeTrace (← l) (← delay) (← toInt (get "duration_samples"))
  | "ComplexIntegration" =>
    check ["weights"] []
    return .integration (← l) (← delay) (← ws)
  | "ThresholdStateDiscrimination" =>
    check ["weights", "threshold"] ["feedback_signal_label"]
    return .threshold (← l) (← delay) (← ws) (← toFloat (get "threshold"))
      ((get "feedback_signal_label").text?.getD "")
  | _ => fail .missing

def toAcquisition := do
  let (n, fs) ← typed j
  acquisitionWith toIqPulse n fs

def toFrame : Json → Outcome (String × Float)
  | .array [.text n, angle] => do pure (n, ← toFloat angle)
  | _ => fail .type

def instrOfFields (outcome : Json → Outcome Instruction) (k : InstrKind) (fs : Fields) : Outcome Instruction := do
  let get := fieldOf fs
  let check (required : Names) := checkFields fs ("duration" :: required)
  let span := toNum (get "duration")
  let w := toWaveform (get "wave")
  let scale := toFloat (get "scale")
  match k with
  | .plain => check [] []; .plain <$> span
  | .wait => check [] []; .wait <$> span
  | .block => check [] []; .block <$> span
  | .nothing => check [] []; .nothing <$> span
  | .virtualRz =>
    check ["phase_increment"] []
    return .virtualRz (← span) (← toFloat (get "phase_increment"))
  | .iqPulse => .iqPulse <$> iqPulseOfFields fs
  | .realPulse =>
    check ["wave", "scale"] []
    return .realPulse (← span) (← w) (← scale)
  | .fluxPulse =>
    check ["wave", "scale"] ["rzs"]
    let frames ← (get "rzs").items.mapM toFrame
    return .fluxPulse (← span) (← w) (← scale) frames
  | .conditional =>
    check ["condition", "outcomes"] []
    let os ← listOf (get "outcomes") outcome
    return .conditional (← span) (← toText (get "condition")) os
  | .multiplexed => .multiplexed <$> multiplexedOfFields fs
  | .readout =>
    check ["probe_pulse", "acquisitions"] []
    let acqs ← listOf (get "acquisitions") toAcquisition
    return .readout ⟨← span, ← toMultiplexed (get "probe_pulse"), acqs⟩
  | .moveMarker =>
    checkFields fs ["qubit", "resonator", "detuning"] ["duration"]
    let span ← toNum ((fs.lookup "duration").getD (.int 0))
    return .moveMarker span (← toText (get "qubit")) (← toText (get "resonator")) (← toFloat (get "detuning"))

inductive Entity
  | wave (wave : Waveform)
  | instruction (instruction : Instruction)
  | acquisition (acquisition : Acquisition IQPulse)

def acquisitionNames : Names := ["AcquisitionMethod", "TimeTrace", "ComplexIntegration", "ThresholdStateDiscrimination"]

def instrWithin : Nat → Json → Outcome Instruction
  | 0, _ => fail .type
  | depth + 1, j => do
    let (n, fs) ← typed j
    match ofName? n with
    | some k => instrOfFields (instrWithin depth) k fs
    | none =>
      if (ShapeKind.ofName? n).isSome || acquisitionNames.contains n then fail .noAttr
      else fail .missing

def nesting := 64

def toInstr := instrWithin nesting j

def toInstrs := do listOf j toInstr

def toEntity : Outcome Entity := do
  let (n, fs) ← typed j
  match ShapeKind.ofName? n with
  | some k => .wave <$> waveformOfFields k fs
  | none =>
    if acquisitionNames.contains n then .acquisition <$> acquisitionWith toIqPulse n fs
    else .instruction <$> toInstr j

/-!
JSON forms of channels, segments and schedules.
-/

def segment (s : Segment) : Json :=
  [("duration", number s.duration), ("instructions", .list s.instructions instruction)]

def schedule (s : Schedule) : Json := .table s.channels.entries segment

variable (j : Json)

def toSchedule (span : Option Number) : Outcome Schedule := return .ofChannels (← fieldsOf j toInstrs) span

def channel (c : Channel) :=
  let common :=
    [("sample_rate", float c.sampleRate), ("instruction_duration_granularity", c.granularity),
     ("instruction_duration_min", c.minimum),
     ("compatible_instructions", texts (c.compatible.map name)),
     ("is_iq", c.isIq), ("is_virtual", c.isVirtual), ("blocks_component", c.blocksComponent)]
  match c.probe with
  | none => object "ChannelProperties" common
  | some p =>
    object "ProbeChannelProperties" (common ++
      [("center_frequency", float p.centerFreq),
       ("integration_start_dead_time", p.integrationStartDeadTime),
       ("integration_stop_dead_time", p.integrationStopDeadTime)])

def toKinds (ns : Names) := ns.mapM fun n => require .missing (ofName? n)

def toChannel : Outcome Channel := do
  let probe ← if boolD j "probe" false then do
      pure (some ⟨← floatD j "center" 0.0, ← intD j "start" 0, ← intD j "stop" 0⟩)
    else pure none
  pure {
    sampleRate := ← needFloat j "rate"
    granularity := ← needInt j "gran"
    minimum := ← needInt j "min"
    compatible := ← toKinds (← textsD j "compatible" [])
    isIq := boolD j "iq" false
    isVirtual := boolD j "virtual" false
    blocksComponent := boolD j "blocks" true
    probe }

def toChannels : Outcome Channels := do pure ⟨← fieldsOf j toChannel⟩

/-!
JSON forms of chips and loci.
-/

def names (xs : Names) := texts (Text.sorted xs)

def locus : Locus → Json
  | .ordered ps => texts ps
  | .unordered ps => [("set", names ps)]

def toLocus : Outcome Locus := do
  let .object _ := j | .ordered <$> toTexts j
  return .unordered (.ofList (← needTexts j "set"))

def toNameLists : Outcome (Table String Names) := return ⟨← fieldsOf j toTexts⟩

def nameLists (t : Table String Names) : Json := .table t.entries texts

def toTopology : Outcome Chip.Topology := do
  Chip.Topology.make (← needTexts j "qubits") (← textsD j "resonators" [])
    (← toNameLists (j.group "couplers"))
    (← toNameLists (j.group "probe_lines"))

/-!
JSON forms of time boxes.
-/

def timebox : Timebox → Json
  | ⟨_, isProbe, l, locus, tl, cs, st, algo, blocked⟩ =>
    .object
      [("kind", .text (if isProbe then "MultiplexedProbeTimeBox" else "TimeBox")), ("label", l),
       ("locus", names locus),
       ("atom", opt schedule tl), ("children", cs.map timebox), ("scheduling", st.name),
       ("algorithm", algo.name),
       ("neighborhood", blocked.entries.map fun e => (toString e.1, names e.2))]

/-!
JSON forms of playlists, their channels and commands.
-/

open Playlist (Command Capture Pulse Description Config CommandKind)

def bytes (c : Wire.Bytes) : Json := Wire.hex c

def toBytes := do require .invalid (Wire.ofHex? (← toText j))

def optWave := opt waveform

def pulse (p : Pulse) :=
  object "IQPulse" (Instruction.pulseFields float (optWave p.waveI) (optWave p.waveQ) p.scaleI p.scaleQ
    p.phase p.modulation p.phaseStep)

def optCapture : Option Capture → Json := opt (acquisition pulse)

def timed (span : Int) (o : Json) : Json := .object [("duration_samples", span), ("operation", o)]

def command (c : Command) : Json :=
  match c with
  | .wait d => timed d (object "Wait" [])
  | .virtualRz d phase => timed d (object "VirtualRZ" [("phase_increment", float phase)])
  | .realPulse d w scale => timed d (object "RealPulse" [("wave", optWave w), ("scale", float scale)])
  | .iqPulse d p => timed d (pulse p)
  | .conditional d cond ifTrue ifFalse =>
    timed d (object "ConditionalInstruction"
      [("condition", cond), ("if_true", command ifTrue), ("if_false", command ifFalse)])
  | .multiplexed d _ ps offsets =>
    timed d (object c.kind.name
      [("entries", .array (.zipWith (fun p off => [p, .int off]) (ps.map command) offsets))])
  | .readout d probe cs =>
    timed d (object "ReadoutTrigger" [("probe_pulse", command probe), ("acquisitions", .list cs optCapture)])

def configuration (c : Config) :=
  object c.name (if let some rate := c.rate? then [("sampling_rate", float rate)] else [])

def description (d : Description) : Json :=
  .object [("name", d.name), ("config", configuration d.configuration),
    ("instructions", .list d.commands command), ("waveforms", .list d.waves optWave),
    ("acquisitions", .list d.captures optCapture)]

def references (s : Playlist.Segment) : Json := .table s.entries fun e => .array (e.map fun (n : Nat) => n)

def playlist (p : Playlist) : Json :=
  .object [("channels", .table p.channels.entries description), ("segments", .list p.segments references)]

def pulseOfFields (fs : Fields) : Outcome Pulse := do
  checkFields fs ["wave_i", "wave_q", "scale_i", "scale_q"] ["phase", "modulation_frequency", "phase_increment"]
  pure {
    waveI := some (← toWaveform (fieldOf fs "wave_i"))
    waveQ := some (← toWaveform (fieldOf fs "wave_q"))
    scaleI := ← toFloat (fieldOf fs "scale_i")
    scaleQ := ← toFloat (fieldOf fs "scale_q")
    phase := ← floatOf fs "phase" 0.0
    modulation := ← floatOf fs "modulation_frequency" 0.0
    phaseStep := ← floatOf fs "phase_increment" 0.0 }

variable (j : Json)

def toPulse := typedAs "IQPulse" pulseOfFields

def toCapture : Outcome Capture := do
  let (n, fs) ← typed j
  acquisitionWith toPulse n fs

def commandWithin : Nat → Json → Outcome Command
  | 0, _ => fail .type
  | depth + 1, j => do
    let (n, fs) ← needAs j "operation" typed
    let k ← require .missing (CommandKind.ofName? n)
    let span := needInt j "duration_samples"
    let get := fieldOf fs
    let check (required : Names) := checkFields fs required []
    let inner (n : String) := commandWithin depth (get n)
    match k with
    | .wait => check []; .wait <$> span
    | .virtualRz =>
      check ["phase_increment"]
      return .virtualRz (← span) (← toFloat (get "phase_increment"))
    | .realPulse =>
      check ["wave", "scale"]
      return .realPulse (← span) (some (← toWaveform (get "wave"))) (← toFloat (get "scale"))
    | .iqPulse => return .iqPulse (← span) (← pulseOfFields fs)
    | .conditional =>
      check ["condition", "if_true", "if_false"]
      return .conditional (← span) (← toText (get "condition")) (← inner "if_true") (← inner "if_false")
    | .multiplexedIq | .multiplexedReal =>
      check ["entries"]
      let es ← listOf (get "entries") (pairOf (commandWithin depth) toInt)
      return .multiplexed (← span) (k == .multiplexedReal) (es.map Prod.fst) (es.map Prod.snd)
    | .readout =>
      check ["probe_pulse", "acquisitions"]
      let cs ← listOf (get "acquisitions") toCapture
      return .readout (← span) (← inner "probe_pulse") (cs.map some)

def toCommand := commandWithin nesting j

def toConfig : Outcome Config := do
  let rate := do toFloat (← require .type (j.field? "rate"))
  match ← needText j "type" with
  | "ChannelConfiguration" => pure .plain
  | "IQChannelConfig" => .iq <$> rate
  | "RealChannelConfig" => .real <$> rate
  | "ReadoutChannelConfig" => .readout <$> rate
  | _ => fail .missing

def toCommandKinds (ns : Names) := ns.mapM fun n => require .missing (CommandKind.ofName? n)

end Transmon.Form
