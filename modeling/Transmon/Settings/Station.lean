import Transmon.Settings.Assign

/-!
The settings of gates: which implementation a gate has at a locus, and where its parameters stand.
-/

namespace Transmon.Settings

inductive Locus
  | written (text : String)
  | listed (names : Names)

def Locus.components : Locus → Names
  | .written s => s.splitOn "__"
  | .listed ns => ns

def Locus.shown : Locus → String
  | .written s => s
  | .listed ns => Text.quotedList ns

namespace Tree

variable (t : Tree) (k : String)

def valueAt := do
  match ← t.child k with
  | .setting s => pure s.value
  | .tree t => do
    let _ ← t.child "value"
    fail .noAttr

def holds (s : String) : Value → Outcome Bool
  | .list xs | .tuple xs | .array _ _ xs => return xs.any (·.equal (.text s))
  | .text whole => return (whole.splitOn s).length > 1 || s.isEmpty
  | .dict es => return (es.lookup s).isSome
  | _ => fail .type

def keyed := do (← t.child k).asTree .type

def treeAt := do (← t.atPath k).asTree

def overrides (g : Tree) (impl : Tree) (l : Locus) : Outcome Bool := do
  if !impl.hasChild "override_default_for_loci" then return false
  let loci ← impl.valueAt "override_default_for_loci"
  if let .array _ _ (_ :: _ :: _) := loci then fail .invalid
  if !loci.isTrue then return false
  let cands := if (← g.valueAt "symmetric").isTrue then Names.orders l.components else [l.components]
  cands.anyM fun ns => holds (Param.underscored ns) loci

def overriding (g : Tree) (l : Locus) : Named Child → Outcome (Option String)
  | [] => pure none
  | (n, .tree i) :: xs => do
    if n != "symmetric" && n != "default_implementation" && (← overrides g i l) then return some n
    overriding g l xs
  | (_, .setting _) :: xs => overriding g l xs

variable (g : String) (l : Locus)

def defaultImpl : Outcome Value := do
  let ss ← treeAt (← t.keyed "gate_definitions") g
  let some n ← overriding ss l ss.children | ss.valueAt "default_implementation"
  return .text n

def writtenLoci (g i : String) (l : Locus) : Outcome Names := do
  match l with
  | .written s => pure [s]
  | .listed ns =>
    let ss ← (← (← t.keyed "gate_definitions").atPath g).asTree .type
    if (← (← treeAt ss i).valueAt "symmetric").isTrue then
      pure [Param.underscored (Text.sortComponents ns)]
    else if (← ss.valueAt "symmetric").isTrue then return (Names.orders ns).map Param.underscored
    else pure [Param.underscored ns]

variable (impl : Option String)

def chosenImpl := do
  let n := impl.getD ""
  if n.isEmpty then return (← t.defaultImpl g l).plain else pure n

def locusChild? (i : Tree) (loci : Names) := loci.findSome? i.child?

def locusNode (n : String) (own : Tree) (place : String) := do
  let loci ← t.writtenLoci g n l
  let some x := locusChild? (← own.treeAt n) loci
    | refuse s!"Locus {l.shown} cannot be found in the {place} settings."
  pure x

def gateNode : Outcome Child := do
  let ps ← if t.hasChild "gates" then t.subtree "gates" else pure t
  if !ps.hasChild g then refuse s!"Gate {g} cannot be found in the pulse settings."
  let n ← t.chosenImpl g l impl
  let own ← ps.treeAt g
  if !own.hasChild n then refuse s!"Gate implementation {n} cannot be found in the pulse settings."
  t.locusNode g l n own "pulse"

def gateProperties : Outcome Child := do
  let n ← t.chosenImpl g l impl
  let props ← (← t.subtree "characterization").subtree "gate_properties"
  if !props.hasChild g then refuse s!"Gate {g} cannot be found in the characterization settings."
  let own ← props.treeAt g
  if !own.hasChild n then refuse s!"Implementation {n} of Gate {g} cannot be found in the characterization settings."
  t.locusNode g l n own "gate properties characterization"

def locusPaths (impls : Option Names) : Outcome Names := do
  if !t.hasChild "gates" then return []
  let gs ← t.subtree "gates"
  if !gs.hasChild g then return []
  return ((← gs.treeAt g).children.filter fun e => impls.all (·.contains e.1)).flatMap fun e =>
    if let .tree impl := e.2 then (impl.children.filter (·.2.isTree)).map fun c => s!"{g}.{e.1}.{c.1}" else []

end Tree

end Transmon.Settings

/-!
Which observations of a calibration become which settings of a station.
-/

namespace Transmon.Station

structure Source where
  (label unit name : String)
  isRequired : Bool := true
  dataType : DataType := .float
  collection : Collection := .scalar

variable (label unit name : String)

def needed : Source := { label, unit, name }

def opt : Source := { label, unit, name, isRequired := false }

def Source.observation (s : Source) (part : String) := s!"controllers.{part}.{s.name}"

def Source.setting (s : Source) (part : String) := s!"{part}__{s.name}"

def observed (obs : Dict) (n : String) (isRequired : Bool) :=
  match obs.lookup n with
  | none | some .none =>
    if isRequired then failWith .calibration s!"Missing calibration observation: {n}" else pure none
  | some v => return some v

def fluxVoltage (spot : String) := needed s!"Flux voltage at {spot} spot" "V" "flux.voltage"

def fluxDelay := opt "Trigger delay for flux AWG" "s" "flux.awg.trigger_delay"

def precompensation : List Source :=
  [⟨"Precompensation timeconstants", "", "flux.awg.precompensation.timeconstants", false, .float, .list⟩,
   ⟨"Precompensation amplitudes", "", "flux.awg.precompensation.amplitudes", false, .float, .list⟩]

def driveCenter := opt "Center frequency for drive mixer" "Hz" "drive.awg.center_frequency"

def qubitSources : List Source :=
  [fluxVoltage "parking",
   needed "Qubit drive frequency, should match the g-e transition frequency at parking spot" "Hz" "drive.frequency",
   opt "DC offset at I port of the drive mixer" "V" "drive.awg.mixer_correction.dc_bias_i",
   opt "DC offset at Q port of the drive mixer" "V" "drive.awg.mixer_correction.dc_bias_q",
   opt "Intermediate frequency for drive mixer" "Hz" "drive.awg.intermediate_frequency", driveCenter,
   opt "Trigger delay for drive AWG" "s" "drive.awg.trigger_delay"]

def fluxPulsedSources := precompensation ++ [fluxDelay]

def couplerSources := fluxVoltage "idling" :: fluxPulsedSources

def probeLineSources : List Source :=
  [⟨"On/Off status of TWPA", "", "twpa.status", false, .boolean, .scalar⟩,
   opt "TWPA bias voltage" "V" "twpa.voltage",
   opt "TWPA bias voltage_1" "V" "twpa.voltage_1",
   opt "TWPA bias voltage_2" "V" "twpa.voltage_2",
   opt "Frequency of the LO driving the TWPA" "Hz" "twpa.frequency",
   opt "Power of the LO driving the TWPA" "dBm" "twpa.power",
   needed "Probe line center frequency" "Hz" "readout.center_frequency",
   opt "Trigger delay for readout instrument" "s" "readout.trigger_delay"]

def boundaryQubitSources := [fluxVoltage "parking", driveCenter]

def boundaryCouplerSources := [fluxVoltage "idling"]

def endDelayLabel := "Delay from end of sequence to next trigger"

def endDelayObs := "controllers.options.end_delay"

def endDelaySetting := "options.end_delay"

/-!
The settings of a station for a run.
-/

open Settings (Change)
open Settings.Tree (setPath)

structure Setup where
  qubits : Names := []
  couplers : Names := []
  probeLines : Names := []
  boundaryQubits : Names := []
  boundaryCouplers : Names := []
  fluxPulsed : Names := []

def addSetting (path : String) (p : Param) (v : Value) : Change Unit := do
  setPath path (.setting (← Setting.make (p.renamed path) v))

variable (obs : Dict)

def addObserved (ss : List Source) (part : String) : Change Unit :=
  ss.forM fun s => do
    let some v ← observed obs (s.observation part) s.isRequired | pure ()
    addSetting (s.setting part) (← Param.make "" s.label s.unit (.one s.dataType) s.collection) v

def switchOn (ps : Names) (comp : String) : Change Unit :=
  ps.forM fun p => do
    addSetting s!"{comp}__{p}" (← Param.make s!"\x7b\x7d__{p}" "" "" (.one .boolean)) (.bool true)

def driveParts := ["drive.status", "drive.local_oscillator.status", "drive.awg.status"]

def fluxParts := ["flux.awg.status"]

def readoutParts := ["readout.local_oscillator.status"]

def addGeneral (shots : Value) : Change Unit := do
  if let some v ← observed obs endDelayObs true then addSetting endDelaySetting (← Param.make "" endDelayLabel "s") v
  let cs :=
    [("options.averaging_bins", "Average the repeats into this many bins"),
     ("options.playlist_repeats", "Number of times to repeat execution of corresponding playlist")]
  cs.forM fun (p, l) => do addSetting p (← Param.make p l "") shots

def addSettings (s : Setup) (shots : Value) : Change Unit := do
  s.qubits.forM fun q => do
    addObserved obs qubitSources q
    switchOn driveParts q
    if s.fluxPulsed.contains q then
      addObserved obs fluxPulsedSources q
      switchOn fluxParts q
  s.couplers.forM fun c => do
    addObserved obs couplerSources c
    switchOn fluxParts c
  s.probeLines.forM fun l => do
    addObserved obs probeLineSources l
    switchOn readoutParts l
  s.boundaryQubits.forM fun q => do
    addObserved obs boundaryQubitSources q
    if s.fluxPulsed.contains q then switchOn fluxParts q
  s.boundaryCouplers.forM fun c => do
    addObserved obs boundaryCouplerSources c
    switchOn fluxParts c
  addGeneral obs shots

def settingsFor (s : Setup) (shots : Value) := do (addSettings obs s shots).after { name := "root" }

end Transmon.Station
