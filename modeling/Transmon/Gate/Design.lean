import Transmon.Parameter

/-!
Designs of gates.
-/

namespace Transmon.Gate

structure WavePair where
  (inPhase quadrature : ShapeKind)
  separate : Bool := false

inductive DriveStyle
  | scaled | halves | modulated
deriving DecidableEq

inductive Family
  | barrier | delay | unspecifiedPulse | shapelessPulse
  | drive (waves : WavePair) (style : DriveStyle) (risesHalf : Bool)
  | smoothDrive (isFrame : Bool)
  | virtualFrame
  | starkFrame (wave : ShapeKind)
  | frameFromDrives
  | quarterTurn
  | generalRotation
  | flux (coupler qubit : Option ShapeKind) (isMove : Bool)
  | starkPair (coupler drive : Option ShapeKind)
  | conditionalDrive
  | measure (waves : WavePair) (isShelved : Bool)
  | probeTrace (waves : WavePair)
  | probeOnly (waves : WavePair)
  | reset
  | resetWait
  | crosstalk
  | calibratedPair

structure Design where
  name : String
  family : Family
  params : Named Param.Tree := []
  isSymmetric : Bool := false
  isSpecial : Bool := false
  isComposite : Bool := false
  members : Names := []
  preferred : Named String := []

instance : Inhabited Design := ⟨{ name := "", family := .barrier }⟩

namespace Design

variable (d : Design)

def needsCal := !d.params.isEmpty

def driveLoci := "single_components_with_drive"

def readoutLoci := "single_components_with_readout"

def isRotation :=
  match d.family with
  | .drive .. | .smoothDrive _ => true
  | _ => false

def lociName (o i : String) : String :=
  match d.family with
  | .drive .. | .smoothDrive _ | .virtualFrame => driveLoci
  | .flux _ q _ => if q.isSome then "flux_pulsed_qubits_2qb_mapping" else "connected_qubits"
  | .starkPair _ drive => if drive.isSome then "ac_stark_pulsed_qubits_2qb_mapping" else "connected_qubits"
  | .measure .. | .probeOnly _ | .reset => readoutLoci
  | .probeTrace _ => "probe_lines"
  | _ => s!"{o}.{i}"

end Design

open Param

def waveParams (ws : WavePair) (root : Named Tree) (excluded : Names := []) :=
  let root := without excluded root
  let x := without excluded (ofShape ws.inPhase (if ws.separate then "I wave " else ""))
  if ws.separate then
    overlaid root [("i", .group x), ("q", .group (without excluded (ofShape ws.quadrature "Q wave ")))]
  else overlaid root x

def scaledRoot : Named Tree :=
  [("duration", leaf "pi pulse duration" "s"), ("amplitude_i", leaf "pi pulse I channel amplitude"),
   ("amplitude_q", leaf "pi pulse Q channel amplitude")]

def driveRoot : DriveStyle → Named Tree
  | .scaled => scaledRoot
  | .halves =>
    scaledRoot ++ [("rz_before", leaf "RZ before IQ pulse" "rad"), ("rz_after", leaf "RZ after IQ pulse" "rad")]
  | .modulated =>
    [("duration", leaf "pi pulse duration" "s"),
     ("amplitude_i", leaf "pi pulse amplitude of base band I waveform"),
     ("amplitude_q", leaf "pi pulse amplitude of base band Q waveform"),
     ("frequency", leaf "modulated pulse frequency" "Hz")]

variable (name : String)

def driveDesign (ws : WavePair) (style : DriveStyle) (risesHalf : Bool := false) : Design :=
  { name, family := .drive ws style risesHalf
    params := waveParams ws (driveRoot style) (if risesHalf then ["rise_time"] else []) }

def smoothDesign (isFrame : Bool := false) : Design :=
  { name, family := .smoothDrive isFrame, isSymmetric := true
    params := [("duration", leaf "Gate duration" "s"), ("amplitude_i", leaf "amplitude_i"),
      ("amplitude_q", leaf "amplitude_q"), ("rise_time", leaf "gate rise time" "s")] }

def starkDesign (w : ShapeKind) : Design :=
  { name, family := .starkFrame w
    params := overlaid [("duration", leaf "Gate duration" "s")] (overlaid (ofShape w)
      [("amplitude", leaf "amplitude"), ("phase_increment", leaf "phase increment" "rad")]) }

def pairRoot : Named Tree :=
  [("duration", leaf "Gate duration" "s"), ("rz", .group [("*", leaf "Z rotation angle" "rad")])]

def pulsePart (k l : String) : Option ShapeKind → Named Tree
  | some kind => [(k, .group (overlaid (ofShape kind l) [("amplitude", leaf s!"{l}amplitude")]))]
  | none => []

def fluxDesign (c q : Option ShapeKind := none) (isMove : Bool := false) : Design :=
  let root := if isMove then pairRoot ++ [("detuning", leaf "Qubit - resonator detuning" "Hz")] else pairRoot
  { name, family := .flux c q isMove, isSymmetric := q.isNone
    params := overlaid root (pulsePart "coupler" "Coupler flux pulse " c ++ pulsePart "qubit" "Qubit flux pulse " q) }

def starkPairDesign (c drive : Option ShapeKind) : Design :=
  { name, family := .starkPair c drive, isSymmetric := true
    params := overlaid pairRoot
      (pulsePart "coupler" "" c ++ pulsePart "first_qubit" "" drive ++ pulsePart "second_qubit" "" drive) }

def measureRoot : Named Tree :=
  let ws (ch : String) : Tree :=
    .item { label := s!"Integration weights for channel {ch}", collection := .array
            default := some (.ofFloats []) }
  [("duration", leaf "Readout pulse duration" "s"), ("frequency", leaf "Readout pulse frequency" "Hz"),
   ("phase", leaf "Readout pulse phase" "rad"), ("amplitude_i", leaf "Readout channel I amplitude"),
   ("amplitude_q", leaf "Readout channel Q amplitude" "" (some (.float 0.0))),
   ("integration_length", leaf "Integration length" "s"), ("integration_weights_I", ws "I"),
   ("integration_weights_Q", ws "Q"), ("integration_threshold", leaf "Integration threshold"),
   ("acquisition_type", .item { label := "Acquisition type", data := .string, default := some (.text "threshold") }),
   ("acquisition_delay", leaf "Acquisition delay" "s")]

def probeRoot : Named Tree :=
  [("duration", leaf "Readout pulse duration" "s"), ("phase", leaf "Readout pulse phase" "rad"),
   ("amplitude_i", leaf "Readout channel I amplitude"), ("amplitude_q", leaf "Readout channel Q amplitude")]

def probeTraceRoot :=
  probeRoot ++ [("integration_length", leaf "Integration length" "s"), ("acquisition_delay", leaf "Acquisition delay" "s")]

def probeOnlyRoot : Named Tree := ("frequency", leaf "Readout pulse frequency" "Hz") :: probeRoot

def measureDesign (ws : WavePair) (isShelved : Bool := false) : Design :=
  { name, family := .measure ws isShelved, params := waveParams ws measureRoot }

def traceDesign (ws : WavePair) : Design := { name, family := .probeTrace ws, params := waveParams ws probeTraceRoot }

def probeDesign (ws : WavePair) : Design := { name, family := .probeOnly ws, params := waveParams ws probeOnlyRoot }

def conditionalDesign (preferred : Named String := []) : Design :=
  { name, family := .conditionalDrive, isComposite := true, preferred
    params := [("control_delays", .item { label := "Control delays", unit := "s", collection := .array })] }

def compositeDesign (family : Family) (members : Names) : Design := { name, family, isComposite := true, members }

/-!
The designs that operations can be implemented with.
-/

def gaussianPair : WavePair := ⟨.truncatedGaussian, .truncatedGaussianDerivative, false⟩

def cosinePair : WavePair := ⟨.cosineRiseFall, .cosineRiseFallDerivative, false⟩

def intervalPair : WavePair := ⟨.intervalSuppressed .inPhase, .intervalSuppressed .quadrature, false⟩

def derivativePair : WavePair := ⟨.higherDerivative .inPhase, .higherDerivative .quadrature, false⟩

def constantPair : WavePair := ⟨.constant, .constant, false⟩

def separateDrivePair : WavePair := ⟨.truncatedGaussian, .cosineRiseFall, true⟩

def separateProbePair : WavePair := ⟨.truncatedGaussian, .cosine, true⟩

def singleDesigns : List Design :=
  [{ name := "Barrier", family := .barrier, isSymmetric := true },
   { name := "Delay", family := .delay, isSymmetric := true },
   smoothDesign "Constant_PRX_with_smooth_rise_fall",
   driveDesign "PRX_DRAGGaussian" gaussianPair .scaled,
   driveDesign "PRX_DRAGCosineRiseFall" cosinePair .scaled true,
   driveDesign "PRX_DRAGGaussianSX" gaussianPair .halves,
   driveDesign "PRX_DRAGCosineRiseFallSX" cosinePair .halves true,
   driveDesign "PRX_FastDragSX" intervalPair .halves,
   driveDesign "PRX_FastDrag" intervalPair .scaled,
   driveDesign "PRX_HdDrag" derivativePair .scaled,
   driveDesign "PRX_HdDragSX" derivativePair .halves,
   driveDesign "PRX_ModulatedDRAGCosineRiseFall" cosinePair .modulated true,
   compositeDesign "SXGate" .quarterTurn ["prx"],
   compositeDesign "UGate" .generalRotation ["prx"],
   compositeDesign "RZ_PRX_Composite" .frameFromDrives ["prx"],
   { name := "RZ_Virtual", family := .virtualFrame },
   starkDesign "RZ_ACStarkShift_CosineRiseFall" .modulatedCosine,
   smoothDesign "RZ_ACStarkShift_smoothConstant" true,
   conditionalDesign "CCPRX_Composite",
   conditionalDesign "CCPRX_Composite_DRAGCosineRiseFall" [("prx", "drag_crf")],
   conditionalDesign "CCPRX_Composite_DRAGGaussian" [("prx", "drag_gaussian")]]

def pairDesigns : List Design :=
  [starkPairDesign "CZ_CRF_ACStarkCRF" (some .cosineRiseFall) (some .modulatedCosine),
   starkPairDesign "CZ_Slepian_ACStarkCRF" (some .slepian) (some .modulatedCosine),
   fluxDesign "CZ_GaussianSmoothedSquare" (some .gaussianSmoothedSquare),
   fluxDesign "CZ_Slepian" (some .slepian),
   fluxDesign "CZ_Slepian_CRF" (some .slepian) (some .cosineRiseFall),
   fluxDesign "CZ_CRF" (some .cosineRiseFall),
   fluxDesign "CZ_TruncatedGaussianSmoothedSquare" (some .truncatedSmoothedSquare),
   fluxDesign "FluxPulseGate_TGSS_CRF" (some .truncatedSmoothedSquare) (some .cosineRiseFall),
   fluxDesign "FluxPulseGate_CRF_CRF" (some .cosineRiseFall) (some .cosineRiseFall),
   fluxDesign "MOVE_CRF_CRF" (some .cosineRiseFall) (some .cosineRiseFall) true,
   fluxDesign "MOVE_SLEPIAN_CRF" (some .slepian) (some .cosineRiseFall) true,
   fluxDesign "MOVE_TGSS_CRF" (some .truncatedSmoothedSquare) (some .cosineRiseFall) true]

def readoutDesigns : List Design :=
  [measureDesign "Measure_Constant" constantPair,
   measureDesign "Measure_Constant_Qnd" constantPair,
   measureDesign "Shelved_Measure_Constant" constantPair true,
   compositeDesign "Reset_Conditional" .reset ["measure"]]

def furtherDesigns : List Design :=
  [{ driveDesign "PRX_Special" gaussianPair .scaled with isSpecial := true },
   driveDesign "PRX_Split" separateDrivePair .scaled,
   driveDesign "PRX_SplitSX" separateDrivePair .halves,
   driveDesign "PRX_SplitModulated" separateDrivePair .modulated,
   measureDesign "Measure_Split" separateProbePair,
   traceDesign "ProbePulse_Split" separateProbePair,
   probeDesign "Probe_Split" separateProbePair,
   traceDesign "ProbePulse_Constant" constantPair,
   probeDesign "Probe_Constant" constantPair,
   { name := "IQ_NoWaves", family := .shapelessPulse },
   { name := "Pulse_Plain", family := .unspecifiedPulse, params := waveParams gaussianPair (driveRoot .scaled) },
   fluxDesign "CZ_QubitOnly" none (some .cosineRiseFall),
   starkPairDesign "CZ_CouplerNoStark" (some .cosineRiseFall) none,
   starkPairDesign "CZ_StarkNoCoupler" none (some .modulatedCosine),
   { compositeDesign "Composite_Calibrated" .calibratedPair ["prx"] with
     params := [("scale", leaf "pi pulse I channel amplitude")] }]

def named := singleDesigns ++ pairDesigns ++ readoutDesigns ++ furtherDesigns

def resetWaitDesign : Design :=
  { name := "Reset_Wait", family := .resetWait, params := [("duration", leaf "Wait duration" "s")] }

def crosstalkDesign : Design :=
  { name := "FluxMultiplexer_SampleLinear", family := .crosstalk
    params :=
      [("matrix_index",
        .item { label := "Flux crosstalk correction sparse matrix index", data := .string, collection := .list }),
       ("matrix_elements",
        .item { label := "Flux crosstalk correction sparse matrix elements", collection := .array })] }

def Design.named? (n : String) := named.find? (·.name == n)

def Design.find? (n : String) := (named ++ [resetWaitDesign, crosstalkDesign]).find? (·.name == n)

end Transmon.Gate
