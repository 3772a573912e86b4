import Transmon.Calibration
import Transmon.Schedule.Basic
import Transmon.Station

/-!
Rotations made from a calibrated pulse.
-/

namespace Transmon.Gate

open Numeric Phase ProbeProperties Channel

def normalisedRotation (angle phase : Float) :=
  let angle := normalise angle
  if angle < 0 then (-angle / pi, normalise (phase + pi)) else (angle / pi, normalise phase)

variable (pulse : IQPulse)

def scaledPulse (scale phase : Float) :=
  { pulse with scaleI := scale * pulse.scaleI, scaleQ := scale * pulse.scaleQ, phase := pulse.phase + phase }

def isNear (angle ref : Float) : Bool := (angle - ref).abs ≤ 1e-8 + 1e-5 * ref.abs

def quarterTurnPulses (angle phase : Float) : List IQPulse :=
  let (p, phase) := normalisedRotation angle phase
  let angle := p * pi
  let turned : IQPulse := { pulse with phase := pulse.phase + phase }
  let framed (change : Float × Float) : IQPulse :=
    { pulse with phase := normalise (pulse.phase + change.1), phaseStep := normalise (pulse.phaseStep + change.2) }
  if isNear angle 0.0 then [{ pulse with scaleI := 0.0, scaleQ := 0.0, phase, phaseStep := 0.0 }]
  else if isNear angle (pi / 2.0) then [turned]
  else if isNear angle pi then [turned, turned]
  else
    [framed (transformation (-pi / 2.0 - phase) 0.0), framed (transformation (pi - angle) (-pi / 2.0 + phase))]

def framedPulse (before after : Float) :=
  let (phase, inc) := transformation before after
  { pulse with phase := normalise (pulse.phase + phase), phaseStep := normalise (pulse.phaseStep + inc) }

def framedPulses (ps : List Instruction) (before after : Float) : Outcome (List Instruction) := do
  let pulseOf : Instruction → Outcome IQPulse
    | .iqPulse p => pure p
    | _ => fail .noAttr
  match ps with
  | [] => fail .index
  | [only] => pure [.iqPulse (framedPulse (← pulseOf only) before after)]
  | x :: xs =>
    let start := framedPulse (← pulseOf x) before 0.0
    let last ← require .index xs.getLast?
    return .iqPulse start :: xs.dropLast ++ [.iqPulse (framedPulse (← pulseOf last) 0.0 after)]

/-!
What an implementation prepares from its calibration, once, before it is called.
-/

open Calibration

inductive Prepared
  | nothing
  | pulse (channel : String) (pulse : IQPulse)
  | smooth (channel : String) (rise main fall : IQPulse)
  | frame (channel : String) (span : Float)
  | fixed (schedule : Schedule) (affected : Names)
  | readout (pulse : IQPulse) (acq : Acquisition IQPulse) (span : Int)
  | trace (pulse : IQPulse) (integration : Acquisition IQPulse) (delay length : Int) (span : Int)
  | probe (pulse : IQPulse) (span : Int)

structure Site where
  station : Station
  (operation implementation : String)
  locus : Names

namespace Site

variable (s : Site)

def first := itemAt s.locus 0

def drive := do s.station.driveChannel (← s.first)

def probeLine := do s.station.channel (← s.station.probeChannel (← s.first))

end Site

def dropping (ns : Names) (data : CalibrationData) : CalibrationData := data.filter (!ns.contains ·.1)

def envelopes (ws : WavePair) (n : Int) (data : CalibrationData) := do
  if ws.separate then
    pure (← envelope ws.inPhase n (← group data "i"), ← envelope ws.quadrature n (← group data "q"))
  else pure (← envelope ws.inPhase n data, ← envelope ws.quadrature n data)

def drivePulse (ws : WavePair) (style : DriveStyle) (risesHalf : Bool) (n : Int) (data : CalibrationData) :
    Outcome IQPulse := do
  let data ← if risesHalf then do
      pure (Table.put "rise_time" (.float ((← real data "full_width") / 2.0)) data)
    else pure data
  let scaleI ← real data "amplitude_i"
  let scaleQ ← real data "amplitude_q"
  let xs := dropping ["amplitude_i", "amplitude_q"] data
  let duration : Number := n
  match style with
  | .scaled =>
    let (waveI, waveQ) ← envelopes ws n xs
    pure { duration, waveI, waveQ, scaleI, scaleQ }
  | .halves =>
    let before := ((xs.lookup "rz_before").bind Value.float?).getD 0.0
    let after := ((xs.lookup "rz_after").bind Value.float?).getD 0.0
    let (phase, phaseStep) := transformation before after
    let (waveI, waveQ) ← envelopes ws n (dropping ["rz_before", "rz_after"] xs)
    pure { duration, waveI, waveQ, scaleI, scaleQ, phase, phaseStep }
  | .modulated =>
    let freq ← real xs "frequency"
    let (waveI, waveQ) ← envelopes ws n (dropping ["frequency"] xs)
    let modulation ← Number.divide (.float freq) (n)
    pure { duration, waveI, waveQ, scaleI, scaleQ, modulation }

variable (s : Site) (d : Design) (data : CalibrationData)

def drivePart := do
  let n ← s.drive
  let ch ← s.station.channel n
  let span ← durationIn data d.name
  let size ← sampleCount ch span
  pure (n, size, ← convert span data d.params)

def wholeNearest (x : Float) := wholeNear (Decimal.roundTo x 0) false

def prepareSmooth : Outcome Prepared := do
  let (ch, n, data) ← drivePart s d data
  let rise ← real data "rise_time"
  let total := Decimal.ofInt n
  let scaleI ← real data "amplitude_i"
  let scaleQ ← real data "amplitude_q"
  let part (k : ShapeKind) (n : Int) : Outcome IQPulse := do
    let w ← envelope k n []
    pure { duration := n, waveI := w, waveQ := w, scaleI, scaleQ }
  let main ← part .constant (max (← wholeNearest (total * (1.0 - 2.0 * rise))) 0)
  let endSize ← wholeNearest (total * rise)
  return .smooth ch (← part .cosineRise endSize) main (← part .cosineFall endSize)

def starkPulse (w : ShapeKind) (n : Int) (data : CalibrationData) (inc : Float) : Outcome IQPulse := do
  let phase ← require .type ((data.lookup "phase").bind Value.float?)
  let amp ← require .type ((data.lookup "amplitude").bind Value.float?)
  let xs := dropping ["amplitude", "phase_increment", "phase"] data
  let waveI ← envelope w n (("phase", .float phase) :: xs)
  let waveQ ← envelope w n (("phase", .float (phase - pi / 2.0)) :: xs)
  pure { duration := n, waveI, waveQ, scaleI := amp, scaleQ := amp, phaseStep := (transformation 0.0 inc).2 }

variable (dur : Float)

def pairPart (ch k : String) := do
  let props ← s.station.channel ch
  let converted ← convert dur (← group data k) (((d.params.lookup k).map Param.Tree.entries).getD [])
  pure (← sampleCount props dur, converted)

structure FluxPart where
  channel : String
  size : Int
  wave : Waveform
  scale : Float

def fluxPart (kind : ShapeKind) (part k : String) : Outcome FluxPart := do
  let ch ← s.station.fluxChannel part
  let (size, converted) ← pairPart s d data dur ch k
  let scale ← real converted "amplitude"
  pure ⟨ch, size, ← envelope kind size (dropping ["amplitude"] converted), scale⟩

def outerFrames (angles : CalibrationData) : Outcome (Named Float) :=
  (angles.filter (!s.locus.contains ·.1)).mapM fun e =>
    return (← s.station.driveChannel e.1, ← require .type e.2.float?)

def longestSize (sizes : List Int) := do
  let x :: rest := sizes | fail .invalid
  return rest.foldl max x

def FluxPart.instruction (p : FluxPart) (fs : Named Float) : Instruction := .fluxPulse (p.size) p.wave p.scale fs

def affectedBy := return (Names.ofList s.locus).add (← s.station.chip.couplerOf s.locus)

def unlessInstant (n : Int) (cs : Table String (List Instruction)) : Named (List Instruction) :=
  if 0 < n then cs.entries else cs.entries.map (·.1, [.block 0])

def couplerPart (c : Option ShapeKind) :=
  c.mapM fun k => do fluxPart s d data dur k (← s.station.chip.couplerOf s.locus) "coupler"

def prepareFlux (c q : Option ShapeKind) (data : CalibrationData) : Outcome Prepared := do
  let span ← real data "duration"
  let onCoupler ← couplerPart s d data span c
  let onQubit ← q.mapM fun k => do fluxPart s d data span k (← s.first) "qubit"
  let ps := onCoupler.toList ++ onQubit.toList
  let angles ← group data "rz"
  for part in s.locus do
    if (angles.lookup part).isNone then
      refuse (s!"{s.operation}.{s.implementation}: {Text.quotedTuple s.locus}: Calibration is missing an RZ "
        ++ s!"angle for locus component {part}.")
  let inner ← (angles.filter (s.locus.contains ·.1)).mapM fun e =>
    return (← s.station.driveChannel e.1, ← require .type e.2.float?)
  let outer ← outerFrames s angles
  let longest ← longestSize (ps.map FluxPart.size)
  let fs : Named (List Instruction) := inner.map fun e => (e.1, [.virtualRz (longest) (-e.2)])
  let pulses : Named (List Instruction) := ps.zipIdx.map fun e =>
    (e.1.channel, [e.1.instruction (if e.2 = 0 then outer else [])])
  return .fixed (.ofChannels (unlessInstant longest (.ofList (fs ++ pulses))) (some (longest))) (← affectedBy s)

def prepareStarkPair (c drive : Option ShapeKind) (data : CalibrationData) : Outcome Prepared := do
  let span ← real data "duration"
  let angles ← group data "rz"
  let onCoupler ← couplerPart s d data span c
  let driven (kind : ShapeKind) (i : Nat) (k : String) : Outcome (String × IQPulse) := do
    let p ← itemAt s.locus i
    let ch ← s.station.driveChannel p
    let (size, converted) ← pairPart s d data span ch k
    pure (ch, ← starkPulse kind size converted (← real angles p))
  let onQubits : Named IQPulse ← match drive with
    | some kind => do pure [← driven kind 0 "first_qubit", ← driven kind 1 "second_qubit"]
    | none => pure []
  let longest ← longestSize (onCoupler.toList.map FluxPart.size ++ onQubits.map (·.2.waveI.size))
  let outer ← outerFrames s angles
  let ps : Named (List Instruction) := onQubits.map fun e => (e.1, [.iqPulse e.2])
  let flux : Named (List Instruction) := onCoupler.toList.map fun p => (p.channel, [p.instruction outer])
  return .fixed (.ofChannels (unlessInstant longest (.ofList (ps ++ flux))) none) (← affectedBy s)

def shapeParams (root : Named Param.Tree) : Named Param.Tree :=
  d.params.filter fun e => (root.lookup e.1).isNone || e.1 == "duration"

def probePulse (ws : WavePair) (root : Named Param.Tree) (l : Channel)
    (data : CalibrationData) (freq : Float) : Outcome IQPulse := do
  let span ← durationIn data d.name
  let size ← sampleCount l span
  let converted ← convert span data (shapeParams d root)
  if ws.separate then fail .type
  let (waveI, waveQ) ← envelopes ws size converted
  pure { duration := size, waveI, waveQ, scaleI := ← real data "amplitude_i",
           scaleQ := ← real data "amplitude_q", phase := ← real data "phase", modulation := freq }

variable (l : Channel) (data : CalibrationData)

def intermediateFreq := do quotient ((← real data "frequency") - (l.probe.map centerFreq).getD 0.0) l.sampleRate

def gridSamples (span : Float) := do l.wholeSamples (← l.roundToGranularity span false false)

def acquisitionSamples := do
  let n ← gridSamples l ((← real data "acquisition_delay") + (← real data "integration_length"))
  return n + (l.probe.map integrationStopDeadTime).getD 0

def delaySamples := do wholeNear (l.toSamples (← real data "acquisition_delay")) false

def constantWeights (n : Int) (freq : Float) : IQPulse :=
  { duration := n, waveI := ⟨n, .constant⟩, waveQ := ⟨n, .constant⟩, modulation := freq }

def weightCount : Option Value → Outcome Nat
  | none | some .none => pure 0
  | some (.array _ _ xs) => pure xs.length
  | some _ => fail .noAttr

def integrationWeights (n : Int) (data : CalibrationData) (freq : Float) : Outcome IQPulse := do
  let x := data.lookup "integration_weights_I"
  let y := data.lookup "integration_weights_Q"
  let firstCount ← weightCount x
  if firstCount = 0 then return constantWeights n freq
  let secondCount ← weightCount y
  if secondCount = 0 then return constantWeights n freq
  if n ≠ firstCount || n ≠ secondCount then
    refuse ("Integration length does not match with the provided integration weight lengths. For "
      ++ s!"{Text.quotedTuple s.locus}: the integration length is {n} samples,  the I weights vector length is "
      ++ s!"{firstCount}, and the Q weights vector length is {secondCount}.")
  let samples (v : Option Value) : Outcome Waveform := do
    Waveform.make 0 (.samples (← require .type (v.bind Value.floats?)))
  pure { duration := n, waveI := ← samples x, waveQ := ← samples y, scaleI := 1.0, scaleQ := 1.0, modulation := freq }

variable (d : Design) (ws : WavePair) (data : CalibrationData)

def prepareMeasure : Outcome Prepared := do
  let l ← s.probeLine
  let freq ← intermediateFreq l data
  let span ← acquisitionSamples l data
  let p ← probePulse d ws measureRoot l data freq
  let weights ← integrationWeights s (← l.wholeSamples (← real data "integration_length")) data freq
  let delay ← delaySamples l data
  let acq ← match (data.lookup "acquisition_type").getD (.text "threshold") with
    | .text "complex" => pure (.integration "TO_BE_REPLACED" delay weights)
    | .text "threshold" => pure (.threshold "TO_BE_REPLACED" delay weights (← real data "integration_threshold") "")
    | x => refuse s!"Unknown acquisition type {x.plain}"
  return .readout p acq span

def prepareTrace : Outcome Prepared := do
  let l ← s.station.channel (← (← (do let x ← s.first; s.station.lines.named x)).named "readout")
  let span ← acquisitionSamples l data
  let p ← probePulse d ws probeTraceRoot l data 0.0
  let len ← l.wholeSamples (← real data "integration_length")
  let delay ← delaySamples l data
  return .trace p (.integration "dummy__integration" delay (constantWeights len 0.0)) delay len span

def prepareProbe : Outcome Prepared := do
  let l ← s.probeLine
  let freq ← intermediateFreq l data
  let n ← gridSamples l (← real data "duration")
  return .probe (← probePulse d ws probeOnlyRoot l data freq) (n + l.granularity)

def prepare : Outcome Prepared := do
  match d.family with
  | .unspecifiedPulse =>
    let _ ← drivePart s d data
    failWith .unsupported ""
  | .shapelessPulse =>
    refuse ("You must provide valid Waveforms for both of the arguments `wave_i` and `wave_q` when "
      ++ "inheritingfrom CustomIQWaveforms.")
  | .drive ws style risesHalf =>
    let (ch, size, converted) ← drivePart s d data
    return .pulse ch (← drivePulse ws style risesHalf size converted)
  | .smoothDrive _ => prepareSmooth s d data
  | .virtualFrame =>
    let [p] := s.locus | fail .type
    let n ← s.station.driveChannel p
    let ch ← s.station.channel n
    return .frame n (← ch.toSeconds (ch.minimum))
  | .starkFrame w =>
    let (ch, size, converted) ← drivePart s d data
    let inc ← require .type ((converted.lookup "phase_increment").bind Value.float?)
    return .pulse ch (← starkPulse w size converted inc)
  | .flux c q _ => prepareFlux s d c q data
  | .starkPair c drive => prepareStarkPair s d c drive data
  | .measure ws _ => if s.locus.length = 1 then prepareMeasure s d ws data else pure .nothing
  | .probeTrace ws => prepareTrace s d ws data
  | .probeOnly ws => if s.locus.length = 1 then prepareProbe s d ws data else pure .nothing
  | _ => pure .nothing

end Transmon.Gate
