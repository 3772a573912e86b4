import Transmon.Number
import Transmon.Table
import Transmon.Waveform.Shape

/-!
Instructions for control channels.

An instruction takes a number of samples on its channel. Waiting, blocking and nothing leave the channel
idle in three different senses; the others drive the channel, turn its frame, branch on a bit, or start a
readout.
-/

namespace Transmon

open Text Decimal

/-- Two envelopes played on the two quadratures of a channel. -/
structure IQPulse where
  duration : Number
  (waveI waveQ : Waveform)
  scaleI : Float := 1.0
  scaleQ : Float := 0.0
  phase : Float := 0.0
  modulation : Float := 0.0
  phaseStep : Float := 0.0
deriving BEq

/-- Pulses added up on one channel, each with its offset in samples. -/
structure MultiplexedPulse where
  duration : Number
  entries : List (IQPulse × Int)
deriving BEq

/-- How a readout signal is processed, with weights of some kind. -/
inductive Acquisition (ω : Type)
  /-- A delayed acquisition without a method. -/
  | plain (label : String) (delay : Int)
  /-- The signal as a function of time. -/
  | timeTrace (label : String) (delay span : Int)
  /-- The integral of the signal against weights. -/
  | integration (label : String) (delay : Int) (weights : ω)
  /-- The integral compared with a threshold. -/
  | threshold (label : String) (delay : Int) (weights : ω) (threshold : Float) (feedback : String)
deriving BEq

namespace Acquisition

variable {ω β : Type}

def delay : Acquisition ω → Int
  | .plain _ delay | .timeTrace _ delay _ | .integration _ delay _ | .threshold _ delay .. => delay

/-- The name of a method and its fields, each shown by its kind. -/
def fields (whole : Int → β) (s : String → β) (real : Float → β) (p : ω → β) : Acquisition ω → String × Named β
  | .plain l delay => ("AcquisitionMethod", [("label", s l), ("delay_samples", whole delay)])
  | .timeTrace l delay span =>
    ("TimeTrace", [("label", s l), ("delay_samples", whole delay), ("duration_samples", whole span)])
  | .integration l delay ws =>
    ("ComplexIntegration", [("label", s l), ("delay_samples", whole delay), ("weights", p ws)])
  | .threshold l delay ws level fb =>
    ("ThresholdStateDiscrimination", [("label", s l), ("delay_samples", whole delay),
      ("weights", p ws), ("threshold", real level), ("feedback_signal_label", s fb)])

def mapM (change : ω → Outcome β) : Acquisition ω → Outcome (Acquisition β)
  | .plain l delay => return .plain l delay
  | .timeTrace l delay span => return .timeTrace l delay span
  | .integration l delay ws => do return .integration l delay (← change ws)
  | .threshold l delay ws level fb => do return .threshold l delay (← change ws) level fb

end Acquisition

/-- A probe pulse and the acquisitions that follow it. -/
structure ReadoutTrigger where
  duration : Number
  probePulse : MultiplexedPulse
  acquisitions : List (Acquisition IQPulse)
deriving BEq

/-- Plays both probes at once and runs the acquisitions of both; the longer one sets the duration. -/
def ReadoutTrigger.merge (a b : ReadoutTrigger) : ReadoutTrigger :=
  { duration := a.duration.greater b.duration
    probePulse :=
      { duration := a.probePulse.duration.greater b.probePulse.duration
        entries := a.probePulse.entries ++ b.probePulse.entries }
    acquisitions := a.acquisitions ++ b.acquisitions }

/-- What happens on a channel for a number of samples. -/
inductive Instruction
  /-- An instruction of no particular kind. -/
  | plain (span : Number)
  /-- The channel idles, and nothing may be moved into its place. -/
  | wait (span : Number)
  /-- The channel is kept free, but content may be moved into its place. -/
  | block (span : Number)
  /-- The channel is free. -/
  | nothing (span : Number)
  | virtualRz (span : Number) (phaseStep : Float)
  | iqPulse (pulse : IQPulse)
  | realPulse (span : Number) (wave : Waveform) (scale : Float)
  /-- A flux pulse and the frame changes that it brings to other channels. -/
  | fluxPulse (span : Number) (wave : Waveform) (scale : Float) (frames : List (String × Float))
  /-- One of several instructions, chosen by a bit. -/
  | conditional (span : Number) (cond : String) (outcomes : List Instruction)
  | multiplexed (pulse : MultiplexedPulse)
  | readout (trigger : ReadoutTrigger)
  /-- The place where a state enters or leaves a resonator. -/
  | moveMarker (span : Number) (qubit resonator : String) (detuning : Float)

inductive InstrKind
  | plain | wait | block | nothing | virtualRz | iqPulse | realPulse | fluxPulse | conditional
  | multiplexed | readout | moveMarker
deriving DecidableEq

namespace InstrKind

def all : List InstrKind :=
  [.plain, .wait, .block, .nothing, .virtualRz, .iqPulse, .realPulse, .fluxPulse, .conditional,
   .multiplexed, .readout, .moveMarker]

def name : InstrKind → String
  | .plain => "Instruction"
  | .wait => "Wait"
  | .block => "Block"
  | .nothing => "Nothing"
  | .virtualRz => "VirtualRZ"
  | .iqPulse => "IQPulse"
  | .realPulse => "RealPulse"
  | .fluxPulse => "FluxPulse"
  | .conditional => "ConditionalInstruction"
  | .multiplexed => "MultiplexedIQPulse"
  | .readout => "ReadoutTrigger"
  | .moveMarker => "MoveMarker"

def ofName? (n : String) := all.find? (·.name == n)

def isA (k x : InstrKind) :=
  k == x || x == .plain || (k == .fluxPulse && x == .realPulse) || (k == .moveMarker && x == .wait)

end InstrKind

namespace Instruction

open Decimal

instance : Inhabited Instruction := ⟨.nothing 0⟩

def kind : Instruction → InstrKind
  | .plain _ => .plain
  | .wait _ => .wait
  | .block _ => .block
  | .nothing _ => .nothing
  | .virtualRz .. => .virtualRz
  | .iqPulse _ => .iqPulse
  | .realPulse .. => .realPulse
  | .fluxPulse .. => .fluxPulse
  | .conditional .. => .conditional
  | .multiplexed _ => .multiplexed
  | .readout _ => .readout
  | .moveMarker .. => .moveMarker

def duration : Instruction → Number
  | .plain d | .wait d | .block d | .nothing d | .virtualRz d _ | .realPulse d .. | .fluxPulse d ..
  | .conditional d .. | .moveMarker d .. => d
  | .iqPulse p | .multiplexed p => p.duration
  | .readout t => t.duration

def children : Instruction → List Instruction
  | .conditional _ _ os => os
  | _ => []

def waveforms : Instruction → List Waveform
  | .iqPulse p => [p.waveI, p.waveQ]
  | .realPulse _ w _ | .fluxPulse _ w .. => [w]
  | _ => []

mutual

def equal : Instruction → Instruction → Bool
  | .plain a, .plain b | .wait a, .wait b | .block a, .block b | .nothing a, .nothing b => a == b
  | .virtualRz a p, .virtualRz b q => a == b && p == q
  | .iqPulse a, .iqPulse b => a == b
  | .realPulse a w s, .realPulse b v t => a == b && w == v && s == t
  | .fluxPulse a w s f, .fluxPulse b v t g => a == b && w == v && s == t && f == g
  | .conditional a c xs, .conditional b d ys => a == b && c == d && equalAll xs ys
  | .multiplexed a, .multiplexed b | .readout a, .readout b => a == b
  | .moveMarker a q r x, .moveMarker b s t y => a == b && q == s && r == t && x == y
  | _, _ => false

def equalAll : List Instruction → List Instruction → Bool
  | [], [] => true
  | a :: xs, b :: ys => equal a b && equalAll xs ys
  | _, _ => false

end

instance : BEq Instruction := ⟨equal⟩

/-- The fields of a pulse, each shown by its kind. -/
def pulseFields {β : Type} (real : Float → β) (waveI waveQ : β) (scaleI scaleQ phase freq inc : Float) : Named β :=
  [("wave_i", waveI), ("wave_q", waveQ), ("scale_i", real scaleI), ("scale_q", real scaleQ), ("phase", real phase),
   ("modulation_frequency", real freq), ("phase_increment", real inc)]

def shownPulse (p : IQPulse) :=
  called "IQPulse" (("duration", p.duration.text) :: pulseFields render p.waveI.shown p.waveQ.shown p.scaleI p.scaleQ
    p.phase p.modulation p.phaseStep)

def shownMultiplexed (p : MultiplexedPulse) :=
  called "MultiplexedIQPulse" [("duration", p.duration.text),
    ("entries", tupled (p.entries.map fun e => tupled [shownPulse e.1, toString e.2]))]

def shownAcquisition {ω : Type} (p : ω → String) (acq : Acquisition ω) :=
  let (n, fs) := acq.fields toString quoted render p
  called n fs

def shown (i : Instruction) : String :=
  let lasting (d : Number) (fs : Named String) := called i.kind.name (("duration", d.text) :: fs)
  match i with
  | .plain d | .wait d | .block d | .nothing d => lasting d []
  | .virtualRz d phase => lasting d [("phase_increment", render phase)]
  | .iqPulse p => shownPulse p
  | .realPulse d w scale => lasting d [("wave", w.shown), ("scale", render scale)]
  | .fluxPulse d w scale frames =>
    lasting d [("wave", w.shown), ("scale", render scale),
      ("rzs", tupled (frames.map fun f => tupled [quoted f.1, render f.2]))]
  | .conditional d cond os => lasting d [("condition", quoted cond), ("outcomes", tupled (os.map shown))]
  | .multiplexed p => shownMultiplexed p
  | .readout t =>
    lasting t.duration [("probe_pulse", shownMultiplexed t.probePulse),
      ("acquisitions", tupled (t.acquisitions.map (shownAcquisition shownPulse)))]
  | .moveMarker d q res detuning =>
    lasting d [("qubit", quoted q), ("resonator", quoted res), ("detuning", render detuning)]

def distinctSorted (ns : List Number) :=
  (ns.foldl (fun seen n => if seen.any (· == n) then seen else seen ++ [n]) []).mergeSort fun a b => a ≤ b

def validate (i : Instruction) : Check := do
  if i.duration < 0 then refuse s!"Instruction.duration {i.duration.text} is negative."
  match i with
  | .realPulse _ _ scale | .fluxPulse _ _ scale _ =>
    if scale.abs > 1.0 then refuse s!"RealPulse.scale {render scale} not in [-1, 1]."
  | .iqPulse p =>
    if p.scaleI.abs > 1.0 then refuse s!"IQPulse.scale_i {render p.scaleI} not in [-1, 1]."
    if p.scaleQ.abs > 1.0 then refuse s!"IQPulse.scale_q {render p.scaleQ} not in [-1, 1]."
  | .conditional span _ os =>
    if os.isEmpty then refuse "There must be at least one outcome."
    let ds := distinctSorted (os.map Instruction.duration ++ [span])
    if ds.length ≠ 1 then
      let listing := commaSeparated (ds.map Number.text)
      refuse s!"All the conditional instructions must have the same duration (now: \x7b{listing}\x7d samples)."
  | _ => return

end Instruction

/-!
Fingerprints of envelopes and instructions.
-/

inductive Fingerprint
  | number (value : Number)
  | text (value : String)
  | bits (values : List UInt64)
  | fields (parts : List Fingerprint)

namespace Fingerprint

mutual

def equal : Fingerprint → Fingerprint → Bool
  | .number a, .number b | .text a, .text b | .bits a, .bits b => a == b
  | .fields a, .fields b => equalAll a b
  | _, _ => false

def equalAll : List Fingerprint → List Fingerprint → Bool
  | [], [] => true
  | a :: xs, b :: ys => equal a b && equalAll xs ys
  | _, _ => false

end

instance : BEq Fingerprint := ⟨equal⟩

/-- A prime, one less than the power of two with the exponent 61. -/
def modulus : Nat := 2305843009213693951

/-- Numbers are reduced by a prime, for which halving is a multiplication as well. -/
def reduced : Number → Number
  | .int n => .int (n.tmod modulus)
  | .float x =>
    let p := Decimal.parts x
    if x.isFinite then .int (p.signed (p.significand * .pow 2 (p.exponent % 61).toNat % modulus)) else .float x

def ofNumber (n : Number) : Fingerprint :=
  .number (if reduced n == .int (-1) then .int (-2) else reduced n)

def ofFloat (x : Float) := ofNumber (.float x)

def ofShapeValue : ShapeValue → Option Fingerprint
  | .whole n => some (ofNumber (n))
  | .real x => some (ofFloat x)
  | .flag b => some (ofNumber (.int (if b then 1 else 0)))
  | .reals _ => none

def ofWaveform (w : Waveform) : Outcome Fingerprint :=
  match w.shape with
  | .samples vs => return .bits (vs.map Float.toBits)
  | shape => return .fields (ofNumber (w.size) :: (← require .type (shape.values.mapM ofShapeValue)))

def ofPulse (p : IQPulse) : Outcome Fingerprint :=
  return .fields
    [ofNumber p.duration, ← ofWaveform p.waveI, ← ofWaveform p.waveQ, ofFloat p.scaleI, ofFloat p.scaleQ,
     ofFloat p.phase, ofFloat p.modulation, ofFloat p.phaseStep]

def ofMultiplexed (p : MultiplexedPulse) : Outcome Fingerprint := do
  let es ← p.entries.mapM fun e => do return .fields [← ofPulse e.1, ofNumber (e.2)]
  return .fields [ofNumber p.duration, .fields es]

def ofAcquisition (acq : Acquisition IQPulse) : Outcome Fingerprint := do
  let (_, s) := acq.fields (pure <| ofNumber <| .int ·) (pure <| .text ·) (pure <| ofFloat ·) ofPulse
  .fields <$> s.mapM Prod.snd

mutual

def ofInstruction : Instruction → Outcome Fingerprint
  | .plain d | .wait d | .block d | .nothing d => return .fields [ofNumber d]
  | .virtualRz d phase => return .fields [ofNumber d, ofFloat phase]
  | .iqPulse p => ofPulse p
  | .realPulse d w scale => do return .fields [ofNumber d, ← ofWaveform w, ofFloat scale]
  | .fluxPulse d w scale fs => do
    let fs := fs.map fun f => .fields [.text f.1, ofFloat f.2]
    return .fields [ofNumber d, ← ofWaveform w, ofFloat scale, .fields fs]
  | .conditional d cond os => return .fields [ofNumber d, .text cond, .fields (← ofInstructions os)]
  | .multiplexed p => ofMultiplexed p
  | .readout t => do
    let acqs ← t.acquisitions.mapM ofAcquisition
    return .fields [ofNumber t.duration, ← ofMultiplexed t.probePulse, .fields acqs]
  | .moveMarker d q res detuning => return .fields [ofNumber d, .text q, .text res, ofFloat detuning]

def ofInstructions : List Instruction → Outcome (List Fingerprint)
  | [] => pure []
  | i :: xs => do return (← ofInstruction i) :: (← ofInstructions xs)

end

end Fingerprint

end Transmon
