import Transmon.Playlist.Basic
import Transmon.Wire

/-!
Playlists as bytes.
-/

namespace Transmon.Playlist

open Wire

open Wire (Msg Bytes)

structure PulseRecord where
  (waveI waveQ : Nat)
  (scaleI scaleQ phase modulation phaseStep : Float)

inductive Action
  | wait
  | virtualRz (phaseStep : Float)
  | realPulse (wave : Nat) (scale : Float)
  | iqPulse (pulse : PulseRecord)
  | conditional (cond : String) (ifTrue ifFalse : Nat)
  | multiplexed (isReal : Bool) (entries : List (Nat × Int))
  | readout (probe : Nat) (captures : List Nat)

structure Record where
  duration : Nat
  action : Action

structure ChannelRecord where
  name : String
  configuration : Option Config
  commands : List Record
  waves : List (Option Waveform)
  captures : List (Acquisition PulseRecord)

section Writing

def unsigned (n : Int) := if isWord n then pure n.toNat else fail .invalid

def numOf {α : Type} (same : α → α → Bool) (t : List α) (x : α) := require .missing (t.findIdx? (same · x))

variable (waves : List (Option Waveform))

def PulseRecord.ofPulse (p : Pulse) : Outcome PulseRecord :=
  return ⟨← numOf sameWave? waves p.waveI, ← numOf sameWave? waves p.waveQ, p.scaleI, p.scaleQ, p.phase,
    p.modulation, p.phaseStep⟩

def Record.ofCommand (d : Description) (cmd : Command) : Outcome Record := do
  let number (c : Command) := numOf (· == ·) d.commands c
  let span ← unsigned cmd.duration
  let action ← match cmd with
    | .wait _ => pure .wait
    | .virtualRz _ phase => pure (.virtualRz phase)
    | .realPulse _ w scale => do pure (.realPulse (← numOf sameWave? d.waves w) scale)
    | .iqPulse _ p => do pure (.iqPulse (← PulseRecord.ofPulse d.waves p))
    | .conditional _ cond ifTrue ifFalse => do pure (.conditional cond (← number ifTrue) (← number ifFalse))
    | .multiplexed _ isReal ps offsets => do pure (.multiplexed isReal ((← ps.mapM number).zip offsets))
    | .readout _ probe cs => do pure (.readout (← number probe) (← cs.mapM (numOf (· == ·) d.captures)))
  pure ⟨span, action⟩

def PulseRecord.msg (p : PulseRecord) :=
  number 1 p.waveI ++ number 2 p.waveQ ++ double 3 p.scaleI ++ double 4 p.scaleQ ++
    double 5 p.phase ++ double 6 p.modulation ++ double 7 p.phaseStep

def entriesMsg (es : List (Nat × Int)) : Msg := es.flatMap fun e => nested 1 ([(1, .number e.1)] ++ whole 10 e.2)

def Action.msg : Action → Msg
  | .multiplexed true es => nested 8 (entriesMsg es)
  | .multiplexed false es => nested 9 (entriesMsg es)
  | .wait => nested 10 []
  | .realPulse w scale => nested 11 (number 1 w ++ double 2 scale)
  | .iqPulse p => nested 12 p.msg
  | .virtualRz phase => nested 13 (double 1 phase)
  | .conditional cond ifTrue ifFalse => nested 14 (text 1 cond ++ number 2 ifTrue ++ number 3 ifFalse)
  | .readout probe cs => nested 15 (number 1 probe ++ numbers 2 cs)

def Record.msg (r : Record) := number 1 r.duration ++ r.action.msg

def waveMsg (w : Waveform) : Outcome Msg := do
  let shape := match w.shape with
    | .samples vs => nested 2 (doubles 1 vs)
    | .gaussian sigma off => nested 3 (double 1 sigma ++ double 2 off)
    | .gaussianDerivative sigma off => nested 4 (double 1 sigma ++ double 2 off)
    | .constant => nested 5 []
    | .gaussianSmoothedSquare width sigma off => nested 6 (double 1 width ++ double 2 sigma ++ double 3 off)
    | .truncatedGaussian width off => nested 7 (double 1 width ++ double 2 off)
    | .truncatedGaussianDerivative width off => nested 8 (double 1 width ++ double 2 off)
    | .truncatedSmoothedSquare width rise off => nested 9 (double 1 width ++ double 2 off ++ double 3 rise)
    | .cosineRiseFall width rise off => nested 10 (double 1 width ++ double 2 off ++ double 3 rise)
    | _ => []
  return number 1 (← unsigned w.size) ++ shape

def captureMsg (c : Capture) : Outcome Msg := do
  let common (l : String) (delay : Int) := return text 1 l ++ number 2 (← unsigned delay)
  match c with
  | .plain l delay => common l delay
  | .timeTrace l delay span => return (← common l delay) ++ nested 11 (number 1 (← unsigned span))
  | .integration l delay ws => return (← common l delay) ++ nested 12 (nested 1 (← PulseRecord.ofPulse waves ws).msg)
  | .threshold l delay ws limit fb =>
    return (← common l delay) ++ nested 13
      (nested 1 (← PulseRecord.ofPulse waves ws).msg ++ double 2 limit ++ text 3 fb)

def configMsg : Config → Msg
  | .plain => []
  | .iq rate => nested 2 (nested 1 (double 1 rate))
  | .real rate => nested 2 (nested 2 (double 1 rate))
  | .readout rate => nested 2 (nested 3 (double 1 rate))

def channelMsg (n : String) (d : Description) : Outcome Msg := do
  let commands ← d.commands.mapM fun cmd => do return nested 3 (← Record.ofCommand d cmd).msg
  let ws ← d.waves.mapM fun w => do return nested 4 (← waveMsg (← require .noAttr w))
  let cs ← d.captures.mapM fun capture => return nested 5 (← captureMsg d.waves (← require .noAttr capture))
  return text 1 n ++ configMsg d.configuration ++ commands.flatten ++ ws.flatten ++ cs.flatten

def segmentMsg (seg : Segment) := table 1 (seg.entries.map fun e => (e.1, numbers 1 e.2))

def pack (p : Playlist) : Outcome Bytes := do
  let chs ← p.channels.entries.mapM fun e => do pure (e.1, ← channelMsg e.1 e.2)
  return encode (table 1 chs ++ p.segments.flatMap fun s => nested 2 (segmentMsg s))

end Writing

section Reading

def schema : Schema
  | "Playlist" => [.one 1 "channels" (.table "ChannelDescription"), .parts 2 "schedules" "Schedule"]
  | "Schedule" => [.one 1 "channels" (.table "Schedule.Channel")]
  | "Schedule.Channel" => [.many 1 "instruction_refs" .natural]
  | "ChannelConfiguration" =>
    [.part 1 "iq_channel" "ChannelRate", .part 2 "real_channel" "ChannelRate", .part 3 "ro_channel" "ChannelRate"]
  | "ChannelRate" => [.one 1 "sample_rate" .double]
  | "ChannelDescription" =>
    [.one 1 "controller_name" .text, .part 2 "channel_config" "ChannelConfiguration",
      .parts 3 "instruction_table" "Instruction", .parts 4 "waveform_table" "Waveform",
      .parts 5 "acquisition_table" "AcquisitionMethod"]
  | "Instruction" =>
    [.one 1 "duration_samples" .natural, .part 8 "multiplexed_real_pulse" "MultiplexedRealPulse",
      .part 9 "multiplexed_iq_pulse" "MultiplexedPulse", .part 10 "wait" "Wait", .part 11 "real_pulse" "RealPulse",
      .part 12 "iq_pulse" "IQPulse", .part 13 "virtual_rz" "VirtualRZ",
      .part 14 "conditional_instruction" "ConditionalInstruction", .part 15 "readout_trigger" "ReadoutTrigger"]
  | "AcquisitionMethod" =>
    [.one 1 "label" .text, .one 2 "delay_samples" .natural, .part 11 "timetrace" "TimeTrace",
      .part 12 "integration" "Discrimination", .part 13 "threshold_discrimination" "Discrimination"]
  | "TimeTrace" => [.one 1 "duration_samples" .natural]
  | "Discrimination" => [.part 1 "weights" "IQPulse", .one 2 "threshold" .double, .one 3 "feedback_signal_label" .text]
  | "VirtualRZ" => [.one 1 "phase_increment" .double]
  | "RealPulse" => [.one 1 "waveform_ref" .natural, .one 2 "scale" .double]
  | "IQPulse" =>
    [.one 1 "waveform_i_ref" .natural, .one 2 "waveform_q_ref" .natural, .one 3 "scale_i" .double,
      .one 4 "scale_q" .double, .one 5 "phase" .double, .one 6 "phase_mod_freq" .double,
      .one 7 "phase_increment" .double]
  | "MultiplexedPulse" => [.parts 1 "entries" "MultiplexedEntry"]
  | "MultiplexedEntry" =>
    [.one 10 "offset_samples" .whole, .one 1 "instruction_ref" .natural, .part 2 "iq_pulse" "IQPulse"]
  | "MultiplexedRealPulse" => [.parts 1 "entries" "MultiplexedRealEntry"]
  | "MultiplexedRealEntry" =>
    [.one 10 "offset_samples" .whole, .one 1 "instruction_ref" .natural, .part 2 "real_pulse" "RealPulse"]
  | "ReadoutTrigger" => [.one 1 "probe_pulse_ref" .natural, .many 2 "acqusitions" .natural]
  | "ConditionalInstruction" => [.one 1 "condition" .text, .one 2 "if_true" .natural, .one 3 "if_false" .natural]
  | "Waveform" =>
    [.one 1 "n_samples" .natural, .part 2 "samples" "Samples", .part 3 "gaussian" "Gaussian",
      .part 4 "gaussian_derivative" "Gaussian", .part 5 "constant" "Constant",
      .part 6 "gaussian_smoothed_square" "GaussianSmoothedSquare", .part 7 "truncated_gaussian" "Truncated",
      .part 8 "truncated_gaussian_derivative" "Truncated", .part 9 "truncated_gaussian_smoothed_square" "Truncated",
      .part 10 "cosine_rise_fall" "Truncated"]
  | "Samples" => [.many 1 "samples" .double]
  | "Gaussian" => [.one 1 "sigma" .double, .one 2 "center_offset" .double]
  | "GaussianSmoothedSquare" =>
    [.one 1 "square_width" .double, .one 2 "gaussian_sigma" .double, .one 3 "center_offset" .double]
  | "Truncated" => [.one 1 "full_width" .double, .one 2 "center_offset" .double, .one 3 "rise_time" .double]
  | _ => []

variable (m : Msg)

def PulseRecord.ofMsg : PulseRecord :=
  ⟨m.number 1, m.number 2, m.double 3, m.double 4, m.double 5, m.double 6, m.double 7⟩

def chosenMsg : Value → Outcome Msg
  | .block bs => decode bs
  | _ => return []

def entriesOf : Outcome (List (Nat × Int)) :=
  return (← m.msgs 1).map fun e => (if let some (1, .number n) := e.choice [(1, 0), (2, 2)] then n else 0, e.whole 10)

def Action.ofMsg : Outcome Action := do
  let ms := [8, 9, 10, 11, 12, 13, 14, 15].map (·, 2)
  let some (field, v) := m.choice ms | pure .wait
  let c ← chosenMsg v
  match field with
  | 8 => return .multiplexed true (← entriesOf c)
  | 9 => return .multiplexed false (← entriesOf c)
  | 11 => return .realPulse (c.number 1) (c.double 2)
  | 12 => return .iqPulse (.ofMsg c)
  | 13 => return .virtualRz (c.double 1)
  | 14 => return .conditional (← c.text 1) (c.number 2) (c.number 3)
  | 15 => return .readout (c.number 1) (← c.numbers 2)
  | _ => pure .wait

def waveOfMsg : Outcome (Option Waveform) := do
  let ms := [2, 3, 4, 5, 6, 7, 8, 9, 10].map (·, 2)
  let some (field, v) := m.choice ms | pure none
  let content ← chosenMsg v
  let a := content.double 1
  let b := content.double 2
  let c := content.double 3
  if field = 2 then
    let vs ← content.doubles 1
    return some ⟨vs.length, .samples vs⟩
  let shape := match field with
    | 3 => .gaussian a b
    | 4 => .gaussianDerivative a b
    | 6 => .gaussianSmoothedSquare a b c
    | 7 => .truncatedGaussian a b
    | 8 => .truncatedGaussianDerivative a b
    | 9 => .truncatedSmoothedSquare a c b
    | 10 => .cosineRiseFall a c b
    | _ => .constant
  return some ⟨m.number 1, shape⟩

def captureOfMsg : Outcome (Acquisition PulseRecord) := do
  let l ← m.text 1
  let delay := m.number 2
  let some (field, v) := m.choice [(11, 2), (12, 2), (13, 2)] | return .plain l delay
  let c ← chosenMsg v
  match field with
  | 11 => return .timeTrace l delay (c.number 1)
  | 12 => return .integration l delay (.ofMsg (← c.nested 1))
  | _ => return .threshold l delay (.ofMsg (← c.nested 1)) (c.double 2) (← c.text 3)

def configOf : Outcome (Option Config) := do
  let some (field, v) := m.choice [(1, 2), (2, 2), (3, 2)] | pure none
  let rate := (← chosenMsg v).double 1
  match field with
  | 1 => return some (.iq rate)
  | 2 => return some (.real rate)
  | _ => return some (.readout rate)

def ChannelRecord.ofMsg : Outcome ChannelRecord :=
  return {
    name := ← m.text 1
    configuration := ← configOf (← m.nested 2)
    commands := ← (← m.msgs 3).mapM fun c => do pure ⟨c.number 1, ← Action.ofMsg c⟩
    waves := ← (← m.msgs 4).mapM waveOfMsg
    captures := ← (← m.msgs 5).mapM captureOfMsg }

def entryOf {α : Type} (t : List α) (n : Nat) := itemAt t n

def PulseRecord.resolve (ws : List (Option Waveform)) (p : PulseRecord) : Outcome Pulse :=
  return ⟨← entryOf ws p.waveI, ← entryOf ws p.waveQ, p.scaleI, p.scaleQ, p.phase, p.modulation, p.phaseStep⟩

def Record.resolve (d : Description) (r : Record) : Outcome Command := do
  let span : Int := r.duration
  match r.action with
  | .wait => return .wait span
  | .virtualRz phase => return .virtualRz span phase
  | .realPulse w scale => return .realPulse span (← entryOf d.waves w) scale
  | .iqPulse p => return .iqPulse span (← p.resolve d.waves)
  | .conditional cond ifTrue ifFalse =>
    return .conditional span cond (← entryOf d.commands ifTrue) (← entryOf d.commands ifFalse)
  | .multiplexed isReal es => return .multiplexed span isReal (← es.mapM (entryOf d.commands ·.1)) (es.map Prod.snd)
  | .readout probe cs => return .readout span (← entryOf d.commands probe) (← cs.mapM (entryOf d.captures))

def ChannelRecord.resolve (r : ChannelRecord) : Outcome Description := do
  let some configuration := r.configuration | failWith .runtime "Unknown channel type ."
  let captures ← r.captures.mapM fun capture => match capture with
    | .plain .. => pure none
    | _ => some <$> capture.mapM (·.resolve r.waves)
  let start : Description := { configuration, name := r.name, waves := r.waves, captures }
  r.commands.foldlM (fun d record => do return (d.enterCommand (← record.resolve d)).1) start

def unpack (bs : Bytes) : Outcome Playlist := do
  let m ← read schema "Playlist" bs
  let chs ← (← m.table 1).entries.mapM (ChannelRecord.ofMsg ·.2)
  let segments ← (← m.msgs 2).mapM fun s =>
    return (⟨← (← s.table 1).entries.mapM fun e => do pure (e.1, ← e.2.numbers 1)⟩ : Segment)
  pure { (← chs.foldlM (fun (p : Playlist) r => do p.addChannel (← r.resolve)) {}) with segments }

end Reading

end Transmon.Playlist
