import Transmon.Instruction
import Transmon.Playlist.Basic
import Transmon.Wire

/-!
Control channels and their timing rules.
-/

namespace Transmon

structure ProbeProperties where
  centerFreq : Float := 0.0
  integrationStartDeadTime : Int := 0
  integrationStopDeadTime : Int := 0

structure Channel where
  sampleRate : Float
  (granularity minimum : Int)
  compatible : List InstrKind := []
  isIq : Bool := false
  isVirtual : Bool := false
  blocksComponent : Bool := true
  probe : Option ProbeProperties := none

abbrev Channels := Table String Channel

namespace Channel

open Decimal

instance : Inhabited Channel := ⟨⟨1.0, 1, 0, [], false, false, true, none⟩⟩

variable (ch : Channel) (span : Float)

def toSamples := span * ch.sampleRate

def toSeconds (span : Number) := span.divide (.float ch.sampleRate)

/-- A duration as a whole number of samples on the grid of the channel, or why it is none. The number of
samples is first rounded to two decimals, so that rounding errors of the product do no harm. -/
def toWholeSamples (span : Number) (subject : String) (checkMin : Bool) : Outcome Int := do
  let subject := s!"{subject} ({span.text} s at {render ch.sampleRate} Hz sample rate)"
  let x := roundTo (span.toFloat * ch.sampleRate) 2
  if !isWhole x then refuse s!"{subject} is {Decimal.render x} samples, which is not an integer."
  let count := truncate x
  let subject := s!"{subject} is {count} samples, which is "
  if ch.granularity = 0 then hint .divisionByZero "integer modulo by zero"
  if count.fmod ch.granularity ≠ 0 then refuse s!"{subject}not an integer multiple of {ch.granularity} samples."
  if checkMin && count < ch.minimum then refuse s!"{subject}less than {ch.minimum} samples."
  pure count

def wholeSamples (checkMin : Bool := true) := ch.toWholeSamples (.float span) "Given duration" checkMin

def wholeNear (x : Float) (roundUp : Bool) : Outcome Int := do
  if x.isNaN then hint .invalid "cannot convert float NaN to integer"
  if x.isInf then hint .overflow "cannot convert float infinity to integer"
  return if roundUp then ceiling x else nearest x

def quotient (a b : Float) := if b == 0 then hint .divisionByZero "float division by zero" else return a / b

/-- A duration in steps of the channel, rounded in some way. -/
def onGrid (round : Float → Outcome Float) (span : Float) (forceMin : Bool) : Outcome Float := do
  let step ← quotient (ofInt ch.granularity) ch.sampleRate
  let rounded := (← round (← quotient span step)) * step
  if forceMin then
    let least ← ch.toSeconds (ch.minimum)
    return if least < rounded then rounded else least
  else pure rounded

def roundToGranularity (roundUp forceMin : Bool) := ch.onGrid (ofInt <$> wholeNear · roundUp) span forceMin

def roundUpToGranularity := ch.onGrid (pure ·.ceil)

end Channel

def roundToCommonGranularity (chs : List Channel) (span : Float) (roundUp forceMin : Bool) : Outcome Int := do
  let step := chs.foldl (fun step c => .lcm step c.granularity) 1
  let least := match chs with
    | [] => 0
    | first :: xs => xs.foldl (fun least c => max least c.minimum) first.minimum
  let onGrid (x : Float) (roundUp : Bool) : Outcome Int :=
    return (← Channel.wholeNear (← Channel.quotient x (Decimal.ofInt step)) roundUp) * step
  let rounded ← onGrid ((← require .exhausted chs.head?).toSamples span) roundUp
  if forceMin then return max (← onGrid (Decimal.ofInt least) true) rounded else pure rounded

/-!
Tables of the distinct instructions and envelopes of a channel.
-/

structure ChannelTable where
  instructions : List Instruction := []
  waveforms : List Waveform := []

namespace ChannelTable

variable (table : ChannelTable)

def addWaveform (wave : Waveform) := do
  let mark ← Fingerprint.ofWaveform wave
  let isKnown := table.waveforms.any fun w => w == wave && (Fingerprint.ofWaveform w).toOption.any (· == mark)
  return if isKnown then table else { table with waveforms := table.waveforms ++ [wave] }

def addAlone (ins : Instruction) := do
  let mark ← Fingerprint.ofInstruction ins
  let isIt (i : Instruction) := i == ins && (Fingerprint.ofInstruction i).toOption.any (· == mark)
  let some j := table.instructions.findIdx? isIt
    | pure (table.instructions.length, { table with instructions := table.instructions ++ [ins] })
  pure (j, table)

mutual

def add (t : ChannelTable) : Instruction → Outcome (Nat × ChannelTable)
  | .conditional d cond os => do (← addEach t os).addAlone (.conditional d cond os)
  | x => do (← x.waveforms.foldlM addWaveform t).addAlone x

def addEach (t : ChannelTable) : List Instruction → Outcome ChannelTable
  | [] => pure t
  | i :: xs => do
    let (_, t) ← add t i
    addEach t xs

end

end ChannelTable

/-!
Controllers of a station as messages.
-/

open Wire (Msg)
open Playlist (CommandKind)

inductive CtrlRole
  | generator (feedbackSources : Names) (hasOscillator hasMixerCorrection : Bool)
  | readout (startDeadTime stopDeadTime : Float)

structure Ctrl where
  (samplingRate granularity minimum : Float)
  commands : Names
  role : CtrlRole

namespace Ctrl

open Wire

def pack (ctrl : Ctrl) : Msg :=
  let common := nested 1 (double 1 ctrl.samplingRate ++ double 2 ctrl.granularity
    ++ double 3 ctrl.minimum ++ texts 4 ctrl.commands)
  match ctrl.role with
  | .generator ss hasOscillator hasMixerCorrection =>
    nested 1 (common ++ texts 3 ss ++ flag 4 hasOscillator ++ flag 5 hasMixerCorrection)
  | .readout start stop => nested 2 (common ++ double 4 start ++ double 5 stop)

def knownCommands := (CommandKind.all.filter (· != .multiplexedReal)).map CommandKind.name

def checkCommands (ns : Names) : Check :=
  ns.forM fun n => if knownCommands.contains n then pure () else refuse s!"Unknown instruction type {n}"

def unpack (convert : Bool) (m : Msg) : Outcome (Option Ctrl) := do
  let some (role, .block c) := m.choice [(1, 2), (2, 2)] | pure none
  let inner ← decode c
  let common ← inner.nested 1
  let cs ← common.texts 4
  let role ← if role = 1 then do
      pure (.generator (← inner.texts 3) (inner.number 4 != 0) (inner.number 5 != 0))
    else pure (.readout (inner.double 4) (inner.double 5))
  if convert then checkCommands cs
  return some ⟨common.double 1, common.double 2, common.double 3, cs, role⟩

def schema : Schema
  | "ChannelPropertyDictionary" => [.one 1 "channel_property_mapping" (.table "ChannelPropertyEntry")]
  | "ChannelPropertyEntry" => [.part 1 "awg" "AWGProperties", .part 2 "ro" "ReadoutProperties"]
  | "ChannelProperties" =>
    [.one 1 "sampling_rate" .double, .one 2 "instruction_duration_granularity" .double,
      .one 3 "instruction_duration_min" .double, .many 4 "compatible_instructions" .text,
      .one 5 "instruction_duration_granularity_samples" .natural, .one 6 "instruction_duration_min_samples" .natural]
  | "AWGProperties" =>
    [.part 1 "channel_properties" "ChannelProperties", .many 3 "fast_feedback_sources" .text,
      .one 4 "local_oscillator" .flag, .one 5 "mixer_correction" .flag]
  | "ReadoutProperties" =>
    [.part 1 "channel_properties" "ChannelProperties", .one 4 "integration_start_dead_time" .double,
      .one 5 "integration_stop_dead_time" .double, .one 6 "integration_start_dead_time_samples" .natural,
      .one 7 "integration_stop_dead_time_samples" .natural]
  | _ => []

def packAll (ctrls : Named Ctrl) := table 1 (ctrls.map fun e => (e.1, e.2.pack))

def unpackAll (convert : Bool) (m : Msg) : Outcome (Named Ctrl) := do
  let es ← (← m.table 1).entries.mapM fun e => do pure (e.1, ← unpack convert e.2)
  return es.filterMap fun e => e.2.map fun ctrl => (e.1, ctrl)

end Ctrl

end Transmon
