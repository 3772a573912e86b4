import Transmon.Schedule.Basic
import Transmon.Waveform.Sampling

/-!
From schedules to playlists.
-/

namespace Transmon.Playlist

open Decimal

def waveOf (w : Waveform) := some <$> w.canonical

def pulseOf (p : IQPulse) : Outcome Pulse :=
  return ⟨← waveOf p.waveI, ← waveOf p.waveQ, p.scaleI, p.scaleQ, p.phase, p.modulation, p.phaseStep⟩

def samplesOf : Number → Int
  | .int n => n
  | .float x => truncate x

def captureOf (acq : Acquisition IQPulse) : Outcome Capture :=
  match acq with
  | .plain .. => refuse s!"Unknown AcquisitionMethod {Instruction.shownAcquisition Instruction.shownPulse acq}"
  | _ => acq.mapM pulseOf

def multiplexedOf (p : MultiplexedPulse) : Outcome Command := do
  let ps ← p.entries.mapM fun e => do return .iqPulse (samplesOf e.1.duration) (← pulseOf e.1)
  return .multiplexed (samplesOf p.duration) false ps (p.entries.map Prod.snd)

def commandOf (i : Instruction) : Outcome Command :=
  match i with
  | .wait d | .moveMarker d .. => return .wait (samplesOf d)
  | .virtualRz d phase => return .virtualRz (samplesOf d) phase
  | .realPulse d w scale | .fluxPulse d w scale _ => do return .realPulse (samplesOf d) (← waveOf w) scale
  | .iqPulse p => do return .iqPulse (samplesOf p.duration) (← pulseOf p)
  | .conditional d cond os => do
    let [ifFalse, ifTrue] := os | refuse "ConditionalInstruction requires exactly two outcomes."
    return .conditional (samplesOf d) cond (← commandOf ifTrue) (← commandOf ifFalse)
  | .multiplexed p => multiplexedOf p
  | .readout t => do
    let cs ← t.acquisitions.mapM captureOf
    return .readout (samplesOf t.duration) (← multiplexedOf t.probePulse) (cs.map some)
  | .plain _ | .block _ | .nothing _ => refuse s!"{i.shown} not supported."

def configFor (ch : Channel) : Config :=
  if ch.probe.isSome then .readout ch.sampleRate
  else if ch.isIq then .iq ch.sampleRate
  else .real ch.sampleRate

structure Assembly where
  playlist : Playlist := {}
  known : Named (List (Fingerprint × Nat)) := []

namespace Assembly

variable (a : Assembly)

def enterInstruction (ch : String) (i : Instruction) : Outcome (Nat × Assembly) := do
  let fingerprint := (Fingerprint.ofInstruction i).toOption
  let known := (a.known.lookup ch).getD []
  match fingerprint.bind fun f => known.lookup f with
  | some n => pure (n, a)
  | none =>
    let cmd ← commandOf i
    let d ← a.playlist.channels.named ch
    let (d, n) := d.add cmd
    let n ← n
    let known := match fingerprint with
      | some f => (f, n) :: known
      | none => known
    pure (n,
      { playlist := { a.playlist with channels := a.playlist.channels.insert ch d }
        known := Table.put ch known a.known })

def joinIdle : Option Number → List Instruction → List Instruction
  | none, [] => []
  | some total, [] => [.wait total]
  | gathered, i :: xs =>
    if i.kind.isA .wait || i.kind == .block || i.kind == .nothing then
      if 0 < i.duration then
        let total := match gathered with
          | some total => total + i.duration
          | none => i.duration
        joinIdle (some total) xs
      else joinIdle gathered xs
    else
      match gathered with
      | some total => .wait total :: i :: joinIdle none xs
      | none => i :: joinIdle none xs

variable (stationChannels : Channels)

def addChannel (isFinished : Bool) (s : Assembly × Segment)
    (name : String) (seg : Transmon.Segment) : Outcome (Assembly × Segment) := do
  match stationChannels.get? name with
  | none => pure s
  | some ch =>
    if ch.isVirtual then return s
    let (a, opened) := s
    let playlist :=
      if a.playlist.channels.contains name then a.playlist
      else { a.playlist with
        channels := a.playlist.channels.insert name { configuration := configFor ch, name } }
    let is := if isFinished then joinIdle none seg.instructions else seg.instructions
    is.foldlM (fun (s : Assembly × Segment) i => do
      let (n, a) ← s.1.enterInstruction name i
      pure (a, s.2.update name [] (· ++ [n]))) ({ a with playlist }, opened)

def addSchedule (isFinished : Bool) (s : Schedule) : Outcome Assembly := do
  let (a, opened) ← s.channels.entries.foldlM
    (fun st e => addChannel stationChannels isFinished st e.1 e.2) (a, (∅ : Playlist.Segment))
  pure { a with
    playlist := { a.playlist with segments := a.playlist.segments ++ [opened] } }

end Assembly

/-!
Whether a device can play a playlist.
-/

def CommandKind.instrKind? : CommandKind → Option InstrKind
  | .wait => some .wait
  | .realPulse => some .realPulse
  | .iqPulse => some .iqPulse
  | .virtualRz => some .virtualRz
  | .conditional => some .conditional
  | .multiplexedIq | .multiplexedReal | .readout => none

def checkDuration (k : Fault.Kind) (n : String) (gran least span : Int) : Check := do
  if gran = 0 then fail .divisionByZero
  if span.fmod gran ≠ 0 then
    failWith k s!"Instruction length of {span} doesn't match the {n} granularity of the device"
  if span < least then
    failWith k s!"Instruction length of {span} is less than the minimum number of samples {least} for {n}"

def Description.check (d : Description) (dev : Channel) : Check := do
  match d.configuration.rate? with
  | none => failWith .playlistMismatch "Channel configuration does not have sampling rate"
  | some rate =>
    if rate != dev.sampleRate then
      let want := render dev.sampleRate
      failWith .playlistMismatch
        s!"Sample rates do not match. Device {d.name} expects {want} but got from playlist {render rate}"
  let allowed := Text.quotedTuple (dev.compatible.map InstrKind.name)
  d.commands.forM fun cmd => do
    let k ← require .missing cmd.kind.instrKind?
    if !dev.compatible.contains k then
      failWith .playlistMismatch s!"{d.name}: Incompatible instruction {k.name} (allowed: {allowed})"
    checkDuration .playlistMismatch d.name dev.granularity dev.minimum cmd.duration

def check (p : Playlist) (d : Channels) : Check := p.channels.entries.forM fun e => do e.2.check (← d.named e.1)

structure Constraints where
  sampleRate : Float
  (granularity minimum : Int)
  compatible : List CommandKind

def exceeds (scale : Float) : Bool := scale.abs > 1.0

def Command.checkWave (cmd : Command) : Check := do
  let size (w : Option Waveform) := return (← require .noAttr w).size
  match cmd with
  | .realPulse span w scale =>
    if span ≠ (← size w) then failWith .badInstr "Instruction duration != waveform length"
    if exceeds scale then failWith .badInstr "scale not in -1..1"
  | .iqPulse span p =>
    if span ≠ (← size p.waveI) then failWith .badInstr "Instruction duration != waveform_i length"
    if span ≠ (← size p.waveQ) then failWith .badInstr "Instruction duration != waveform_q length"
    if exceeds p.scaleI || exceeds p.scaleQ then failWith .badInstr "scale not in -1..1"
  | _ => return

def checkCtrl (desc : Option Description) (cs : Constraints) : Check := do
  let some d := desc | failWith .ctrlMismatch "Controller was not found in the playlist"
  match d.configuration.rate? with
  | none => failWith .ctrlMismatch "Channel configuration does not have sampling rate"
  | some rate =>
    if rate != cs.sampleRate then
      let x := render rate
      failWith .ctrlMismatch
        s!"Sampling rates do not match. Device {d.name} expects {render cs.sampleRate} but got from playlist {x}"
  d.commands.forM fun cmd => do
    if !cs.compatible.contains cmd.kind then
      failWith .ctrlMismatch s!"Incompatible instruction {cmd.kind.name} not compatible with {d.name}"
    match cmd with
    | .conditional span _ ifTrue ifFalse =>
      if ifFalse.duration ≠ span || ifTrue.duration ≠ span then
        let own := s!"Duration of Conditional instruction: {span} \n"
        let ps :=
          s!"Duration of if_false instruction: {ifFalse.duration}\nDuration of if_true instruction: {ifTrue.duration}\n"
        failWith .ctrlMismatch s!"Conditional Instruction's instructions must have the same duration\n{own}{ps}"
    | .readout span probe _ =>
      if span ≤ probe.duration then
        failWith .ctrlMismatch "Duration of ReadoutTrigger must be longer than the probe pulse inside it."
    | _ => pure ()
    checkDuration .ctrlMismatch d.name cs.granularity cs.minimum cmd.duration
    cmd.checkWave

end Transmon.Playlist
