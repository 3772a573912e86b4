import Transmon.Channel
import Transmon.Chip

/-!
A control station: a chip and the channels that control it.
-/

namespace Transmon

structure Timing where
  rate : Float
  (granularity minimum : Int)

structure ReadoutCtrl where
  name : String
  timing : Timing
  probe : ProbeProperties

structure Generator where
  name : String
  timing : Timing
  sources : Names := []

structure Station where
  chip : Chip.Topology
  channels : Channels
  lines : Table String (Table String String)

namespace Station

def feedbackChannel (probeLine gen : String) := s!"{probeLine}__feedforward_bits_to_{gen}"

structure Wiring where
  channels : Channels := ∅
  lines : Table String (Table String String) := ∅

variable (w : Wiring)

def Wiring.connect (part fn ch : String) := { w with lines := w.lines.update part ∅ (·.insert fn ch) }

def Wiring.describe (n : String) (ch : Channel) := { w with channels := w.channels.insert n ch }

def Wiring.readout (part : String) (ctrl : ReadoutCtrl) :=
  let timing := ctrl.timing
  (w.connect part "readout" ctrl.name).describe ctrl.name
    { sampleRate := timing.rate, granularity := timing.granularity, minimum := timing.minimum,
      probe := some ctrl.probe }

def Wiring.generator (fn : String) (isIq : Bool) (part : String) (gen : Generator) : Wiring :=
  let timing := gen.timing
  let start := (w.connect part fn gen.name).describe gen.name
    { sampleRate := timing.rate, granularity := timing.granularity, minimum := timing.minimum, isIq }
  gen.sources.foldl (fun (w : Wiring) s =>
    let probeLine := (s.splitOn "__readout").headD ""
    let ch := feedbackChannel probeLine gen.name
    let described := w.describe ch
      { sampleRate := timing.rate, granularity := timing.granularity, minimum := 0, isVirtual := true,
        blocksComponent := false }
    (described.connect part s!"feedback_from_{probeLine}" ch).connect probeLine s!"feedback_to_{gen.name}" ch) start

def distinct (ns : Floats) : Floats :=
  (ns.foldl (fun seen x => if seen.any (· == x) then seen else seen ++ [x]) []).mergeSort fun a b => a ≤ b

def make (c : Chip.Topology) (readouts : Table String ReadoutCtrl)
    (drives fluxes : Table String Generator) : Outcome Station := do
  let w := readouts.entries.foldl (fun (w : Wiring) e => w.readout e.1 e.2) {}
  let w := drives.entries.foldl (fun (w : Wiring) e => w.generator "drive" true e.1 e.2) w
  let w := fluxes.entries.foldl (fun (w : Wiring) e => w.generator "flux" false e.1 e.2) w
  let rates := distinct ((drives.values ++ fluxes.values).map (·.timing.rate))
  let w ← match rates with
    | [] => pure w
    | [rate] =>
      pure (c.resonators.foldl (fun (w : Wiring) res =>
        let ch := s!"{res}__drive_virtual"
        (w.connect res "drive" ch).describe ch
          { sampleRate := rate, granularity := 1, minimum := 0, isIq := true, isVirtual := true }) w)
    | _ =>
      let s := s!"\x7b{Text.commaSeparated (rates.map Decimal.render)}\x7d"
      refuse ("ScheduleBuilder supports only a single sample rate for all AWG channels. "
        ++ s!"The station contains these sample rates:\n{s}")
  pure ⟨c, w.channels, w.lines⟩

def tuned (chs : Channels) (ls : Table String (Table String String))
    (frequency? : String → Option Float) : Outcome Channels :=
  ls.entries.foldlM (fun (tuned : Channels) (p, fns) => do
    let some n := fns.get? "readout" | pure tuned
    let found? (setting : String) := frequency? s!"controllers.{p}.readout.{setting}"
    let some centerFreq := (found? "center_frequency").or (found? "local_oscillator.frequency")
      | failWith .calibration ("No calibration value found for the center frequency or local oscillator frequency of "
        ++ s!"{p}.")
    let ch ← chs.named n
    let probe ← require .type ch.probe
    return tuned.insert n { ch with probe := some { probe with centerFreq } }) chs

variable (st : Station)

def channel (n : String) := st.channels.named n

def line (part fn : String) : Outcome String := do
  let some ch := (st.lines.get? part).bind (·.get? fn)
    | failWith .missing s!"channel not found for component \"{part}\" and operation \"{fn}\""
  pure ch

variable (part : String)

def driveChannel := st.line part "drive"

def fluxChannel := st.line part "flux"

def probeChannel :=
  if let some probeLine := st.chip.probeLineOf.get? part then st.line probeLine "readout"
  else failWith .missing s!"probe line not found for component \"{part}\""

def feedbackChannels : Outcome Names :=
  return ((← st.lines.named part).entries.filter (·.1.startsWith "feedback")).map Prod.snd

def occursIn (part whole : String) := part.isEmpty || 1 < (whole.splitOn part).length

def feedbackChannelFor (gen q : String) := do
  let probeLine ← st.chip.probeLineOf.named q
  let some ch := (← st.feedbackChannels probeLine).find? (occursIn gen)
    | refuse s!"AWG node {gen} does not support fast feedback from {probeLine}"
  pure ch

def controlChannels (ps : Names) : Names :=
  (ps.flatMap fun p => (st.lines.getD p ∅).values).filter fun n => (st.channels.get? n).any (!·.isVirtual)

def componentOf : Table String String :=
  .ofList (st.lines.entries.flatMap fun e =>
    (e.2.values.filter fun n => (st.channels.getD n default).blocksComponent).map fun n => (n, e.1))

def probeChannels := (st.channels.filter fun _ ch => ch.probe.isSome).keys

def controlTemplate? := (st.channels.filter fun _ ch => ch.probe.isNone).values.head?

def alignsInSeconds :=
  let real := st.channels.values.filter (!·.isVirtual)
  let grids (g : List Channel) := g.map Channel.granularity
  let ys := grids (real.filter (·.probe.isNone))
  let probes := grids (real.filter (·.probe.isSome))
  1 < (distinct (real.map Channel.sampleRate)).length || !(ys.all probes.contains && probes.all ys.contains)

end Station

end Transmon
