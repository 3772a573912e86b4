import Transmon.Builder.Call
import Transmon.Circuit
import Transmon.Playlist.Assembly
import Transmon.Schedule.Location

/-!
From circuits to boxes, from boxes to schedules, from schedules to playlists.
-/

namespace Transmon.Build

open Timebox (Group Nesting Algorithm)

variable (ss : List Circuit.Step)

def circuitBox (l : String) (algo : Algorithm) (m : Named String) : Build Nat := do
  let gs ← ss.mapM fun step => do
    let o ← (← get).operations.named step.name
    let locus := step.locus.map fun p => (m.lookup p).getD p
    let (n, locus) ← (← get).find o step.implementation locus false
    call (← implement o n locus none) { named := step.arguments }
  onShelf (.compose (gs.map Group.nesting) l .asap algo)

def circuitGate (m : Named String) (locus : Names) : Build Nat := do
  let ms := Names.ofList (ss.map Circuit.Step.name)
  let self : Implementation :=
    { number := 0, operation := "barrier", name := "circuit", design := default, locus, calibration := [],
      prepared := .nothing }
  let gs ← ss.mapM fun step => do
    let t ← step.locus.mapM fun p => requireName p (m.lookup p)
    call (← member self step.name t step.implementation ms) { named := step.arguments }
  compose (gs.map Group.nesting) ""

def timelineOf (n : Nat) (range : Int) (fill : Bool) : Build Timeline := do
  let _ ← resolve n range fill
  return .ofBox n

variable (tl : Timeline)

/-- Makes a schedule ready to be played. It becomes one of its own if drive channels take over frame changes. -/
def finish : Build Timeline := do
  let s ← contents tl
  let finished ← s.finish
  if s.hasOuterFrames then own finished
  else
    write tl finished
    pure tl

def addTo (a : Playlist.Assembly) (isFinished : Bool) (tl : Timeline) := do
  let tl ← if isFinished then finish tl else pure tl
  a.addSchedule (← station).channels isFinished (← contents tl)

def playlistOf (tls : List Timeline) (isFinished : Bool) :=
  return (← tls.foldlM (fun a tl => addTo a isFinished tl) {}).playlist

def playlistOfBoxes (bs : List Nat) (range : Int) : Build Playlist :=
  return (← bs.foldlM (fun a b => do addTo a true (← finish (← timelineOf b range false))) {}).playlist

def paddedPlaylist (bs : List Nat) (range : Int) : Build Playlist := do
  let station ← station
  let tls ← bs.mapM fun b => do
    let tl ← timelineOf b range false
    write tl (← contents tl).cleanup
    pure tl
  let schedules ← tls.mapM contents
  let secs ← schedules.mapM fun s => s.channels.entries.mapM fun e => do
    (← station.channel e.1).toSeconds e.2.duration
  let longest := secs.flatten.foldl (fun most time => if most < time then time else most) (secs.flatten.headD 0.0)
  let total := Schedule.greatest 0 (schedules.map Schedule.duration)
  let inSeconds ← if station.alignsInSeconds then
      let x :: _ := schedules | fail .index
      pure (x.hasContentIn station.probeChannels)
    else pure false
  tls.forM fun tl => do
    let s ← contents tl
    write tl (← if inSeconds then s.frontPadInSeconds longest station.channels else s.frontPad total)
  playlistOf tls true

def blockSurroundings (locus : Names) (range : Int) : Build Unit := do
  let station ← station
  let own := if 0 ≤ range then station.controlChannels locus else []
  let cs ← if 1 ≤ range then
      (station.chip.neighborCouplers locus).filterMapM fun c => do
        if ((station.lines.get? c).bind (·.get? "flux")).isSome then
          some <$> station.fluxChannel c
        else pure none
    else pure []
  let chs := own ++ cs ++ (if 2 ≤ range then station.controlChannels (station.chip.neighborComponents locus) else [])
  let s := ((← contents tl).addChannels chs).measured
  let total := s.duration
  let blocked ← chs.foldlM (fun (s : Schedule) ch => do
    if (← s.segment ch).instructions.isEmpty then s.append ch (.block total)
    else pure s) s
  write tl blocked

/-!
Putting decoupling sequences into the waits of a schedule.
-/

open Schedule Decoupling Segment

structure DecouplingRule where
  ratio : Number
  rotations : List (Float × Float)
  alignment : String

def isDriveChannel (st : Station) (n : String) :=
  if let some ch := st.channels.get? n then ch.isIq && !ch.isVirtual else false

def withJoinedWaits (st : Station) (s : Schedule) :=
  let copy := s.measured
  { copy with channels := copy.channels.map fun n seg => if isDriveChannel st n then mergeWaits seg else seg }

def rotationOf? (part : String) : Build (Option Nat) := do
  try some <$> implementNamed "prx" [part] none true false none
  catch fault => if fault.kind == .invalid then return none else throw fault

def addChannel (st : Station) (s : Named Nat × Option Nat) (m : String) : Build (Named Nat × Option Nat) := do
  if !isDriveChannel st m then return s
  let some (p, _) := st.lines.entries.find? (·.2.values.contains m)
    | reject s!"Channel {m} is not associated with any QPU component."
  let some n := (← rotationOf? p).or s.2 | fail .unassigned
  pure (Table.put m n s.1, some n)

def addTarget (st : Station) (s : Schedule) (state : Named Nat × Option Nat × Names)
    (part : String) : Build (Named Nat × Option Nat × Names) := do
  let (x, last, es) := state
  let some m := (st.driveChannel part).toOption
    | pure (x, last, es ++ [s!"Target component {part} has no drive channel available."])
  if !isDriveChannel st m then
    return (x, last, es ++ [s!"Drive channel {m} of component {part} is a virtual channel that does not support DD."])
  if !s.channels.contains m then return state
  match ← rotationOf? part with
  | some n => pure (Table.put m n x, some n, es)
  | none =>
    let some n := last | fail .unassigned
    pure (Table.put m n x, last, es ++ [s!"Drive channel {m} of component {part} has no PRX available."])

variable (s : Schedule)

/-- The drive channels of a schedule that are to be decoupled, with the rotations there. A channel without a
rotation gets that of the channel before it; the first needs one. -/
def channelsToDecouple (t : Option Names) : Build (Named Nat) := do
  let station ← station
  let some ps := t | return (← s.channels.keys.foldlM (addChannel station) ([], none)).1
  let unknown := Names.diff (.ofList ps) station.chip.dataComponents
  if !unknown.isEmpty then reject s!"Unknown target components {Text.quotedList unknown}."
  let (x, _, es) ← (Names.ofList ps).foldlM (addTarget station s) ([], none, [])
  if !es.isEmpty then reject ("\n".intercalate es)
  pure x

def playedOn (g : Group) (ch : String) : Build Segment := do
  let .one number := g | fail .noAttr
  (← contents (← finish (← timelineOf number 0 false))).segment ch

/-- What the first rule that a wait is long enough for puts in its place. -/
def decoupling? (rules : List DecouplingRule) (rotation : Nat) (wait : Location) :
    Build (Option (List Instruction)) := do
  let station ← station
  let p ← playedOn (← method rotation "rx" { positional := [.float Numeric.pi] }) wait.channel
  let ratio ← wait.duration.divide p.duration
  let some rule := rules.find? fun rule => decide (rule.ratio ≤ .float ratio) | pure none
  let segs ← rule.rotations.mapM fun (angle, phase) => do
    playedOn (← call rotation { positional := [.float angle, .float phase] }) wait.channel
  let ch ← station.channel wait.channel
  some <$> sequence segs wait.duration ch.granularity ch.minimum rule.alignment

/-- Puts sequences in place of waits, one wait after the other. `keep` stores every schedule on the way. -/
def decoupleWaits (keep : Schedule → Build Unit) (rules : List DecouplingRule) (rs : Named Nat) :
    List Location → Schedule → Build Schedule
  | [], s => pure s
  | wait :: xs, s => do
    let some is ← decoupling? rules ((rs.lookup wait.channel).getD 0) wait
      | decoupleWaits keep rules rs xs s
    let s ← s.replace wait.channel wait.index is
    keep s
    decoupleWaits keep rules rs xs s

/-- A schedule with decoupling sequences in its waits. Later waits come first, so that places stay as found. -/
def decouple (keep : Schedule → Build Unit) (rules : List DecouplingRule) (t : Option Names)
    (skipLeading skipTrailing : Bool) (s : Schedule) := do
  let rs ← channelsToDecouple s t
  decoupleWaits keep rules rs (← s.findWaits (rs.map Prod.fst) 0 skipLeading skipTrailing).reverse s

/-!
Correcting the crosstalk between flux lines.
-/

def crosstalkTolerance := 1e-10

def indexParts (i : String) := i.splitOn "__"

def firstRealPulse? := (s.channels.values.flatMap instructions).find? (·.kind.isA .realPulse)

def weighted (weight : Float) (w : Waveform) : Outcome Floats := return (← w.sample).map (weight * ·)

def realPart? : Instruction → Option (Waveform × Float)
  | .realPulse _ w scale | .fluxPulse _ w scale _ => some (w, scale)
  | _ => none

def addSamples (sum more : Floats) : Outcome Floats := do
  let [y] := more | if sum.length = more.length then return .zipWith (· + ·) sum more else fail .invalid
  return sum.map (· + y)

def checkLength (p ref : Instruction) : Check := do
  if p.duration != ref.duration then
    refuse "FluxMultiplexer requires all multiplexed flux pulses to have equal durations"

def chopped (len : Number) (is : List Instruction) : Outcome (List Instruction) := do
  let ps ← is.mapM fun i =>
    if i.kind.isA .wait then do
      return .replicate (Decimal.truncate (← i.duration.divide len)).toNat (.wait len)
    else pure [i]
  pure ps.flatten

def inLayer (ch : String) (layer : Nat) := do require .index (← s.segment ch).instructions[layer]?

def corrected (st : Station) (s : Schedule) (ref : Instruction) (links : List (Float × String))
    (ch : String) (layer : Nat) : Outcome Instruction := do
  let primary ← inLayer s ch layer
  let start ← match realPart? primary with
    | some (w, scale) => do
      checkLength primary ref
      weighted scale w
    | none =>
      let .int n := primary.duration | fail .type
      if n < 0 then fail .invalid else pure (.replicate n.toNat 0.0)
  let xs ← links.foldlM (fun sum (weight, part) => do
    let p ← inLayer s (← st.fluxChannel part) layer
    let some (w, scale) := realPart? p | pure sum
    checkLength p ref
    addSamples sum (← weighted (weight * scale) w)) start
  let x :: rest := xs | fail .invalid
  let most := rest.foldl (fun most y => if most < y.abs then y.abs else most) x.abs
  if most < crosstalkTolerance then return .wait ref.duration
  else return .realPulse ref.duration ⟨xs.length, .samples xs⟩ 1.0

/-- Boxes played with their flux pulses corrected. A single box is taken as it is, several are put together. -/
def multiplexFlux (number : Nat) (bs : Group) : Build Nat := do
  let self ← implementation number
  if !(self.design.family matches .crosstalk) then fail .type
  let station ← station
  let is ← match ← Calibration.entry self.calibration "matrix_index" with
    | .list xs | .tuple xs => pure (xs.map Value.plain)
    | _ => fail .type
  let elems ← match ← Calibration.entry self.calibration "matrix_elements" with
    | .array _ _ xs | .list xs => pure (xs.map (·.float?.getD 0.0))
    | _ => fail .type
  let chs ← (Text.sorted (Names.ofList (is.flatMap indexParts))).mapM (station.fluxChannel ·)
  let b ← if let .one number := bs then pure number else compose [bs.nesting] ""
  let s ← resolve b 0 false
  let ref ← require .exhausted (firstRealPulse? s)
  let len := ref.duration
  let cut ← chs.foldlM (fun (s : Schedule) ch => do
    let some held := s.channels.get? ch | pure s
    return s.setSegment ch (ofInstructions (← chopped len held.instructions))) s
  write (.ofBox b) cut
  let depth ← require .exhausted ((cut.channels.entries.find? (chs.contains ·.1)).map (·.2.instructions.length))
  let full := chs.foldl (fun (s : Schedule) ch =>
    if s.channels.contains ch then s
    else s.setSegment ch (ofInstructions (.replicate depth (.wait len)))) cut
  write (.ofBox b) full
  let primaries := is.map fun i => (indexParts i).headD ""
  let r ← (List.range depth).foldlM (fun (r : Schedule) layer =>
    primaries.foldlM (fun (r : Schedule) p => do
      let ch ← station.fluxChannel p
      let links ← (is.zipIdx.filter fun e => (indexParts e.1).headD "" == p).mapM fun (i, pos) =>
        return (elems[pos]?, ← require .index (indexParts i)[1]?)
      let known := links.filterMap fun (w, x) => w.map (·, x)
      let ins ← corrected station full ref known ch layer
      if known.length ≠ links.length then fail .index
      let seg ← r.segment ch
      return r.setSegment ch { seg with instructions := seg.instructions.set layer ins })
      r) full
  let locus := Names.ofList (primaries.filter station.chip.qubits.contains)
  put (.atomic r locus s!"Cross-talk corrected flux pulses on {Names.shown locus}")

end Transmon.Build
