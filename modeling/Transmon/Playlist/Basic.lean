import Transmon.Instruction

/-!
Commands of a playlist: what a device is told to play.
-/

namespace Transmon

namespace Playlist

def sameWave (a b : Waveform) :=
  a == b && match a.shape, b.shape with
    | .samples xs, .samples ys => xs.map Float.toBits == ys.map Float.toBits
    | _, _ => true

def sameWave? : Option Waveform → Option Waveform → Bool
  | some a, some b => sameWave a b
  | none, none => true
  | _, _ => false

def isEntered (w : Waveform) :=
  match w.shape with
  | .samples _ => true
  | shape => shape.values.all fun
    | .reals _ => false
    | _ => true

structure Pulse where
  (waveI waveQ : Option Waveform)
  (scaleI scaleQ : Float)
  phase : Float := 0.0
  modulation : Float := 0.0
  phaseStep : Float := 0.0

instance : BEq Pulse where
  beq a b :=
    sameWave? a.waveI b.waveI && sameWave? a.waveQ b.waveQ && a.scaleI == b.scaleI && a.scaleQ == b.scaleQ &&
      a.phase == b.phase && a.modulation == b.modulation && a.phaseStep == b.phaseStep

abbrev Capture := Acquisition Pulse

def Capture.waves : Capture → List (Option Waveform)
  | .plain .. | .timeTrace .. => []
  | .integration _ _ ws | .threshold _ _ ws .. => [ws.waveI, ws.waveQ]

inductive Command
  | wait (span : Int)
  | virtualRz (span : Int) (phaseStep : Float)
  | realPulse (span : Int) (wave : Option Waveform) (scale : Float)
  | iqPulse (span : Int) (pulse : Pulse)
  | conditional (span : Int) (cond : String) (ifTrue ifFalse : Command)
  | multiplexed (span : Int) (isReal : Bool) (pulses : List Command) (offsets : List Int)
  | readout (span : Int) (probe : Command) (captures : List (Option Capture))

inductive CommandKind
  | wait | virtualRz | realPulse | iqPulse | conditional | multiplexedIq | multiplexedReal | readout
deriving DecidableEq

namespace CommandKind

def all : List CommandKind :=
  [.wait, .virtualRz, .realPulse, .iqPulse, .conditional, .multiplexedIq, .multiplexedReal, .readout]

def name : CommandKind → String
  | .wait => "Wait"
  | .virtualRz => "VirtualRZ"
  | .realPulse => "RealPulse"
  | .iqPulse => "IQPulse"
  | .conditional => "ConditionalInstruction"
  | .multiplexedIq => "MultiplexedIQPulse"
  | .multiplexedReal => "MultiplexedRealPulse"
  | .readout => "ReadoutTrigger"

def ofName? (n : String) := all.find? (·.name == n)

end CommandKind

namespace Command

instance : Inhabited Command := ⟨.wait 0⟩

def duration : Command → Int
  | .wait d | .virtualRz d _ | .realPulse d .. | .iqPulse d _ | .conditional d .. | .multiplexed d ..
  | .readout d .. => d

def kind : Command → CommandKind
  | .wait _ => .wait
  | .virtualRz .. => .virtualRz
  | .realPulse .. => .realPulse
  | .iqPulse .. => .iqPulse
  | .conditional .. => .conditional
  | .multiplexed _ isReal .. => if isReal then .multiplexedReal else .multiplexedIq
  | .readout .. => .readout

mutual

def equal : Command → Command → Bool
  | .wait a, .wait b => a == b
  | .virtualRz a p, .virtualRz b q => a == b && p == q
  | .realPulse a w s, .realPulse b v t => a == b && sameWave? w v && s == t
  | .iqPulse a p, .iqPulse b q => a == b && p == q
  | .conditional a c t f, .conditional b d u g => a == b && c == d && equal t u && equal f g
  | .multiplexed a r ps os, .multiplexed b s qs us => a == b && r == s && equalAll ps qs && os == us
  | .readout a p cs, .readout b q ds => a == b && equal p q && cs == ds
  | _, _ => false

def equalAll : List Command → List Command → Bool
  | [], [] => true
  | a :: xs, b :: ys => equal a b && equalAll xs ys
  | _, _ => false

end

instance : BEq Command := ⟨equal⟩

end Command

section Text

def shownWave : Option Waveform → String
  | some w => w.shown
  | none => "None"

def shownPulse (p : Pulse) :=
  Text.called "IQPulse" (Instruction.pulseFields Decimal.render (shownWave p.waveI) (shownWave p.waveQ) p.scaleI p.scaleQ
    p.phase p.modulation p.phaseStep)

end Text

/-!
Playlists: tables of commands, and segments that refer to them.
-/

inductive Config
  | plain
  | iq (rate : Float)
  | real (rate : Float)
  | readout (rate : Float)
deriving BEq

namespace Config

def name : Config → String
  | .plain => "ChannelConfiguration"
  | .iq _ => "IQChannelConfig"
  | .real _ => "RealChannelConfig"
  | .readout _ => "ReadoutChannelConfig"

def rate? : Config → Option Float
  | .plain => none
  | .iq rate | .real rate | .readout rate => some rate

def shown (c : Config) :=
  match c.rate? with
  | some rate => s!"{c.name}(sampling_rate={Decimal.render rate})"
  | none => s!"{c.name}()"

end Config

def enter {α : Type} (same : α → α → Bool) (t : List α) (x : α) :=
  match t.findIdx? (same · x) with
  | some i => (i, t)
  | none => (t.length, t ++ [x])

structure Description where
  configuration : Config
  name : String
  commands : List Command := []
  waves : List (Option Waveform) := []
  captures : List (Option Capture) := []

namespace Description

def shown (d : Description) :=
  s!"ChannelDescription(channel_config={d.configuration.shown}, controller_name={Text.quoted d.name})"

def equal (a b : Description) :=
  a.configuration == b.configuration && a.name == b.name && a.commands == b.commands &&
    a.waves.length == b.waves.length && (List.zipWith sameWave? a.waves b.waves).all id &&
    a.captures == b.captures

variable (d : Description)

def enterWave (w : Option Waveform) := { d with waves := (enter sameWave? d.waves w).2 }

def enterWaves (d : Description) : List (Option Waveform) → Description × Check
  | [] => (d, return)
  | w :: xs => if w.all isEntered then enterWaves (d.enterWave w) xs else (d, fail .type)

def addCapture (c : Capture) : Description × Outcome Nat :=
  match d.configuration with
  | .readout _ =>
    match d.enterWaves c.waves with
    | (d, .error f) => (d, .error f)
    | (d, .ok _) =>
      let (i, captures) := enter (· == ·) d.captures (some c)
      ({ d with captures }, .ok i)
  | _ => (d, refuse s!"Channel {d.name} is not a readout channel, cannot add {Instruction.shownAcquisition shownPulse c}.")

def addCaptures (d : Description) : List (Option Capture) → Description × Check
  | [] => (d, return)
  | none :: xs => addCaptures d xs
  | some capture :: xs =>
    match d.addCapture capture with
    | (d, .ok _) => addCaptures d xs
    | (d, .error f) => (d, .error f)

def enterCommand (c : Command) : Description × Outcome Nat :=
  let (i, commands) := enter (· == ·) d.commands c
  ({ d with commands }, .ok i)

mutual

def add (d : Description) (c : Command) : Description × Outcome Nat :=
  match c with
  | .wait _ | .virtualRz .. => d.enterCommand c
  | .realPulse _ w _ =>
    match d.enterWaves [w] with
    | (d, .error f) => (d, .error f)
    | (d, .ok _) => d.enterCommand c
  | .iqPulse _ p =>
    match d.enterWaves [p.waveI, p.waveQ] with
    | (d, .error f) => (d, .error f)
    | (d, .ok _) => d.enterCommand c
  | .conditional _ _ ifTrue ifFalse =>
    match add d ifTrue with
    | (d, .error f) => (d, .error f)
    | (d, .ok _) =>
      match add d ifFalse with
      | (d, .error f) => (d, .error f)
      | (d, .ok _) => d.enterCommand c
  | .multiplexed _ _ pulses _ =>
    match addAll d pulses with
    | (d, .error f) => (d, .error f)
    | (d, .ok _) => d.enterCommand c
  | .readout _ probe cs =>
    match add d probe with
    | (d, .error f) => (d, .error f)
    | (d, .ok _) =>
      match d.addCaptures cs with
      | (d, .error f) => (d, .error f)
      | (d, .ok _) => d.enterCommand c

def addAll (d : Description) : List Command → Description × Check
  | [] => (d, return)
  | command :: xs =>
    match add d command with
    | (d, .error f) => (d, .error f)
    | (d, .ok _) => addAll d xs

end

end Description

abbrev Segment := Table String (List Nat)

end Playlist

structure Playlist where
  channels : Table String Playlist.Description := ∅
  segments : List Playlist.Segment := []

namespace Playlist

def addChannel (p : Playlist) (d : Description) : Outcome Playlist := do
  let some old := p.channels.get? d.name | pure { p with channels := p.channels.insert d.name d }
  if old.equal d then pure { p with channels := p.channels.insert d.name d }
  else refuse s!"Controller '{d.name}' already has a channel with different properties: {old.shown} -> {d.shown}"

def summary (p : Playlist) : Outcome String := do
  if p.channels.isEmpty then fail .type
  let ws := p.channels.values.foldl (fun total d => total + d.waves.length) 0
  let commands := p.channels.values.foldl (fun total d => total + d.commands.length) 0
  let cs := s!" - {p.channels.size} channels\n - {p.segments.length} segments"
  return s!"Schedule info:\n{cs}\n - {ws} unique waveforms\n - {commands} unique instructions"

/-!
A playlist as it is looked at.
-/

inductive Entry
  | played (cmd : Command) (number : Nat) (nanos : Float)
  | common (isEnd : Bool) (nanos : Float)

def Entry.wait? : Entry → Option Float
  | .played (.wait _) _ nanos => some nanos
  | _ => none

def Entry.shortened (amount : Float) : Entry → Entry
  | .played cmd n nanos => .played cmd n (nanos - amount)
  | .common isEnd nanos => .common isEnd (nanos - amount)

def Entry.pictured? : Entry → Option Nat
  | .played (.realPulse ..) n _ | .played (.iqPulse ..) n _ => some n
  | _ => none

abbrev View := Table String (List Entry)

variable (p : Playlist)

def viewChannel (ch : String) (ns : List Nat) : Outcome (List Entry) := do
  let desc ← require .noAttr (p.channels.get? ch)
  ns.mapM fun n => do
    let cmd ← itemAt desc.commands n
    let rate ← require .noAttr desc.configuration.rate?
    return .played cmd n (Decimal.roundTo (.ofInt cmd.duration / rate * 1000000000.0) 3)

def edge (isEnd : Bool) (es : List Entry) := require .index (if isEnd then es.getLast? else es.head?)

def commonWait (isEnd : Bool) : List (List Entry) → Option Float → Outcome (Option Float)
  | [], least => pure least
  | es :: xs, least => do
    let some nanos := (← edge isEnd es).wait? | return some 0.0
    let least := if let some known := least then if nanos < known then nanos else known else nanos
    commonWait isEnd xs (some least)

def atLast (change : Entry → List Entry) : List Entry → List Entry
  | [] => []
  | [e] => change e
  | e :: xs => e :: atLast change xs

def atFirst (change : Entry → List Entry) : List Entry → List Entry
  | [] => []
  | e :: xs => change e ++ xs

def squeeze (isEnd : Bool) (v : View) : Outcome View := do
  let some amount ← commonWait isEnd v.values none | pure v
  if amount == 0.0 then return v
  let change (e : Entry) : List Entry := [.common isEnd amount, e.shortened amount]
  let squeezed (es : List Entry) : List Entry := if isEnd then atLast change es else atFirst change es
  return .ofList (v.entries.map fun e => (e.1, squeezed e.2))

def viewSegment (i : Int) : Outcome View := do
  let seg ← require .index (Slice.at? p.segments i)
  let chs ← seg.entries.mapM fun e => do pure (e.1, ← p.viewChannel e.1 e.2)
  squeeze true (← squeeze false (.ofList chs))

variable (ps : List Int)

def view := ps.mapM p.viewSegment

def pictures (views : List View) : Table String (List Nat) :=
  let seen (ch : String) := views.flatMap fun view => ((view.get? ch).getD []).filterMap Entry.pictured?
  .ofList (p.channels.keys.map fun ch => (ch, (seen ch).eraseDups))

def checkPositions : Check :=
  ps.forM fun i =>
    if (Slice.at? p.segments i).isSome then return
    else
      let last := if p.segments.length > 1 then s!"-{p.segments.length - 1}" else ""
      failWith .index s!"Index '{i}' not in range of segments 0{last}"

end Playlist

end Transmon
