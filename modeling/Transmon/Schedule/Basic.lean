import Transmon.Channel

/-!
Schedules: what each control channel plays.

A segment is the list of instructions of one channel with its total duration. A schedule is a table of
segments by channel name; its duration is that of the longest segment and is remembered once it has been
read. Operations that replace a segment behind the schedule's back leave the remembered duration as it was.
-/

namespace Transmon

open Decimal

/-- The instructions of one channel and their total duration. -/
structure Segment where
  instructions : List Instruction := []
  duration : Number := 0

namespace Segment

instance : Inhabited Segment := ⟨⟨[], 0⟩⟩

variable (s : Segment) (i : Instruction)

def append : Segment := ⟨s.instructions ++ [i], s.duration + i.duration⟩

def prepend : Segment := ⟨i :: s.instructions, s.duration + i.duration⟩

variable (instructions : List Instruction)

def extend : Segment :=
  ⟨s.instructions ++ instructions, instructions.foldl (fun total i => total + i.duration) s.duration⟩

def ofInstructions := (⟨[], 0⟩ : Segment).extend instructions

def position? (n : Nat) (j : Int) :=
  let place := if j < 0 then j + n else j
  if 0 ≤ place ∧ place < n then some place.toNat else none

def get? (j : Int) := (position? s.instructions.length j).bind (s.instructions[·]?)

def pop? (j : Int) : Option (Instruction × Segment) := do
  let k ← position? s.instructions.length j
  let i ← s.instructions[k]?
  pure (i, ⟨s.instructions.eraseIdx k, s.duration - i.duration⟩)

def isIdle := s.instructions.all fun i => i.kind.isA .wait || i.kind == .block

end Segment

/-- The segments of the channels, and the duration if it has been read. -/
structure Schedule where
  channels : Table String Segment := ∅
  remembered : Option Number := none

namespace Schedule

instance : Inhabited Schedule := ⟨⟨∅, none⟩⟩

def tol := 1e-12

def toleranceDecimals := 12

/-- The greatest of several numbers; of equal ones the first. -/
def greatest (start : Number) : List Number → Number
  | [] => start
  | x :: xs => xs.foldl .greater x

def ofChannels (contents : Named (List Instruction)) (span : Option Number) : Schedule :=
  ⟨⟨contents.map fun e => (e.1, .ofInstructions e.2)⟩, span⟩

def duration (s : Schedule) :=
  match s.remembered with
  | some duration => duration
  | none => greatest 0 (s.channels.values.map Segment.duration)

variable (s : Schedule)

def measured := { s with remembered := some s.duration }

def unmeasured := { s with remembered := none }

variable (ch : String)

def segment := s.channels.named ch

/-- Puts a segment on a channel; the remembered duration stays. -/
def setSegment (seg : Segment) := { s with channels := s.channels.insert ch seg }

def addChannels (ns : Names) := { s with channels := ns.foldl (fun t n => t.insertNew n ⟨[], 0⟩) s.channels }

def append (i : Instruction) := return (s.setSegment ch ((← s.segment ch).append i)).unmeasured

def extend (is : List Instruction) := return (s.setSegment ch ((← s.segment ch).extend is)).unmeasured

variable (cs : Channels)

def durationInSeconds : Outcome Float := do
  let times ← s.channels.entries.mapM fun e => do (← cs.named e.1).toSeconds e.2.duration
  return (greatest (.float 0.0) (times.map .float)).toFloat

def frontPad (t : Number) : Outcome Schedule := do
  let span := s.duration
  let wait := t - span
  if wait < 0 then refuse s!"Target duration {t.text} is shorter than the current schedule duration {span.text}"
  if wait == 0 then pure s.measured
  else
    pure ⟨s.channels.map fun _ seg => ⟨.wait wait :: seg.instructions, wait + seg.duration⟩, some (wait + span)⟩

/-- Delays everything so that the schedule takes a given time, with a wait on each channel's own grid. -/
def frontPadInSeconds (target : Float) (chs : Channels) : Outcome Schedule := do
  let span ← s.durationInSeconds chs
  let wait := target - span
  if wait < 0 then
    refuse s!"Target duration {render target} is shorter than the current schedule duration {render span}"
  if wait > tol then
    let segs ← s.channels.mapM fun m seg => do
      let ch ← chs.named m
      let rounded ← ch.roundToGranularity (roundTo wait toleranceDecimals) false false
      let n ← ch.toWholeSamples (.float rounded) "Given duration" false
      pure (⟨.wait n :: seg.instructions, n + seg.duration⟩ : Segment)
    pure ⟨segs, some (segs.values.foldl (fun most seg => .greater most seg.duration) 0)⟩
  else pure s

def padToHardBox : Schedule :=
  let longest := s.duration
  let pad (seg : Segment) : Segment :=
    if seg.duration < longest then seg.append (.wait (longest - seg.duration)) else seg
  { s.measured with channels := s.channels.map fun _ seg => pad seg }

/-- Fills every segment with a wait up to the longest time, as far as the channel's grid allows. -/
def padToHardBoxInSeconds : Outcome Schedule := do
  let longest ← s.durationInSeconds cs
  let segs ← s.channels.mapM fun m seg => do
    let ch ← cs.named m
    let time ← ch.toSeconds seg.duration
    if time + tol < longest then
      let n ← ch.toWholeSamples (.float (← ch.roundToGranularity (longest - time) false false)) "Given duration" false
      return if ch.minimum ≤ n then seg.append (.wait n) else seg
    else pure seg
  pure { s with channels := segs }

/-- The schedule played backwards. Shorter segments are filled at their new beginning. -/
def reverse : Schedule :=
  let total := s.duration
  ⟨s.channels.map fun _ seg =>
    let gap := total - seg.duration
    ⟨(if 0 < gap then [.nothing gap] else []) ++ seg.instructions.reverse, total⟩, none⟩

def reverseHardBox : Schedule :=
  ⟨s.channels.map fun _ seg => ⟨seg.instructions.reverse, seg.duration⟩, some s.duration⟩

def cleanup :=
  let kept := s.channels.filter fun _ seg => !seg.isIdle
  if kept.size = s.channels.size then s else ⟨kept, none⟩

def hasContentIn (ns : Names) := s.channels.entries.any fun e => ns.contains e.1 && decide (0 < e.2.duration)

def validationReport (p : Names) :=
  s.channels.entries.foldl (fun r e =>
    e.2.instructions.foldl (fun r i =>
      match i.validate with
      | .ok _ => r
      | .error f => r ++ Text.quotedTuple (p ++ [e.1]) ++ " " ++ f.msg.getD "" ++ "\n") r) ""

/-!
Placing a block of content behind everything that it must follow.

The content starts on all its channels at one time: the latest end of earlier content on its components.
Channels that end earlier are filled with a wait. Afterwards every component of the neighbourhood is busy
until the content ends.
-/

/-- Until when each component is busy. -/
abbrev Busy := Table String Number

def latestEnd (b : Busy) (ps : Names) (start : Number) :=
  greatest start ((b.entries.filter (ps.contains ·.1)).map Prod.snd)

def occupy (b : Busy) (ps : Names) (until_ : Number) := ps.foldl (fun t p => t.insert p until_) b

def place (seg c : Segment) (start : Number) (back : Bool) : Segment :=
  let filled := if seg.duration < start then seg.append (.wait (start - seg.duration)) else seg
  ⟨filled.instructions ++ (if back then c.instructions.reverse else c.instructions), filled.duration + c.duration⟩

variable (s c : Schedule) (ps zone : Names)

def extendHardBoundary (b : Busy) (back : Bool) : Outcome (Schedule × Busy) := do
  let s := s.addChannels c.channels.keys
  let start := latestEnd b ps 0
  let chs := c.channels.entries.foldl (fun t e => t.modify e.1 (place · e.2 start back)) s.channels
  pure (⟨chs, none⟩, occupy b zone (start + c.channels.values.foldl (fun most seg => seg.duration.greater most) 0))

/-- Extends a schedule by another one that is placed as a block, in seconds. Channels may have different
rates; a wait is rounded up to the channel's grid, and the excess delays the end of the content. -/
def extendHardBoundaryInSeconds (b : Busy) (back : Bool) (chs : Channels) : Outcome (Schedule × Busy) := do
  let start := (latestEnd b ps (.float 0.0)).toFloat
  let mut table := (s.addChannels c.channels.keys).channels
  let mut length : Float := 0.0
  for (m, childSegment) in c.channels.entries do
    let seg := (table.get? m).getD default
    let ch ← chs.named m
    let time ← ch.toSeconds seg.duration
    let mut filled := seg
    let mut excess : Float := 0.0
    if time + tol < start then
      let wait := roundTo (start - time) toleranceDecimals
      let rounded ← ch.roundToGranularity wait true true
      filled := seg.append (.wait (← ch.toWholeSamples (.float rounded) "Given duration" true))
      excess := rounded - wait
    let content := if back then childSegment.instructions.reverse else childSegment.instructions
    table := table.insert m ⟨filled.instructions ++ content, filled.duration + childSegment.duration⟩
    let childTime := (← ch.toSeconds childSegment.duration) + excess
    length := if length < childTime || length == childTime then childTime else length
  pure (⟨table, none⟩, occupy b zone (.float (start + length)))

/-!
Frame changes that flux pulses bring to other channels.

A flux pulse can list frame changes of drive channels that it does not play on. To finish a schedule, each is
taken over by the first pulse or frame change of its drive channel that does not start before the flux pulse.
-/

def isFluxName (n : String) : Bool := 1 < (n.splitOn "flux").length

variable (s : Schedule)

def hasOuterFrames : Bool :=
  s.channels.entries.any fun e => (e.2.instructions.any fun
    | .fluxPulse _ _ _ fs => !fs.isEmpty
    | _ => false) && isFluxName e.1

def firstPlaying (time : Number) : Number → Nat → List Instruction → Option Nat
  | _, _, [] => none
  | elapsed, pos, i :: xs =>
    let isIdle := i.kind.isA .wait || i.kind == .block || i.kind == .nothing
    if !isIdle && decide (time ≤ elapsed) then some pos
    else firstPlaying time (elapsed + i.duration) (pos + 1) xs

def addFrame (angle : Float) : Instruction → Outcome Instruction
  | .virtualRz span phase => return .virtualRz span (phase + angle)
  | .iqPulse p => return .iqPulse { p with phaseStep := p.phaseStep + angle }
  | x => refuse s!"Unknown drive channel instruction {x.shown}"

def takeOver (s copy : Schedule) (time : Number) (frame : String × Float) : Outcome Schedule :=
  match s.channels.get? frame.1, copy.channels.get? frame.1 with
  | some source, some t => do
    let some pos := firstPlaying time 0 0 source.instructions | pure copy
    let present := (t.instructions[pos]?).getD default
    return copy.setSegment frame.1 { t with instructions := t.instructions.set pos (← addFrame (-frame.2) present) }
  | _, _ => pure copy

def takeOverFrom (s : Schedule) : Number → List Instruction → Schedule → Outcome Schedule
  | _, [], copy => pure copy
  | time, i :: xs, copy => do
    let frames := if let .fluxPulse _ _ _ frames := i then (Table.ofList frames).entries else []
    takeOverFrom s (time + i.duration) xs (← frames.foldlM (fun copy frame => s.takeOver copy time frame) copy)

def withOuterFrames : Outcome Schedule := do
  (s.channels.entries.filter (isFluxName ·.1)).foldlM (fun copy e => s.takeOverFrom 0 e.2.instructions copy) s.measured

/-- The schedule ready to be played: with frame changes taken over, without channels that idle throughout. -/
def finish := do if s.hasOuterFrames then return (← s.withOuterFrames).cleanup else pure s.cleanup

end Schedule

end Transmon
