import Transmon.Schedule.Basic

/-!
Finding and replacing instructions in a schedule.
-/

namespace Transmon.Schedule

/-- Where an instruction stands and how long it takes. -/
structure Location where
  channel : String
  index : Nat
  duration : Number

variable (s : Schedule) (k : InstrKind)

def locateIn (atLeast : Number) (ch : String) : Outcome (List Location) := do
  let indexed := (← s.segment ch).instructions.mapIdx fun k i => (k, i)
  return (indexed.filter fun e => e.2.kind.isA k && decide (atLeast ≤ e.2.duration)).map fun e =>
    ⟨ch, e.1, e.2.duration⟩

def locate (atLeast : Number) (chs : Option Names) :=
  return (← (chs.getD s.channels.keys).mapM (s.locateIn k atLeast)).flatten

def findWaits (chs : Names) (atLeast : Number) (skipLeading skipTrailing : Bool) : Outcome (List Location) :=
  return (← s.locate .wait atLeast (some chs)).filter fun wait =>
    let isLast := (s.channels.get? wait.channel).any (wait.index + 1 == ·.instructions.length)
    !(skipLeading && wait.index == 0) && !(skipTrailing && isLast)

def replace (ch : String) (i : Int) (new : List Instruction) : Outcome Schedule := do
  let some seg := s.channels.get? ch | refuse s!"No channel named {ch} in schedule"
  if 0 ≤ i ∧ i < seg.instructions.length then
    let place := i.toNat
    let present := (seg.instructions[place]?).getD default
    let fresh := Segment.ofInstructions new
    if present.duration != fresh.duration then
      refuse (s!"Replacement duration does not match original segment duration.\nOriginal:    {present.duration.text}\n" ++
        s!"Replacement: {fresh.duration.text}")
    return s.setSegment ch (.ofInstructions (seg.instructions.take place ++ new ++ seg.instructions.drop (place + 1)))
  else refuse s!"Index {i} is not in the segment."

/-- Joins neighbouring waits, and the empty blocks between them, into one wait. The state is the
instructions so far in reverse and the wait that is being gathered, if any. -/
def joinWaits : List Instruction → Option Number → List Instruction → List Instruction
  | done, gathered, [] =>
    match gathered with
    | some total => if 0 < total then (.wait total :: done).reverse else done.reverse
    | none => done.reverse
  | done, gathered, i :: xs =>
    match i, gathered with
    | .wait d, _ | .moveMarker d .., _ => joinWaits done (some (gathered.getD 0 + d)) xs
    | .block d, some total =>
      if d == 0 then joinWaits done gathered xs
      else joinWaits (i :: .wait total :: done) none xs
    | _, some total => joinWaits (i :: .wait total :: done) none xs
    | _, none => joinWaits (i :: done) none xs

/-- A segment with neighbouring waits joined; its duration stays. -/
def mergeWaits (seg : Segment) : Segment := ⟨joinWaits [] none seg.instructions, seg.duration⟩

/-!
Schedules as text: a drawing with one line per channel, and listings of instructions.
-/

def symbols : InstrKind → Char × Char
  | .wait => ('|', ' ')
  | .block => ('B', '.')
  | .iqPulse => ('!', '=')
  | .realPulse => ('R', '-')
  | .fluxPulse => ('F', '-')
  | .virtualRz => ('Z', '~')
  | .conditional => ('C', '*')
  | .readout => ('R', '=')
  | _ => ('?', ' ')

/-- The drawing of a segment. Each instruction gets as many symbols as bring the printed time nearest to
the elapsed time. -/
def drawSegment (unit : Number) (is : List Instruction) : Outcome String := do
  let mut line := ""
  let mut elapsed : Number := 0
  let mut printed : Number := 0
  for instr in is do
    let (x, next) := symbols instr.kind
    elapsed := elapsed + instr.duration
    let count ← Channel.wholeNear (← (elapsed - printed).divide unit) false
    printed := printed + count * unit
    if 0 < count then line := line.push x
    line := line ++ "".pushn next (count - 1).toNat
  pure line

variable (s : Schedule)

def draw (unit : Number) : Outcome String := do
  let len ← s.duration.divide unit
  if len > 1000 then return s!"Schedule too long to print ({Decimal.truncate len} symbols)."
  let w := s.channels.keys.foldl (fun w n => max w n.length) 0 + 2
  let ls ← s.channels.entries.mapM fun e => do
    let body ← drawSegment unit e.2.instructions
    return Text.padRight e.1 w ++ Text.padLeft (toString e.2.instructions.length) 3 ++ ":" ++ body ++ "|\n"
  return .join ls

def listChannel (ch : String) : Outcome String := do
  let some seg := s.channels.get? ch | refuse s!"No channel named {ch} in schedule"
  let ls := seg.instructions.mapIdx fun k i => s!"[{k}]: {i.kind.name} ({i.duration.text})\n"
  return s!"Channel name: {ch}\n\n" ++ .join ls

def list : Outcome String := do
  let ps ← s.channels.keys.mapM fun ch => return "\n--------------\n\n" ++ (← s.listChannel ch)
  return .join ps

end Transmon.Schedule

/-!
Dynamical decoupling: sequences of rotations in place of long waits.

The time that the rotations leave is divided between them. Every second interval is full, the others are too
except that the first and the last share one according to the alignment.
-/

namespace Transmon.Schedule.Decoupling

open Decimal Numeric

/-- Ends a computation because a sequence cannot be placed. -/
def reject {α : Type} (reason : String) : Outcome α := failWith .decoupling reason

def ofPattern (pat : String) : Outcome (List (Float × Float)) := do
  let letters := Names.ofList (pat.toList.map Char.toString)
  let unknown := Names.diff letters ["X", "Y"]
  if !unknown.isEmpty then
    let submitted := Names.shown letters
    reject (s!"There are unsupported gate(s) {Names.shown unknown} present in the submitted sequence {submitted}")
  return pat.toList.map fun letter => if letter = 'X' then (pi, 0.0) else (pi, pi / 2.0)

/-- Splits a number into parts that differ by at most one; no part is below the step, unless it is zero. The
fuel bounds how often a remainder is split again. -/
def splitWithin : Nat → Int → Int → Int → Outcome (List Int)
  | 0, _, _, _ => pure []
  | fuel + 1, n, ps, step => do
    let times (count : Int) (v : Int) : List Int := .replicate count.toNat v
    if ps = 0 then return []
    if n = 0 then return times ps 0
    if n < step then reject s!"It is not possible to split {n}, because it is smaller than the split step {step}."
    let quot := n.fdiv ps
    let rem := n.fmod ps
    if step ≤ quot then return times rem (quot + 1) ++ times (ps - rem) quot
    if step = 0 then fail .divisionByZero
    let filled := n.fdiv step
    let xs ← splitWithin fuel (n.fmod step) filled 1
    let zeros := times (ps - filled) 0
    return .zipWith (· + ·) (xs ++ zeros) (times filled step ++ zeros)

def split (n ps step : Int) := splitWithin 4 n ps step

def offset? (align : String) :=
  match align.toLower with
  | "asap" => some (-1.0)
  | "center" => some 0.0
  | "alap" => some 1.0
  | _ => none

def intervals (slots : Int) (n : Int) (least : Int) (align : String) : Outcome (List Int × List Int) := do
  match offset? align with
  | none => reject s!"Unsupported single-qubit gate sequence alignment requested: {align}"
  | some off =>
    let outer := nearest (ofInt slots / 2.0)
    let ps := n.fdiv 2
    let odd ← split (slots - outer) ps least
    let even ← split outer ps least
    match even with
    | [] => fail .index
    | shared :: xs =>
      let x := nearest (ofInt shared / 2.0 * (1.0 + off))
      pure (x :: xs ++ [shared - x], odd)

def inTwos {α : Type} : List α → List (α × α)
  | a :: b :: xs => (a, b) :: inTwos xs
  | _ => []

variable (rs : List Segment)

/-- The time that rotations leave of a wait, in steps of the grid. -/
def slotsLeft (wait : Number) (gran : Int) : Outcome Int := do
  if rs.length % 2 ≠ 0 then reject "The number of DD gates in the sequence has to be even."
  let ds := rs.map Segment.duration
  let isUniform := match ds with
    | [] => false
    | first :: xs => xs.all (· == first)
  if !isUniform then
    let shown := Text.listed (ds.map Number.text)
    reject s!"The durations of all the gates in the provided DD gate sequence must be equal (now {shown})."
  let total := ds.foldl (· + ·) 0
  let residual := wait - total
  if residual < 0 then
    let count := rs.length
    reject (s!"The waiting time ({wait.text} samples) cannot accomodate the {count} DD gates required "
      ++ s!"(duration {total.text}).")
  if gran = 0 then fail .divisionByZero
  let residual ← match residual with
    | .int n => pure n
    | .float x =>
      if flooredRemainder x (ofInt gran) != 0.0 then
        reject "The (remaining) waiting time is not a multiple of the granularity!"
      else if x == 0.0 then pure 0
      else fail .type
  if residual.fmod gran ≠ 0 then reject "The (remaining) waiting time is not a multiple of the granularity!"
  return residual.fdiv gran

/-- The rotations in turn, with waits before, between and after them. -/
def woven (gran : Int) (even odd : List Int) :=
  let pause (slots : Int) : Instruction := .wait (.int (gran * slots))
  pause (even.headD 0) :: ((inTwos rs).zip (odd.zip (even.drop 1))).flatMap fun ((x, y), between, after) =>
    x.instructions ++ [pause between] ++ y.instructions ++ [pause after]

def sequence (wait : Number) (gran least : Int) (align : String) := do
  let (even, odd) ← intervals (← slotsLeft rs wait gran) rs.length (least.fdiv gran) align
  return woven rs gran even odd

def robustPhases (n : Int) : Outcome Floats := do
  if n ≤ 0 || n % 2 ≠ 0 then refuse "n should be a positive even number."
  let phi :=
    if n % 4 = 0 then pi / ofInt (n / 4)
    else ofInt (2 * (n / 4)) * pi / ofInt (2 * (n / 4) + 1)
  return (List.range n.toNat).map fun (pos : Nat) =>
    let i : Int := pos
    flooredRemainder (ofInt (i * (i - 1)) * phi / 2.0 + ofInt i * pi / 2.0) (2.0 * pi)

end Transmon.Schedule.Decoupling
