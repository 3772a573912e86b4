import Transmon.Schedule.Basic

/-!
A cursor that runs through the instructions of a segment by time.

The cursor stands at an instruction and some time into it. It can be moved back over anything, and
forward over free or blocked stretches only.
-/

namespace Transmon

/-- A place in a list of instructions: an index, and a time into that instruction. An index below zero
counts from the end. -/
structure Cursor where
  source : List Instruction
  index : Int
  tol : Float
  elapsed : Float := 0.0

namespace Cursor

variable (c : Cursor)

def get := require .index ((⟨c.source, 0⟩ : Segment).get? c.index)

def remainder := return (← c.get).duration.toFloat - c.elapsed

def isDone : Bool := c.source.length ≤ c.index

def next := { c with index := c.index + 1, elapsed := 0.0 }

def cutPoint := if c.index < 0 then (c.index + c.source.length).toNat else c.index.toNat

def before := c.source.take c.cutPoint

def tail := c.source.drop c.cutPoint

def cutTail := { c with source := c.tail, index := 0 }

def isFree (i : Instruction) := i.kind == .block || i.kind == .nothing

/-- Moves back while there is time left to go; each step leaves the instruction or ends the movement. -/
def rewindLoop : Nat → Cursor → Float → Outcome Cursor
  | 0, _, _ => fail .index
  | fuel + 1, c, span => do
    if span > c.tol then
      let step := if c.elapsed < span then c.elapsed else span
      let elapsed := c.elapsed - step
      if elapsed < c.tol then
        let moved := { c with index := c.index - 1, elapsed }
        rewindLoop fuel { moved with elapsed := elapsed + (← moved.get).duration.toFloat } (span - step)
      else rewindLoop fuel { c with elapsed } (span - step)
    else pure c

def rewind (span : Float) : Outcome Cursor := do
  let c ← rewindLoop (2 * c.source.length + c.index.natAbs + 8) c span
  let c := if c.elapsed + c.tol > (← c.get).duration.toFloat then c.next else c
  if c.index < 0 then failWith .index "rewinded too far"
  pure c

/-- Moves forward while there is time left to go. The flag says whether the end was passed. -/
def forwardLoop : Nat → Cursor → Float → Float → Outcome (Bool × Cursor)
  | 0, _, _, _ => fail .index
  | fuel + 1, c, len, span => do
    if span > c.tol then
      let i ← c.get
      if !isFree i then refuse s!"trying to fastforward over solid things! {i.shown}"
      let left := len - c.elapsed
      let step := if left < span then left else span
      let elapsed := c.elapsed + step
      if elapsed + c.tol > len then
        let moved := { c with index := c.index + 1, elapsed }
        if moved.isDone then return (true, moved)
        forwardLoop fuel { moved with elapsed := elapsed - len } (← moved.get).duration.toFloat (span - step)
      else forwardLoop fuel { c with elapsed } len (span - step)
    else pure (false, c)

/-- Moves forward by a time over free stretches. The flag says whether the end was passed. -/
def forward (span : Float) : Outcome (Bool × Cursor) := do
  let len := (← c.get).duration.toFloat
  if span ≤ c.tol then
    let c := if len < c.tol then { c with index := c.index + 1 } else c
    pure (c.isDone, c)
  else forwardLoop (2 * c.source.length + 8) c len span

end Cursor

/-!
Extending a schedule by another one whose free stretches may overlap.

The first form overlaps a trailing block of the schedule with a leading block of the extension. The second
form overlaps all free and blocked stretches at the seam, as far as the solid content of both sides
allows, and merges the overlapping stretches piece by piece.
-/

namespace Schedule

/-- The seam of one channel: the schedule's segment without its trailing block, the extension's segment
without its leading block, the time at which the extension could start, and the leading block's duration. -/
structure Seam where
  (left right : Segment)
  start : Number
  leading : Option Number

/-- Opens the seam between two segments. An extension that consists of one block only can overlap all of
the trailing block. -/
def openSeam (left right : Segment) : Seam :=
  let total := left.duration
  let (left, trailing) : Segment × Number := match left.instructions.getLast? with
    | some (.block d) => (⟨left.instructions.dropLast, left.duration - d⟩, d)
    | _ => (left, 0)
  match right.instructions with
  | .block d :: xs =>
    ⟨left, ⟨xs, right.duration - d⟩, total - trailing.lesser (if xs.isEmpty then .float (1.0 / 0.0) else d), some d⟩
  | _ => ⟨left, right, total - trailing.lesser 0, none⟩

variable (s extension : Schedule) (chs : Channels)

def extendOverlapping (tol : Float) : Outcome Schedule := do
  let s := s.addChannels extension.channels.keys
  let seams ← extension.channels.mapM fun n right => do return openSeam (← s.segment n) right
  let start := greatest 0 (seams.values.map Seam.start)
  let mut result := s
  for (n, seam) in seams.entries do
    let gap := start - seam.left.duration + seam.leading.getD (.float 0.0)
    let mut left := seam.left
    if .float tol < gap then
      let _ ← (← chs.named n).toWholeSamples gap s!"{n}: Block duration" true
      left := left.append (.block gap)
    result := result.setSegment n (left.extend seam.right.instructions)
  pure result

/-- How deep content can be moved into a list of instructions: the time that is free, and the blocked time
behind it. A list without solid content can be overlapped without limit. -/
def freeDepth : Float → Float → Bool → List Instruction → Float × Float
  | free, blocked, blockSeen, [] => if blockSeen then (free, 1.0 / 0.0) else (1.0 / 0.0, blocked)
  | free, blocked, blockSeen, i :: xs =>
    let d := i.duration.toFloat
    if blockSeen then if Cursor.isFree i then freeDepth free (blocked + d) true xs else (free, blocked)
    else match i with
      | .nothing _ => freeDepth (free + d) blocked false xs
      | .block _ => freeDepth free (blocked + d) true xs
      | _ => (free, blocked)

def overlapStart : Outcome Float := do
  let starts ← extension.channels.entries.mapM fun e => do
    let left ← s.segment e.1
    let (freeLeft, blockedLeft) := freeDepth 0.0 0.0 false left.instructions.reverse
    let (freeRight, blockedRight) := freeDepth 0.0 0.0 false e.2.instructions
    let blocked := if blockedRight < blockedLeft then blockedRight else blockedLeft
    return left.duration.toFloat - freeLeft - freeRight - blocked
  return starts.foldl (fun latest t => if latest < t then t else latest) 0.0

def shownOpt : Option Instruction → String
  | some i => i.shown
  | none => "None"

variable (n : String)

def mergeStretches (chs : Channels) (tol : Float)
    (left right : Option Instruction) (span : Float) : Outcome Instruction := do
  if span > tol then
    let ch ← chs.named n
    let _ ← ch.toWholeSamples (.float span) s!"{n}: {shownOpt left} + {shownOpt right}: overlap duration" true
  match left, right with
  | some (.nothing _), some (.nothing _) => return .nothing (.float span)
  | _, _ => return .block (.float span)

/-- A merge in progress: the instructions so far, the two cursors, and which of them are at their end. -/
structure Merge where
  done : List Instruction
  (left right : Cursor)
  leftDone : Bool := false
  rightDone : Bool := false

def Merge.takeLeft (m : Merge) (i : Instruction) : Outcome Merge := do
  let (rightDone, right) ← m.right.forward (← m.left.remainder)
  let left := m.left.next
  pure ⟨m.done ++ [i], left, right, left.isDone, rightDone⟩

def Merge.takeRight (m : Merge) (i : Instruction) : Outcome Merge := do
  let (leftDone, left) ← m.left.forward (← m.right.remainder)
  let right := m.right.next
  pure ⟨m.done ++ [i], left, right, leftDone, right.isDone⟩

def Merge.run (n : String) (chs : Channels) (tol : Float) : Nat → Merge → Outcome Merge
  | 0, merge => pure merge
  | fuel + 1, merge => do
    if merge.leftDone || merge.rightDone then return merge
    let a ← merge.left.get
    let b ← merge.right.get
    if !Cursor.isFree a then run n chs tol fuel (← merge.takeLeft a)
    else if !Cursor.isFree b then run n chs tol fuel (← merge.takeRight b)
    else
      let leftTime ← merge.left.remainder
      let rightTime ← merge.right.remainder
      let step := if rightTime < leftTime then rightTime else leftTime
      let m ← mergeStretches n chs tol (some a) (some b) step
      let (leftDone, left) ← merge.left.forward step
      let (rightDone, right) ← merge.right.forward step
      run n chs tol fuel ⟨merge.done ++ [m], left, right, leftDone, rightDone⟩

/-- What is left at a cursor after the other side ended: the rest of the instruction at the cursor, if the
cursor is inside one, and everything behind it. -/
def restOf (chs : Channels) (tol : Float) (c : Cursor) (onLeft : Bool) : Outcome (List Instruction) := do
  if c.elapsed > tol then
    let i ← c.get
    let time ← c.remainder
    let (left, right) := if onLeft then (some i, none) else (none, some i)
    return (← mergeStretches n chs tol left right time) :: c.next.tail
  else pure c.tail

def mergeSegments (chs : Channels) (tol : Float)
    (left right : List Instruction) (overlap : Float) : Outcome (List Instruction) := do
  let c ← (⟨left, left.length, tol, 0.0⟩ : Cursor).rewind overlap
  let start : Merge := ⟨c.before, c.cutTail, ⟨right, 0, tol, 0.0⟩, false, false⟩
  let start ← (do
    if start.left.elapsed > tol then
      let a ← start.left.get
      if !Cursor.isFree a then start.takeLeft a
      else
        pure { start with done := start.done ++ [← mergeStretches n chs tol (some a) none start.left.elapsed] }
    else return start : Outcome Merge)
  let merge ← Merge.run n chs tol (8 * (left.length + right.length) + 16) start
  if !merge.rightDone then return merge.done ++ (← restOf n chs tol merge.right false)
  else if !merge.leftDone then return merge.done ++ (← restOf n chs tol merge.left true)
  else pure merge.done

def extendMerging (tol : Float) : Outcome Schedule := do
  if extension.channels.isEmpty then return s
  let s := s.addChannels extension.channels.keys
  let start ← overlapStart s extension
  let mut result := s
  for (n, right) in extension.channels.entries do
    let left ← result.segment n
    let dist := start - left.duration.toFloat
    let is ←
      if dist >= -tol then
        pure (left.instructions ++ (if dist > tol then [.nothing (.float dist)] else []) ++ right.instructions)
      else mergeSegments n chs tol left.instructions right.instructions (-dist)
    result := result.setSegment n ⟨is, (.float start + right.duration).greater left.duration⟩
  pure result

end Schedule

end Transmon
