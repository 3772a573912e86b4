import Transmon.Schedule.Basic

/-!
Time boxes: content that is scheduled as one block.

An atomic box has a schedule of its own. A composite box has children; its schedule is found when the box
is resolved, and is then kept. A box also keeps the components that it blocks at each distance, once they
have been found.
-/

namespace Transmon

/-- Which way the children of a box are pushed. -/
inductive Timebox.Strategy
  | asap | alap
deriving DecidableEq

/-- How the children of a box are placed. -/
inductive Timebox.Algorithm
  | hardBoundary | tetris
deriving DecidableEq

/-- A block of content. Boxes that are kept on a shelf carry their number there. -/
structure Timebox where
  number : Option Nat := none
  isProbe : Bool := false
  label : String
  locus : Names
  timeline : Option Schedule
  children : List Timebox := []
  strategy : Timebox.Strategy := .asap
  algorithm : Timebox.Algorithm := .hardBoundary
  blocked : Table Int Names := ∅

namespace Timebox

instance : Inhabited Timebox := ⟨{ label := "", locus := [], timeline := none }⟩

def Strategy.name : Strategy → String
  | asap => "ASAP"
  | alap => "ALAP"

def Strategy.ofName? : String → Option Strategy
  | "ASAP" => some asap
  | "ALAP" => some alap
  | _ => none

def Algorithm.name : Algorithm → String
  | hardBoundary => "HARD_BOUNDARY"
  | tetris => "TETRIS"

def Algorithm.ofName? : String → Option Algorithm
  | "HARD_BOUNDARY" => some hardBoundary
  | "TETRIS" => some tetris
  | _ => none

def atomic (s : Schedule) (locus : Names) (label : String) : Timebox :=
  { label, locus := .ofList locus, timeline := some s }

def composite (children : List Timebox) (label : String) (s : Strategy) (a : Algorithm) : Timebox :=
  { label, locus := children.foldl (fun ns c => ns.union c.locus) [], timeline := none, children,
    strategy := s, algorithm := a }

def probe (t : Instruction) (ch : String) (locus : Names) (label : String)
    (blockedChannels : Names) (blockDuration : Number) : Timebox :=
  let cs : Table String (List Instruction) := .ofList ((ch, [t]) :: blockedChannels.map (·, [.block blockDuration]))
  { isProbe := true, label, locus := .ofList locus, timeline := some (.ofChannels cs.entries (some t.duration)) }

variable (box : Timebox)

def parts := if box.timeline.isNone then box.children else [box]

/-- The distances up to the greatest that either box keeps, where both keep the blocked components. -/
def commonBlocked (a b : Table Int Names) : Table Int Names :=
  ⟨((List.range ((a.keys ++ b.keys).foldl max (-1) + 1).toNat).map .ofNat).filterMap fun dist =>
    match a.get? dist, b.get? dist with
    | some left, some right => some (dist, left.union right)
    | _, _ => none⟩

/-- Joins the contents of one channel of two probe boxes: triggers are merged, other content follows. -/
def joinSegments (left right : Segment) := do
  match right.instructions, left.instructions with
  | [], _ => fail .index
  | .readout _ :: _, [] => fail .index
  | .readout later :: _, .readout x :: xs => pure { left with instructions := .readout (x.merge later) :: xs }
  | c, _ => return left.extend c

def joinChannel (t : Table String Segment) (e : String × Segment) := do
  let some held := t.get? e.1 | return t.insert e.1 e.2
  return t.insert e.1 (← joinSegments held e.2)

/-- The contents of two probe boxes, played at once where both probe on a channel. -/
def joinTimelines (left right : Schedule) : Outcome Schedule := do
  let joined ← right.channels.entries.foldlM joinChannel left.channels
  pure ⟨joined.map fun _ seg => .ofInstructions seg.instructions, none⟩

/-- One box after the other. Probe boxes with schedules are played at once. -/
def plus (a b : Timebox) : Outcome Timebox :=
  let locus := a.locus.union b.locus
  let seq : Timebox :=
    { label := a.label, locus, timeline := none, children := a.parts ++ b.parts, strategy := a.strategy,
      algorithm := a.algorithm }
  match a.isProbe && b.isProbe, a.timeline, b.timeline with
  | true, some left, some right =>
    return { isProbe := true, label := s!"MultiplexedProbeTimeBox on {locus.shown}", locus,
             timeline := some (← joinTimelines left right), strategy := a.strategy, algorithm := a.algorithm,
             blocked := commonBlocked a.blocked b.blocked }
  | _, _, _ => pure seq

def child (i : Int) : Outcome Timebox :=
  if box.children.isEmpty then
    if box.timeline.isSome then fail .invalid
    else refuse ("Tried to access a child of " ++ (if box.isProbe then "MultiplexedProbeTimeBox" else "TimeBox")
      ++ s!"(label={Text.quoted box.label}, locus_components={box.locus.shown}, atom=None, children=(), "
      ++ s!"scheduling=<SchedulingStrategy.{box.strategy.name}: '{box.strategy.name}'>, "
      ++ s!"scheduling_algorithm=<SchedulingAlgorithm.{box.algorithm.name}: '{box.algorithm.name}'>, "
      ++ "neighborhood_components="
      ++ Text.mapped (box.blocked.entries.map fun e => (toString e.1, e.2.shown)) ++ "), which is atomic.")
  else require .index ((Segment.position? box.children.length i).bind (box.children[·]?))

mutual

def validationReport (p : Names) : Timebox → String
  | ⟨_, _, l, _, tl, cs, _, _, _⟩ =>
    match tl with
    | some s =>
      if s.channels.isEmpty then reportAll (p ++ [l]) cs
      else s.validationReport (p ++ [l])
    | none => reportAll (p ++ [l]) cs

def reportAll (p : Names) : List Timebox → String
  | [] => ""
  | b :: xs => b.validationReport p ++ reportAll p xs

end

mutual

def outline (i : String) : Timebox → String
  | ⟨_, _, l, locus, tl, cs, _, _, _⟩ =>
    let n := if l.isEmpty then s!"(unnamed on {locus.shown})" else l
    let mark := if let some s := tl then if s.channels.isEmpty then "" else " (atomic)" else ""
    Text.padRight s!"{i}:" 12 ++ n ++ mark ++ "\n" ++ outlineAll i 0 cs

def outlineAll (pos : String) (i : Nat) : List Timebox → String
  | [] => ""
  | b :: xs => b.outline s!"{pos}[{i}]" ++ outlineAll pos (i + 1) xs

end

/-!
Playing the probe pulses of a circuit at once where nothing stands between them.
-/

/-- Whether two boxes have nothing in common. Boxes without a locus are compared by what they block themselves. -/
def isDisjoint (a b : Timebox) :=
  let touching := (a.locus.isEmpty || b.locus.isEmpty) && Names.meets (a.blocked.getD 0 []) (b.blocked.getD 0 [])
  !touching && !Names.meets a.locus b.locus

def probePart? := box.children.head?.filter Timebox.isProbe

/-- What is placed, and the probe box that may still take up others. -/
structure Collected where
  placed : List Timebox := []
  pending : Option Timebox := none

def Collected.all (s : Collected) := s.placed ++ s.pending.toList

/-- Takes one more box. A probe joins the pending one if nothing forbids it; another box has to wait for a pending
probe only if they have something in common. -/
def Collected.add (s : Collected) (b : Timebox) : Outcome Collected :=
  match b.probePart?, s.pending with
  | some probe, none => pure { s with pending := some probe }
  | some probe, some pending => do
    if isDisjoint pending b then return { s with pending := some (← pending.plus probe) }
    pure ⟨s.placed ++ [pending], some probe⟩
  | none, none => pure { s with placed := s.placed ++ [b] }
  | none, some pending =>
    if isDisjoint pending b then pure { s with placed := s.placed ++ [b] }
    else pure ⟨s.placed ++ [pending, b], none⟩

def multiplexed (c : Timebox) :=
  return composite (← c.children.foldlM Collected.add {}).all c.label c.strategy c.algorithm

/-!
A shelf of boxes that are shared.

The same box may be a child of several others, and what becomes known about it (its schedule, the
components it blocks, its label) is then known wherever it is used. A shelf holds the latest version of each
box by number. A tree taken from the shelf is unfolded: its children are copies of the latest versions.
Putting a tree back records what was learned about every box in it.
-/

/-- The latest versions of the boxes by number. -/
abbrev Shelf := Array Timebox

namespace Shelf

mutual

def enroll (s : Shelf) : Timebox → Timebox × Shelf
  | ⟨num, isProbe, l, locus, tl, cs, st, algo, blocked⟩ =>
    let (cs, s) := enrollAll s cs
    match num with
    | some n => (⟨some n, isProbe, l, locus, tl, cs, st, algo, blocked⟩, s)
    | none =>
      let b : Timebox := ⟨some s.size, isProbe, l, locus, tl, cs, st, algo, blocked⟩
      (b, s.push b)

def enrollAll (s : Shelf) : List Timebox → List Timebox × Shelf
  | [] => ([], s)
  | b :: xs =>
    let (b, s) := enroll s b
    let (xs, s) := enrollAll s xs
    (b :: xs, s)

end

def unfold (s : Shelf) : Nat → Timebox → Timebox
  | 0, b => b
  | depth + 1, b =>
    let latest := (b.number.bind (s[·]?)).getD b
    { latest with children := latest.children.map (unfold s depth) }

def depth := 200

variable (shelf : Shelf)

def tree (n : Nat) :=
  match shelf[n]? with
  | some b => unfold shelf depth b
  | none => default

def knowledge (b : Timebox) := (if b.timeline.isSome then 1 else 0) + b.blocked.size

def recordOne (b : Timebox) : Shelf :=
  match b.number with
  | none => shelf
  | some n =>
    match shelf[n]? with
    | none => shelf
    | some known => if knowledge known ≤ knowledge b then shelf.setIfInBounds n b else shelf

mutual

def record (s : Shelf) : Timebox → Shelf
  | ⟨n, isProbe, l, locus, tl, cs, st, algo, blocked⟩ =>
    recordOne (recordAll s cs) ⟨n, isProbe, l, locus, tl, cs, st, algo, blocked⟩

def recordAll (s : Shelf) : List Timebox → Shelf
  | [] => s
  | b :: xs => recordAll (record s b) xs

end

def change (n : Nat) (f : Timebox → Timebox) : Shelf := shelf.modify n f

end Shelf

/-- Work with a shelf that may be refused; what was done on the shelf stays. -/
abbrev Shelving := Work Shelf

def Shelving.put (b : Timebox) : Shelving Nat := do
  let (b, shelf) := Shelf.enroll (← get) b
  set shelf
  let some n := b.number | fail .runtime
  pure n

def Shelving.tree (n : Nat) : Shelving Timebox := return Shelf.tree (← get) n

def Shelving.change (n : Nat) (f : Timebox → Timebox) : Shelving Unit := modify (·.change n f)

/-- One box on the shelf, or a list of them. -/
inductive Group
  | one (number : Nat)
  | many (numbers : List Nat)
deriving BEq

/-- Boxes in nested groups. -/
inductive Nesting
  | box (number : Nat)
  | group (items : List Nesting)

mutual

/-- The boxes of a nesting in order; a group that has items has to have boxes. -/
def Nesting.flatten : Nesting → Outcome (List Nat)
  | .box n => pure [n]
  | .group xs => do
    let ns ← flattenAll xs
    if ns.isEmpty && !xs.isEmpty then fail .type
    pure ns

def Nesting.flattenAll : List Nesting → Outcome (List Nat)
  | [] => pure []
  | x :: xs => do return (← x.flatten) ++ (← flattenAll xs)

end

def Group.nesting : Group → Nesting
  | one n => .box n
  | many ns => .group (ns.map .box)

def Group.numbers : Group → List Nat
  | one n => [n]
  | many ns => ns

namespace Shelving

def compose (xs : List Nesting) (l : String) (st : Strategy) (algo : Algorithm) : Shelving Nat := do
  put (composite (← (← (Nesting.group xs).flatten).mapM tree) l st algo)

def plus (a b : Nat) : Shelving Nat := do put (← (← tree a).plus (← tree b))

def sum : List Nat → Shelving Nat
  | [] => fail .type
  | x :: xs => xs.foldlM plus x

def add : Group → Group → Shelving Group
  | .one a, .one b => .one <$> plus a b
  | .one a, .many bs => .one <$> bs.foldlM plus a
  | .many [], .one b => return .one b
  | .many (a :: as), .one b => return .one (← plus (← as.foldlM plus a) b)
  | .many as, .many bs => return .many (as ++ bs)

def beside : Group → Group → Shelving Group
  | .one a, b => do return .one (← compose [.box a, .box (← sum b.numbers)] "" .asap .hardBoundary)
  | .many as, .one b => do return .one (← compose [.box (← sum as), .box b] "" .asap .hardBoundary)
  | .many _, .many _ => fail .type

/-- Adds content to a box that has no schedule yet; what is added to a list makes something new. -/
def extend : Group → Group → Shelving Group
  | .one a, b => do
    if (← tree a).timeline.isSome then refuse "Cannot add content to an atomic TimeBox."
    let sum ← tree (← b.numbers.foldlM plus a)
    change a ({ · with children := sum.children, locus := sum.locus })
    return .one a
  | a, b => add a b

end Shelving

end Timebox

end Transmon
