import Transmon.Routing.Route

/-!
Routing by a swap network on a rectangle of qubits.
-/

namespace Transmon.Routing

open Problem Quantity Route

structure Board where
  (width height : Nat)
  taken : List (Int × Int)

def Board.ofCells (cs : List (Int × Int)) : Outcome Board := do
  let x ← require .invalid (cs.map Prod.fst).min?
  let right ← require .invalid (cs.map Prod.fst).max?
  let y ← require .invalid (cs.map Prod.snd).min?
  let top ← require .invalid (cs.map Prod.snd).max?
  pure ⟨(right - x + 1).toNat, (top - y + 1).toNat, cs.map fun c => (c.1 - x, c.2 - y)⟩

def Board.stretch (side : Nat) (start : Int) (n : Nat) :=
  Slice.places (Slice.bound side false start) (Slice.bound side false (start + n)) 1

def Board.fits (b : Board) (cell : Int × Int) (w height : Nat) :=
  decide (cell.1 + w ≤ b.width) && decide (cell.2 + height ≤ b.height) &&
    (stretch b.width cell.1 w).all fun (x : Nat) =>
      (stretch b.height cell.2 height).all fun (y : Nat) => b.taken.contains (x, y)

structure Rectangle where
  (corner width height : Nat)

/-- The first rectangle with given sides, in either direction, that begins at one of some qubits. A qubit is looked
for on the board at its coordinates as they are. -/
def rectangleAt? (b : Board) (cs : Table Nat (Int × Int)) (height w : Nat) : List Nat → Outcome (Option Rectangle)
  | [] => pure none
  | q :: xs => do
    let cell ← cs.need q
    if b.fits cell w height then return some ⟨q, w, height⟩
    else if b.fits cell height w then return some ⟨q, height, w⟩
    else rectangleAt? b cs height w xs

def rectangle? (d : Device) (height w : Nat) := do
  let cs ← require .type d.cells?
  rectangleAt? (← Board.ofCells cs.values) cs height w d.graph.nodes

def sides (n : Nat) :=
  (List.range n.sqrt).reverse.filterMap fun (i : Nat) => if n % (i + 1) = 0 then some (i + 1, n / (i + 1)) else none

def Rectangle.cells (r : Rectangle) (l : Table Nat (Int × Int)) := do
  let corner ← l.need r.corner
  return l.filter fun _ cell =>
    decide (corner.1 ≤ cell.1) && decide (cell.1 < corner.1 + r.width) && decide (corner.2 ≤ cell.2) &&
      decide (cell.2 < corner.2 + r.height)

structure SwapSets where
  (oddRows evenRows evenColumns oddColumns : List Edge)

namespace SwapSets

variable (l : Table Nat (Int × Int))

def pairsAt (corner : Int × Int) (rs cols : Int) (q : Nat) (cell : Int × Int) : Outcome SwapSets := do
  let qubitAt (c : Int × Int) := require .missing ((l.entries.reverse.find? (·.2 = c)).map Prod.fst)
  let x := cell.1 - corner.1
  let y := cell.2 - corner.2
  let pairWith (isThere : Bool) (c : Int × Int) : Outcome (List Edge) := do
    if isThere then pure [.of q (← qubitAt c)] else pure []
  let isInside (z : Int) := z ≠ -1 && z ≠ cols
  let s := if x % 2 = 0 then 1 else -1
  let evenColumns ← pairWith (x % 2 = 0 && x ≠ rs - 1) (cell.1 + 1, cell.2)
  let oddColumns ← pairWith (x % 2 = 0 && x ≠ 0) (cell.1 - 1, cell.2)
  let evenRows ← pairWith (y % 2 = 0 && isInside (y + s)) (cell.1, cell.2 + s)
  let oddRows ← pairWith (y % 2 = 0 && isInside (y - s)) (cell.1, cell.2 - s)
  pure { oddRows, evenRows, evenColumns, oddColumns }

def make : Outcome SwapSets := do
  let xs := l.values.map Prod.fst
  let ys := l.values.map Prod.snd
  let corner := (← require .invalid xs.min?, ← require .invalid ys.min?)
  let rs := (← require .invalid xs.max?) - corner.1 + 1
  let cols := (← require .invalid ys.max?) - corner.2 + 1
  if rs * cols ≠ l.size then refuse "The provided layout is not a rectangular arrangement of qubits."
  let ps ← l.entries.mapM fun e => pairsAt l corner rs cols e.1 e.2
  let gathered (side : SwapSets → List Edge) : List Edge := (ps.flatMap side).eraseDups
  pure ⟨gathered oddRows, gathered evenRows, gathered evenColumns, gathered oddColumns⟩

variable {K : Type} [Quantity K]

/-- One sweep along the rows: exchanges by turns in both sets of row pairs, and lets column pairs interact after each
exchange. After the last exchange the even column pairs wait, unless the sweep is the last one. -/
def sweep (s : SwapSets) (n : Nat) (isFirst isLast : Bool) : Work (Route K) Unit :=
  (List.range (n - 1)).forM fun (i : Nat) => do
    (if i % 2 = 0 then s.evenRows else s.oddRows).forM (exchange · isFirst)
    s.oddColumns.forM attempt
    if i + 2 ≠ n || isLast then s.evenColumns.forM attempt

def run (s : SwapSets) (w n : Nat) : Work (Route K) Unit := do
  s.evenColumns.forM interact
  s.oddColumns.forM interact
  s.oddRows.forM interact
  let sweeps := (w + 1) / 2
  (List.range sweeps).forM fun (j : Nat) => do
    let isLast := j + 1 = sweeps
    s.sweep n (j = 0) isLast
    if !isLast then
      s.evenColumns.forM (exchange · true)
      s.oddColumns.forM (exchange · true)
      s.evenColumns.forM attempt

end SwapSets

variable {K : Type} [Quantity K]

def padded (problem : Model Nat K) :=
  (Model.pairsOf problem.unknowns).foldl (fun m p =>
    if (m.coupling? p.1 p.2).isSome then m else m.addCoupling p.1 p.2 zero) problem

def findRectangle (d : Device) : List (Nat × Nat) → Outcome Rectangle
  | [] => failWith .runtime "No rectangle of sufficient size can be embedded in the QPU."
  | (height, w) :: xs => do
    let some x ← rectangle? d height w | findRectangle d xs
    pure x

def networkRouted (d : Device) (p : Model Nat K) : Outcome (Route K) := do
  let some cs := d.cells?
    | failWith .type
        "When using swap networks for transpilation, the QPU layout needs to use integer coordinates."
  let x ← findRectangle d (sides p.size)
  let l ← x.cells cs
  let whole := padded p
  let sets ← SwapSets.make l
  let start ← Assignment.make d whole.unknowns (some ⟨l.keys.zipIdx.map fun e => (e.1, e.2)⟩)
  (sets.run x.width x.height).after (begin d whole start)

/-!
Routing by fixed patterns: for four to fifteen logical qubits, steps after which all pairs have met.
-/

inductive PatternStep
  | meet (a b : Nat)
  | swap (a b : Nat)

namespace Pattern

open PatternStep

/-- The nodes of the pattern for a number of logical qubits, in the order in which they are placed; there is one for
four to fifteen. -/
def nodes? : Nat → Option (List Nat)
  | 4 => some [13, 8, 14, 9]
  | 5 => some [13, 8, 14, 3, 9]
  | 6 => some [13, 8, 14, 3, 9, 4]
  | 7 => some [13, 8, 14, 3, 4, 7, 9]
  | 8 => some [9, 10, 13, 14, 3, 8, 4, 7]
  | 9 => some [9, 10, 13, 14, 3, 8, 15, 4, 7]
  | 10 => some [9, 10, 13, 14, 3, 8, 15, 5, 4, 7]
  | 11 => some [9, 10, 13, 14, 3, 8, 15, 5, 11, 4, 7]
  | 12 => some [9, 10, 5, 11, 16, 4, 3, 15, 8, 13, 14, 7]
  | 13 => some [9, 10, 5, 11, 16, 4, 3, 15, 8, 13, 14, 7, 6]
  | 14 => some [9, 10, 5, 11, 16, 4, 3, 15, 7, 12, 8, 13, 14, 6]
  | 15 => some [9, 10, 5, 11, 16, 4, 3, 15, 7, 12, 8, 2, 13, 14, 6]
  | _ => none

def edges :=
  [(13, 8), (13, 14), (14, 9), (9, 8), (3, 8), (4, 3), (9, 4), (8, 7), (9, 10), (10, 15), (14, 15), (10, 5), (4, 5),
    (10, 11), (11, 16), (15, 16), (11, 6), (5, 6), (7, 12), (13, 12), (3, 2), (7, 2)]

def graph? (n : Nat) : Option (Graph Nat Unit) :=
  (nodes? n).map fun ns =>
    .ofEdges ns ((edges.filter fun e => ns.contains e.1 && ns.contains e.2).map fun e => (e.1, e.2, ()))

def fourSteps := [meet 13 14, meet 9 8, meet 13 8, swap 14 9, meet 13 14, meet 9 8]

def fiveSteps :=
  [meet 13 14, meet 9 8, meet 13 8, swap 14 9, swap 8 3, meet 13 8, meet 13 14, swap 9 8, meet 14 9, meet 8 3]

def sixSteps :=
  [meet 13 14, meet 9 8, meet 4 3, meet 14 9, meet 3 8, swap 13 8, swap 9 4, meet 13 14, meet 9 8, meet 4 3,
    swap 14 9, swap 3 8, meet 13 14, meet 9 8, meet 4 3]

def sevenSteps :=
  [meet 13 14, meet 9 8, meet 4 3, meet 14 9, meet 3 8, meet 8 7, swap 13 8, swap 9 4, meet 8 7, meet 13 14,
    meet 9 8, meet 4 3, swap 14 9, swap 3 8, meet 13 14, meet 9 8, meet 4 3, swap 8 7, swap 9 8, meet 14 9,
    meet 9 4]

/-- The steps for fifteen logical qubits. Each number of qubits from ten on, and eight, uses a beginning of them. -/
def fifteenSteps : List PatternStep :=
  [meet 13 14, meet 9 8, meet 4 3, meet 14 9, meet 3 8, meet 8 7, meet 9 10, swap 13 8, swap 9 4, meet 8 7,
    meet 9 10, meet 13 14, meet 9 8, meet 4 3, swap 14 9, swap 3 8, meet 13 14, meet 9 8, meet 4 3,
    swap 8 7, swap 9 10, swap 9 8, meet 13 8, meet 9 4, meet 14 9, meet 3 8, meet 9 10, meet 8 7,
    meet 10 15, meet 4 5, swap 14 15, swap 10 5, meet 13 14, meet 10 15, meet 9 10, swap 14 9, meet 9 4,
    swap 9 8, meet 3 8, meet 8 7, swap 9 10, swap 9 8, meet 13 8, meet 8 7, meet 3 8, swap 10 11,
    meet 10 15, meet 10 5, swap 9 10, meet 14 9, meet 9 4, swap 9 8, meet 13 8, meet 3 8, meet 8 7,
    meet 11 16, swap 15 16, meet 14 15, swap 10 15, meet 10 5, swap 9 10, meet 9 4, swap 9 8, meet 13 8,
    meet 3 8, meet 8 7, meet 5 6, swap 11 6, meet 11 16, swap 10 11, meet 10 15, swap 9 10, meet 14 9,
    meet 9 4, swap 9 8, meet 13 8, meet 3 8, meet 8 7, meet 13 12, swap 7 12, swap 8 7, meet 3 8, swap 9 8,
    meet 14 9, meet 9 4, swap 9 10, meet 10 15, meet 10 5, swap 10 11, meet 11 16, meet 11 6, meet 3 2,
    swap 7 2, meet 7 12, swap 8 7, meet 13 8, swap 9 8, meet 14 9, meet 9 4, swap 9 10, meet 10 15,
    meet 10 5, swap 10 11, meet 11 16, meet 11 6]

def nineSteps :=
  fifteenSteps.take 22 ++ [meet 14 9, meet 9 4, meet 13 8, meet 3 8, meet 8 7, meet 9 10, meet 10 15,
    swap 14 15, meet 13 14, swap 14 9, meet 9 4, swap 9 8, meet 3 8, meet 8 7]

def steps : Nat → List PatternStep
  | 4 => fourSteps
  | 5 => fiveSteps
  | 6 => sixSteps
  | 7 => sevenSteps
  | 9 => nineSteps
  | size => fifteenSteps.take (size * (size - 1) / 2)

variable {K : Type} [Quantity K]

def perform (place : Nat → Outcome Nat) : PatternStep → Work (Route K) Unit
  | .meet a b => do interact (.of (← place a) (← place b))
  | .swap a b => do exchange (.of (← place a) (← place b)) true

def routed (d : Device) (p : Model Nat K) : Outcome (Route K × Table Nat Nat) := do
  let whole := padded p
  let placed ← require .exhausted (d.graph.placement? (← require .missing (graph? whole.size)) Slots.listed)
  let start ← Assignment.make d whole.unknowns (some ⟨placed.zipIdx.map fun e => (e.1.1, e.2)⟩)
  let place (n : Nat) := require .missing ((placed.find? (·.2 = n)).map Prod.fst)
  let work : Work (Route K) Unit := (steps whole.size).forM (perform place)
  pure (← work.after (begin d whole start), ⟨placed⟩)

end Pattern

end Transmon.Routing
