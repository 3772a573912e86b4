import Transmon.Architecture

/-!
Where qubit states are while they are moved around.

A resonator has no state of its own: it is empty, which is written as owning itself, or it holds the state of a
qubit. A move between a qubit and a resonator takes the qubit's state into an empty resonator, or brings it back.
-/

namespace Transmon

namespace Move

open Circuit (Step)

/-- For each first component, the second components with which it forms a locus. -/
abbrev Partners := Table String Names

namespace Partners

variable (ps : Partners)

/-- Adds a locus. -/
def add (x y : String) : Partners := ps.update x [] (.add · y)

def of (x : String) := ps.getD x []

/-- The same loci from the other side. -/
def inverse : Partners := ps.entries.foldl (fun t e => e.2.foldl (fun t y => .add t y e.1) t) ∅

end Partners

structure Tracker where
  /-- The resonators into which each qubit's state can be moved. -/
  moves : Partners
  /-- The partners of each qubit, for every gate that also acts on resonators. -/
  gates : Table String Partners
  /-- Whose state each resonator holds; its own name if it is empty. -/
  owners : Table String String

/-- A change of where states are. What was moved stays moved even if a later move is refused. -/
abbrev Tracking := Work Tracker

namespace Tracker

/-- The names of the operations that act on resonators. -/
def gateNames := ["cz", "move"]

/-- A tracker of empty resonators. -/
def ofLoci (loci : Table String Partners) : Tracker :=
  let moves := loci.getD "move" ∅
  { moves, gates := loci.erase "move", owners := ⟨moves.inverse.keys.map fun r => (r, r)⟩ }

variable (t : Tracker)

def resonators : Names := t.owners.keys

/-- The qubits whose state can be moved into each resonator. -/
def movers := t.moves.inverse

variable (arch : Architecture)

/-- The loci of an operation by their first component; they have to be pairs of the right form. -/
def partnersOf (n : String) (g : Architecture.Gate) : Outcome Partners :=
  g.loci.foldlM (fun partners locus => do
    match locus with
    | [x, y] =>
      let s := Text.quotedTuple locus
      if n = "move" then
        if arch.resonators.contains x || !arch.resonators.contains y then
          refuse s!"MOVE gate locus {s} is not of the form (qubit, resonator)"
      else if arch.resonators.contains x then refuse s!"Gate {n} locus {s} is not of the form (qubit, *)"
      return partners.add x y
    | _ => fail .invalid) ∅

def ofArchitecture : Outcome Tracker := do
  let loci ← gateNames.foldlM (fun t n =>
    match arch.gates.get? n with
    | none => pure t
    | some g => do return t.insert n (← partnersOf arch n g)) ∅
  return ofLoci loci

/-- The tracker of a circuit, which knows the loci that the circuit uses. -/
def ofSteps (ss : List Step) : Outcome Tracker := do
  let loci ← ss.foldlM (fun t s =>
    if gateNames.contains s.name then
      match s.locus with
      | [x, y] => return t.update s.name (∅ : Partners) (·.add x y)
      | _ => fail .invalid
    else pure t) ∅
  return ofLoci loci

/-- The resonator that holds the state of each moved qubit. -/
def holders : Table String String :=
  .ofList ((t.owners.entries.filter (!t.resonators.contains ·.2)).map fun e => (e.2, e.1))

/-- Where the state of a qubit is: in a resonator, or at home. -/
def holder (q : String) := t.holders.getD q q

/-- The resonators that hold a state of the given qubits. -/
def holding (qs : Names) : Names := (t.owners.entries.filter fun e => e.2 ≠ e.1 && qs.contains e.2).map Prod.fst

/-- Every resonator of a locus replaced by the qubit whose state it holds. -/
def resolve (locus : Names) := locus.map fun n => t.owners.getD n n

variable (q res : String)

/-- The owner of a resonator's state after a move, if the move is possible. -/
def moved? : Option String :=
  match t.owners.get? res with
  | none => none
  | some owner =>
    if !(t.movers.of res).contains q then none
    else if owner = res then some q
    else if owner = q then some res
    else none

def move :=
  match t.moved? q res with
  | some owner => pure { t with owners := t.owners.insert res owner }
  | none => failWith .transpilation s!"MOVE locus {Text.quotedTuple [q, res]} is not allowed."

/-- The first place other than a resonator where the state of a qubit is found. -/
def elsewhere := (t.owners.entries.find? (·.2 = q)).filter (·.1 ≠ res)

end Tracker

namespace Tracking

variable (q res : String)

/-- Performs a move and gives the step for it. -/
def move : Tracking Step := do
  set (← (← get).move q res)
  pure { name := "move", locus := [q, res] }

/-- Moves a qubit's state into a resonator that is empty or holds it. If it is elsewhere, it goes home first. -/
def fetch : Tracking (List Step) := do
  match (← get).elsewhere q res with
  | some (x, _) => pure [← move q x, ← move q res]
  | none => pure [← move q res]

/-- Moves a qubit's state into a resonator or out of it. Another state that is there goes home first. -/
def bring : Tracking (List Step) := do
  let owner ← (← get).owners.need res
  if owner = q || owner = res then fetch q res
  else return (← move owner res) :: (← fetch q res)

/-- Moves the states in the given resonators home. -/
def restore : Names → Tracking (List Step)
  | [] => pure []
  | res :: xs => do
    let owner ← (← get).owners.need res
    if owner = res then restore xs
    else
      return (← move owner res) :: (← restore xs)

/-- Moves all states home. -/
def restoreAll := do restore (← get).resonators

end Tracking

/-!
How a gate between two qubits is performed through a resonator.

One of the qubits is moved into a resonator, and the gate acts on the other one and the resonator. Of the ways to
do so the one is chosen that needs the fewest moves now, and that fits best what is done to the qubits next.
-/

/-- A way to perform a gate: `gate` takes part itself, and `moved` through a resonator. -/
structure Resolution where
  (gate moved resonator : String)
deriving DecidableEq

/-- The number of moves that a resolution needs, from where the states of its qubits are and whose state its
resonator holds. -/
def Resolution.moves (way : Resolution) (gateHolder movedHolder owner : String) :=
  (if gateHolder ≠ way.gate then 1 else 0) +
    if movedHolder = way.resonator then 0
    else (if owner ≠ way.resonator then 1 else 0) + if movedHolder = way.moved then 1 else 2

namespace Tracker

variable (t : Tracker)

/-- The resolutions of a gate in which one qubit takes part itself and another is moved. -/
def resolutionsOf (ps : Partners) (g moved : String) : List Resolution :=
  ((ps.of g).filter (t.moves.of moved).contains).map (⟨g, moved, ·⟩)

def resolutions (s : Step) : Outcome (List Resolution) :=
  match t.gates.get? s.name with
  | none => pure []
  | some partners =>
    match s.locus with
    | [a, b] => return t.resolutionsOf partners a b ++ t.resolutionsOf partners b a
    | _ => fail .invalid

variable (way : Resolution)

/-- The number of moves that a resolution needs now. -/
def cost := way.moves (t.holder way.gate) (t.holder way.moved) (t.owners.getD way.resonator way.resonator)

/-- How badly a resolution fits the next step if that acts on both qubits. -/
def sharedCost (n : String) (way : Resolution) (next : Step) : Outcome Nat := do
  if next.name = n then return 0
  let ways ← t.resolutions next
  if ways.contains way then return 0
  return ((ways.map (·.moves way.gate way.resonator way.moved)).min?).getD 0

/-- How badly a resolution fits the next step of the qubit that takes part itself. -/
def gateCost (next : Step) := do
  let ways ← t.resolutions next
  return if ways.isEmpty || ways.any (·.resonator ≠ way.resonator) then 0 else 2

/-- How badly a resolution fits the next step of the moved qubit. -/
def movedCost (next : Step) := do
  let ways ← t.resolutions next
  if ways.isEmpty then return if next.locus.length = 1 then 1 else 0
  if ways.any fun x => x.moved = way.moved && x.resonator = way.resonator then return 0
  return if ways.any (·.resonator ≠ way.resonator) then 1 else 2

/-- How badly a resolution fits what is done next to its qubits. -/
def nextCost (n : String) (way : Resolution) (lookahead : List Step) : Outcome Nat := do
  let movedNext := lookahead.find? (·.locus.contains way.moved)
  match lookahead.find? (·.locus.contains way.gate), movedNext with
  | some a, some b =>
    if a.locus.contains way.moved && b.locus.contains way.gate then t.sharedCost n way a
    else return (← t.gateCost way a) + (← t.movedCost way b)
  | some a, none => t.gateCost way a
  | none, some b => t.movedCost way b
  | none, none => pure 0

/-- The first item with the least cost. -/
def cheapest {α : Type} (xs : List (α × Nat)) :=
  (xs.foldl (fun best x =>
    match best with
    | none => some x
    | some held => if x.2 < held.2 then some x else best) none).map Prod.fst

def best (s : Step) (lookahead : List Step) := do
  let costs ← (← t.resolutions s).mapM fun way => do pure (way, t.cost way + (← t.nextCost s.name way lookahead))
  return cheapest costs

end Tracker

def Tracking.perform (way : Resolution) (s : Step) : Tracking (List Step) := do
  let brought ← (if (← get).holder way.moved ≠ way.resonator then bring way.moved way.resonator else pure [])
  let home := (← get).holder way.gate
  return brought ++ (← (if home ≠ way.gate then restore [home] else pure [])) ++ [s.at [way.gate, way.resonator]]

/-- The steps that stand for one step: with the moves that it needs, or through a resonator if the chip cannot
run it as it is. -/
def Tracking.realise (a : Architecture) (s : Step) (lookahead : List Step) : Tracking (List Step) := do
  match a.checkStep none s with
  | .ok () =>
    if s.name = "move" then
      match s.locus with
      | [q, res] => bring q res
      | _ => fail .type
    else
      return (← restore ((← get).holding s.locus)) ++ [s]
  | .error f =>
    if f.kind ≠ .circuitInvalid then throw f
    let tracker ← get
    if !tracker.gates.contains s.name || Names.meets s.locus tracker.resonators then
      throw { f with kind := .transpilation }
    match ← tracker.best s lookahead with
    | some way => perform way s
    | none =>
      failWith .transpilation (s!"Unable to find native gate sequence to enable fictional gate {s.name} at " ++
        s!"{Text.quotedTuple s.locus}. Try routing the circuit to the simplified architecture first.")

/-- The steps that stand for several steps. -/
def Tracking.realiseAll (a : Architecture) : List Step → Tracking (List Step)
  | [] => pure []
  | s :: xs => do return (← realise a s xs) ++ (← realiseAll a xs)

end Move

/-!
Circuits with moves for circuits between qubits, and back.

A chip whose qubits are only connected through resonators can be used as if they were connected directly: the
simplified architecture offers the gates that moves make possible, and the moves are put into the circuit later.
-/

namespace Architecture

/-- The name of the implementation of gates that only moves make possible. -/
def fictional := "__fictional"

variable (arch : Architecture)

def movers : Outcome Move.Partners := do
  match arch.gates.get? "move" with
  | none => return ∅
  | some g =>
    g.loci.foldlM (fun partners locus => do
      match locus with
      | [q, res] =>
        if !arch.qubits.contains q || !arch.resonators.contains res then
          refuse s!"MOVE locus {Text.quotedTuple locus} is not of the form (qubit, resonator)"
        return partners.add res q
      | _ => fail .invalid) ∅

variable (movers : Move.Partners) (keepsResonators : Bool)

/-- What becomes of a locus: whether it stays, and the loci that moves make of it. -/
def simplifyLocus (n : String) (locus : Names) : Outcome (Bool × List Names) := do
  match locus with
  | [x, y] =>
    if !arch.qubits.contains x then refuse s!"Unexpected '{n}' locus: {Text.quotedTuple locus}"
    if arch.resonators.contains y then return (keepsResonators, ((movers.of y).filter (· ≠ x)).map ([x, ·]))
    pure (true, [])
  | _ => pure (!Names.meets locus arch.resonators, [])

/-- An operation without resonators: gates with them become gates between qubits. -/
def simplifyGate (n : String) (g : Gate) : Outcome Gate := do
  let ps ← g.implementations.mapM fun _ loci =>
    loci.mapM fun locus => do pure (locus, ← simplifyLocus arch movers keepsResonators n locus)
  let kept := ps.map fun _ loci => (loci.filter (·.2.1)).map Prod.fst
  let made := (ps.values.flatten.flatMap (·.2.2)).eraseDups
  pure {
    implementations := if made.isEmpty then kept else kept.insert fictional made
    default := g.default
    overrides := g.overrides.filter fun locus _ => !Names.meets locus arch.resonators }

/-- The architecture that circuits see before moves are put in. -/
def simplified := do
  if arch.resonators.isEmpty then return arch
  let movers ← arch.movers
  let gates := arch.gates.filter fun n _ => n ≠ "move" || keepsResonators
  let gates ← gates.mapM fun n g => if n = "move" then return g else simplifyGate arch movers keepsResonators n g
  return { arch with resonators := if keepsResonators then arch.resonators else [], gates }

end Architecture

namespace Move

open Circuit (Step)

/-- What is done with moves that are already in a circuit. -/
inductive Existing
  /-- They stay, and have to be correct. -/
  | keep
  /-- They stay, and may be completed. -/
  | trust
  /-- They are taken out first. -/
  | remove
deriving DecidableEq

def Existing.ofName? : String → Option Existing
  | "keep" => some keep
  | "trust" => some trust
  | "remove" => some remove
  | _ => none

/-- Steps without moves: what is done to a resonator is done to the qubit whose state it holds. -/
def withoutMoves : Tracker → List Step → Outcome (List Step)
  | _, [] => pure []
  | t, s :: xs =>
    if s.name = "move" then
      match s.locus with
      | [q, res] => do withoutMoves (← t.move q res) xs
      | _ => fail .type
    else do return s.at (t.resolve s.locus) :: (← withoutMoves t xs)

def remove (c : Circuit) := return { c with steps := ← withoutMoves (← Tracker.ofSteps c.steps) c.steps }

/-- A circuit without its moves, checked as every circuit is that is made: it has to have a step. -/
def removed (c : Circuit) := do
  let made ← remove c
  Circuit.checkFilled made.steps
  pure made

variable (arch : Architecture)

def complete (m : Mapping) := (Names.diff arch.components m.values).foldl (fun t n => t.insert n n) m

/-- The steps that stand for steps on a chip, and the moves at the end that bring all states home. -/
def realised (restores : Bool) (ss : List Step) : Tracking (List Step) := do
  let inside ← .realiseAll arch ss
  if restores then return inside ++ (← .restoreAll) else pure inside

variable (e : Existing)

/-- The check of the moves that are there, if these stay as they are. -/
def checkExisting (ss : List Step) : Check :=
  if e = .keep then
    match arch.checkMoves none .strict true ss with
    | .ok () => pure ()
    | .error f => .error (if f.kind = .circuitInvalid then { f with kind := .transpilation } else f)
  else pure ()

def hasMoves (c : Circuit) := c.steps.any (·.name = "move")

/-- A circuit as moves are put into it: without the moves that are there, if these are to be taken out. -/
def prepared (c : Circuit) := if e = .remove && hasMoves c then remove c else pure c

/-- A circuit with the moves that it needs, and the mapping that was used. -/
def insert (m : Option Mapping) (restores : Bool) (c : Circuit) : Outcome (Circuit × Option Mapping) := do
  if !arch.gates.contains "move" then
    if hasMoves c then refuse "Circuit contains MOVE instructions, but the architecture does not support them."
    return (c, m)
  let t ← Tracker.ofArchitecture arch
  let ns := complete arch (m.getD ∅)
  let c ← prepared e c
  let ss ← ns.steps c.steps
  checkExisting arch e ss
  pure ({ c with steps := ← ns.inverse.steps (← ((realised arch restores ss).run.run t).1) }, m.map fun _ => ns)

end Move

end Transmon
