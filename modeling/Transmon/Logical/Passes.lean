import Transmon.Logical.Target
import Transmon.Move.Resolution

/-!
How logical circuits are prepared for a device.
-/

namespace Transmon.Logical

structure Prep where
  routesMoves : Bool := true
  optimises : Bool := true
  ignoresBarriers : Bool := false
  dropsFinalTurns : Bool := true
  existing : Option Move.Existing := none

def existingName : Move.Existing → String
  | .keep => "keep"
  | .trust => "trust"
  | .remove => "remove"

def shownBool (b : Bool) := if b then "True" else "False"

def Prep.method (p : Prep) : Outcome String := do
  if p.routesMoves then
    if p.optimises && !p.dropsFinalTurns && p.ignoresBarriers && p.existing.isNone then
      refuse (s!"Move gate routing not compatible with optimize_single_qubits={shownBool p.optimises}, "
        ++ s!"remove_final_rzs={shownBool p.dropsFinalTurns}, and ignore_barriers={shownBool p.ignoresBarriers}.")
    let n :=
      if !p.optimises then "only_move_routing"
      else if !p.dropsFinalTurns then "move_routing_exact_global_phase"
      else if p.ignoresBarriers then "move_routing_rz_optimization_ignores_barriers"
      else "move_routing"
    let some existing := p.existing | pure n
    if !n.endsWith "routing" then
      refuse ("Existing Move handling options are not compatible with `remove_final_rzs` and "
        ++ "                    `ignore_barriers` options.")
    return n ++ "_" ++ existingName existing
  else if p.optimises then
    return "only_rz_optimization" ++ (if p.dropsFinalTurns then "" else "_exact_global_phase")
      ++ if p.ignoresBarriers then "_ignore_barriers" else ""
  else pure "default"

inductive Pass
  | rotations (dropsFinalTurns ignoresBarriers : Bool)
  | moves (existing : Move.Existing)

def Prep.passes (p : Prep) (hasTarget isOwn : Bool) : Outcome (List Pass) := do
  let rs := if p.optimises then [.rotations p.dropsFinalTurns p.ignoresBarriers] else []
  if !hasTarget then refuse "PassManagerConfig must have a target backend set, unable to schedule MoveGate routing."
  return rs ++ if p.routesMoves && isOwn then [.moves (p.existing.getD .keep)] else []

structure Assignment where
  target : Target
  layout : Option (List (Nat × Nat))
  method : String

def Device.assignment (d : Device) (c : Circuit) (p : Prep) (hasLayout : Bool)
    (ps : Option (List Component)) (method : Option String) : Outcome Assignment := do
  let places ← ps.mapM fun x => x.mapM fun
    | .named n => .numbered <$> d.position n
    | y => pure y
  let (target, layout) ←
    if c.operations.any fun o => o.name = "move" then do
      let layout ← if hasLayout then pure none else some <$> d.layout c places
      if p.routesMoves && p.existing.isNone then
        refuse "The circuit contains MOVE gates but existing_moves_handling is not set."
      pure (d.withResonators, layout)
    else pure (d.plain, none)
  let target ← if let some places := places then target.restrict places else pure target
  let method ← if let some method := method then pure method else p.method
  pure { target, layout, method }

/-!
Single-qubit rotations.
-/

inductive Prepared
  | kept (op : Operation Nat)
  | rotation (wire : Nat) (angle : Value) (phase : Float)

structure Turning where
  left : Floats
  phase : Float := 0.0
  done : List Prepared := []

def halfTurn := 3.141592653589793

def rotationBasis := ["r", "cz", "move", "measure", "reset", "delay", "barrier"]

namespace Turning

variable (t : Turning)

def owed (w : Nat) := itemAt t.left w

def isNothing : Value → Bool
  | .float x => x.abs ≤ 1e-10
  | _ => false

def rotate (o : Operation Nat) : Outcome Turning := do
  let w ← itemAt o.wires 0
  let number (i : Nat) : Outcome Float := do require .type (← o.param i).float?
  let angle ← o.param 0
  let done ← if isNothing angle then pure []
    else do pure [.rotation w angle (halfTurn / 2.0 - (← number 2) - (← t.owed w))]
  let phase := (← number 1) + (← number 2)
  pure {
    left := t.left.set w ((← t.owed w) + phase)
    phase := t.phase + phase / 2.0
    done := t.done ++ done }

def add (o : Operation Nat) : Outcome Turning := do
  let kept : Turning := { t with done := t.done ++ [.kept o] }
  match o.name with
  | "u" => t.rotate o
  | "measure" | "reset" =>
    let left ← o.wires.foldlM (fun (left : Floats) w =>
      if w < left.length then pure (left.set w 0.0) else fail .index) t.left
    pure { kept with left }
  | "move" =>
    let x ← itemAt o.wires 0
    let z ← itemAt o.wires 1
    pure { kept with left := (t.left.set z (← t.owed x)).set x (← t.owed z) }
  | "barrier" | "cz" | "delay" => pure kept
  | y => refuse s!"Unexpected operation '{y}' in circuit given to IQMOptimizeSingleQubitGates pass"

def final (left : Float) (w : Nat) : List Prepared :=
  if left == 0.0 then [] else [.rotation w (.float (-halfTurn)) 0.0, .rotation w (.float halfTurn) (left / 2.0)]

end Turning

def joinRotations (width : Nat) (x general : List (Operation Nat)) (dropsFinalTurns : Bool) : Outcome Turning := do
  for op in x do
    if !rotationBasis.contains op.name then
      refuse (s!"Invalid operation '{op.name}' found in IQMOptimize1QbDecomposition pass, "
        ++ s!"expected operations {Text.quotedList rotationBasis}")
  let turning ← general.foldlM Turning.add { left := .replicate width 0.0 }
  if dropsFinalTurns then return turning
  let final := turning.left.zipIdx.flatMap fun (left, w) => Turning.final left w
  pure { turning with done := turning.done ++ final }

/-!
Moves in logical circuits.
-/

/-- A logical circuit with the moves that it needs, told back on the wires of a layout. Angles that are symbols are
set aside meanwhile: such a rotation is told as one by an infinite angle, and its phase is its number. -/
structure Routed where
  rebuilt : Rebuilt
  final : Table Nat Bit

def isNumeric : Value → Bool
  | .float _ | .int _ | .bool _ => true
  | _ => false

def setAside : Nat → List (Operation Nat) → List (Operation Nat) × List Values
  | _, [] => ([], [])
  | count, op :: xs =>
    if op.name = "r" && !op.params.all isNumeric then
      let (ys, kept) := setAside (count + 1) xs
      ({ op with params := [.float (1.0 / 0.0), .float count.toFloat] } :: ys, op.params :: kept)
    else
      let (ys, kept) := setAside count xs
      (op :: ys, kept)

def putBack (kept : List Values) (o : Operation Bit) : Outcome (Operation Bit) := do
  match o.name, o.params with
  | "r", [.float angle, .float phase] =>
    if angle.isFinite then return o
    pure { o with params := ← require .missing kept[(Decimal.nearest phase).toNat]? }
  | _, _ => pure o

def Target.route (t : Target) (e : Move.Existing) (c : Circuit) (l : Layout)
    (final : Option (Table Nat Nat)) : Outcome Routed := do
  let (operations, kept) := setAside 0 c.operations
  let steps ← { c with operations }.toSteps .radians t.names
  let (routed, _) ← Move.insert t.architecture e none true { name := "Transpiling Circuit", steps }
  let rebuilt ← Rebuilt.ofSteps .radians t.positions l routed.steps
  let rebuilt := { rebuilt with operations := ← rebuilt.operations.mapM (putBack kept) }
  let some ends := final | pure { rebuilt, final := rebuilt.layout.wires }
  let ws := rebuilt.layout.wires
  let own ← ends.mapM fun _ w => ws.need w
  let order := ws.entries.mergeSort fun a b => a.1 ≤ b.1
  let ys ← (ws.entries.filter (!ends.contains ·.1)).mapM fun e => return (e.1, ← ws.need (order.findIdx (·.2 = e.2)))
  pure { rebuilt, final := own.insertMany ys }

end Transmon.Logical
