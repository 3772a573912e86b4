import Transmon.Move.Resolution
import Transmon.Simulated.Device

/-!
Circuits in moments: operations that happen at the same time stand together.
-/

namespace Transmon.Moments

open Text Simulated

inductive Kind
  | phasedX | x | y | z | cz | zz | iswap | move | measurement | reset | rx | ry | rz
  | other (name : String)
deriving DecidableEq

namespace Kind

def known := [phasedX, x, y, z, cz, zz, iswap, move, measurement, reset, rx, ry, rz]

def name : Kind → String
  | phasedX => "PhasedXPowGate"
  | x => "XPowGate"
  | y => "YPowGate"
  | z => "ZPowGate"
  | cz => "CZPowGate"
  | zz => "ZZPowGate"
  | iswap => "ISwapPowGate"
  | move => "IQMMoveGate"
  | measurement => "MeasurementGate"
  | reset => "ResetChannel"
  | rx => "Rx"
  | ry => "Ry"
  | rz => "Rz"
  | other name => name

def ofName (name : String) := (known.find? (·.name = name)).getD (other name)

def isRotation (k : Kind) := [phasedX, x, y, rx, ry].contains k

def isSymmetric (k : Kind) := [cz, zz, iswap].contains k

def ofOp? : String → Option (List Kind)
  | "prx" => some [phasedX, x, y]
  | "cc_prx" => some []
  | "cz" => some [cz]
  | "move" => some [move]
  | "measure" => some [measurement]
  | "reset" => some [reset]
  | _ => none

end Kind

structure Gate where
  kind : Kind
  settings : Dict := []

def circle := 3.141592653589793

namespace Gate

variable (g : Gate)

/-- A setting or its default. The power of a gate that turns by an angle is the angle in half circles. -/
def setting (name : String) : Outcome Value :=
  match g.settings.lookup name, name with
  | some v, _ => pure v
  | none, "exponent" =>
    if let some angle := (g.settings.lookup "rads").bind Value.float? then return .float (angle / circle) else return .int 1
  | none, "global_shift" => return .int 0
  | none, _ => fail .noAttr

def number (name : String) := do require .type (← g.setting name).number?

def exponent := g.number "exponent"

def invertsResult :=
  match g.settings.lookup "invert_mask" with
  | some (.list mask) | some (.tuple mask) => mask.any Value.isTrue
  | _ => false

end Gate

/-- What an operation acts on: something with a name and so many levels, or a qubit of another sort, such as a point of
a line, of which only the written form is used. -/
inductive Qubit
  | named (name : String) (levels : Nat := 2)
  | point (written : String)
deriving DecidableEq

def Qubit.text : Qubit → String | named n _ | point n => n

instance : Coe String Qubit := ⟨(.named ·)⟩

/-- A condition on one of the results with a key: by its number, or the last one. -/
inductive Condition
  | key (key : String) (index : Int := -1)
  | other
deriving DecidableEq

def Condition.text : Condition → String
  | key k i => if i = -1 then k else s!"{k}[{i}]"
  | other => ""

/-- A gate on qubits, perhaps under conditions. -/
structure Operation where
  gate : Gate
  qubits : List Qubit
  conditions : List Condition := []

def Operation.components (op : Operation) : Names := op.qubits.map Qubit.text

def Operation.isUnconditional (op : Operation) := op.conditions.isEmpty

def Operation.kind? (op : Operation) := if op.isUnconditional then some op.gate.kind else none

abbrev Circuit := List (List Operation)

def unsupported (reason : Option String := none) : Fault := { kind := .other "OperationNotSupportedError", msg := reason }

def half (g : Gate) (name : String) : Outcome Value := return .float (← (← g.number name).divide (.int 2))

def rotationArguments (g : Gate) : Outcome Dict :=
  return [("angle_t", ← half g "exponent"), ("phase_t", ← half g "phase_exponent")]

/-- A rotation that waits for one result. -/
def conditionalStep (op : Operation) : Outcome Transmon.Circuit.Step := do
  match op.conditions with
  | [.other] => throw (unsupported "Only KeyConditions are supported as classical controls.")
  | [k] =>
    if !op.gate.kind.isRotation then throw unsupported
    pure {
      name := "cc_prx"
      locus := op.components
      arguments := (← rotationArguments op.gate) ++ [("feedback_qubit", .text ""), ("feedback_key", .text k.text)] }
  | _ => throw (unsupported "Classically controlled gates can currently only have one condition.")

def step (op : Operation) : Outcome Transmon.Circuit.Step := do
  let g := op.gate
  let locus := op.components
  if !op.isUnconditional then conditionalStep op
  else match g.kind with
    | .phasedX | .x | .y | .rx | .ry => pure { name := "prx", locus, arguments := ← rotationArguments g }
    | .measurement =>
      if g.invertsResult then throw (unsupported "Invert mask not supported")
      pure { name := "measure", locus, arguments := [("key", ← g.setting "key")] }
    | .cz =>
      let power ← g.setting "exponent"
      if power.equal (.int 1) then return { name := "cz", locus }
      throw (unsupported s!"CZPowGate exponent was {power.plain}, but only 1 is natively supported.")
    | .move => pure { name := "move", locus }
    | .reset => pure { name := "reset", locus }
    | _ => throw unsupported

/-- The steps so far, and where each key was measured. -/
structure Wiring where
  steps : List Circuit.Step := []
  measured : Table String Nat := ∅

namespace Wiring

variable (s : Circuit.Step)

def tell (name : String) (v : Value) := { s with arguments := Table.put name v s.arguments }

def textOf (name : String) := ((s.arguments.lookup name).map Value.plain).getD ""

def add (w : Wiring) (s : Circuit.Step) : Outcome Wiring := do
  match s.name with
  | "measure" =>
    let k := textOf s "key"
    if w.measured.contains k then throw (unsupported "Cannot use the same key for multiple measurements.")
    pure ⟨w.steps ++ [s], w.measured.insert k w.steps.length⟩
  | "cc_prx" =>
    let k := textOf s "feedback_key"
    let some (i, measurement) := (w.measured.get? k).bind fun i => w.steps[i]?.map fun x => (i, x)
      | throw (unsupported s!"cc_prx has feedback_key {k}, but no measure operation with that key precedes it.")
    let [p] := measurement.locus
      | throw (unsupported "cc_prx must depend on the measurement result of a single qubit.")
    let ss := w.steps.set i (tell measurement "feedback_key" (.text k))
    pure { w with steps := ss ++ [tell s "feedback_qubit" (.text p)] }
  | _ => pure { w with steps := w.steps ++ [s] }

end Wiring

/-- Writes a circuit; results that are waited for are told their keys. -/
def toCircuit (c : Circuit) : Outcome Transmon.Circuit := do
  let ops := c.flatten
  let steps ← ops.mapM step
  let steps ← if ops.all Operation.isUnconditional then pure steps else (·.steps) <$> steps.foldlM Wiring.add {}
  pure { name := "Serialized from Cirq", steps }

variable (s : Circuit.Step)

def double (name : String) : Outcome Value :=
  return .ofNumber ((← require .type (← require .missing (s.arguments.lookup name)).number?) * .int 2)

def rotationOf : Outcome Gate :=
  return ⟨.phasedX, [("exponent", ← double s "angle_t"), ("phase_exponent", ← double s "phase_t")]⟩

def opOf : Outcome Operation := do
  let plain (g : Gate) : Operation := ⟨g, s.locus.map (.named ·), []⟩
  match s.name with
  | "prx" => plain <$> rotationOf s
  | "cc_prx" =>
    let g ← rotationOf s
    discard (require .missing (s.arguments.lookup "feedback_key"))
    pure { plain g with conditions := [.key (Wiring.textOf s "feedback_key")] }
  | "cz" => return plain ⟨.cz, []⟩
  | "move" => return plain ⟨.move, []⟩
  | "measure" =>
    let k ← require .missing (s.arguments.lookup "key")
    return plain ⟨.measurement, [("num_qubits", .int s.locus.length), ("key", k)]⟩
  | "reset" => return plain ⟨.reset, []⟩
  | x => throw (unsupported s!"Operation {x} not supported.")

def ofCircuit (c : Transmon.Circuit) := c.steps.mapM opOf

def period := 4.0

def normalised (power : Number) := Decimal.flooredRemainder (power.toFloat - period / 2.0) (-period) + period / 2.0

def isFamily (k : Kind) := [.iswap, .zz].contains k

/-- The second operation does not merge with the first. -/
def blocks (op next : Operation) := next.kind? ≠ some op.gate.kind || !Names.same op.components next.components

structure Merger where
  blocked : List Bool
  found : Option (Nat × Option Operation)

def mergeable (op : Operation) (following : List (Nat × Operation)) := following.takeWhile (!blocks op ·.2)

def merge (op : Operation) (m : Nat) (following : List (Nat × Operation)) : Outcome Merger := do
  if !(op.kind?.any isFamily) then return ⟨[], none⟩
  let same := mergeable op following
  let blocked := same.map (fun _ => false) ++ if same.length < following.length then [true] else []
  if same.isEmpty then return ⟨blocked, none⟩
  let power := normalised ((← (op :: same.map Prod.snd).mapM (·.gate.exponent)).foldl (· + ·) (.int 0))
  let last := same.foldl (fun latest e => max latest e.1) m
  let merged : Operation := ⟨⟨op.gate.kind, [("exponent", .float power)]⟩, op.qubits, []⟩
  pure ⟨blocked, some (last + 1 - m, if power.abs ≤ 1e-10 then none else some merged)⟩

inductive Sight
  | turn | measured | other
deriving DecidableEq

def sight (part : String) (m : List Operation) : Option Sight :=
  (m.find? (·.components.contains part)).map fun op =>
    match op.kind? with
    | some .z => .turn
    | some .measurement => .measured
    | _ => .other

def droppable (part : String) (dropsFinal : Bool) : Nat → List (List Operation) → List Nat → List Nat
  | _, [], x => if dropsFinal then x else []
  | i, m :: xs, x =>
    match sight part m with
    | none => droppable part dropsFinal (i + 1) xs x
    | some .turn => droppable part dropsFinal (i + 1) xs (x ++ [i])
    | some .measured => x
    | some .other => []

def droppedSpan (c : Circuit) (m : Nat) (op : Operation) (dropsFinal : Bool) : Outcome (Option Nat) := do
  if op.kind? ≠ some .z then return none
  match droppable (← itemAt op.components 0) dropsFinal m (c.drop m) [] with
  | [] => pure none
  | x => return some (x.foldl max 0 + 1 - m)

/-!
Devices for circuits in moments: which kinds of gates they know, and where.
-/

def sortNames (ns : Names) : Names :=
  ns.mergeSort fun a b => partsOrdered (partsFrom [] none a.toList) (partsFrom [] none b.toList)

structure Device where
  qubits : Names
  resonators : Names := []
  couplings : Named String
  loci : List (Kind × List Names)
  kinds : List Kind
  architecture : Option Architecture := none

namespace Device

def singleKinds : List Kind := [.phasedX, .x, .y, .measurement]

def singles (qs : Names) : List Names := qs.map ([·])

def toCouplings (conns : List Names) : Outcome (Named String) :=
  conns.mapM fun
    | [a, b] => pure (a, b)
    | _ => refuse "Connectivity must be an iterable of 2-tuples."

def usual (qs : Names) (conns : List Names) : Outcome Device := do
  let couplings ← toCouplings conns
  pure {
    qubits := sortNames (.ofList qs)
    couplings
    loci := (.cz, conns) :: singleKinds.map (·, singles qs)
    kinds := .cz :: singleKinds }

def numbered (count : Nat) (conns : List (List Int)) (kinds : List Kind) : Outcome Device := do
  let ps := conns.map (·.eraseDups.mergeSort)
  if ps.isEmpty || !ps.all (·.length = 2) then refuse "connectivity_indices must be an iterable of 2-sets."
  let named (pair : List Int) : Names := pair.map fun n => s!"QB{n}"
  let d ← usual (qubitNames count) (ps.map named)
  if kinds.isEmpty then return d
  let on (k : Kind) (loci : List Names) := if kinds.contains k then [(k, loci)] else []
  let own := kinds.filter singleKinds.contains
  pure { d with
    loci := on .cz (ps.map named) ++ on .iswap (ps.map named) ++ own.map (·, singles d.qubits)
    kinds }

def ofArchitecture (arch : Architecture) : Device :=
  let loci := arch.gates.entries.flatMap fun (_, g) => g.loci
  let couplings := loci.filterMap fun
    | [a, b] => some (a, b)
    | _ => none
  let known := arch.gates.entries.flatMap fun (name, g) => ((Kind.ofOp? name).getD []).map (·, g.loci)
  { qubits := sortNames (.ofList arch.qubits)
    resonators := sortNames (.ofList arch.resonators)
    couplings
    loci := known
    kinds := known.map Prod.fst
    architecture := some arch }

def named? (name : String) :=
  let chips := [("Adonis", adonisChip), ("Apollo", apolloChip), ("Aphrodite", aphroditeChip)]
  (chips.lookup name).map fun c => usual c.qubits c.connectivity

def sortedCoupling (coupling : String × String) := sorted [coupling.1, coupling.2]

variable (d : Device)

def edges : List Names := (d.couplings.map sortedCoupling).eraseDups.mergeSort lexical

def sortedLoci : List (Kind × List Names) :=
  d.loci.map fun (k, loci) => (k, (if k = .cz then loci.map sorted else loci).mergeSort lexical)

def agrees (a b : Device) :=
  a.qubits == b.qubits && a.edges == b.edges && a.kinds.all b.kinds.contains && b.kinds.all a.kinds.contains

def qubit (n : Int) := require .index (Slice.at? d.qubits (n - 1))

def number (name : String) := require .invalid (Decimal.int? (name.drop 2).toString)

variable (op : Operation)

def isNative : Outcome Bool := do
  let some k := op.kind? | pure false
  if !d.kinds.contains k then return false
  if k = .cz then return (← op.gate.setting "exponent").equal (.int 1)
  pure true

def allows :=
  op.kind?.any fun k => (d.loci.lookup k).any fun loci =>
    if k = .measurement then op.components.all loci.flatten.contains
    else if k.isSymmetric then loci.any (Names.same · op.components)
    else loci.contains op.components

def checkConnection : Check := if 2 ≤ op.components.length && !d.allows op then fail .invalid else pure ()

def check : Check := do
  if !op.isUnconditional then fail .invalid
  if !(← d.isNative op) then fail .invalid
  if !op.components.all fun name => d.qubits.contains name || d.resonators.contains name then fail .invalid
  if !d.allows op then fail .invalid

def checkMove : Check := do
  if op.kind? = some .move then
    if !d.qubits.contains (← itemAt op.components 0) then fail .invalid
    if !d.resonators.contains (← itemAt op.components 1) then fail .invalid

def pairUp : Names → Bool
  | [] => true
  | [_] => false
  | a :: b :: xs => a = b && pairUp xs

/-- Each key is measured only once. -/
def checkKeys : Names → List Operation → Check
  | _, [] => pure ()
  | seen, op :: xs =>
    if op.kind? = some .measurement then do
      let k := (← op.gate.setting "key").plain
      if seen.contains k then refuse s!"Measurement key {k} repeated"
      checkKeys (k :: seen) xs
    else checkKeys seen xs

def checkCircuit (c : Circuit) : Check := do
  let ops := c.flatten
  for op in ops do d.check op
  checkKeys [] ops
  let moves := ops.filter (·.kind? = some .move)
  for move in moves do d.checkMove move
  for res in d.resonators do
    let states := moves.filterMap fun move => if move.components[1]? = some res then move.components[0]? else none
    if !pairUp states then fail .invalid

def insertMoves (c : Circuit) : Outcome (List Operation) := do
  let some a := d.architecture
    | refuse "MOVE transpilation only supported for devices created from a dynamic quantum architecture."
  ofCircuit (← Move.insert a .keep none true (← toCircuit c)).1

def neighbours (name : String) : Names :=
  d.couplings.filterMap fun (a, b) => if a = name then some b else if b = name then some a else none

def bridged (coupling : String × String) : Named String :=
  let through (q res : String) := ((d.neighbours res).filter (· ≠ q)).map (q, ·)
  if d.resonators.contains coupling.2 then through coupling.1 coupling.2
  else if d.resonators.contains coupling.1 then through coupling.2 coupling.1
  else [coupling]

def routingEdges (chosen : Option Names) : List Names :=
  let all := if d.resonators.isEmpty then d.couplings else d.couplings.flatMap d.bridged
  let kept := if let some ns := chosen then all.filter fun (a, b) => ns.contains a && ns.contains b else all
  (kept.map sortedCoupling).eraseDups.mergeSort lexical

def finish (routed : Circuit) := if d.resonators.isEmpty then pure routed.flatten else d.insertMoves routed

end Device

def turn (k : Kind) (angle : Float) : Gate := ⟨k, [("rads", .float angle)]⟩

def power (k : Kind) (power shift : Number) : Gate :=
  ⟨k, [("exponent", .ofNumber power), ("global_shift", .ofNumber shift)]⟩

def decomposed (op : Operation) : Outcome (Option (List Operation)) := do
  let g := op.gate
  let on (g : Gate) (part : Qubit) : Operation := ⟨g, [part], []⟩
  let cz : Operation := ⟨⟨.cz, []⟩, op.qubits, []⟩
  let quarter := circle / 2.0
  let powers := return (← g.exponent, ← g.number "global_shift")
  let nth (k : Nat) := itemAt op.qubits k
  match op.kind? with
  | some .cz =>
    let (t, s) ← powers
    let first ← nth 0
    let second ← nth 1
    let turning := turn .rz ((← t.divide (.int 2)) * circle)
    let joint := power .zz (.float (-0.5) * t) (.int (-2) * s - .int 1)
    return some [⟨joint, op.qubits, []⟩, on turning first, on turning second]
  | some .zz =>
    let (t, s) ← powers
    let second ← nth 1
    return some [on (turn .ry (-quarter)) second, cz, on (power .x (-t) (.int (-1) - s)) second, cz,
      on (turn .ry quarter) second]
  | some .iswap =>
    let (t, s) ← powers
    let first ← nth 0
    let second ← nth 1
    let x := .float (-0.5) * t
    return some [on (turn .rx (-quarter)) first, on (turn .rx (-quarter)) second, on (turn .ry (-quarter)) second, cz,
      on (power .x x (.float (-0.5) - .int 2 * s)) first, on (power .x (-x) (.float (-0.5))) second, cz,
      on (turn .ry quarter) second, on (turn .rx quarter) first, on (turn .rx quarter) second]
  | some .z =>
    let first ← nth 0
    return some [on ⟨.x, [("exponent", .float (-0.5))]⟩ first, on ⟨.y, [("exponent", ← g.setting "exponent")]⟩ first,
      on ⟨.x, [("exponent", .float 0.5)]⟩ first]
  | _ => pure none

/-- The gate that three angles in radians describe: a rotation around an axis in the plane where the last two cancel,
else a general one, given by the angles in half turns. -/
def ofAngles (angles : List Number) : Outcome (Gate ⊕ Floats) := do
  let [theta, phi, lambda] := angles | fail .invalid
  if phi == -lambda then
    let phase := phi.toFloat / circle + 0.5
    return .inl ⟨.phasedX, [("exponent", .float (theta.toFloat / circle)), ("phase_exponent", .float phase),
      ("global_shift", .float (-0.5))]⟩
  return .inr (angles.map (·.toFloat / circle))

end Transmon.Moments
