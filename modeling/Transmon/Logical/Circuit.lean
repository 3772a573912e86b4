import Transmon.Circuit
import Transmon.Readout

/-!
Logical circuits: operations on numbered wires, with measurements into the bits of classical registers.
-/

namespace Transmon.Logical

/-- A bit: its place in the first register that contains it, and its places in the other ones that do. -/
structure Bit where
  register : String
  index : Nat
  others : List (String × Nat) := []
deriving DecidableEq

def Bit.places (b : Bit) := (b.register, b.index) :: b.others

structure Register where
  name : String
  size : Nat
deriving DecidableEq

inductive Condition
  | register (register : Register) (value : Value)
  | bit (bit : Bit) (value : Value)

structure Operation (ω : Type) where
  name : String
  wires : List ω
  params : Values := []
  bits : List Bit := []
  unit : Option String := none
  condition : Option Condition := none

structure Circuit where
  name : String := "circuit"
  width : Nat := 0
  registers : List Register := []
  notes : Value := .none
  operations : List (Operation Nat)

structure AngleUnit where
  (toTurns ofTurns : Value → Outcome Value)

def AngleUnit.fullTurn := 2.0 * 3.141592653589793

def AngleUnit.radians : AngleUnit where
  toTurns angle := return .float ((← require .type angle.float?) / fullTurn)
  ofTurns turns := return .float ((← require .type turns.float?) * 2.0 * 3.141592653589793)

def AngleUnit.turns : AngleUnit := ⟨pure, pure⟩

def Operation.param {ω : Type} (o : Operation ω) (i : Nat) := itemAt o.params i

def secondsPer? : String → Option Float
  | "dt" => some 1e-9
  | "s" => some 1.0
  | "ms" => some 1e-3
  | "us" => some 1e-6
  | "ns" => some 1e-9
  | "ps" => some 1e-12
  | _ => none

def Operation.seconds {ω : Type} (o : Operation ω) : Outcome Value := do
  let amount ← require .type (← o.param 0).float?
  match o.unit.bind secondsPer? with
  | some scale => return .float (amount * scale)
  | none =>
    let unit := o.unit.getD "None"
    refuse s!"Delay: Unsupported unit '{unit}'"

def rotation (locus : Names) (angle phase : Value) : Circuit.Step :=
  { name := "prx", locus, arguments := [("angle_t", angle), ("phase_t", phase)] }

/-- The key of a bit, which names the first of its registers only. -/
def Circuit.key (c : Circuit) (bit : Bit) : Outcome Readout.Key := do
  let i := c.registers.findIdx (·.name = bit.register)
  let reg ← require .missing c.registers[i]?
  pure ⟨reg.name, reg.size, i, bit.index⟩

def Circuit.step? (c : Circuit) (angles : AngleUnit) (allowed : Names) (o : Operation Nat)
    (locus : Names) : Outcome (Option Circuit.Step) := do
  match o.name with
  | "r" => return some (rotation locus (← angles.toTurns (← o.param 0)) (← angles.toTurns (← o.param 1)))
  | "x" => return some (rotation locus (.float 0.5) (.float 0.0))
  | "rx" => return some (rotation locus (← angles.toTurns (← o.param 0)) (.float 0.0))
  | "y" => return some (rotation locus (.float 0.5) (.float 0.25))
  | "ry" => return some (rotation locus (← angles.toTurns (← o.param 0)) (.float 0.25))
  | "cz" | "move" | "barrier" | "reset" => return some { name := o.name, locus }
  | "delay" => return some { name := "delay", locus, arguments := [("duration", ← o.seconds)] }
  | "measure" =>
    let [bit] := o.bits | fail .invalid
    return some { name := "measure", locus, arguments := [("key", .text (← c.key bit).toText)] }
  | "id" => pure none
  | x =>
    if allowed.contains x then
      return some { name := x, locus, arguments := o.params.zipIdx.map fun (v, i) => (s!"p{i}", v) }
    refuse (s!"Instruction '{x}' in the circuit '{c.name}' is not natively supported. You need to transpile "
      ++ "the circuit before execution.")

/-- A place of the bit that a condition asks for. -/
def Condition.place : Condition → Outcome (String × Nat)
  | .bit chosen _ => return (chosen.register, chosen.index)
  | .register asked v =>
    if asked.size ≠ 1 then fail .invalid
    else if !Value.equal v (.int 1) then fail .invalid
    else return (asked.name, 0)

structure Telling where
  steps : List Circuit.Step := []
  latest : Table Bit Nat := ∅

namespace Telling

variable (s : Circuit.Step)

def keyOf := (s.arguments.lookup "key").getD .none

def withFeedback := { s with arguments := Table.put "feedback_key" (keyOf s) s.arguments }

def depend (t : Telling) (cond : Condition) (o : String) (s : Transmon.Circuit.Step) :
    Outcome (Telling × Transmon.Circuit.Step) := do
  if s.name ≠ "prx" then refuse s!"This backend only supports conditionals on r, x, y, rx and ry gates, not on {o}"
  let place ← cond.place
  let (_, i) ← require .missing (t.latest.entries.find? (·.1.places.contains place))
  let source ← require .missing t.steps[i]?
  let q ← itemAt source.locus 0
  pure ({ t with steps := t.steps.modify i withFeedback },
    { s with
      name := "cc_prx"
      arguments := s.arguments ++ [("feedback_key", keyOf source), ("feedback_qubit", .text q)] })

def noted (t : Telling) (o : Operation Nat) :=
  match o.name, o.bits with
  | "measure", [bit] => { t with latest := t.latest.insert bit t.steps.length }
  | _, _ => t

def add (c : Circuit) (angles : AngleUnit) (ns : Table Nat String) (allowed : Names)
    (t : Telling) (o : Operation Nat) : Outcome Telling := do
  let some s ← c.step? angles allowed o (← o.wires.mapM ns.need) | pure t
  let (t, s) ← match o.condition with
    | none => pure (t.noted o, s)
    | some cond => (t.noted o).depend cond o.name s
  pure { t with steps := t.steps ++ [s] }

end Telling

def Circuit.toSteps (c : Circuit) (angles : AngleUnit) (ns : Table Nat String) (allowed : Names := []) :=
  return (← c.operations.foldlM (Telling.add c angles ns allowed) {}).steps

structure Layout where
  wires : Table Nat Bit
  registers : Names := []

def Layout.extended (l : Layout) (n : Nat) :=
  let held := l.wires.size
  if n ≤ held then l
  else
    { wires := (List.range (n - held)).foldl (fun ws i =>
        ws.insert (i + held) { register := "resonators", index := i }) l.wires
      registers := l.registers ++ ["resonators"] }

structure Rebuilt where
  layout : Layout
  registers : List (Option Register)
  operations : List (Operation Bit)

abbrev Registers := Table Nat Register

def Registers.add (regs : Registers) (k : Readout.Key) : Outcome (Registers × Bit) := do
  let regs := regs.insertNew k.regIndex ⟨k.register, k.length⟩
  let reg ← regs.need k.regIndex
  if reg.size ≤ k.bitIndex then fail .index
  pure (regs, { register := reg.name, index := k.bitIndex })

structure Reading where
  registers : Registers := ∅
  bits : Table String Bit := ∅
  feedback : Table String Bit := ∅

def textArg (s : Circuit.Step) (n : String) := do
  let .text s ← require .missing (s.arguments.lookup n) | fail .type
  pure s

def Reading.add (r : Reading) (s : Circuit.Step) : Outcome Reading := do
  if s.name ≠ "measure" then return r
  let k ← Readout.Key.ofText (← textArg s "key")
  let (registers, bit) ← r.registers.add k
  let r := { r with registers, bits := r.bits.insert k.toText bit }
  match (s.arguments.lookup "feedback_key").getD .none with
  | .none => pure r
  | .text s =>
    let k ← Readout.Key.ofText s
    let (registers, bit) ← r.registers.add k
    pure { r with registers, feedback := r.feedback.insert k.toText bit }
  | _ => fail .type

def Reading.operations (r : Reading) (angles : AngleUnit) (s : Transmon.Circuit.Step) (wires : List Bit) :
    Outcome (List (Operation Bit)) := do
  let arg (n : String) := require .missing (s.arguments.lookup n)
  let rotation := do
    let angle ← angles.ofTurns (← arg "angle_t")
    let phase ← angles.ofTurns (← arg "phase_t")
    pure { name := "r", wires := [← itemAt wires 0], params := [angle, phase] }
  match s.name with
  | "prx" => pure [← rotation]
  | "cz" | "move" | "barrier" => pure [{ name := s.name, wires }]
  | "measure" =>
    let k ← Readout.Key.ofText (← textArg s "key")
    pure [{ name := "measure", wires := [← itemAt wires 0], bits := [(← r.bits.need k.toText)] }]
  | "delay" => pure [{ name := "delay", wires, params := [← arg "duration"], unit := some "s" }]
  | "cc_prx" =>
    let angle ← angles.ofTurns (← arg "angle_t")
    let phase ← angles.ofTurns (← arg "phase_t")
    let k ← textArg s "feedback_key"
    let w ← itemAt wires 0
    let bit ← r.feedback.need k
    pure [{ name := "r", wires := [w], params := [angle, phase], condition := some (.bit bit (.int 1)) }]
  | "reset" => return wires.map ({ name := "reset", wires := [·] })
  | x => refuse s!"Unsupported instruction {x} in the circuit."

def Rebuilt.ofSteps (angles : AngleUnit) (ps : Table String Nat) (l : Layout)
    (ss : List Transmon.Circuit.Step) : Outcome Rebuilt := do
  let reading ← ss.foldlM Reading.add {}
  let l := l.extended ps.size
  let ops ← ss.mapM fun s => do
    reading.operations angles s (← s.locus.mapM fun n => do l.wires.need (← ps.need n))
  let count := reading.registers.keys.foldl (fun most i => max most (i + 1)) 0
  pure { layout := l, registers := (List.range count).map reading.registers.get?, operations := ops.flatten }

end Transmon.Logical
