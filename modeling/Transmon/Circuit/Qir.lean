import Transmon.Circuit

/-!
Circuits in a module of QIR, the quantum intermediate representation.

The entry point of a module is a straight list of calls. Calls to the quantum instruction set become steps on
qubits that are named by their numbers; other calls are left out.
-/

namespace Transmon.Qir

/-- An argument of a call. The last three are numbers. -/
inductive Arg
  | qubit (number : Int)
  | result (number : Int)
  | double (value : Float)
  | whole (value : Int)
  /-- A number that is not known before the program runs. -/
  | symbol (shown : String)

namespace Arg

def qubit? : Arg → Option Int
  | .qubit n => some n
  | _ => none

def result? : Arg → Option Int
  | .result n => some n
  | _ => none

def isNum : Arg → Bool
  | .double _ | .whole _ | .symbol _ => true
  | _ => false

def value : Arg → Except String Float
  | .double x => pure x
  | .whole n => return .ofInt n
  | .symbol s => throw s!"Invalid double value: {s}"
  | _ => throw "Invalid double value: "

end Arg

/-- A call of a function by name. -/
structure Call where
  callee : String
  arguments : List Arg := []

/-- A function of a module. Instructions of its blocks that are no calls are left out. -/
structure Function where
  isEntry : Bool := false
  qubits : Option Int := none
  results : Option Int := none
  attrs : Named String := []
  blocks : List (List Call) := []

structure Module where
  functions : List Function := []
  /-- The flags that are whole numbers. -/
  flags : Named Int := []
  source : String := ""

def instrSet := "__quantum__qis__"

def body := "__body"

/-- The kinds of step that calls stand for. -/
inductive Kind
  | rotation | measurement | phase
deriving DecidableEq

def Kind.name : Kind → String
  | .rotation => "prx"
  | .measurement => "measure"
  | .phase => "cz"

def Kind.ofName? (n : String) : Option Kind :=
  if ["phased_rx", "prx", "r"].contains n then some .rotation
  else if ["mz", "measurement", "measure"].contains n then some .measurement
  else if n = "cz" then some .phase
  else none

def instruction? (callee : String) : Option String :=
  if instrSet.toList.isPrefixOf callee.toList then
    let xs := callee.toList.drop instrSet.length
    some (.ofList (if body.toList.isSuffixOf xs then xs.take (xs.length - body.length) else xs))
  else none

def stepArgs (k : Kind) (args : List Arg) : Outcome Dict :=
  let failed (reason : String) := refuse s!"Error processing operation {k.name}: {reason}"
  let number (i : Nat) : Outcome Float := do
    let some arg := (args.filter Arg.isNum)[i]? | failed "list index out of range"
    match arg.value with
    | .ok x => pure x
    | .error reason => failed reason
  match k with
  | .rotation => do return [("angle", .float (← number 0)), ("phase", .float (← number 1))]
  | .measurement => do
    let r ← require .invalid (args.findSome? Arg.result?)
    return [("key", .text s!"m_1_{r}_0")]
  | .phase => return []

/-- The step that a call stands for; none for a call outside the instruction set. -/
def Call.step? (c : Call) : Outcome (Option Circuit.Step) := do
  let some n := instruction? c.callee | pure none
  let some k := Kind.ofName? n | refuse s!"Unsupported operation: {n}"
  return some {
    name := k.name
    locus := (c.arguments.filterMap Arg.qubit?).map toString
    arguments := ← stepArgs k c.arguments }

namespace Module

variable (m : Module)

def entries := m.functions.filter Function.isEntry

def profile? := m.entries.reverse.findSome? (·.attrs.lookup "qir_profiles")

def warnings : Names :=
  match m.profile? with
  | some "base_profile" | some "basic_qir" => []
  | some n => [s!"{n} may not be a supported QIR profile"]
  | none => ["None may not be a supported QIR profile"]

def required (count : Function → Option Int) (noun : String) := do
  let some n := m.entries.getLast?.bind count | refuse s!"QIR program must specify the number of {noun} required"
  if n = 0 then refuse s!"QIR program must specify the number of {noun} required" else pure n.toNat

def checkVersion : Check := do
  let major := (m.flags.lookup "qir_major_version").getD 0
  let minor := (m.flags.lookup "qir_minor_version").getD 0
  if major ≠ 1 || minor ≠ 0 then refuse s!"Unsupported QIR version {major}.{minor}"

def circuit : Outcome (Nat × Circuit) := do
  let qs ← m.required Function.qubits "qubits"
  let _ ← m.required Function.results "results"
  m.checkVersion
  let e ← require .exhausted m.entries.head?
  if e.blocks.length > 1 then refuse "QIR program must have a single basic block"
  let steps ← e.blocks.flatten.mapM Call.step?
  pure (qs, { name := if m.source.isEmpty then "QIR Program" else m.source, steps := steps.filterMap id })

end Module

/-- The components that stand for the qubits: those of a mapping that is given, or the first ones of the chip. -/
def components (n : Nat) (x : Table Int String) : Outcome (Named String) :=
  (List.range n).mapM fun (i : Nat) =>
    if x.isEmpty then pure (toString i, s!"QB{i + 1}")
    else do pure (toString i, ← x.need i)

end Transmon.Qir
