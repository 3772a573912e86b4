import Transmon.Chip
import Transmon.Operation

/-!
Circuits as lists of steps.

A step applies an operation at a locus, with arguments by name and perhaps with a particular implementation.
-/

namespace Transmon

/-- The application of an operation at a locus. -/
structure Circuit.Step where
  name : String
  locus : Names
  arguments : Dict := []
  implementation : Option String := none

/-- A circuit with a name, and notes of its author if there are any. -/
structure Circuit where
  name : String
  steps : List Circuit.Step
  notes : Value := .none

namespace Circuit

def Step.check (ops : OperationTable) (s : Step) : Check := do
  let some op := ops.get? s.name | refuse s!"Unknown quantum operation '{s.name}'."
  if let some chosen := s.implementation then
    if !op.implementations.contains chosen then
      refuse s!"Unknown implementation '{chosen}' for quantum operation '{s.name}'."
  if 0 < op.arity && op.arity != s.locus.length then
    let x := Text.quotedTuple s.locus
    refuse s!"The '{s.name}' operation acts on {op.arity} qubit(s), but {s.locus.length} were given: {x}"
  if !op.params.all fun n => (s.arguments.lookup n).isSome then
    let x := Text.quotedTuple (s.arguments.map Prod.fst)
    refuse s!"The '{s.name}' operation requires the arguments {op.shownParams}, but {x} were given."

def Step.key? (s : Step) := (s.arguments.lookup "key").filter Value.isFilled

/-- Refuses a circuit with a step that is refused, with a measurement key that occurs twice, or, if measurements
are required, without any. The state is the keys so far and whether a component was measured. -/
def checkFrom (ops : OperationTable) (isRequired : Bool) : Values → Bool → List Step → Check
  | _, isMeasured, [] => do if isRequired && !isMeasured then refuse "Circuit contains no measurements."
  | ks, isMeasured, s :: xs => do
    s.check ops
    let some k := s.key? | checkFrom ops isRequired ks isMeasured xs
    if !Value.isFixed k then fail .type
    if ks.any (Value.equal · k) then refuse s!"Measurement key '{k.plain}' is not unique."
    checkFrom ops isRequired (k :: ks) (isMeasured || !s.locus.isEmpty) xs

def check (ops : OperationTable) (isRequired : Bool) (ss : List Step) := checkFrom ops isRequired [] false ss

/-!
Moving qubit states into resonators.

A state that is moved into a resonator has to be moved back out of it to the same qubit before the circuit ends.
Meanwhile nothing else may be done to the qubit, apart from barriers and, where allowed, single-qubit rotations.
-/

/-- Which qubit's state each resonator holds. -/
abbrev Occupation := Table String String

def moveStep (c : Chip.Topology) (checksRotations : Bool) (held : Occupation) (s : Step) : Outcome Occupation := do
  let locus := Text.quotedTuple s.locus
  if s.name = "move" then
    let [q, res] := s.locus | fail .invalid
    if !(c.qubits.contains q && c.resonators.contains res) then
      refuse s!"Move operation locus must always be (qubit, resonator), got '{locus}'"
    match held.get? res with
    | none =>
      if held.values.contains q then
        refuse (s!"Cannot apply MOVE{locus} because " ++
          "the state of \x7bqubit\x7d is already moved to another resonator")
      return held.insert res q
    | some owner =>
      if owner ≠ q then refuse s!"Cannot apply MOVE{locus} because {res} already holds the state of '{owner}'"
      return held.erase res
  else
    let isFree := s.name = "barrier" || (!checksRotations && s.name = "prx")
    let moved := Names.inter (.ofList s.locus) held.values
    if !isFree && !moved.isEmpty then
      refuse (s!"Operation {s.name} to qubits '{Names.shown moved}' are forbidden while their states are moved to " ++
        "a resonator")
    pure held

def checkMoves (c : Chip.Topology) (checksRotations : Bool) (ss : List Step) : Check := do
  let held ← ss.foldlM (moveStep c checksRotations) ∅
  if !held.isEmpty then
    let s := Text.mapped (held.entries.map fun e => (Text.quoted e.1, Text.quoted e.2))
    refuse s!"The following resonators are still holding qubit states at the end of the circuit: {s}"

/-!
Circuits under construction.

A draft knows the components that it acts on, so that steps can be added by the positions of components, and
drafts can be joined, cut and moved to other components.
-/

/-- How many arguments and then positions the shortcut of an operation reads. -/
structure Shortcut where
  arguments : Nat
  positions : Int

/-- A circuit under construction and its components in order. -/
structure Draft where
  steps : List Step := []
  qubits : Names := []
  operations : OperationTable := Operation.library

namespace Draft

def numbered (n : Int) := (List.range n.toNat).map fun i => s!"QB{i + 1}"

def make (steps : List Step) (qubits : Names) (n : Int) : Draft :=
  { steps, qubits := if qubits.isEmpty then numbered n else qubits }

def add (d : Draft) (name : String) (ps : List Int) (args : Values) (impl : Option String) : Outcome Draft := do
  let some o := d.operations.get? name
    | failWith .missing s!"QuantumOp with name {name} is not in the gate definitions table."
  if ¬ps.Nodup then refuse "Repeated locus indices."
  if o.arity != 0 && o.arity != ps.length then
    refuse s!"Operation {name} has arity={o.arity} but {ps.length} target qubits were provided."
  let some locus := ps.mapM (Slice.at? d.qubits)
    | failWith .index ("To add new operations in this way, make sure the attribute 'qubits' has enough "
      ++ "qubits. It can also be automatically populated by calling the find_qubits() method if therealready are "
      ++ "operations, or set_qubits(n) if the list is empty.")
  if o.params.length != args.length then
    failWith .type (s!"Operation {name} has the following arguments: {o.shownParams}, but {args.length} "
      ++ "values were provided.")
  let s : Step := { name, locus, arguments := o.params.zip args, implementation := impl }
  s.check d.operations
  pure { d with steps := d.steps ++ [s] }

def position := Value.toWhole

def wholePosition : Value → Outcome Int
  | .int n => pure n
  | .bool b => return if b then 1 else 0
  | _ => fail .type

variable (d : Draft)

/-- Adds a step by a shortcut: first its arguments, then positions. -/
def apply (s : Shortcut) (n : String) (inputs : Values) (i : Option String) : Outcome Draft := do
  let ps := s.arguments
  if inputs.length != ps + s.positions then
    failWith .type (s!"The operation {n} requires {s.positions} locus/qubit indices and {ps} "
      ++ s!"additional arguments. A total of {inputs.length} were provided.")
  d.add n (← (inputs.drop ps).mapM position) (inputs.take ps) i

/-- The shortcuts that the draft sets: those of operations with a fixed number of components. -/
def shortcuts : Named Shortcut :=
  (d.operations.entries.filter (·.2.arity != 0)).map fun e => (e.1, ⟨e.2.params.length, e.2.arity⟩)

def addBarrier (ps : List Int) :=
  d.add "barrier" (if ps.isEmpty then (List.range d.qubits.length).map .ofNat else ps) [] none

/-- An argument on other components; one that names the source of a feedback follows it. -/
def argument (image : Table String String) : String × Value → Outcome (String × Value)
  | ("feedback_qubit", .text source) => do pure ("feedback_qubit", .text (← image.need source))
  | ("feedback_qubit", .dict _) => fail .type
  | ("feedback_qubit", _) => fail .missing
  | x => pure x

/-- The steps on other components, one for each component of the draft; no components mean the draft's own. -/
def relabelled (locus : Names) : Outcome (List Step) := do
  let locus := if locus.isEmpty then d.qubits else locus
  if ¬locus.Nodup then refuse "Repeated locus elements."
  if d.qubits.length != locus.length then
    failWith .index ("The number of qubits in the new locus must be equal to the number of qubits in the "
      ++ "old locus.")
  let image := Table.ofList (d.qubits.zip locus)
  d.steps.mapM fun s =>
    return { s with arguments := ← s.arguments.mapM (argument image), locus := ← s.locus.mapM image.need }

def relabel (locus : Names) :=
  return { d with steps := ← d.relabelled locus, qubits := if locus.isEmpty then d.qubits else locus }

def compose (d x : Draft) (ps : List Int) : Outcome Draft := do
  let ps := if ps.isEmpty then (List.range d.qubits.length).map .ofNat else ps
  let needed := x.qubits.length
  if ps.length < needed then
    let y := Text.listed (ps.map toString)
    failWith .index (s!"There are {needed} qubits in the second circuit, but provided mapping is {y}. Make "
      ++ "sure the length of the mapping is equal or longer to number of qubits.")
  let locus ← (ps.take needed).mapM fun k => require .index (Slice.at? d.qubits k)
  pure { d with steps := d.steps ++ (← x.relabelled locus) }

def withSteps (steps : List Step) := { d with steps }

def counts : Table String Nat := d.steps.foldl (fun t s => t.update s.name 0 (· + 1)) ∅

/-- Whether this is the name of something else that drafts have, and on which making them and adding steps rely. -/
def isPart (n : String) :=
  ["qubits", "table", "append", "add_op", "add_qubits", "_set_specific_operation_shortcut"].contains n ||
    n.startsWith "__"

end Draft

/-- Drafts by name. They share one shortcut for each operation, which every draft that is made sets anew. -/
structure Drafts where
  drafts : Table String Draft := ∅
  shortcuts : Table String Shortcut := ∅

namespace Drafts

variable (x : Drafts) (n : String)

def keep (d : Draft) : Drafts := { x with drafts := x.drafts.insert n d }

def make (d : Draft) : Drafts := { x.keep n d with shortcuts := x.shortcuts.insertMany d.shortcuts }

def call (op : String) (inputs : Values) (i : Option String) : Outcome Draft := do
  let d ← x.drafts.need n
  if Draft.isPart op then fail .type
  d.apply (← require .noAttr (x.shortcuts.get? op)) op inputs i

end Drafts

/-!
The operations that a device can be asked for, and which steps of them are well formed.
-/

inductive ArgKind
  | float | int | text
deriving DecidableEq

/-- Whether a value is of a kind; truth values count as whole numbers. -/
def ArgKind.admits : ArgKind → Value → Bool
  | float, .float _ | int, .int _ | int, .bool _ | text, .text _ => true
  | _, _ => false

def ArgKind.shown : ArgKind → String
  | float => "<class 'float'>"
  | int => "<class 'int'>"
  | text => "<class 'str'>"

/-- An operation of the device. -/
structure Native where
  name : String
  /-- The number of components it acts on; any number if zero. -/
  arity : Nat
  required : Named (List ArgKind) := []
  opt : Named (List ArgKind) := []
  /-- Whether the order of the components does not matter. -/
  isSymmetric : Bool := false
  /-- Whether it acts on each component on its own. -/
  isFactorizable : Bool := false
  /-- Whether it can be used wherever there are components. -/
  isFree : Bool := false

namespace Native

def angles : Named (List ArgKind) := [("angle_t", [.float, .int]), ("phase_t", [.float, .int])]

def all : List Native :=
  [{ name := "barrier", arity := 0, isSymmetric := true, isFree := true },
   { name := "delay", arity := 0, required := [("duration", [.float])], isSymmetric := true, isFree := true },
   { name := "measure", arity := 0, required := [("key", [.text])], opt := [("feedback_key", [.text])],
     isFactorizable := true },
   { name := "prx", arity := 1, required := angles },
   { name := "cc_prx", arity := 1, required := angles ++ [("feedback_key", [.text]), ("feedback_qubit", [.text])] },
   { name := "reset", arity := 0, isSymmetric := true, isFactorizable := true, isFree := true },
   { name := "cz", arity := 2, isSymmetric := true },
   { name := "move", arity := 2 }]

variable (name : String)

def named? := all.find? (·.name = name)

def named := require .missing (named? name)

def wellNamed :=
  match named? name with
  | some o => pure o
  | none =>
    refuse s!"Unknown operation \"{name}\". Supported operations are \"{Text.commaSeparated (all.map Native.name)}\""

def checkCount (o : Native) (ps : Values) : Check := do
  if 0 < o.arity && o.arity != ps.length then
    let x := (Value.tuple ps).shown
    refuse s!"The \"{o.name}\" operation acts on {o.arity} qubit(s), but {ps.length} were given: {x}"

def checkArgs (o : Native) (args : Dict) : Check := do
  let known := o.required ++ o.opt
  if o.required.any fun e => (args.lookup e.1).isNone then fail .invalid
  if args.any fun e => (known.lookup e.1).isNone then fail .invalid
  for (n, v) in args do
    let kinds := (known.lookup n).getD []
    if !kinds.any (·.admits v) then
      let supported := Text.tupled (kinds.map ArgKind.shown)
      failWith .type (s!"The argument \"{n}\" should be of one of the following supported types {supported}, " ++
        s!"but ({v.shownClass}) was given")

end Native

def checkImpl (i : Option String) : Check := do
  if i = some "" then refuse "Implementation of the instruction should be None, or a non-empty string"

def checkFilled {α : Type} (ss : List α) : Check := do
  if ss.isEmpty then refuse "Each circuit should have at least one instruction."

def components (c : Circuit) : Names := .ofList (c.steps.flatMap Step.locus)

def Step.at (s : Step) (locus : Names) := { s with locus }

/-!
The matrix of a circuit.

The components of a circuit are the factors of a tensor product, the first one most significant. The matrix of a
step is that of its operation on the factors of its locus and the identity on the others.
-/

open Numeric

/-- A square matrix. One that was made of real numbers only is shown with real entries. -/
structure Unitary (α : Type) where
  rows : List (List α)
  isReal : Bool := false

namespace Unitary

open Complex

section

variable {α : Type} [Zero α] [One α] [Add α] [Mul α]

def identity (n : Nat) : Unitary α := ⟨Matrix.identity n, true⟩

/-- The product; the right factor acts first. -/
def product (a b : Unitary α) : Unitary α := ⟨Matrix.product a.rows b.rows.length b.rows, a.isReal && b.isReal⟩

def ofDigits (bits : List Bool) := bits.foldl (fun n b => 2 * n + b.toNat) 0

/-- The number whose binary digits are those of another one at given places, the most significant one first. -/
def picked (perm : List Nat) (n : Nat) := ofDigits (perm.map fun k => n.testBit (perm.length - 1 - k))

/-- How many binary digits number the rows of a matrix of a given size, to the nearest. -/
def factors (n : Nat) :=
  let low := Nat.log2 n
  if .pow 2 (2 * low + 1) ≤ n * n then low + 1 else low

/-- The matrix with its tensor factors moved: factor `m` goes to the place that the permutation has at `m`. -/
def reorder (mat : Unitary α) (perm : List Int) : Outcome (Unitary α) := do
  let size := mat.rows.length
  if size = 0 then fail .index
  if !mat.rows.all fun r => r.length == (mat.rows.headD []).length then fail .invalid
  if (mat.rows.headD []).length != size then fail .assertion
  let count := factors size
  if !(((List.range count).all fun (k : Nat) => perm.contains k) && perm.all fun k => 0 ≤ k && k < count) then
    refuse s!"Invalid {count}-qubit permutation: {Text.listed (perm.map toString)}."
  if perm.length != count || .pow 2 count != size then fail .invalid
  let order := perm.map Int.toNat
  let rs := mat.rows.map List.toArray |>.toArray
  let entry (i j : Nat) : α := (rs.getD (picked order i) #[]).getD (picked order j) 0
  pure { mat with rows := (List.range size).map fun i => (List.range size).map (entry i ·) }

def extend (mat : Unitary α) (ps : List Int) (n : Int) : Outcome (Unitary α) := do
  if !mat.rows.all fun r => r.length == (mat.rows.headD []).length then fail .invalid
  let dim := Nat.pow 2 ps.length
  if !Matrix.isSquare dim mat.rows then refuse s!"Unitary does not have the correct dimension {dim}."
  let ys := (List.range n.toNat).filter fun (k : Nat) => !ps.contains k
  if n < ps.length then fail .invalid
  let xs := Numeric.Matrix.identity (.pow 2 (n.toNat - ps.length))
  reorder { mat with rows := Numeric.Matrix.kronecker mat.rows xs } (ps ++ ys.map .ofNat)

end

abbrev Gate := Unitary (Complex Float)

def ofEntries (a b c d : Complex Float) : Gate := ⟨[[a, b], [c, d]], false⟩

def planarRotation (angle phase : Float) : Gate :=
  let away (p : Float) : Complex Float := ⟨0, -1⟩ * cis p * ofReal (angle / 2).sin
  let stay := ofReal (angle / 2).cos
  ofEntries stay (away (-phase)) (away phase) stay

def generalRotation (theta phi lam : Float) : Gate :=
  let c := (theta / 2).cos
  let s := (theta / 2).sin
  ofEntries (ofReal c) (-scale s (cis lam)) (scale s (cis phi)) (scale c (cis (lam + phi)))

def frameChange (angle : Float) := ofEntries (cis (-angle / 2)) 0 0 (cis (angle / 2))

/-- A sign for the last basis state of two factors. -/
def controlledPhase : Gate :=
  let diagonal : List (Complex Float) := [1, 1, 1, -1]
  ⟨diagonal.zipIdx.map fun e => (List.range 4).map fun j => if e.2 = j then e.1 else 0, true⟩

def numbers (ns : Names) (args : Dict) : Outcome Floats := do
  if args.length != ns.length then fail .type
  ns.mapM fun n => require .type ((args.lookup n).bind Value.float?)

def ofRule (rule : MatrixRule) (args : Dict) : Outcome Gate := do
  match rule with
  | .planarRotation =>
    let [angle, phase] ← numbers ["angle", "phase"] args | fail .type
    return planarRotation angle phase
  | .generalRotation =>
    let [theta, phi, lam] ← numbers ["theta", "phi", "lam"] args | fail .type
    return generalRotation theta phi lam
  | .quarterTurn =>
    let _ ← numbers [] args
    return planarRotation (pi / 2) 0
  | .frameChange =>
    let [angle] ← numbers ["angle"] args | fail .type
    return frameChange angle
  | .controlledPhase =>
    let _ ← numbers [] args
    pure controlledPhase

/-- The matrix of an operation for its arguments, if it has one. -/
abbrev Gates (α : Type) := Operation → Option (Dict → Outcome (Unitary α))

def Gates.known : Gates (Complex Float) := (·.matrix.map ofRule)

variable {α : Type} [Zero α] [One α] [Add α] [Mul α] (gates : Gates α) (ops : OperationTable)

def ofStep (qs : Names) (s : Step) : Outcome (Unitary α) := do
  let some o := ops.get? s.name
    | failWith .missing s!"The operation {s.name} cannot be found in the QuantumOpTable."
  if o.arity = 0 then return identity (.pow 2 qs.length)
  let some gate := gates o
    | refuse s!"The operation {s.name} is not unitary or not fully defined over the computational space."
  let mat ← gate s.arguments
  let ps ← s.locus.mapM fun n => require .invalid (qs.idxOf? n)
  mat.extend (ps.map .ofNat) qs.length

def followed (qs : Names) (total : Unitary α) (s : Step) := return (← ofStep gates ops qs s).product total

def ofSteps (qs : Names) (ss : List Step) : Outcome (Unitary α) :=
  let qs := if qs.isEmpty then .ofList (ss.flatMap Step.locus) else qs
  ss.foldlM (followed gates ops qs) (identity (.pow 2 qs.length))

end Unitary

end Circuit

end Transmon
