import Transmon.Circuit
import Transmon.Compiler.Options

/-!
Quantum architectures: what a chip can do.

The static architecture says which components are connected. The dynamic one depends on a calibration: it says
which implementations of which operations can be used where.
-/

namespace Transmon

open Text

/-- The connections of a chip. -/
structure StaticArch where
  (qubits resonators : Names)
  connectivity : List Names

/-- Where and how an operation can be used. -/
structure Architecture.Gate where
  implementations : Table String (List Names) := ∅
  default : String := ""
  /-- Loci at which another implementation is the default. -/
  overrides : Table Names String := ∅

/-- What a calibrated chip can do. -/
structure Architecture where
  calsetId : String := "00000000-0000-0000-0000-000000000000"
  qubits : Names
  resonators : Names := []
  gates : Table String Architecture.Gate := ∅

/-!
The architecture of a chip, and what the observations of a calibration add to it.

An operation can be used at every locus for which one of its known implementations has an observation. There the
first such implementation is the default; the one that is so most often is the default of the operation.
-/

/-- The static architecture of a chip. Connections are sorted by the order of the components. -/
def StaticArch.ofChip (c : Chip.Topology) : StaticArch :=
  let conns := c.couplerComponents.values
  let sorted := sortComponents (Names.ofList conns.flatten)
  let key (connection : Names) := connection.map sorted.idxOf
  { qubits := sortComponents c.qubits
    resonators := sortComponents c.resonators
    connectivity := conns.mergeSort fun a b => lexical (key a) (key b) }

namespace Architecture

variable (g : Gate)

def Gate.addLocus (i : String) (locus : Names) :=
  { g with implementations := g.implementations.update i [] fun loci =>
      if loci.contains locus then loci else loci ++ [locus] }

def Gate.localDefaults (order : Names) : Table Names String :=
  order.foldl (fun t i => (g.implementations.getD i []).foldl (fun t locus => t.insertNew locus i) t) ∅

/-- The entry that occurs most often; of several the first. -/
def mostCommon (xs : Names) :=
  (Names.ofList xs).foldl (fun best x => do
    let some held := best | some x
    if xs.count held < xs.count x then some x else best) none

/-- Fills in the defaults of an operation. -/
def Gate.withDefaults (order : Names) : Gate :=
  let chosen := g.localDefaults order
  let default := (mostCommon chosen.values).getD ""
  { g with default, overrides := chosen.filter fun _ i => i != default }

variable (c : Chip.Topology) (ops : OperationTable)

/-- Takes up the name of an observation. -/
def observe (a : Architecture) (n : String) : Outcome Architecture := do
  match n.splitOn "." with
  | "gates" :: g :: i :: locus :: _ =>
    let some op := ops.get? g | pure a
    if !op.implementations.contains i then return a
    let ps := locus.splitOn "__"
    pure { a with
      gates := a.gates.update g {} (·.addLocus i ps)
      qubits := .union a.qubits (ps.filter c.qubits.contains)
      resonators := .union a.resonators (ps.filter c.resonators.contains) }
  | "gates" :: _ => fail .invalid
  | _ => pure a

/-- The architecture that observations of a calibration give. -/
def ofObservations (ns : Names) : Outcome Architecture := do
  let x ← ns.foldlM (observe c ops) { qubits := [] }
  pure { x with
    qubits := sortComponents x.qubits
    resonators := sortComponents x.resonators
    gates := x.gates.map fun n g => g.withDefaults (((ops.get? n).map (·.implementations.keys)).getD []) }

end Architecture

/-!
Which circuits a calibrated chip can run.

Steps name components by names of the author of the circuit, which a mapping ties to components of the chip.
A circuit with moves also has to bring every qubit state back to its qubit, and to leave the qubit alone
meanwhile.
-/

/-- The names that an author uses for the components of a chip. -/
abbrev Mapping := Table String String

namespace Mapping

variable (m : Mapping)

/-- The author's name of each component; of two the later. -/
def inverse : Mapping := m.entries.foldl (fun t e => t.insert e.2 e.1) ∅

/-- The component that an author's name stands for, which has to be there. -/
def resolve (n : String) := m.need n

/-- Steps on the components that their names stand for. -/
def steps (x : List Circuit.Step) := x.mapM fun s => do return s.at (← s.locus.mapM m.resolve)

end Mapping

namespace Architecture

def Gate.loci (g : Gate) := (g.implementations.values.flatten.eraseDups).mergeSort (lexically elemOrdered)

variable (arch : Architecture)

def components := (arch.qubits ++ arch.resonators).mergeSort elemOrdered

def misfit {α : Type} (reason : String) : Outcome α := failWith .circuitInvalid reason

/-- Refuses a mapping that gives two names to a component, that lacks a name, or that names a component that is
not there. -/
def checkMapping (cs : List Circuit) : Option Mapping → Check
  | none => return
  | some m => do
    if (Names.ofList m.values).length ≠ m.size then misfit "Multiple logical qubits map to the same physical qubit."
    for (circuit, index) in cs.zipIdx do
      let missing := circuit.components.diff m.keys
      if !missing.isEmpty then
        let s := Names.shown missing
        misfit (s!"The qubits {s} in circuit '{circuit.name}' at index {index} are not found in the provided " ++
          "qubit mapping.")
    for part in m.values do
      if !arch.components.contains part then misfit s!"Component {part} not present in dynamic quantum architecture"

def allowed (s : Circuit.Step) : Outcome (List Names × String) :=
  match arch.gates.get? s.name with
  | none => misfit s!"Operation '{s.name}' is not supported by the dynamic quantum architecture."
  | some g =>
    match s.implementation with
    | none => pure (g.loci, s.name)
    | some chosen =>
      match g.implementations.get? chosen with
      | none =>
        misfit (s!"Operation '{s.name}' implementation '{chosen}' is not supported by the dynamic quantum " ++
          "architecture.")
      | some loci => pure (loci, s!"{s.name}.{chosen}")

variable (m : Option Mapping)

/-- Refuses a step that the chip cannot run. A free operation can be used wherever there are components, a
factorizable one wherever each component can be, a symmetric one also with its components in another order. -/
def checkStep (s : Circuit.Step) : Check := do
  match Circuit.Native.named? s.name with
  | none => misfit s!"Unknown quantum operation '{s.name}'."
  | some o =>
    let m := m.filter (!·.isEmpty)
    let locus ← match m with
      | some m => s.locus.mapM m.resolve
      | none => pure s.locus
    if o.isFree then
      if !Names.within locus arch.components then fail .circuitInvalid
      return
    let (loci, n) ← arch.allowed s
    if o.isFactorizable then
      if !Names.within locus loci.flatten then fail .circuitInvalid
      return
    if !(if o.isSymmetric then loci.any fun known => known.isPerm locus else loci.contains locus) then
      let x := quotedTuple s.locus
      let shown := if m.isSome then s!"{x} = {quotedTuple locus}" else x
      misfit s!"{shown} is not allowed as locus for '{n}'"

def shownOccupation (held : Circuit.Occupation) := mapped (held.entries.map fun e => (quoted e.1, quoted e.2))

/-- The occupation of the resonators after one step, or why the step is not allowed. -/
def moveStep (qs rs : Names) (free : Names) (held : Circuit.Occupation) (s : Circuit.Step) :
    Outcome Circuit.Occupation := do
  let locus := quotedTuple s.locus
  if s.name = "move" then
    match s.locus with
    | [q, res] =>
      if !(qs.contains q && rs.contains res) then
        misfit s!"MOVE instructions are only allowed between qubit and resonator, not {locus}."
      match held.get? res with
      | none =>
        if held.values.contains q then
          misfit s!"MOVE instruction {locus}: state of {q} is in another resonator: {shownOccupation held}."
        return held.insert res q
      | some owner =>
        if owner ≠ q then
          misfit s!"MOVE instruction {locus} to an already occupied resonator: {shownOccupation held}."
        return held.erase res
    | _ => fail .invalid
  else
    let moved := Names.inter (.ofList s.locus) held.values
    if !free.contains s.name && !moved.isEmpty then
      misfit (s!"Instruction {s.name} acts on {locus} while the state(s) of {Names.shown moved} are in a resonator. " ++
        s!"Current resonator occupation: {shownOccupation held}.")
    pure held

/-- Components by the names that a mapping gives them. -/
def renamed (ns : Names) : Names :=
  match m with
  | none => ns
  | some m => .ofList (ns.map fun n => m.inverse.getD n n)

variable (mode : Compiler.MoveValidation)

/-- Refuses a circuit that uses a qubit whose state is in a resonator, or, if asked, that leaves a state there. -/
def checkMoves (mustReturn : Bool) (ss : List Circuit.Step) : Check := do
  if mode = .none then return
  if !arch.gates.contains "move" then
    if ss.any fun step => step.name = "move" then
      misfit "MOVE instruction is not supported by the given device architecture."
    return
  let free := if mode = .allowRotations then ["barrier", "prx"] else ["barrier"]
  let qs := renamed m arch.qubits
  let rs := renamed m arch.resonators
  let held ← ss.foldlM (moveStep qs rs free) ∅
  if mustReturn && !held.isEmpty then
    misfit s!"Circuit ends while qubit state(s) are still in a resonator: {shownOccupation held}."

/-- Refuses steps that the chip cannot run, and measurement keys that occur twice. -/
def checkSteps (a : Architecture) (m : Option Mapping) : Values → List Circuit.Step → Check
  | _, [] => return
  | ks, s :: xs => do
    a.checkStep m s
    if s.name = "measure" then
      let k ← require .missing (s.arguments.lookup "key")
      if !k.isFixed then fail .type
      if ks.any (Value.equal · k) then fail .circuitInvalid
      a.checkSteps m (k :: ks) xs
    else a.checkSteps m ks xs

/-- Refuses circuits that the chip cannot run. -/
def checkCircuits (mustReturn : Bool) (cs : List Circuit) : Check := do
  for circuit in cs do
    arch.checkSteps m [] circuit.steps
    arch.checkMoves m mode mustReturn circuit.steps

end Architecture

end Transmon
