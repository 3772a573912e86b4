import Transmon.Architecture
import Transmon.Logical.Circuit

/-!
Targets: what a chip offers to logical circuits, by numbered components.
-/

namespace Transmon.Logical

structure Target where
  architecture : Architecture
  positions : Table String Nat
  (hasResonators hasRelays : Bool)
  offers : Table String (List (List Nat))

def numbered (ns : Names) : Table String Nat := .ofList ns.zipIdx

namespace Target

variable (positions : Table String Nat)

def place (locus : Names) := locus.mapM positions.need

def placeAll (loci : List Names) := return (← loci.mapM (place positions)).eraseDups

variable (arch : Architecture)

def isPlain (locus : Names) := locus.all arch.qubits.contains

/-- Pairs that meet in a resonator, in both orders. -/
def relays (phases moves : List Names) : Outcome (List Names) := do
  let y ← moves.mapM fun
    | [moved, res] =>
      let partners := arch.qubits.filter fun x =>
        x ≠ moved && x ≠ res && (phases.contains [x, res] || phases.contains [res, x])
      return partners.flatMap fun x => [[moved, x], [x, moved]]
    | _ => fail .invalid
  pure y.flatten

def phaseLoci (hasResonators hasRelays : Bool) (phases : List Names) : Outcome (List Names) := do
  let direct := phases.filter (hasResonators || isPlain arch ·)
  let some move := arch.gates.get? "move" | pure direct
  if hasRelays then
    if phases.any (·.length ≠ 2) then fail .invalid
    return direct ++ (← relays arch phases move.loci)
  else pure direct

variable (positions : Table String Nat) (hasResonators : Bool)

/-- The loci of a gate, under the name that logical circuits have for it. -/
def offered (g n : String) : Outcome (Named (List (List Nat))) := do
  let some x := arch.gates.get? g | return []
  return [(n, ← placeAll positions (x.loci.filter (hasResonators || isPlain arch ·)))]

def ofArchitecture (hasRelays : Bool := true) : Outcome Target := do
  let offered := offered arch positions hasResonators
  let qs := arch.qubits.map ([·])
  let delay ← placeAll positions qs
  let measure ← offered "measure" "measure"
  let idle ← placeAll positions (if hasResonators then arch.components.map fun n => [n] else qs)
  let rotation ← offered "prx" "r"
  let reset ← offered "cc_prx" "reset"
  let move ← if hasResonators then offered "move" "move" else pure []
  let phase ← match arch.gates.get? "cz" with
    | none => pure []
    | some g => do pure [("cz", ← placeAll positions (← phaseLoci arch hasResonators hasRelays g.loci))]
  pure {
    architecture := arch, positions, hasResonators, hasRelays
    offers := .ofList ([("delay", delay)] ++ measure ++ [("id", idle)] ++ rotation ++ reset ++ move ++ phase) }

variable (t : Target)

def loci (n : String) := t.offers.getD n []

def names : Table Nat String := .ofList (t.positions.entries.map fun e => (e.2, e.1))

def width := t.offers.values.flatten.flatten.foldl (fun most i => max most (i + 1)) 0

def components : Outcome Names := (List.range t.width).mapM t.names.need

def couplings := (t.offers.values.flatten.filter (·.length = 2)).eraseDups.mergeSort Text.lexical

end Target

def restrictGate (ns : Names) (g : Architecture.Gate) :=
  let kept := g.implementations.map fun _ loci => loci.filter (·.all ns.contains)
  let kept := kept.filter fun _ loci => !loci.isEmpty
  if kept.isEmpty then none else some { g with implementations := kept }

def restrictArch (a : Architecture) (ns : Names) : Architecture :=
  { a with
    qubits := ns.filter a.qubits.contains
    resonators := ns.filter a.resonators.contains
    gates := ⟨a.gates.entries.filterMap fun e => (restrictGate ns e.2).map fun g => (e.1, g)⟩ }

inductive Component
  | named (name : String)
  | numbered (pos : Int)

def Component.name (ns : Table Nat String) : Component → Outcome String
  | .named n => pure n
  | .numbered i => if i < 0 then fail .missing else ns.need i.toNat

def Target.restrict (t : Target) (ps : List Component) : Outcome Target := do
  let ns ← ps.mapM (Component.name t.names)
  ofArchitecture (restrictArch t.architecture ns) (numbered ns) t.hasResonators t.hasRelays

structure Device where
  architecture : Architecture
  positions : Table String Nat
  plain : Target
  extended : Option Target

namespace Device

def ofArchitecture (arch : Architecture) : Outcome Device := do
  let positions := numbered (arch.qubits ++ arch.resonators)
  let plain ← Target.ofArchitecture arch positions false
  let extended ← if arch.gates.contains "move" then some <$> Target.ofArchitecture arch positions true else pure none
  pure { architecture := arch, positions, plain, extended }

variable (d : Device)

def components := d.positions.keys

def names : Table Nat String := .ofList (d.positions.entries.map fun e => (e.2, e.1))

def withResonators := d.extended.getD d.plain

def real := Target.ofArchitecture d.architecture d.positions true false

def position (n : String) : Outcome Nat :=
  if let some position := d.positions.get? n then pure position
  else refuse s!"Qubit '{n}' is not found on the backend."

def restrict (ps : List Component) (hasResonators : Bool := false) (hasRelays : Bool := true) : Outcome Target := do
  let ns ← ps.mapM (Component.name d.names)
  Target.ofArchitecture (restrictArch d.architecture ns) (numbered ns) hasResonators hasRelays

def validate (c : Circuit) (mode : Compiler.MoveValidation := .strict)
    (ns : Option (Table Nat String) := none) : Check := do
  let steps ← c.toSteps .radians (ns.getD d.names)
  d.architecture.checkCircuits none mode true [{ name := "Validation circuit", steps }]

end Device

/-!
Layouts for circuits with moves.
-/

structure Places where
  (qubits resonators : List Nat)

def defaultLoci (g : Architecture.Gate) := g.implementations.need g.default

def places (a : Architecture) (g : Architecture.Gate) : Outcome Places := do
  let loci ← defaultLoci g
  let x ← itemAt loci 0
  let alwaysQubit (place : Nat) : Outcome Bool :=
    let rec scan : List Names → Outcome Bool
      | [] => pure true
      | locus :: xs => do if a.qubits.contains (← itemAt locus place) then scan xs else pure false
    scan loci
  pure {
    qubits := ← (List.range x.length).filterM alwaysQubit
    resonators := (List.range x.length).filter fun place => x[place]?.any a.resonators.contains }

/-- What the operations of a circuit ask of its wires. -/
structure Demands where
  operations : Table Nat Names := ∅
  resonators : List Nat := []

def misplaced {α : Type} (reason : String) : Outcome α := failWith (.other "TranspilerError") reason

namespace Demands

def needQubit (ds : Demands) (w : Nat) (o : String) : Outcome Demands := do
  if ds.resonators.contains w then
    misplaced (s!"Virtual/logical qubit {w} for the '{o}' operation must be a qubit, but it is already "
      ++ "required to be a resonator.")
  pure { ds with operations := ds.operations.update w [] (·.add o) }

def needResonator (ds : Demands) (w : Nat) (o : String) : Outcome Demands := do
  if ds.operations.contains w then
    misplaced (s!"Virtual/logical qubit {w} for the '{o}' operation must be a resonator, but it is already "
      ++ "required to be a qubit.")
  pure { ds with
    resonators := if ds.resonators.contains w then ds.resonators else ds.resonators ++ [w] }

def add (known : Table String Places) (width : Nat) (ds : Demands) (o : Operation Nat) : Outcome Demands := do
  let some ps := known.get? o.name | pure ds
  let wireAt (place : Nat) : Outcome Nat := do
    let w ← itemAt o.wires place
    if w < width then pure w else fail .missing
  let ds ← ps.qubits.foldlM (fun d place => do d.needQubit (← wireAt place) o.name) ds
  ps.resonators.foldlM (fun d place => do d.needResonator (← wireAt place) o.name) ds

end Demands

/-- Which gates start at a component. -/
def abilities (t : Target) : Table Nat Names :=
  ["move", "cz", "measure", "r"].foldl (fun table n =>
    (t.loci n).foldl (fun table locus => if let x :: _ := locus then table.update x [] (·.add n) else table) table) ∅

variable (free : Table Nat Names)

/-- The component with the fewest abilities that has those asked for. -/
def leastAble (asked : Names) :=
  (free.entries.filter (asked.within ·.2)).foldl (fun best e => do
    let some held := best | some e
    if e.2.length < held.2.length then some e else best) none |>.map Prod.fst

def shownAbilities := Text.mapped (free.entries.map fun e => (toString e.1, Names.shown e.2))

def assign : Table Nat Names → Table Nat Nat → List (Nat × Names) → Outcome (Table Nat Nat)
  | _, l, [] => pure l
  | free, l, (w, asked) :: xs =>
    match leastAble free asked with
    | none =>
      misplaced (s!"Cannot find a physical qubit to map logical qubit {w} to, requires {Names.shown asked}, "
        ++ s!"available: {shownAbilities free}.")
    | some i => assign (free.erase i) (l.insert i w) xs

/-- Puts each wire on a component that can do what it is used for. -/
def Target.layout (t : Target) (c : Circuit) : Outcome (List (Nat × Nat)) := do
  for (_, g) in t.architecture.gates.entries do discard (require .index (← defaultLoci g).head?)
  let known ← t.architecture.gates.mapM fun _ g => places t.architecture g
  let demands ← c.operations.foldlM (Demands.add known c.width) {}
  if 1 < demands.resonators.length then
    misplaced "Circuit requires more than one computational resonator, IQMMoveLayout cannot yet handle this."
  let asked := (List.range c.width).foldl (fun table w =>
    if demands.resonators.contains w then table else table.insertNew w []) demands.operations
  let start ← match demands.resonators, t.architecture.resonators with
    | w :: _, n :: _ => do pure (.ofList [(← t.positions.need n, w)])
    | _, _ => pure ∅
  return (← assign (abilities t) start asked.entries).entries.mergeSort fun a b => a.1 ≤ b.1

def Device.layout (d : Device) (c : Circuit) (ps : Option (List Component) := none) := do
  let t ← d.real
  let some ps := ps | t.layout c
  (← t.restrict ps).layout c

end Transmon.Logical
