import Transmon.Gate.Preparation
import Transmon.Timebox.Resolution

/-!
Arguments of calls, by position and by name.
-/

namespace Transmon

open Calibration

structure Args where
  positional : Values := []
  named : Dict := []

structure Signature where
  title : String := ""
  names : Named (Option Value) := []
  namedOnly : Named (Option Value) := []
  isOpen : Bool := false

namespace Args

variable (args : Args)

def key := args.positional ++ args.named.map fun e => .tuple [.text e.1, e.2]

def isRemembered := args.key.all Value.isFixed

def missingNames (ns : Names) :=
  match ns.reverse.map Text.quoted with
  | [] => ""
  | [n] => n
  | [last, x] => s!"{x} and {last}"
  | last :: ys => ", ".intercalate ys.reverse ++ ", and " ++ last

def checkGiven (title k : String) (vs : Named (Option Value)) : Check :=
  match (vs.filter (·.2.isNone)).map Prod.fst with
  | [] => pure ()
  | missing =>
    let ending := if missing.length = 1 then "" else "s"
    hint .type s!"{title} missing {missing.length} required {k} argument{ending}: {missingNames missing}"

/-- The values of the names of a signature in order. Too many values, unknown or repeated names and missing
values are refused. -/
def bind (sig : Signature) : Outcome Values := do
  let all := sig.names ++ sig.namedOnly
  let byPosition := List.zipWith (fun (e : String × Option Value) v => (e.1, v)) sig.names args.positional
  args.named.forM fun e => do
    let reject (what : String) : Check := hint .type s!"{sig.title} got {what} argument {Text.quoted e.1}"
    if !sig.isOpen && (all.lookup e.1).isNone then reject "an unexpected keyword"
    if (byPosition.lookup e.1).isSome then reject "multiple values for"
  if sig.names.length < args.positional.length then fail .type
  let found (e : String × Option Value) : String × Option Value :=
    (e.1, (byPosition.lookup e.1).or ((args.named.lookup e.1).or e.2))
  checkGiven sig.title "positional" (sig.names.map found)
  checkGiven sig.title "keyword-only" (sig.namedOnly.map found)
  return all.filterMap fun e => (found e).2

end Args

/-!
The state of a schedule builder.
-/

open Timebox (Group Shelf Shelving Surroundings)

inductive Priority
  | data (data : CalibrationData)
  | tree (tree : CalibrationTree)

structure Implementation where
  number : Nat
  (operation name : String)
  design : Gate.Design
  locus : Names
  calibration : CalibrationData
  inherited : Option Priority := none
  prepared : Gate.Prepared
  preferred : Named String := []
  calls : List (Values × Group) := []
  probes : List (Values × Nat) := []
  traces : List (Values × Nat) := []
  cliffords : List (Int × Nat) := []

inductive Timeline
  | ofBox (number : Nat)
  | free (number : Nat)

structure Builder where
  station : Station
  operations : OperationTable
  calibration : CalibrationTree
  shortcuts : Names := []
  implementations : Array Implementation := #[]
  ready : List ((String × String × Names) × Nat) := []
  composites : List ((Nat × Values) × Group) := []
  shelf : Shelf := #[]
  schedules : Array Schedule := #[]

abbrev Build := Work Builder

namespace Build

def onShelf {α : Type} (work : Shelving α) : Build α := .within Builder.shelf (fun shelf b => { b with shelf }) work

def station : Build Station := return (← get).station

def put (box : Timebox) := onShelf (.put box)

def tree (n : Nat) : Build Timebox := return (← get).shelf.tree n

variable (number : Nat)

def box : Build Timebox := return (← get).shelf[number]?.getD default

def changeBox (change : Timebox → Timebox) : Build Unit :=
  modify fun b => { b with shelf := b.shelf.change number change }

def setBlocked (ps : Names) := changeBox number fun b => { b with blocked := b.blocked.insert 0 ps }

def compose (xs : List Timebox.Nesting) (l : String) := onShelf (.compose xs l .asap .hardBoundary)

def implementation : Build Implementation := do require .missing (← get).implementations[number]?

def changeImpl (change : Implementation → Implementation) : Build Unit :=
  modify fun b => { b with implementations := b.implementations.modify number change }

def resolve (range : Int) (fill : Bool) : Build Schedule := do
  let b ← get
  let (box, x) := Timebox.resolve (.of b.station) range fill (b.shelf.tree number)
  set { b with shelf := b.shelf.record box }
  x

variable (t : Timeline)

def contents : Build Schedule := do
  let b ← get
  match t with
  | .ofBox n => require .noAttr ((b.shelf[n]?).bind Timebox.timeline)
  | .free n => require .missing b.schedules[n]?

variable (s : Schedule)

def write : Build Unit :=
  match t with
  | .ofBox n => changeBox n ({ · with timeline := some s })
  | .free n => modify fun b => { b with schedules := b.schedules.setIfInBounds n s }

def own : Build Timeline := do
  let b ← get
  set { b with schedules := b.schedules.push s }
  return .free b.schedules.size

end Build

namespace Builder

def reservedNames : Names :=
  ["op_table", "calibration", "chip_topology", "channels", "component_channels", "composite_cache", "wait",
   "has_calibration", "get_calibration", "inject_calibration", "validate_calibration", "get_drive_channel",
   "get_flux_channel", "get_probe_channel", "get_control_channels", "get_virtual_feedback_channels",
   "get_virtual_feedback_channel_for", "get_implementation", "get_implementation_class",
   "validate_quantum_circuit", "circuit_to_timebox", "resolve_timebox", "timebox_to_schedule",
   "timeboxes_to_playlist", "timeboxes_to_front_padded_playlist", "build_playlist", "_cache",
   "_channel_to_component", "_channel_types", "_require_scheduling_in_seconds", "_channel_templates",
   "_get_channel_for_component", "_find_implementation_and_locus", "_get_implementation", "_finish_schedule",
   "_fuse_long_distance_virtual_rzs", "_resolve_timebox_hard_boundary", "_get_neighborhood_hard_boundary",
   "_resolve_timebox_tetris", "_block_neighborhood_tetris", "_set_gate_implementation_shortcut"]

def make (st : Station) (ops : OperationTable) (cal : CalibrationTree) : Outcome Builder := do
  if ops.keys.any reservedNames.contains then fail .noAttr
  pure { station := st, operations := ops, calibration := cal, shortcuts := ops.keys }

end Builder

namespace Build

variable (op impl : String)

def forget (locus : Names) (isFactorizable : Bool) : Build Unit :=
  modify fun b =>
    { b with ready := b.ready.filter fun e =>
        !(e.1.1 == op && e.1.2.1 == impl && (e.1.2.2 == locus || (isFactorizable && Names.meets e.1.2.2 locus))) }

def injectAt (locus : Names) (d : CalibrationData) : Build Unit := do
  let b ← get
  let (held, fresh, t) ← renew b.calibration op impl locus d
  set { b with calibration := t }
  if (b.ready.lookup (op, impl, locus)).isSome then
    if ← Value.differ (.dict held) (.dict fresh) then
      forget op impl locus (← requireName op (b.operations.get? op)).isFactorizable

def inject (t : CalibrationTree) : Build Unit := do
  modify ({ · with composites := [] })
  for (op, impls) in t.entries do
    for (impl, loci) in impls.entries do for (locus, d) in loci.entries do injectAt op impl locus d

end Build

/-!
Finding and making implementations of operations.
-/

namespace Builder

variable (b : Builder) (o : Operation)

def calibratedLocus (n : String) (d : Gate.Design) (locus : Names) (strict : Bool) : Option Names :=
  if !d.needsCal then some locus
  else if o.isFactorizable && 1 < locus.length then some locus
  else
    let loci :=
      if o.isSymmetric then
        if d.isSymmetric then [Text.sortComponents locus]
        else if strict then [locus]
        else Names.orders locus
      else [locus]
    loci.find? (hasDataAt b.calibration o.name n ·)

def priorities (locus : Names) : Outcome (Named Gate.Design) := do
  if o.localDefaults.isEmpty then return o.implementations.entries
  let x ← o.defaultAt locus
  return (x, ← o.implementations.named x) :: o.implementations.entries.filter (·.1 != x)

def find (n : Option String) (locus : Names) (strict : Bool) : Outcome (String × Names) := do
  match n with
  | none =>
    let x := (← priorities o locus).findSome? fun e =>
      if e.2.isSpecial then none
      else (b.calibratedLocus o e.1 e.2 locus strict).map (e.1, ·)
    let some r := x | refuse s!"No calibration data for '{o.name}' at {Text.quotedTuple locus}."
    pure r
  | some n =>
    let some d := o.implementations.get? n
      | refuse s!"Unknown quantum operation implementation '{o.name}.{n}'."
    let some place := b.calibratedLocus o n d locus strict
      | refuse s!"No calibration data for '{o.name}.{n}' at {Text.quotedTuple locus}."
    pure (n, place)

/-- The operation, the name of the implementation and the locus that a request means. -/
def locate (o : String) (locus : Names) (n : Option String) (byPriority strict : Bool) := do
  let some known := b.operations.get? o | refuse s!"Unknown quantum operation '{o}'."
  let n ← (if n.isNone && !byPriority then some <$> known.defaultAt locus else pure n)
  pure (known, ← b.find known n locus strict)

def nestedData (t : CalibrationTree) : CalibrationData :=
  t.entries.map fun e => (e.1, .dict (e.2.entries.map fun e =>
    (e.1, .dict (e.2.entries.map fun e => (nameOfLocus e.1, .dict e.2)))))

def priorityData (p : Priority) (o n : String) (locus : Names) : Outcome CalibrationData :=
  match p with
  | .tree t => do
    let some impls := t.get? o | return nestedData t
    return (impls.getD n ∅).getD locus []
  | .data d =>
    match d.lookup o with
    | none => pure d
    | some (.dict impls) =>
      match impls.lookup n with
      | none | some (.dict _) => return []
      | some _ => fail .noAttr
    | some _ => fail .noAttr

def isGiven : Option Priority → Bool
  | none => false
  | some (.data d) => !d.isEmpty
  | some (.tree tr) => !tr.isEmpty

def dataFor (n : String) (d : Gate.Design) (locus : Names) (prio : Option Priority) :
    Outcome (CalibrationData × Option Priority) := do
  if d.needsCal && (!o.isFactorizable || locus.length = 1) then
    let data ← dataAt b.calibration o.name n locus
    let data ← match prio with
      | some y => do
        if isGiven prio then
          let x ← priorityData y o.name n locus
          if x.isEmpty then pure data else Value.merge data x false
        else pure data
      | none => pure data
    checkLocus data d o n locus
    pure (data, none)
  else if o.isFactorizable && 1 < locus.length && isGiven prio then
    match prio with
    | some (.data data) => pure (data, some (.data data))
    | some (.tree t) => pure (nestedData t, some (.tree t))
    | none => pure ([], none)
  else pure ([], none)

def preferences (d : Gate.Design) (data : CalibrationData) : Named String :=
  data.foldl (fun preferred e =>
    match e.2 with
    | .dict inner =>
      match inner.lookup "default_implementation" with
      | none | some .none => preferred
      | some v => if d.members.contains e.1 then Table.put e.1 v.plain preferred else preferred
    | _ => preferred) d.preferred

/-- A new implementation at a locus, under the next free number. -/
def implementation (name : String) (locus : Names) (prio : Option Priority) : Outcome Implementation := do
  let design ← o.implementations.named name
  let (calibration, inherited) ← b.dataFor o name design locus prio
  let prepared ← Gate.prepare ⟨b.station, o.name, name, locus⟩ design calibration
  pure { number := b.implementations.size, operation := o.name, name, design, locus, calibration,
           inherited, prepared, preferred := if design.isComposite then preferences design calibration else [] }

end Builder

namespace Build

/-- What is ready at a locus, or else a new implementation, which is ready from now on unless it has data of its own. -/
def implement (o : Operation) (m : String) (locus : Names) (prio : Option Priority) : Build Nat := do
  let b ← get
  let place := (o.name, m, locus)
  match if prio.isNone then b.ready.lookup place else none with
  | some n => pure n
  | none =>
    let made ← b.implementation o m locus prio
    set { b with
      implementations := b.implementations.push made
      ready := if prio.isNone then (place, made.number) :: b.ready else b.ready }
    pure made.number

def implementNamed (o : String) (locus : Names) (n : Option String) (byPriority strict : Bool)
    (prio : Option Priority) : Build Nat := do
  let (known, n, locus) ← (← get).locate o locus n byPriority strict
  implement known n locus prio

def designOf (o : String) (n : Option String) : Build Gate.Design := do
  let known ← (← get).operations.named o
  if let some n := n then return ← known.implementations.named n
  let some d := known.implementations.values.head? | refuse s!"No implementations found for operation {o}."
  pure d

def member (self : Implementation) (o : String) (locus : Names) (n : Option String)
    (ms : Names := self.design.members) : Build Nat := do
  let n := (n.filter (!·.isEmpty)).or (self.preferred.lookup o)
  let isOwn ← if ms.contains o then do pure (← designOf o n).needsCal else pure false
  let prio ← match dataAt (← get).calibration self.operation self.name self.locus, isOwn with
    | _, false => pure none
    | .ok d, true => pure (some (.data d))
    | .error f, true => if f.kind == .invalid then pure none else throw f
  implementNamed o locus n true false prio

end Build

end Transmon
