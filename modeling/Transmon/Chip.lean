import Transmon.Form.Basic

/-!
The layout of a chip.

Qubits and resonators carry data; couplers connect them; probe lines read them out. Operations act on loci:
ordered or unordered groups of components. A named mapping relates loci to the components that implement
an operation there.
-/

namespace Transmon

open Names Text Form

/-- Where an operation acts: an ordered group of components, or an unordered one. -/
inductive Locus
  | ordered (parts : Names)
  | unordered (parts : Names)

namespace Locus

def components : Locus → Names | ordered components | unordered components => components

/-- Ordered loci are the same if they list the same components in order, unordered ones if they have the
same components. -/
instance : BEq Locus where
  beq
    | ordered a, ordered b => a == b
    | unordered a, unordered b => a.same b
    | _, _ => false

end Locus

namespace Chip

def qubitMapping := "qubits"

def pairMapping := "connected_qubits"

/-- The layout of a chip, with its mappings of loci. -/
structure Topology where
  (qubits resonators couplers probeLines : Names)
  (couplerComponents componentCouplers probeLineComponents : Table String Names)
  probeLineOf : Table String String
  mappings : Table String (Table Locus Names)

def couplersByComponent (cs : Table String Names) : Table String Names :=
  cs.entries.foldl (fun t e => e.2.foldl (fun t p => t.update p [] (·.add e.1)) t) ∅

namespace Topology

/-- The layout with the given components and connections. Couplers connect qubits and resonators; probe
lines read these and couplers. -/
def make (qs rs : Names) (cs probeLines : Table String Names) : Outcome Topology := do
  let qs := ofList qs
  let rs := ofList rs
  let data := qs.union rs
  let strangers := (ofList cs.values.flatten).diff data
  if !strangers.isEmpty then refuse s!"Couplers connect to unknown components: {strangers.shown}"
  let strangers := (ofList probeLines.values.flatten).diff (data.union cs.keys)
  if !strangers.isEmpty then refuse s!"Probe lines connect to unknown components: {strangers.shown}"
  let couplerComponents := cs.map fun _ ps => sortComponents ps
  let sortedQubits := sortComponents qs
  let pairs := couplerComponents.entries.filter (·.2.length == 2)
  pure {
    qubits := sortedQubits
    resonators := sortComponents rs
    couplers := sortCouplers cs.keys
    probeLines := sorted probeLines.keys
    couplerComponents
    componentCouplers := couplersByComponent cs
    probeLineComponents := probeLines.map fun _ ps => sortComponents ps
    probeLineOf := .ofList (probeLines.entries.flatMap fun e => e.2.map fun p => (p, e.1))
    mappings := ⟨[
      (qubitMapping, ⟨sortedQubits.map fun q => (.ordered [q], [q])⟩),
      (pairMapping, .ofList (pairs.map fun e => (.unordered (ofList e.2), [e.1])))]⟩ }

variable (c : Topology)

def dataComponents := c.qubits ++ c.resonators

def all := ((ofList c.dataComponents).union c.couplers).union c.probeLines

variable (comps : Names)

def neighborCouplers : Names := comps.foldl (fun ns p => ns.union (c.componentCouplers.getD p [])) []

def connectingCouplers : Names :=
  (c.neighborCouplers comps).filter fun coupler =>
    let ends := c.couplerComponents.getD coupler []
    ends.all comps.contains && 2 ≤ ends.length

variable (x z : String)

def couplerFor : Outcome String :=
  match c.connectingCouplers [x, z] with
  | [coupler] => pure coupler
  | cs => refuse s!"Components {x} and {z} have {cs.length} connecting couplers."

def couplerOf : Names → Outcome String
  | [x, z] => c.couplerFor x z
  | _ => fail .type

def neighborComponents : Names :=
  let ends : Names := (c.neighborCouplers comps).foldl (fun ns coupler =>
    union ns (c.couplerComponents.getD coupler [])) []
  ends.diff comps

def connectedProbeLines := ofList (comps.filterMap c.probeLineOf.get?)

def connectedCouplers : Table String Names :=
  let cs := c.connectingCouplers comps
  c.couplerComponents.filter fun coupler _ => cs.contains coupler

/-- Enters a mapping of loci under a name; all names in it have to be components of the chip. -/
def setMapping (n : String) (m : Table Locus Names) : Outcome Topology := do
  let all := c.all
  for (locus, mapped) in m.entries do
    for part in mapped do
      if !all.contains part then refuse s!"Mapped component {part} is not found in this ChipTopology."
    for part in locus.components do
      if !all.contains part then refuse s!"Locus component {part} is not found in this ChipTopology."
  pure { c with mappings := c.mappings.insert n m }

def standardMapping? : Int → Option String
  | 1 => some qubitMapping
  | 2 => some pairMapping
  | _ => none

def mapLocus (l : Locus) (n : Option String) : Option Names := do
  (← c.mappings.get? (← ((n.filter (!·.isEmpty)).or (standardMapping? l.components.length)).or n)).get? l

def locusOf (mapped : Names) (n : String) : Option Locus := do
  ((← c.mappings.get? n).entries.find? (·.2 == mapped)).map Prod.fst

def loci (n : String) (size : Option Int) : List Locus :=
  match c.mappings.get? n with
  | some m => m.keys
  | none =>
    match (size.bind standardMapping?).bind c.mappings.get? with
    | some m => m.keys
    | none => []

/-- The resonator that a coupler connects with each of two qubits; of several the first by name. -/
def commonResonator : Outcome String :=
  let rs := (c.neighborComponents [x, z]).filter fun p =>
    c.resonators.contains p
      && (c.connectingCouplers [x, p]).length == 1
      && (c.connectingCouplers [z, p]).length == 1
  match sorted rs with
  | res :: _ => pure res
  | [] => refuse
    s!"No computational resonator was found, that is connected to both qubits {x} and {z} via tunable couplers."

def allCommonResonators : Names → Names
  | [] => []
  | x :: xs =>
    (xs.foldl (fun ns q => ns.inter (c.neighborComponents [q])) (c.neighborComponents [x])).inter c.resonators

/-- Which components around a circuit are held still while it runs. -/
inductive BoundaryMode
  | neighbour | all
  | unknown (name : String)

def BoundaryMode.ofName : String → BoundaryMode
  | "neighbour" => .neighbour
  | "all" => .all
  | n => .unknown n

def BoundaryMode.name : BoundaryMode → String
  | .neighbour => "neighbour"
  | .all => "all"
  | .unknown n => n

def boundary (mode : BoundaryMode) (ps cs : Names) : Outcome (Names × Names) :=
  match mode with
  | .neighbour => pure (c.neighborComponents ps, (c.neighborCouplers ps).diff cs)
  | .all => pure (diff c.dataComponents ps, diff c.couplers cs)
  | .unknown n => failWith .unknownOption s!"Unknown circuit boundary mode '{n}'"

end Topology

/-!
The design of a chip: its components and what each is connected to.

Components and connections stand in natural order: runs of digits count by their value, letters without regard
to case.
-/

inductive ComponentKind
  | qubit | coupler | probeLine | launcher | resonator
deriving DecidableEq

def ComponentKind.name : ComponentKind → String
  | .qubit => "Qubit"
  | .coupler => "Coupler"
  | .probeLine => "ProbeLine"
  | .launcher => "Launcher"
  | .resonator => "ComputationalResonator"

/-- A component of a chip. Launchers have a function. -/
structure Component where
  kind : ComponentKind
  name : String
  connections : Names := []
  function : String := ""

structure Design where
  variant : String
  (qubits couplers probeLines launchers resonators : List Component)

namespace Design

def component (kind : ComponentKind) (name : String) (conns : Names) (function : String) : Component :=
  { kind, name, connections := sortNaturally conns, function }

variable (comps : List Component)

def arranged := comps.mergeSort fun a b => partsOrdered (naturalParts a.name) (naturalParts b.name)

def names := comps.map Component.name

variable (d : Design)

def all : Named Component :=
  Table.entries <| .ofList <| (d.qubits ++ d.couplers ++ d.probeLines ++ d.launchers
    ++ d.resonators).map fun c => (c.name, c)

variable (x : Names)

def check : Check := do
  if (Names.ofList x).length < x.length then
    refuse s!"The provided component names {quotedList x} contain duplicates."
  for n in x do
    if (d.all.lookup n).isNone then refuse s!"The provided component name '{n}' doesn't exist in the CHAD."

def qubitsAmong : Outcome Names := do
  d.check x
  return x.filter (names d.qubits).contains

def probeLinesFor : Outcome Names := do
  d.check x
  let chosen := d.qubits.filter (x.contains ·.name)
  return Names.ofList (chosen.flatMap fun q => (names d.probeLines).filter q.connections.contains)

def opsOf (c : Component) : Names :=
  let fns := (d.launchers.map fun l => (l.name, l.function)).reverse
  c.connections.filterMap fun connection =>
    if (names d.probeLines).contains connection then some "readout"
    else match fns.lookup connection with
      | some "drive" => some "drive"
      | some "flux" => some "flux"
      | _ => none

def byOp (ps : List Component) : Named Names :=
  ["readout", "drive", "flux"].map fun o =>
    (o, Names.ofList (names (ps.filter fun c => x.contains c.name && (d.opsOf c).contains o)))

def defaultOps : Outcome (Named Names × Named Names) := do
  d.check x
  pure (d.byOp x d.qubits, d.byOp x d.couplers)

def couplersFor : Outcome (Named Names) := do
  d.check x
  let wanted := x ++ names d.resonators
  let y := d.couplers.filterMap fun c =>
    let connected := wanted.filter c.connections.contains
    if 1 < connected.length then some (c.name, connected) else none
  return Table.entries (.ofList y)

def probeLineMapping : Outcome (Named Names) := do
  d.check x
  let y := d.probeLines.filterMap fun l =>
    let connected := x.filter l.connections.contains
    if connected.isEmpty then none else some (l.name, connected)
  return Table.entries (.ofList y)

def commonCoupler (x z : String) : Outcome String := do
  match (← d.couplersFor [x, z]).filter fun e => e.2.contains x && e.2.contains z with
  | [(n, _)] => pure n
  | y =>
    refuse (s!"No common coupler was found for {x} and {z} or there were multiple couplers. "
      ++ "Check your Chip Architecture Definition or the inputted component names.\n"
      ++ s!"Found common couplers: {quotedList (y.map Prod.fst)}")

/-- The layout of the chip. Connections to anything else than data components, and for probe lines couplers, do
not count. -/
def topology :=
  let data := names d.qubits ++ names d.resonators
  let readable := data ++ names d.couplers
  Topology.make (names d.qubits) (names d.resonators)
    (.ofList (d.couplers.map fun c => (c.name, .ofList (c.connections.filter data.contains))))
    (.ofList (d.probeLines.map fun l => (l.name, .ofList (l.connections.filter readable.contains))))

end Design

end Chip

/-!
Records of chip designs in files below an address.

The record of a chip is looked for below one address and then below another. It has to name the chip's own mask
set and variant, and its format has to be a known one.
-/

namespace Chip.Library

/-- Files by path. -/
abbrev Files := Named String

def normalised (p : String) := "/".intercalate ((p.splitOn "/").filter fun part => !part.isEmpty && part != ".")

variable (fs : Files)

def file? (p : String) := (fs.find? (normalised ·.1 == normalised p)).map Prod.snd

def pathOf (addr : String) : String :=
  let xs := if addr.startsWith "file:" then (addr.drop 5).toString else addr
  let xs := if xs.startsWith "//" then (xs.drop 2).toString else xs
  let (h, parts) := if let x :: parts := xs.splitOn "/" then (x, parts) else ("", [])
  let parts := parts.filter fun p => !p.isEmpty && p != "."
  .join (h :: parts.map ("/" ++ ·))

def recordText (root l : String) : Outcome String :=
  let p := pathOf s!"{root}/cheddars/{l}" ++ ".json"
  if let some content := file? fs p then pure content
  else failWith (.other "NotFoundError") s!"[Errno 2] No such file or directory: {quoted p}"

def oldestFormat : Version := { release := [1, 0] }

def newestMajor := 2

def check (r : Json) (l : String) : Check := do
  let (mask, variant) ← match l.splitOn "_" with
    | [mask, _, variant, _] => pure (mask, variant)
    | _ => fail .invalid
  if !r.isObject then fail .type
  let version ← match ← need r "content_format_version" with
    | .text s => require .badVersion (Version.ofString? s)
    | _ => fail .type
  let ownMask ← need r "mask_set_name"
  let ownVariant ← need r "variant"
  if version.before oldestFormat || newestMajor < version.major then
    failWith (.other "ExaError") s!"CHAD content format version '{version.shown}' is not supported."
  if !ownMask.equal (mask) then
    failWith (.other "ExaError")
      s!"CHAD mask set name '{ownMask.shown}' doesn't match the chip label mask set name '{mask}'."
  if !ownVariant.equal (variant) then
    failWith (.other "ExaError") s!"CHAD variant '{ownVariant.shown}' doesn't match the chip label variant '{variant}'."

def record (root fallback l : String) : Outcome Json := do
  let content ← match recordText fs root l with
    | .ok content => pure content
    | .error f => if fallback.isEmpty then throw f else recordText fs fallback l
  let .ok doc := Json.read content | fail (.other "JSONDecodeError")
  if !doc.isObject then fail .noAttr
  let data := doc.get "data"
  if !toBool data then failWith .badValue s!"Chip design record for {l} does not contain data."
  check data l
  pure data

end Chip.Library

end Transmon
