import Transmon.Channel
import Transmon.Operation
import Transmon.Value.Record
import Transmon.Waveform.Sampling

/-!
Calibration data of operations.
-/

namespace Transmon

abbrev CalibrationData := Dict

abbrev CalibrationTree := Table String (Table String (Table Names CalibrationData))

namespace Calibration

def setPath (d : CalibrationData) (p : Names) (v : Value) : Outcome CalibrationData :=
  match p with
  | [] => pure d
  | [n] => return Table.put n v d
  | n :: xs => do
    match d.lookup n with
    | none => return Table.put n (.dict (← setPath [] xs v)) d
    | some (.dict inner) => return Table.put n (.dict (← setPath inner xs v)) d
    | some (.array ..) => if xs.length = 1 then fail .index else fail .noAttr
    | some _ => if xs.length = 1 then fail .type else fail .noAttr

def locusOfName (n : String) := if n.isEmpty then [] else n.splitOn "__"

def nameOfLocus (locus : Names) := "__".intercalate locus

def enter (t : CalibrationTree) (n : String) (v : Value) : Outcome CalibrationTree := do
  match n.splitOn "." with
  | "gates" :: o :: i :: locus :: x :: xs =>
    let locus := locusOfName locus
    let impls := t.getD o ∅
    let loci := impls.getD i ∅
    return t.insert o (impls.insert i (loci.insert locus (← setPath (loci.getD locus []) (x :: xs) v)))
  | "gates" :: _ => failWith .calibration s!"Calibration observation name '{n}' is malformed."
  | _ => pure t

def treeOf (obs : Dict) := obs.foldlM (fun t e => enter t e.1 e.2) ∅

def defaultOf : Param.Tree → Option Value
  | .item x => x.default
  | .group _ => none

structure Place where
  (operation implementation : String)
  locus : Names

variable (place : Place)

def Place.shown := s!"{place.operation}.{place.implementation} at {Text.quotedTuple place.locus}"

variable (ps : Named Param.Tree)

/-- The names of parameters that have no default. -/
def needed : Names := (ps.filter fun e => (defaultOf e.2).isNone).map Prod.fst

/-- Whether any names will do. -/
def isOpen := needed ps == ["*"]

variable (path : Names)

/-- Unknown names, or else missing ones. -/
def strangeNames? (x : Names) (ps : Named Param.Tree) :=
  let unknown := Names.diff x (ps.map Prod.fst)
  let absent := Names.diff (needed ps) x
  let told (what : String) (ns : Names) : Option String :=
    some (s!"{what} calibration data for {place.shown}: " ++ ".".intercalate path ++ s!" {ns.shown}")
  if !unknown.isEmpty then told "Unknown" unknown else if !absent.isEmpty then told "Missing" absent else none

variable (data : CalibrationData)

/-- Refuses unknown and missing names. Whether the values are looked at as well. -/
def compareNames (ps : Named Param.Tree) : Outcome Bool := do
  if isOpen ps then return false
  (strangeNames? place path ((data.filter (!·.2.isNone)).map Prod.fst) ps).elim (pure ()) refuse
  pure true

def shapeFault (shape : String) :=
  s!"Calibration data for {place.shown}: '" ++ ".".intercalate path ++ s!"' should be a {shape}"

mutual

def compareValue (pl : Place) (path : Names) (p : Option Param.Tree) : Value → Check
  | .dict inner =>
    match p with
    | none => fail .missing
    | some (.group es) => do if ← compareNames pl path inner es then compareEntries pl path es inner
    | some (.item _) => refuse (shapeFault pl path "scalar")
  | _ =>
    match p with
    | none => fail .missing
    | some (.group _) => refuse (shapeFault pl path "dict")
    | some (.item _) => pure ()

def compareEntries (pl : Place) (p : Names) (ps : Named Param.Tree) : CalibrationData → Check
  | [] => pure ()
  | (n, v) :: xs => do
    compareValue pl (p ++ [n]) (ps.lookup n) v
    compareEntries pl p ps xs

end

def wrongLocus? (arity : Int) : Option String :=
  if arity = 0 then
    if place.locus.length = 1 then none
    else some (s!"{place.shown}: for zero-arity operations, calibration data must be provided for "
      ++ "single-component loci only")
  else if (place.locus.length : Int) = arity then none
  else some s!"{place.shown}: locus must have {arity} component(s)"

def checkLocus (d : Gate.Design) (o : Operation) (i : String) (locus : Names) : Check := do
  if locus.isEmpty then return ()
  let place : Place := ⟨o.name, i, locus⟩
  let data := data.filter (!d.members.contains ·.1)
  if ← compareNames place [] data d.params then compareEntries place [] d.params data
  (wrongLocus? place o.arity).elim (pure ()) refuse

def unknownOp (ops : OperationTable) (n : String) :=
  s!"Unknown operation '{n}'. Known operations: {Text.quotedTuple ops.keys}"

def unknownImpl (o : Operation) (n i : String) :=
  s!"Unknown implementation '{i}' for quantum operation '{n}'. "
    ++ s!"Known implementations: {Text.quotedTuple o.implementations.keys}"

variable (t : CalibrationTree)

def check (ops : OperationTable) : Check :=
  t.entries.forM fun (n, impls) => do
    let some o := ops.get? n | refuse (unknownOp ops n)
    impls.entries.forM fun (i, loci) => do
      let some d := o.implementations.get? i
        | refuse (unknownImpl o n i)
      loci.entries.forM fun (locus, data) => do
        checkLocus (← Value.merge (loci.getD [] []) data true) d o i locus

variable (op impl : String) (locus : Names)

def dataAt : Outcome CalibrationData := do
  let some impls := t.get? op | refuse s!"No calibration data for op '{op}'."
  let some loci := impls.get? impl | refuse s!"No calibration data for '{op}.{impl}'."
  let some d := loci.get? locus
    | refuse s!"No calibration data for '{op}.{impl}' at {Text.quotedTuple locus}."
  Value.merge (loci.getD [] []) d false

/-- The data of a place before and after others are put over them, and the tree with the new data. -/
def renew (d : CalibrationData) : Outcome (CalibrationData × CalibrationData × CalibrationTree) := do
  let impls ← t.named op
  let loci ← impls.named impl
  let held ← loci.need locus
  let fresh ← Value.merge held d true
  pure (held, fresh, t.insert op (impls.insert impl (loci.insert locus fresh)))

def hasDataAt := (((t.get? op).bind (·.get? impl)).bind (·.get? locus)).isSome

/-!
All that is wrong with a calibration.
-/

abbrev Report := Table (String × String × Names) String

def wrongShape? (e : String × Value) :=
  match ps.lookup e.1, e.2.isDict with
  | some (.group _), false => some (shapeFault place [e.1] "dict" ++ ".")
  | some (.item _), true => some (shapeFault place [e.1] "scalar" ++ ".")
  | _, _ => none

/-- What is wrong with the data of a place, if anything: unknown or missing names, groups that should be single
values and the other way round. The inside of groups is not looked at. -/
def mismatch? (p : Place) (d : CalibrationData) (ps : Named Param.Tree) :=
  if isOpen ps then none
  else (strangeNames? p [] (d.map Prod.fst) ps).or (d.findSome? (wrongShape? p ps))

def faultAt? (o : Operation) (i : String) (d : Gate.Design) (shared : CalibrationData)
    (locus : Names) (data : CalibrationData) := do
  if locus.isEmpty then return none
  let place : Place := ⟨o.name, i, locus⟩
  return (mismatch? place (← Value.merge shared data true) d.params).or (wrongLocus? place o.arity)

def collect {α β : Type} (y : α → Outcome (List β)) : List α → Outcome (List β)
  | [] => pure []
  | x :: xs => return (← y x) ++ (← collect y xs)

def faults (ops : OperationTable) : Outcome (List ((String × String × Names) × String)) :=
  t.entries |> collect fun (n, impls) => do
    let some o := ops.get? n | pure [((n, "", []), unknownOp ops n)]
    impls.entries |> collect fun (i, loci) => do
      let some d := o.implementations.get? i
        | pure [((n, i, []), unknownImpl o n i)]
      loci.entries |> collect fun (locus, data) =>
        return (← faultAt? o i d (loci.getD [] []) locus data).toList.map ((n, i, locus), ·)

def report (ops : OperationTable) : Outcome Report := .ofList <$> faults t ops

/-!
From calibration data to envelopes.
-/

variable (data : CalibrationData) (n : String)

def entry := requireName n (data.lookup n)

def real := do require .type (← entry data n).float?

def group : Outcome CalibrationData := do
  let .dict es ← entry data n | fail .type
  return es

def scaledNum (unit : String) (span x : Float) :=
  if unit = "Hz" then x * span else if span > 0 then x / span else 0.0

def scaled (unit : String) (span : Float) (v : Value) : Outcome Value := do
  match v with
  | .none => pure .none
  | .array ty shape ys =>
    return .array ty shape ((← require .type (ys.mapM Value.float?)).map fun x => .float (scaledNum unit span x))
  | .list ys | .tuple ys =>
    return .list ((← require .type (ys.mapM Value.float?)).map fun x => .float (scaledNum unit span x))
  | v => return .float (scaledNum unit span (← require .type v.float?))

mutual

def convert (span : Float) (d : CalibrationData) : Named Param.Tree → Outcome CalibrationData
  | [] => pure []
  | (n, t) :: xs => do
    let some v := d.lookup n | convert span d xs
    let some v ← convertEntry span n v t | convert span d xs
    return (n, v) :: (← convert span d xs)

def convertEntry (span : Float) (n : String) (v : Value) : Param.Tree → Outcome (Option Value)
  | .item x =>
    if n = "duration" then pure none
    else if x.unit = "s" || x.unit = "Hz" then some <$> scaled x.unit span v
    else return some v
  | .group es => do
    let .dict inner := v | fail .type
    return some (.dict (← convert span inner es))

end

def sampleCount (ch : Channel) (span : Float) := if span > 0 then ch.wholeSamples span else pure 0

def durationIn (des : String) := do
  match ← entry data "duration" with
  | .none => refuse s!"Duration for {des} has not been set."
  | v => require .type v.float?

def shapeValue (ty : ShapeKind.FieldType) (v : Value) : Outcome ShapeValue :=
  match ty with
  | .real => .real <$> require .type v.float?
  | .whole =>
    match v with
    | .int n => return .whole n
    | v => do return .whole (Decimal.truncate (← require .type v.float?))
  | .flag => if let some x := v.number? then return .flag (!(x == 0)) else return .flag v.isFilled
  | .reals => .reals <$> require .type v.floats?

def envelope (k : ShapeKind) (n : Int) (d : CalibrationData) : Outcome Waveform := do
  let fs := k.fields
  if d.any fun e => !(fs.any (·.name == e.1)) then fail .type
  let vs ← fs.mapM fun field =>
    match d.lookup field.name, field.default with
    | some v, _ => shapeValue field.type v
    | none, some default => return .real default
    | none, none => fail .type
  Waveform.make n (← require .type (Shape.ofValues? k vs))

end Calibration

end Transmon
