import Transmon.Parameter
import Transmon.Value.Packing
import Transmon.Value.Record

/-!
How the points of a sweep are spaced.
-/

namespace Transmon

namespace Sweep

open Numeric (Scalar)

def defaultCount : Int := 101

def defaultBase : Int := 10

inductive Spacing
  | ends (start stop count s : Value)
  | around (center span count s ascending : Value)
  | exponents (start stop count base : Value)
  | exponentsAround (center span count base ascending : Value)
  | fixed (points : Value)

namespace Spacing

variable (v : Value)

def scalar : Outcome Scalar :=
  match v.bare with
  | .complex re im => return .complex re im
  | x => .real <$> require .type x.number?

def real := require .type v.number?

def ofScalar : Scalar → Value
  | .real (.int n) => .int n
  | .real (.float x) => .float x
  | .complex re im => .complex re im

def countOf :=
  match v.bare with
  | .int n => pure n
  | .bool b => return if b then 1 else 0
  | _ => fail .type

def isAscending := v.isNone || v.isTrue

/-- How many points there are, or what is between two. The number is taken if both are given. -/
def density (count s : Value) :=
  (if count.isNone && s.isNone then .int defaultCount else count, if count.isNone then s else .none)

variable (start stop count s : Value)

def byEnds : Outcome Spacing := do
  let (count, s) := density count s
  if !s.isNone then
    let size := (← scalar s)
    if ((← scalar stop).sub (← scalar start)).magnitude < size.magnitude || size.isZero then
      refuse ("Step value specified for range must be less than absolute difference of stop and start values and"
        ++ "must be greater than zero.")
  if !count.isNone then
    if (← real count) ≤ (0 : Number) then refuse "Count value specified for range must be greater than zero."
  return .ends start stop count s

def byCenter (center span count s ascending : Value) : Spacing :=
  let (count, s) := density count s
  .around center span count s ascending

def byExponents (start stop count base : Value) : Outcome Spacing := do
  let isZero (v : Value) := (scalar v).toOption.any Scalar.isZero
  if isZero start || isZero stop then refuse "Exponential range sweep start and stop values must not be zero."
  return .exponents start stop count base

def byCentralExponent (center span count base ascending : Value) : Spacing :=
  let base := if base.isNone then .int defaultBase else base
  .exponentsAround center span (if count.isNone then .int defaultCount else count) base ascending

def isWord :=
  match v.bare with
  | .text _ | .bytes _ => true
  | _ => false

def endPoints : Outcome (List Scalar) := do
  if s.isNone then
    if (← countOf count) < 0 then fail .invalid
    if isWord start || isWord stop then fail (.other "UFuncTypeError")
  let x ← scalar start
  let last ← scalar stop
  let count ← if s.isNone then countOf count else do
    let ratio ← Number.divide (last.sub x).magnitude (.float (← scalar s).magnitude.toFloat)
    if ratio.isNaN then fail .invalid
    if ratio.isInf then fail .overflow
    pure (1 + Decimal.ceiling ratio)
  return Scalar.evenlySpaced x last count.toNat

def power (base power : Float) : Outcome Float := do
  let r := base.pow power
  if r.isNaN && !base.isNaN && !power.isNaN then fail .invalid
  if r.isInf && !base.isInf && !power.isInf then if base == 0 then fail .invalid else fail .overflow
  pure r

def exponentPoints (start stop count base : Value) : Outcome Floats := do
  let base := (← real base).toFloat
  let first ← power base (← real start).toFloat
  let last ← power base (← real stop).toFloat
  if first == 0 || last == 0 then fail .invalid
  let count ← countOf count
  if count < 0 then fail .invalid
  let size (x : Float) : Float := if first < 0 && last < 0 then -x else x
  let inner := (Numeric.evenlySpaced (size first).log10 (size last).log10 count.toNat).map fun x => size (10.0.pow x)
  return inner.zipIdx.map fun (x, k) => if k + 1 = count.toNat ∧ 0 < k then last else if k = 0 then first else x

def endsAround (center span ascending : Value) : Outcome (Value × Value) := do
  let half := (← scalar span).half
  let low := ofScalar ((← scalar center).sub half)
  let high := ofScalar ((← scalar center).add half)
  return if isAscending ascending then (low, high) else (high, low)

def points : Spacing → Outcome Value
  | .ends start stop count s => do return .list ((← endPoints start stop count s).map ofScalar)
  | .around center span count s ascending => do
    let (start, stop) ← endsAround center span ascending
    let .ends start stop count s ← byEnds start stop count s | fail .type
    return .list ((← endPoints start stop count s).map ofScalar)
  | .exponents start stop count base => do return .list ((← exponentPoints start stop count base).map .float)
  | .exponentsAround center span count base ascending => do
    let (start, stop) ← endsAround center span ascending
    let _ ← byExponents start stop count base
    return .list ((← exponentPoints start stop count base).map .float)
  | .fixed vs => do return (← Value.toArray .none vs).toNested

def name : Spacing → String
  | .ends .. => "StartStopOptions"
  | .around .. => "CenterSpanOptions"
  | .exponents .. => "StartStopBaseOptions"
  | .exponentsAround .. => "CenterSpanBaseOptions"
  | .fixed _ => "FixedOptions"

def fieldNames : String → Option (Names × Names)
  | "StartStopOptions" => some (["start", "stop"], ["count", "step"])
  | "CenterSpanOptions" => some (["center", "span"], ["count", "step", "asc"])
  | "StartStopBaseOptions" => some (["start", "stop"], ["count", "base"])
  | "CenterSpanBaseOptions" => some (["center", "span"], ["count", "base", "asc"])
  | "FixedOptions" => some (["fixed"], [])
  | _ => none

def make (k : String) (es : Dict) : Outcome Spacing := do
  let (required, opt) ← require .missing (fieldNames k)
  checkFields es required opt
  let get (n : String) : Value := (es.lookup n).getD .none
  match k with
  | "StartStopOptions" => byEnds (get "start") (get "stop") (get "count") (get "step")
  | "CenterSpanOptions" => return byCenter (get "center") (get "span") (get "count") (get "step") (get "asc")
  | "StartStopBaseOptions" =>
    let count := (es.lookup "count").getD (.int defaultCount)
    byExponents (get "start") (get "stop") count ((es.lookup "base").getD (.int defaultBase))
  | "CenterSpanBaseOptions" =>
    return byCentralExponent (get "center") (get "span") (get "count") (get "base") (get "asc")
  | _ => return .fixed (get "fixed")

def readEntries (takes : String → Bool) (cfg : Dict) : Outcome Dict :=
  (cfg.filter (takes ·.1)).mapM fun e =>
    match Literal.ofText (Text.strip e.2.plain) with
    | .ok v => pure (e.1, v)
    | .error .notExpression => fail (.other "SyntaxError")
    | .error .notLiteral => fail .invalid
    | .error .badKey => fail .type
    | .error .tooLarge => fail .overflow

variable (cfg : Dict)

def renameEntry (old new : String) : Dict :=
  if let some v := cfg.lookup old then Table.put new v (cfg.filter (·.1 != old)) else cfg

def ofConfig : Outcome Spacing := do
  let cfg := cfg.foldl (fun t e => Table.put (e.1.map Text.small) e.2 t) []
  let has (n : String) : Bool := (cfg.lookup n).isSome
  let fs (k : String) : Names := ((fieldNames k).map fun e => e.1 ++ e.2).getD []
  let read (k : String) (cfg : Dict) : Outcome Spacing := do make k (← readEntries (fs k).contains cfg)
  if has "start" && has "stop" then read "StartStopOptions" cfg
  else if has "start_exp" && has "stop_exp" then
    read "StartStopBaseOptions" (renameEntry (renameEntry cfg "start_exp" "start") "stop_exp" "stop")
  else if has "center" && has "span" then read "CenterSpanOptions" cfg
  else if has "center_exp" && has "span_exp" then
    read "CenterSpanBaseOptions" (renameEntry (renameEntry cfg "center_exp" "center") "span_exp" "span")
  else if has "fixed" then
    let isPart (n : String) := n.isEmpty || ("fixed".splitOn n).length > 1
    make "FixedOptions" (← readEntries isPart cfg)
  else refuse s!"Config {(Value.dict cfg).shown} cannot be converted to range options"

end Spacing

end Sweep

/-!
Sweeps: parameters that take several values in turn.
-/

open Wire (Msg)

inductive SweepKind
  | general | linear | fixed | exponential
deriving DecidableEq

structure Sweep where
  param : Param
  data : Values
  kind : SweepKind := .general

def SweepKind.name : SweepKind → String
  | .general => "Sweep"
  | .linear => "LinearSweep"
  | .fixed => "FixedSweep"
  | .exponential => "ExponentialSweep"

def SweepKind.ofName? (n : String) := [general, linear, fixed, exponential].find? (·.name == n)

def SweepKind.takes : SweepKind → Sweep.Spacing → Bool
  | .general, _ => true
  | .linear, .ends .. | .linear, .around .. => true
  | .fixed, .fixed _ => true
  | .exponential, .exponents .. | .exponential, .exponentsAround .. => true
  | _, _ => false

namespace Sweep

variable (param : Param)

def check (d : Value) := do
  let ps ← d.sequence
  if ps.all param.admits then pure ps
  else refuse s!"Invalid range data {d.plain} for parameter type {param.data.shown}."

def make (data : Value) (kind : SweepKind := .general) : Outcome Sweep :=
  return { param, data := ← check param (← data.ofSweepRecord), kind }

def Spacing.shownClass (s : Spacing) : String :=
  let module := match s with
    | .ends .. => "start_stop_options"
    | .around .. => "center_span_options"
    | .exponents .. => "start_stop_base_options"
    | .exponentsAround .. => "center_span_base_options"
    | .fixed _ => "fixed_options"
  s!"<class 'exa.common.control.sweep.option.{module}.{s.name}'>"

def checkNum (v : Value) (l : String) : Check :=
  if param.admits v then pure ()
  else refuse s!"Invalid {l} value {v.plain} for parameter type {param.data.shown}."

def checkSpacing (k : SweepKind) (s : Spacing) : Check :=
  if k.takes s then pure ()
  else failWith (.other "InvalidSweepOptionsTypeError") s!"Options have unsupported type of {s.shownClass}"

def ofSpacing (k : SweepKind) (p : Param) (spacing : Option Spacing) (d : Option Value) : Outcome Sweep := do
  spacing.forM (checkSpacing k)
  match spacing, d with
  | none, none => refuse "Either 'options' or 'data' is required."
  | some _, some _ => refuse "Can't use both 'options' and 'data' at the same time, give only either of the parameters."
  | none, some d => make p d k
  | some spacing, none =>
    match spacing with
    | .ends start stop _ s =>
      checkNum p start "start"
      checkNum p stop "stop"
      checkNum p s "step"
    | .around center span _ _ _ =>
      checkNum p center "center"
      checkNum p span "span"
    | _ => pure ()
    make p (← spacing.points) k

def ofIndices (n : Int) : Outcome Sweep := do
  let spacing ← Spacing.byEnds (.int 0) (.int (n - 1)) (.int n) .none
  make (← Param.make s!"{param.name}_index" s!"{param.label} index") (← spacing.points)

def pack (minimal : Bool) (s : Sweep) :=
  return Wire.text 1 s.param.name ++ Wire.nested 2 (← Value.packSeq (.list s.data))
    ++ if minimal then [] else Wire.nested 3 s.param.pack

def unpack (m : Msg) : Outcome Sweep := do
  let vs ← Value.unpackItems (← m.nested 2)
  let p ← if (m.blocks 3).isEmpty then Param.make (← m.text 1) "" "" (.one .anything) else Param.unpack (← m.nested 3)
  make p (.list vs)

def packAll (minimal : Bool) (sweeps : List (List Sweep)) : Outcome Msg := do
  let packed ← sweeps.mapM fun g => do return (← g.mapM (pack minimal)).flatMap (Wire.nested 1)
  return packed.reverse.flatMap (Wire.nested 1)

def unpackAll (m : Msg) : Outcome (List (List Sweep)) := do
  (← m.msgs 1).reverse.mapM fun g => do (← g.msgs 1).mapM unpack

def schema : Wire.Schema
  | "CartesianSweep" => [.parts 1 "parallel_sweeps" "ParallelSweep"]
  | "ParallelSweep" => [.parts 1 "single_parameter_sweeps" "SingleParameterSweep"]
  | "SingleParameterSweep" =>
    [.one 1 "parameter_name" .text, .part 2 "values" "Sequence", .part 3 "parameter" "Parameter"]
  | "Parameter" => Param.fields
  | t => Value.schema t

end Sweep

inductive SweepItem
  | sweep (sweep : Sweep)
  | group (xs : List SweepItem)
  | other (shownClass : String)

namespace Sweep

variable (xs : List SweepItem)

def groupOf : Outcome (List Sweep) := do
  let rec go (length? : Option Nat) : List SweepItem → Outcome (List Sweep)
    | [] => pure []
    | .sweep sweep :: ys => do
      let len := length?.getD sweep.data.length
      if sweep.data.length != len then fail .invalid
      return sweep :: (← go (some len) ys)
    | .group _ :: _ => refuse "Tuples of sweeps must contain tuple type, got <class 'tuple'>"
    | .other shownClass :: _ => refuse s!"Tuples of sweeps must contain tuple type, got {shownClass}"
  if xs.isEmpty then refuse "Tuples of sweeps must have at least one element"
  go none xs

def groups :=
  xs.mapM fun
    | .sweep sweep => pure [sweep]
    | .group xs => groupOf xs
    | .other shownClass => refuse s!"Elements in sweeps must be either tuples of Sweeps or Sweep, got {shownClass}"

/-!
Sweeps in JSON text.
-/

inductive Decoded
  | value (value : Value)
  | sweep (sweep : Sweep)
  | list (xs : List Decoded)
  | tuple (xs : List Decoded)
  | table (entries : List (String × Decoded))

def Decoded.value? : Decoded → Option Value
  | .value v => some v
  | .sweep _ => none
  | .list xs => .list <$> xs.mapM value?
  | .tuple xs => .tuple <$> xs.mapM value?
  | .table es => do return .dict (← es.mapM fun e => do pure (e.1, ← value? e.2))
decreasing_by all_goals grind

def Decoded.className : Decoded → String
  | .value v => v.className
  | .sweep s => s.kind.name
  | .list _ => "list"
  | .tuple _ => "tuple"
  | .table _ => "dict"

def Decoded.shownClass : Decoded → String
  | .sweep _ => "<class 'exa.common.control.sweep.sweep.Sweep'>"
  | x => s!"<class '{x.className}'>"

def paramOf (es : Dict) : Outcome Param := do
  let some (.text m) := es.lookup "name" | fail .type
  let text (k : String) : String := if let some (.text text) := es.lookup k then text else ""
  let typeOf : Value → Outcome DataType
    | .int n => require .invalid (DataType.ofCode? n)
    | _ => fail .invalid
  let d ← match es.lookup "data_type" with
    | none => pure (.one .float)
    | some (.list xs) | some (.tuple xs) => .either <$> xs.mapM typeOf
    | some v => .one <$> typeOf v
  let coll ← match es.lookup "collection_type" with
    | some (.int n) => require .invalid (Collection.ofCode? n)
    | some _ => fail .invalid
    | none => pure .scalar
  let is ← match es.lookup "element_indices" with
    | some (.int n) => pure (some [n])
    | some (.list xs) => some <$> xs.mapM fun
      | .int n => pure n
      | _ => fail .type
    | _ => pure none
  Param.make m (text "label") (text "unit") d coll is

def withoutParent : Decoded → Outcome Decoded
  | .table es => return .table (es.filter fun e => e.1 != "parent_name" && e.1 != "parent_label")
  | .list _ => fail .type
  | _ => fail .noAttr

def ofObject (es : List (String × Decoded)) : Outcome Decoded := do
  let es ← es.mapM fun e => do if e.1 = "parameter" then pure (e.1, ← withoutParent e.2) else pure e
  match es.lookup "parameter", es.lookup "data" with
  | some p, some d =>
    let ps ← (← (← require .type d.value?).sequence).mapM Value.ofRecordOrTuple
    let some (.dict fs) := p.value? | fail .type
    return .sweep (← Sweep.make (← paramOf fs) (.list ps))
  | _, _ =>
    if (es.lookup "__complex__").isNone && (es.lookup "__ndarray__").isNone && (es.lookup "__tuple__").isSome then
      match es.lookup "data" with
      | some (.list xs) | some (.tuple xs) => return .tuple xs
      | some _ => fail .type
      | none => fail .missing
    else
      let some v := (Decoded.table es).value? | return .table es
      let v ← v.ofRecordOrTuple
      return if v.isDict then .table es else .value v

def ofJson : Json → Outcome Decoded
  | .array xs => .list <$> xs.mapM ofJson
  | .object fs => do ofObject (← fs.mapM fun e => do pure (e.1, ← ofJson e.2))
  | plain => return .value (.ofJson plain)
decreasing_by all_goals grind

variable (s : String)

def read := do
  let .ok doc := Json.read s | fail (.other "JSONDecodeError")
  ofJson doc

def readSweeps : Outcome (List Decoded) := do
  let .list xs ← read s | refuse s!"Outer type is not list type when decoding {s}"
  for item in xs do
    match item with
    | .tuple ps =>
      if !ps.all fun | .sweep _ => true | _ => false then
        refuse "list of Sweeps must contain tuples of `Sweep` objects"
    | .sweep _ => pure ()
    | x => refuse s!"list must contain either Sweep or Tuple elements. Got {x.shownClass}"
  pure xs

def readReturned : Outcome (List (Param × Decoded)) := do
  let .list xs ← read s | refuse s!"Outer type is not list type when decoding: {s}"
  xs.foldlM (fun y x => do
    match x with
    | .table es =>
      let some (.dict fs) := (← require .missing (es.lookup "parameter")).value? | fail .type
      return Table.put (← paramOf fs) (← require .missing (es.lookup "hard_sweeps")) y
    | _ => fail .type) []

def doc (inTuple : Bool) : Value → Outcome Json
  | .none => pure .null
  | .bool b => pure b
  | .int n => pure n
  | .float x => return .float x
  | .text s => pure s
  | .list xs => do return ← xs.mapM (doc inTuple)
  | .tuple xs => do
    let plain := Json.array (← xs.mapM (doc true))
    return if inTuple then plain else .object [("__tuple__", "true"), ("data", plain)]
  | .dict es => do return ← es.mapM fun e => do pure (e.1, ← doc inTuple e.2)
  | _ => fail .type
decreasing_by all_goals grind

def write (v : Value) := return (← doc false v).spaced

end Sweep

end Transmon
