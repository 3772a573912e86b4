import Transmon.Expression
import Transmon.Value.Record

/-!
JSON forms of numbers and of objects with a type.
-/

namespace Transmon.Form

open Decimal

def float (x : Float) : Json :=
  if !x.isFinite then render x
  else if x.abs < 9007199254740992.0 && isWhole x then truncate x
  else .float x

def number : Number → Json
  | .int n => n
  | .float x => float x

variable (ps : Nat)

def rounded (x : Float) := float (roundTo x ps)

def roundedList (xs : Floats) : Json := .list xs (rounded ps)

def roundedComplex (z : Numeric.Complex Float) : Json := [("re", rounded ps z.re), ("im", rounded ps z.im)]

def texts (xs : Names) : Json := .list xs .text

def opt {α : Type} (write : α → Json) (a : Option α) := (a.map write).getD .null

def optText := opt .text

variable (j : Json) (m : String)

def need := require .missing (j.field? m)

variable {α : Type} (read : Json → Outcome α)

def needAs := do read (← need j m)

def toFloat : Json → Outcome Float
  | .int n => return ofInt n
  | .float x => pure x
  | .bool b => return if b then 1.0 else 0.0
  | .text "nan" => return 0.0 / 0.0
  | .text "inf" => return 1.0 / 0.0
  | .text "-inf" => return -1.0 / 0.0
  | _ => fail .type

def toNum : Json → Outcome Number
  | .int n => pure n
  | .float x => return .float x
  | .bool b => return .int (if b then 1 else 0)
  | _ => fail .type

def toInt : Json → Outcome Int
  | .int n => pure n
  | .bool b => return if b then 1 else 0
  | .float x => if isWhole x then return truncate x else fail .type
  | _ => fail .type

def toText : Json → Outcome String
  | .text s => pure s
  | _ => fail .type

def toBool : Json → Bool
  | .bool b => b
  | .null => false
  | .int n => n != 0
  | .float x => x != 0
  | .text s => !s.isEmpty
  | .array xs => !xs.isEmpty
  | .object fields => !fields.isEmpty

def toItems : Json → Outcome (List Json)
  | .array xs => pure xs
  | _ => fail .type

def listOf := do (← toItems j).mapM read

def pairOf {α β : Type} (x : Json → Outcome α) (second : Json → Outcome β) (j : Json)
    (k : Fault.Kind := .type) := do
  let [a, b] ← toItems j | fail k
  pure (← x a, ← second b)

def needList := needAs j m (listOf · read)

def listD := listOf (j.get m (.array [])) read

def toTexts : Outcome Names := listOf j toText

def toFloats : Outcome Floats := listOf j toFloat

def toFields : Json → Outcome Fields
  | .object fs => return fs
  | _ => fail .type

variable (fs : Fields)

def readAll : Outcome (Named α) := fs.mapM fun e => do pure (e.1, ← read e.2)

def fieldsOf := do readAll read (← toFields j)

def needText := needAs j m toText

def textD (default : String) := ((j.field? m).bind Json.text?).getD default

def needTexts := needAs j m toTexts

def readD (default : α) := if let some v := j.field? m then read v else pure default

def textsD := readD j m toTexts

def needFloat := needAs j m toFloat

def floatD := readD j m toFloat

def needInt := needAs j m toInt

def intD := readD j m toInt

def boolD (default : Bool) := if let some v := j.field? m then toBool v else default

def present? :=
  match j.field? m with
  | some .null => none
  | x => x

def text? := (present? j m).bind Json.text?

def given? := (present? j m).mapM read

def textsOf : Outcome Names := (present? j m).elim (pure []) toTexts

def typed : Outcome (String × Fields) := return (← needText j "type", j.fields.filter (·.1 != "type"))

def object (t : String) (fs : Fields) : Json := .object (("type", t) :: fs)

/-!
JSON forms of values.
-/

abbrev toPlain := Value.ofJson

def toPlains : Outcome Values := return (← toItems j).map toPlain

def toPlainEntries : Dict := fs.map fun e => (e.1, toPlain e.2)

def arrayNames : Names :=
  ["coefficients", "suppressed_frequencies", "suppressed_interval_widths", "weights",
   "integration_weights_I", "integration_weights_Q", "control_delays", "matrix_elements"]

def listShape : Nat → Json → List Nat
  | 0, _ => []
  | fuel + 1, .array xs => if let x :: _ := xs then xs.length :: listShape fuel x else [0]
  | _, _ => []

def leaves : Json → List Json
  | .array xs => xs.flatMap leaves
  | x => [x]

def toFloatArray (j : Json) : Value :=
  let xs := (leaves j).map fun
    | .int n => .float (ofInt n)
    | .float x => .float x
    | .bool b => .float (if b then 1.0 else 0.0)
    | _ => .float (0.0 / 0.0)
  .array (.floating 64) (listShape 8 j) xs

def toCal (m : String) : Json → Value
  | .int n => if m = "number_of_cos_terms" then .int n else .float (ofInt n)
  | .array xs => if arrayNames.contains m then toFloatArray (xs) else .list (xs.map (toCal ""))
  | .object fs => .dict (fs.map fun e => (e.1, toCal e.1 e.2))
  | plain => toPlain plain
decreasing_by all_goals grind

def nested (shape : List Nat) (xs : List Json) :=
  match shape with
  | [] => xs.headD .null
  | [_] => xs
  | n :: ys => .list (Value.rows (ys.foldl (· * ·) 1) n xs) (nested ys)

def echo : Value → Json
  | .none => .null
  | .bool b => b
  | .int n => n
  | .float x => .float x
  | .complex re im => .object [("re", .float re), ("im", .float im)]
  | .text s => s
  | .bytes b => Wire.hex b
  | .list xs | .tuple xs => xs.map echo
  | .dict es => es.map fun e => (e.1, echo e.2)
  | .array _ shape xs => nested shape (xs.map echo)
  | .scalar _ v => echo v
decreasing_by all_goals grind

def value : Value → Json
  | .float x => float x
  | .complex re im => [("re", float re), ("im", float im)]
  | .list xs | .tuple xs => xs.map value
  | .dict es => .object (es.map fun e => (e.1, match e.1, e.2 with
      | "coefficients", .array _ shape xs =>
        nested shape (xs.map fun
          | .float x => rounded 6 x
          | _ => .null)
      | _, _ => value e.2))
  | .array _ shape xs => nested shape (xs.map fun y => match y with
      | .float x => rounded 9 x
      | .complex re im => roundedComplex 9 ⟨re, im⟩
      | _ => value y)
  | .scalar _ v => value v
  | plain => echo plain
decreasing_by all_goals grind

/-!
JSON forms of values that keep their types.
-/

def toTagged : Json → Outcome Value
  | .array xs => .list <$> xs.mapM toTagged
  | .object fs => do
    let es ← fs.mapM fun e => do pure (e.1, ← toTagged e.2)
    match es with
    | ("$float", .text s) :: _ => .float <$> require .invalid (float? s)
    | ("$tuple", .list xs) :: _ => return .tuple xs
    | ("$bytes", .text s) :: _ => .bytes <$> require .invalid (Wire.ofHex? s)
    | _ =>
      match es.lookup "$complex", es.lookup "$array", es.lookup "$np" with
      | some (.list [re, im]), _, _ => Value.complexOf re im
      | _, some xs, _ =>
        let t ← match es.lookup "dtype" with
          | none | some .none => pure none
          | some named => some <$> named.namedType
        Value.toArray t xs
      | _, _, some (.text m) =>
        let t ← require .noAttr (Elem.ofScalarName? m)
        match t, ← require .missing (es.lookup "value") with
        | .text _, v => return .scalar (.text 0) (.text v.plain)
        | .bytes _, .bytes b => return .scalar (.bytes 0) (.bytes b)
        | .bytes _, v => return .scalar (.bytes 0) (← Value.convertTo (.bytes v.plain.length) v)
        | .anything, v => pure v
        | t, v => .scalar t <$> Value.convertTo t v
      | _, _, _ => return .dict es
  | plain => return toPlain plain
decreasing_by all_goals grind

def taggedFloat (x : Float) : Json := .object [("$float", render x)]

def tagged : Value → Json
  | .float x => taggedFloat x
  | .complex re im => .object [("$complex", [taggedFloat re, taggedFloat im])]
  | .bytes b => .object [("$bytes", Wire.hex b)]
  | .list xs => xs.map tagged
  | .tuple xs => .object [("$tuple", xs.map tagged)]
  | .dict es => es.map fun e => (e.1, tagged e.2)
  | .array t shape xs =>
    [("$array", nested shape (xs.map tagged)), ("dtype", t.name), ("shape", .list shape fun (n : Nat) => n)]
  | .scalar t v => .object [("$np", t.scalarName), ("value", tagged v)]
  | plain => echo plain
decreasing_by all_goals grind

end Transmon.Form

/-!
Requests and their answers.
-/

namespace Transmon.Request

abbrev Result := Outcome Json

inductive Answer
  | value (value : Json)
  | fault (fault : Fault)
  | steps (answers : List (Outcome Json))

def Answer.given {α : Type} (made : Outcome α) (answer : α → Answer) :=
  match made with
  | .ok a => answer a
  | .error reason => .fault reason

def Answer.ofOutcome (r : Outcome Json) : Answer := .given r .value

abbrev Action := Work

variable {σ : Type}

def runAll (isStopping : Bool) (step : Json → Action σ Json) : List Json → σ → List (Outcome Json)
  | [], _ => []
  | r :: xs, s =>
    let (a, s) := (step r).run.run s
    if isStopping && !a.isOk then [a] else a :: runAll isStopping step xs s

def stepping (isStopping : Bool) (r : Json) (start : Outcome σ) (step : Json → Action σ Json) : Answer :=
  .given start fun s => .steps (runAll isStopping step (r.get "steps").items s)

def continuing : Json → Outcome σ → (Json → Action σ Json) → Answer := stepping false

def stopping : Json → Outcome σ → (Json → Action σ Json) → Answer := stepping true

def verb (s : Json) := Form.textD s "do" ""

def what (r : Json) := Form.textD r "what" ""

/-- A result with the calls that were made for it and what was warned of. -/
def withCalls (r cs : Json) (ws : Names) : Json :=
  ([("value", r), ("calls", cs)] ++ if ws.isEmpty then [] else [("warnings", Form.texts ws)])

end Transmon.Request
