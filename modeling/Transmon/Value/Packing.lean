import Transmon.Value

/-!
Values as messages.
-/

namespace Transmon.Value

open Wire

open Wire (Msg Bytes Field)

section Msgs

def seqFields (start : Nat) : List Field :=
  [.part start "string_array" "StringSequence", .part (start + 1) "bool_array" "BoolSequence",
    .part (start + 2) "int64_array" "Int64Sequence", .part (start + 3) "float64_array" "Float64Sequence",
    .part (start + 4) "complex128_array" "Complex128Sequence"]

def schema : Schema
  | "Complex128" => [.one 1 "real" .double, .one 2 "imag" .double]
  | "Int64Sequence" => [.many 1 "items" .zigzag]
  | "Float64Sequence" => [.many 1 "items" .double]
  | "BoolSequence" => [.many 1 "items" .flag]
  | "Complex128Sequence" => [.many 1 "real" .double, .many 2 "imag" .double]
  | "StringSequence" => [.many 1 "items" .text]
  | "Array" => .many 1 "shape" .natural :: seqFields 2
  | "Arrays" => [.parts 1 "arrays" "Array"]
  | "Sequence" => seqFields 1
  | "Datum" =>
    [.one 1 "string_value" .text, .one 2 "bool_value" .flag, .one 3 "sint64_value" .zigzag,
      .one 4 "float64_value" .double, .part 5 "complex128_value" "Complex128", .part 10 "array" "Array",
      .part 11 "sequence" "Sequence", .one 14 "null_value" .nothing]
  | "Struct" => [.one 1 "fields" (.table "Value")]
  | "Value" =>
    [.one 1 "null_value" (.member [(0, "NULL_VALUE_UNSPECIFIED")]), .one 2 "number_value" .double,
      .one 3 "string_value" .text, .one 4 "bool_value" .flag, .part 5 "struct_value" "Struct",
      .part 6 "list_value" "ListValue", .one 7 "integer_value" .zigzag]
  | "ListValue" => [.parts 1 "values" "Value"]
  | _ => []

end Msgs

variable (v : Value)

def wireInt :=
  match v.bare with
  | .int n => if isSignedWord n then pure n else fail .invalid
  | .bool b => return if b then 1 else 0
  | _ => fail .type

def wireFloat :=
  match v with
  | .text _ | .bytes _ => fail .type
  | v => v.toDouble

def wireFlag :=
  match v.bare with
  | .bool b => pure b
  | .int n => if isSignedWord n then return n != 0 else fail .overflow
  | _ => fail .type

def wireText :=
  match v.bare with
  | .text s => pure s
  | .bytes b => require (.other "UnicodeDecodeError") (text? b)
  | _ => fail .type

section Seqs

variable (field : Nat) (xs : Values)

def intItems := return nested field (numbers 1 ((← xs.mapM wireInt).map zigzag))

def floatItems := return nested field (doubles 1 (← xs.mapM wireFloat))

def flagItems : Outcome Msg := return nested field (numbers 1 ((← xs.mapM wireFlag).map fun b => if b then 1 else 0))

def textItems := return nested field (texts 1 (← xs.mapM wireText))

def complexItems := do
  let ps ← xs.mapM complexElem
  return nested field (doubles 1 (ps.map Prod.fst) ++ doubles 2 (ps.map Prod.snd))

def complexArray := do
  match ← toArray .none (.list xs) with
  | .array (.complex _) _ elems => complexItems field elems
  | .array (.text _) _ _ | .array (.bytes _) _ _ => fail .invalid
  | _ => fail .type

def packItems : Outcome Msg := do
  let x :: _ := xs | return []
  match x with
  | .text _ => textItems 1 xs
  | .bool _ => flagItems 2 xs
  | .int _ | .scalar (.signed _) _ | .scalar (.unsigned _) _ => intItems 3 xs
  | .float _ | .scalar (.floating _) _ => floatItems 4 xs
  | .complex _ _ | .scalar (.complex _) _ => complexArray 5 xs
  | y => failWith .type s!"Unsupported numpy array type {y.shownClass} for a sequence."

/-- A sequence: a list, a tuple, the characters of a text, or the bytes of bytes. What is zero or empty is an empty
sequence, and an array in one dimension with one element counts too. -/
def packSeq : Outcome Msg :=
  match v with
  | .list xs | .tuple xs => packItems xs
  | .text s | .scalar (.text _) (.text s) => packItems (s.toList.map (.text ·.toString))
  | .bytes b | .scalar (.bytes _) (.bytes b) => packItems (b.map (.int ·.toNat))
  | .none | .dict [] => return []
  | .dict _ => fail .missing
  | .array t shape xs =>
    match xs with
    | [] => return []
    | [x] =>
      if !x.toTruth then return []
      else match shape with
        | [] => fail .index
        | [_] => packItems [if t = .anything then x else .scalar t.plain x]
        | _ => failWith .type "Unsupported numpy array type <class 'numpy.ndarray'> for a sequence."
    | _ => fail .invalid
  | .scalar _ v => if v.toTruth then fail .index else return []
  | v => if v.toTruth then fail .type else return []

def packArray (t : Elem) (shape : List Nat) (xs : Values) : Outcome Msg := do
  let start := numbers 1 shape
  if xs.isEmpty then return start
  let c ← match t.plain with
    | .boolean => flagItems 3 xs
    | .signed 64 | .signed 32 => intItems 4 xs
    | .floating 64 => floatItems 5 xs
    | .complex 128 => complexItems 6 xs
    | x => failWith .type s!"Unsupported numpy array type <class 'numpy.{x.scalarName}'> for an array."
  return start ++ c

def seqMembers (start : Nat) := (List.range 5).map (start + ·, 2)

/-- The items of a message of a kind: texts, flags, whole numbers, doubles or complex numbers. -/
def unpackOf (k : Nat) (m : Msg) : Outcome (Elem × Values) := do
  match k with
  | 0 => pure (.text 0, (← m.texts 1).map .text)
  | 1 => pure (.boolean, (← m.numbers 1).map fun n => .bool (n != 0))
  | 2 => pure (.signed 64, (← m.numbers 1).map fun n => .int (ofZigzag n))
  | 3 => pure (.floating 64, (← m.doubles 1).map .float)
  | _ => pure (.complex 128, ((← m.doubles 1).zip (← m.doubles 2)).map fun e => .complex e.1 e.2)

def unpackItems (m : Msg) := do
  let some (field, .block c) := m.choice (seqMembers 1) | pure []
  return (← unpackOf (field - 1) (← decode c)).2

def unpackArray (m : Msg) : Outcome Value := do
  let shape ← m.numbers 1
  let some (field, .block c) := m.choice (seqMembers 2) | return .array (.floating 64) [0] []
  let inner ← decode c
  if field = 2 then failWith .type "Cannot unpack value in field string_array. Field name not recognized."
  let (t, xs) ← unpackOf (field - 2) inner
  if shape.isEmpty then fail .type
  let xs := if field = 6 then xs.take (sizeOf shape) else xs
  if sizeOf shape ≠ xs.length then fail .invalid
  return .array t shape xs

end Seqs

section Data

def pack (v : Value) : Outcome Msg :=
  match v with
  | .none => return [(14, .number 1)]
  | .bool b => return [(2, .number (if b then 1 else 0))]
  | .text s | .scalar (.text _) (.text s) => return [(1, .block (ofText s))]
  | .int n => do return [(3, .number (zigzag (← wireInt (.int n))))]
  | .float x => return [(4, .eight (ofFloat x))]
  | .complex re im => return nested 5 (double 1 re ++ double 2 im)
  | .array t shape xs => do return nested 10 (← packArray t shape xs)
  | .list _ | .tuple _ | .bytes _ | .scalar (.bytes _) _ => do return nested 11 (← packSeq v)
  | .dict _ | .scalar .boolean _ | .scalar .anything _ | .scalar (.text _) _ =>
    failWith .type s!"Encoding of type '{v.shownClass}' is not supported."
  | .scalar _ _ =>
    failWith .type (s!"Encoding of numpy type '{v.shownClass}' is not supported. "
      ++ "Cast the value into a native type first.")

def dataMembers := [(1, 2), (2, 0), (3, 0), (4, 1), (5, 2), (10, 2), (11, 2), (14, 0)]

def unpack (m : Msg) : Outcome Value := do
  match m.choice dataMembers with
  | some (1, .block _) => .text <$> m.text 1
  | some (2, .number n) => return .bool (n != 0)
  | some (3, .number n) => return .int (ofZigzag n)
  | some (4, .eight c) => return .float (Wire.float c)
  | some (5, .block c) =>
    let inner ← decode c
    return .complex (inner.double 1) (inner.double 2)
  | some (10, .block c) => unpackArray (← decode c)
  | some (11, .block c) => do return .list (← unpackItems (← decode c))
  | some (14, _) => pure .none
  | _ => return .list []

end Data

section Tables

def packEntry : Value → Outcome Msg
  | .none => return [(1, .number 1)]
  | .float x | .scalar (.floating 64) (.float x) => return [(2, .eight (ofFloat x))]
  | .text s | .scalar (.text _) (.text s) => return [(3, .block (ofText s))]
  | .bool b => return [(4, .number (if b then 1 else 0))]
  | .dict es => do return nested 5 (table 1 (← es.mapM fun e => do pure (e.1, ← packEntry e.2)))
  | .list xs => do return nested 6 ((← xs.mapM packEntry).flatMap (nested 1))
  | .int n => do return [(7, .number (zigzag (← wireInt (.int n))))]
  | y => failWith .type s!"Serializing of type '{y.shownClass}' is not supported."
decreasing_by all_goals grind

def packTable (es : Dict) : Outcome Msg := return table 1 (← es.mapM fun e => do pure (e.1, ← packEntry e.2))

def entryMembers := [(1, 0), (2, 1), (3, 2), (4, 0), (5, 2), (6, 2), (7, 0)]

def unpackEntry : Nat → Msg → Outcome Value
  | 0, _ => fail .undecodable
  | fuel + 1, m => do
    match m.choice entryMembers with
    | some (1, _) => pure .none
    | some (2, .eight c) => return .float (Wire.float c)
    | some (3, .block _) => .text <$> m.text 3
    | some (4, .number n) => return .bool (n != 0)
    | some (5, .block c) => return .dict (← (← (← decode c).table 1).mapM fun _ e => unpackEntry fuel e).entries
    | some (6, .block c) => return .list (← (← (← decode c).msgs 1).mapM (unpackEntry fuel))
    | some (7, .number n) => return .int (ofZigzag n)
    | _ => failWith .type "Unrecognized datatype field None"

def unpackTable (m : Msg) : Outcome Dict := return (← (← m.table 1).mapM fun _ e => unpackEntry maxNesting e).entries

end Tables

end Transmon.Value
