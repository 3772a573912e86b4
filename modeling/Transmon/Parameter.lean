import Transmon.Expression
import Transmon.Waveform.Shape

/-!
What a parameter holds: the type of its elements and how they are collected.
-/

namespace Transmon

open Wire

inductive DataType
  | anything | float | complex | string | boolean | int | number
deriving DecidableEq

inductive Collection
  | scalar | list | array
deriving DecidableEq

namespace DataType

def all : List DataType := [.anything, .float, .complex, .string, .boolean, .int, .number]

def name : DataType → String
  | .anything => "ANYTHING"
  | .float => "FLOAT"
  | .complex => "COMPLEX"
  | .string => "STRING"
  | .boolean => "BOOLEAN"
  | .int => "INT"
  | .number => "NUMBER"

def code (t : DataType) : Nat := if t = .number then 101 else all.idxOf t

def ofName? (n : String) := all.find? (·.name == n)

def ofCode? (code : Int) := all.find? (·.code == code)

end DataType

namespace Collection

def all : List Collection := [.scalar, .list, .array]

def name : Collection → String
  | .scalar => "SCALAR"
  | .list => "LIST"
  | .array => "NDARRAY"

def code (t : Collection) := all.idxOf t

def ofName? (n : String) := all.find? (·.name == n)

def ofCode? (code : Int) := all.find? (·.code == code)

end Collection

def Param.elemType? : String → Option DataType
  | "float" => some .float
  | "int" => some .int
  | "str" => some .string
  | "complex" => some .complex
  | "bool" => some .boolean
  | _ => none

def Param.shownDeclaration (declared : String) :=
  if declared = "None" then "<class 'NoneType'>"
  else if declared = "ndarray" then "<class 'numpy.ndarray'>"
  else if declared.contains '[' then declared
  else s!"<class '{declared}'>"

def Param.declaredKind (declared : String) : Outcome (DataType × Collection) := do
  let unsupported {α : Type} : Outcome α :=
    refuse s!"Nonsupported datatype for a waveform parameter: {shownDeclaration declared}"
  if declared = "ndarray" then return (.complex, .array)
  if declared.startsWith "list[" then
    let some t := elemType? ((declared.drop 5).dropEnd 1).toString | unsupported
    pure (t, .list)
  else if let some t := elemType? declared then return (t, .scalar) else unsupported

/-!
Converting and checking values by data type.
-/

namespace DataType

def isWholeNum (x : Float) := !x.isNaN && !x.isInf && Decimal.isWhole x

def admits (t : DataType) (v : Value) : Bool :=
  match t, v.own with
  | _, .none | .anything, _ => true
  | .float, .int _ | .float, .float _ | .number, .int _ | .number, .float _ => true
  | .int, .int _ => true
  | .int, .float x => isWholeNum x
  | .complex, .int _ | .complex, .float _ | .complex, .complex _ _ => true
  | .string, .text _ => true
  | .boolean, .bool _ => true
  | _, _ => false

def toTruth (s : String) : Outcome Value :=
  if s.toLower == "true" || s == "1" then return .bool true
  else if s.toLower == "false" || s == "0" then return .bool false
  else failWith .type "Boolean data types can only be 'false', 'true, '0' or '1' (case-insensitive)"

def castOne (t : DataType) (v : Value) : Outcome Value :=
  match v with
  | .none => pure .none
  | _ =>
    match t with
    | .float | .number => .float <$> v.toDouble
    | .int => .int <$> v.toWhole
    | .complex =>
      match v with
      | .complex _ _ | .scalar (.complex 128) _ => pure v
      | .text s | .scalar _ (.text s) => do
        let (re, im) ← require .invalid (Decimal.complex? (.ofList (s.toList.filter (!Text.isBlank ·))))
        return .complex re im
      | .bytes b | .scalar _ (.bytes b) =>
        if b.all fun byte => Text.isPlainBlank (.ofNat byte.toNat) then fail .invalid else fail .type
      | _ => fail .noAttr
    | .boolean =>
      match v with
      | .text s | .scalar _ (.text s) => toTruth s
      | .bytes _ | .scalar _ (.bytes _) => toTruth ""
      | _ => fail .noAttr
    | .string => pure v
    | .anything =>
      match v with
      | .text s | .scalar _ (.text s) =>
        match Literal.ofText s with
        | .ok r => pure r
        | .error .badKey => fail .type
        | .error .tooLarge => fail .overflow
        | .error _ => pure v
      | _ => pure v

def cast (t : DataType) : Value → Outcome Value
  | .list xs => .list <$> xs.mapM (cast t)
  | v => castOne t v

end DataType

def Collection.cast (t : Collection) (v : Value) : Outcome Value :=
  match t, v with
  | .array, .list xs => Value.toArray none (.list xs)
  | .list, .array _ _ _ => pure v.toNested
  | .list, .list _ | .list, .none => pure v
  | .list, x => return .list [x]
  | _, x => pure x

/-!
Parameters: what a value is the value of.
-/

inductive DataKind
  | one (type : DataType)
  | either (types : List DataType)
deriving DecidableEq

def DataKind.types : DataKind → List DataType
  | .one t => [t]
  | .either types => types

def DataKind.shown : DataKind → String
  | .one t => toString t.code
  | .either types => Text.tupled (types.map fun t => s!"<DataType.{t.name}: {t.code}>")

structure Param where
  (name label : String)
  unit : String := ""
  data : DataKind := .one .float
  collection : Collection := .scalar
  indices : Option (List Int) := none
  parent : Option (String × String) := none
deriving DecidableEq

namespace Param

def underscored (ws : Names) := "__".intercalate ws

def bracketed (is : List Int) := Text.listed (is.map toString)

def make (name : String) (label : String := "") (unit : String := "") (data : DataKind := .one .float)
    (collection : Collection := .scalar) (is : Option (List Int) := none) : Outcome Param := do
  let label := if label.isEmpty then name else label
  let data := if data = .one .number then .one .float else data
  let some is := is | pure { name, label, unit, data, collection }
  if collection ≠ .scalar then
    failWith .badValue "Element-wise parameter must have 'CollectionType.SCALAR' collection type."
  if is.isEmpty then failWith .badValue "Parameter 'element_indices' must be one or more ints."
  let ending := "__" ++ underscored (is.map toString)
  let parentName := name.replace ending ""
  let parentLabel := label.replace s!" {bracketed is}" ""
  pure { name := parentName ++ ending, label := parentLabel ++ " " ++ bracketed is, unit, data, collection,
           indices := some is, parent := some (parentName, parentLabel) }

variable (p : Param)

def renamed (name : String) := { p with name }

def admitsType (coll : Collection) (t : DataType) (v : Value) :=
  match coll, v with
  | .list, .list xs | .array, .array _ _ xs => xs.all t.admits
  | .scalar, v => t.admits v
  | _, _ => false

def admits (v : Value) := p.data.types.any (admitsType p.collection · v)

def elem (is : List Int) : Outcome Param := do
  if p.collection = .scalar then
    failWith .badValue "Cannot create an element-wise parameter from a parameter with 'CollectionType.SCALAR'."
  make p.name p.label p.unit p.data .scalar (some is)

/-!
The parameters that an implementation of an operation needs.
-/

structure Item where
  label : String
  unit : String := ""
  data : DataType := .float
  collection : Collection := .scalar
  default : Option Value := none

inductive Tree
  | item (item : Item)
  | group (entries : List (String × Tree))

instance : Inhabited Tree := ⟨.group []⟩

def Tree.entries : Tree → Named Tree
  | .group es => es
  | .item _ => []

def Tree.isGroup : Tree → Bool
  | .group _ => true
  | .item _ => false

def leaf (label : String) (unit : String := "") (default : Option Value := none) : Tree := .item { label, unit, default }

def overlaid (base changes : Named Tree) : Named Tree := changes.foldl (fun es e => Table.put e.1 e.2 es) base

def without (ns : Names) (es : Named Tree) : Named Tree := es.filter (!ns.contains ·.1)

def shortName (k : ShapeKind) :=
  let capitals := k.name.toList.filter Char.isUpper
  if capitals.length < 2 then k.name else .ofList (capitals.map .toLower)

def fieldKind : ShapeKind.FieldType → DataType × Collection
  | .whole => (.int, .scalar)
  | .real => (.float, .scalar)
  | .flag => (.boolean, .scalar)
  | .reals => (.complex, .array)

def ofShape (k : ShapeKind) (labelStart : String := "") : Named Tree :=
  k.fields.map fun field =>
    let (data, collection) := fieldKind field.type
    (field.name, .item {
      label := labelStart ++ s!"{field.name} of {shortName k}"
      unit := (k.units.lookup field.name).getD "s"
      data, collection
      default := field.default.map .float })

end Param

/-!
Parameters as messages.
-/

open Wire (Msg)

namespace DataType

def wireNames :=
  [(0, "DATA_TYPE_UNSPECIFIED"), (1, "DATA_TYPE_STRING"), (2, "DATA_TYPE_BOOL"), (3, "DATA_TYPE_INT64"),
    (4, "DATA_TYPE_FLOAT64"), (5, "DATA_TYPE_COMPLEX128")]

def wireTypes : List DataType := [.anything, .string, .boolean, .int, .float, .complex]

def wireCode (t : DataType) := wireTypes.idxOf (if t = .number then .float else t)

def ofWireCode? (code : Nat) := wireTypes[code]?

end DataType

namespace Collection

def wireNames :=
  [(0, "COLLECTION_TYPE_UNSPECIFIED"), (1, "COLLECTION_TYPE_SCALAR"), (2, "COLLECTION_TYPE_SEQUENCE"),
    (3, "COLLECTION_TYPE_ARRAY")]

def wireCode (t : Collection) := t.code + 1

def ofWireCode? (code : Nat) := all.find? (·.wireCode == code)

end Collection

def Param.pack (p : Param) : Msg :=
  let d := if let .one type := p.data then type.wireCode else 0
  text 1 p.name ++ text 2 p.label ++ text 3 p.unit
    ++ number 4 p.collection.wireCode ++ number 5 d
    ++ numbers 6 ((p.indices.getD []).map wrapped)
    ++ (if let some (n, l) := p.parent then text 7 n ++ text 8 l else [])

def Param.unpack (m : Msg) : Outcome Param := do
  let d ← require .type (DataType.ofWireCode? (m.number 5))
  let coll ← require .type (Collection.ofWireCode? (m.number 4))
  let is := (← m.numbers 6).map signed
  if is.isEmpty then make (← m.text 1) (← m.text 2) (← m.text 3) (.one d) coll
  else make (← m.text 7) (← m.text 8) (← m.text 3) (.one d) coll (some is)

def Param.fields : List Field :=
  [.one 1 "name" .text, .one 2 "label" .text, .one 3 "unit" .text,
    ⟨4, "collection_type", .member Collection.wireNames, false⟩,
    .one 5 "data_type" (.member DataType.wireNames), .many 6 "element_indices" .whole,
    .one 7 "parent_name" .text, .one 8 "parent_label" .text]

/-!
Arrays with named dimensions, and sets of them.
-/

structure NamedArray where
  name : String
  dims : Names
  shape : List Nat
  items : Values
  attrs : Dict := []
  coords : Named (List (String × Value)) := []

namespace NamedArray

def values (array : NamedArray) := Value.nest array.shape array.items

def describe (p : Param) : Dict :=
  [("parameter", .text p.name), ("standard_name", .text p.name), ("long_name", .text p.label),
    ("units", .text p.unit)]

def ofValues (p : Param) (d : Value) (dims? : Option Names)
    (cs : Named NamedArray) (md : Dict) : Outcome NamedArray := do
  let (shape, items) ← if let .array _ shape items ← Value.toArray none d then pure (shape, items) else fail .invalid
  let dims : Names := match dims? with
    | some dims => dims
    | none =>
      if shape.length = 1 then [p.name]
      else (List.range shape.length).map fun n => s!"{p.name}_{n}"
  let own := describe p
  let doubled := (own.map Prod.fst).filter fun k => (md.lookup k).isSome
  if !doubled.isEmpty then refuse s!"Can not have keys {Names.shown doubled} in metadata dictionary"
  if dims.length != shape.length then fail .invalid
  let lengths := dims.zip shape
  for (k, coord) in cs do
    if !(coord.dims.zip coord.shape).all fun e => lengths.lookup e.1 == some e.2 then fail .invalid
    if dims.contains k && coord.dims != [k] then fail .invalid
  pure { name := p.name, dims, shape, items, attrs := own ++ md, coords := cs.map fun e => (e.1, e.2.attrs) }

def columnPlace : List Nat → Nat → Nat → Nat
  | [], _, _ => 0
  | len :: xs, stride, place =>
    let inner := Value.sizeOf xs
    (place / inner) % len * stride + columnPlace xs (stride * len) (place % inner)

end NamedArray

structure Dataset where
  arrays : Named NamedArray
  coords : Named NamedArray := []
  attrs : Dict := []

def Dataset.ofObservation (axes : List (Param × Values)) (observed : Param × Values)
    (extra : Named Nat) (attrs : Dict) : Outcome Dataset := do
  let coords ← axes.mapM fun e => do pure (e.1.name, ← NamedArray.ofValues e.1 (.list e.2) none [] [])
  let dims := axes.map (·.1.name) ++ extra.map Prod.fst
  let sizes := axes.map (·.2.length) ++ extra.map Prod.snd
  let items ← if let .array _ _ items ← Value.toArray none (.list observed.2) then pure items else fail .invalid
  if items.length != Value.sizeOf sizes then fail .invalid
  let placed := (List.range items.length).map fun n => items.getD (NamedArray.columnPlace sizes 1 n) .none
  let array : NamedArray := {
    name := observed.1.name, dims, shape := sizes, items := placed
    attrs := NamedArray.describe observed.1
    coords := coords.map fun e => (e.1, e.2.attrs) }
  pure { arrays := [(array.name, array)], coords, attrs }

def Dataset.add (d : Dataset) (array : NamedArray) (name? : Option String) : Outcome Dataset := do
  let name ← match name? with
    | some name => pure name
    | none => if array.name.isEmpty then refuse "No name was given to the dataArray." else pure array.name
  let ys := (d.arrays.filter (·.1 != name)).flatMap fun e => e.2.dims.zip e.2.shape
  for (dim, len) in array.dims.zip array.shape do
    let some known := ys.lookup dim | pure ()
    if known != len then fail .invalid
  let kept := if let some earlier := d.arrays.lookup name then earlier.attrs else []
  let attrs := if kept.isEmpty then array.attrs else kept
  if array.dims == [name] then return d
  pure { d with arrays := Table.put name { array with name, attrs } d.arrays }

end Transmon
