import Transmon.Number
import Transmon.Wire

/-!
Values of settings, calibration data and observations.
-/

namespace Transmon

open Decimal Text Wire

inductive Elem
  | boolean
  | signed (bits : Nat)
  | unsigned (bits : Nat)
  | floating (bits : Nat)
  | complex (bits : Nat)
  | text (length : Nat)
  | bytes (length : Nat)
  | anything
  | reversed (type : Elem)
deriving DecidableEq

namespace Elem

def plain : Elem → Elem | .reversed t | t => t

def code : Elem → String
  | .signed bits => "i" ++ toString (bits / 8)
  | .unsigned bits => "u" ++ toString (bits / 8)
  | .floating bits => "f" ++ toString (bits / 8)
  | .complex bits => "c" ++ toString (bits / 8)
  | .text len => "U" ++ toString len
  | .bytes len => "S" ++ toString len
  | .boolean => "b1"
  | .anything => "O8"
  | .reversed _ => ""

def name : Elem → String
  | .boolean => "bool"
  | .signed bits => "int" ++ toString bits
  | .unsigned bits => "uint" ++ toString bits
  | .floating bits => "float" ++ toString bits
  | .complex bits => "complex" ++ toString bits
  | .text len => "<U" ++ toString len
  | .bytes len => "|S" ++ toString len
  | .anything => "object"
  | .reversed t => ">" ++ t.code

def scalarNames : List (String × Elem) :=
  [("bool_", .boolean), ("bool8", .boolean),
   ("int8", .signed 8), ("byte", .signed 8), ("int16", .signed 16), ("short", .signed 16), ("int32", .signed 32),
   ("intc", .signed 32), ("int64", .signed 64), ("int_", .signed 64), ("intp", .signed 64), ("longlong", .signed 64),
   ("uint8", .unsigned 8), ("ubyte", .unsigned 8), ("uint16", .unsigned 16), ("ushort", .unsigned 16),
   ("uint32", .unsigned 32), ("uintc", .unsigned 32), ("uint64", .unsigned 64), ("uint", .unsigned 64),
   ("uintp", .unsigned 64), ("ulonglong", .unsigned 64),
   ("float16", .floating 16), ("half", .floating 16), ("float32", .floating 32), ("single", .floating 32),
   ("float64", .floating 64), ("double", .floating 64), ("float_", .floating 64),
   ("complex64", .complex 64), ("csingle", .complex 64), ("singlecomplex", .complex 64),
   ("complex128", .complex 128), ("cdouble", .complex 128), ("complex_", .complex 128), ("cfloat", .complex 128),
   ("str_", .text 0), ("unicode_", .text 0), ("bytes_", .bytes 0), ("string_", .bytes 0), ("object_", .anything)]

def otherNames : List (String × Elem) :=
  [("bool", .boolean), ("int", .signed 64), ("int0", .signed 64), ("long", .signed 64), ("uint0", .unsigned 64),
   ("ulong", .unsigned 64), ("float", .floating 64), ("complex", .complex 128), ("str", .text 0), ("str0", .text 0),
   ("unicode", .text 0), ("bytes", .bytes 0), ("bytes0", .bytes 0), ("object", .anything),
   ("object0", .anything)]

def letters : List (Char × Elem) :=
  [('?', .boolean), ('b', .signed 8), ('h', .signed 16), ('i', .signed 32), ('l', .signed 64), ('q', .signed 64),
   ('p', .signed 64), ('B', .unsigned 8), ('H', .unsigned 16), ('I', .unsigned 32), ('L', .unsigned 64),
   ('Q', .unsigned 64), ('P', .unsigned 64), ('e', .floating 16), ('f', .floating 32), ('d', .floating 64),
   ('F', .complex 64), ('D', .complex 128), ('U', .text 0), ('S', .bytes 0), ('a', .bytes 0), ('c', .bytes 1),
   ('O', .anything)]

def ofKind? (k : Char) (n : Nat) : Option Elem :=
  match k with
  | 'b' => if n = 1 then some .boolean else none
  | 'i' => if [1, 2, 4, 8].contains n then some (.signed (8 * n)) else none
  | 'u' => if [1, 2, 4, 8].contains n then some (.unsigned (8 * n)) else none
  | 'f' => if [2, 4, 8].contains n then some (.floating (8 * n)) else none
  | 'c' => if [8, 16].contains n then some (.complex (8 * n)) else none
  | 'U' => some (.text n)
  | 'S' | 'a' => some (.bytes n)
  | 'O' => if n = 4 || n = 8 then some .anything else none
  | _ => none

def ofCode? : Chars → Option Elem
  | [letter] => letters.lookup letter
  | k :: digits => if !digits.isEmpty && digits.all Char.isDigit then ofKind? k (number digits) else none
  | [] => none

def reverse (t : Elem) :=
  match t with
  | .signed 8 | .unsigned 8 | .boolean | .bytes _ | .anything => t
  | t => .reversed t

def ofName? (n : String) : Option Elem :=
  match n.toList with
  | '<' :: code | '=' :: code | '|' :: code => ofCode? code
  | '>' :: code => (ofCode? code).map reverse
  | code => (ofCode? code).or ((scalarNames ++ otherNames).lookup n)

end Elem

inductive Value
  | none
  | bool (value : Bool)
  | int (value : Int)
  | float (value : Float)
  | complex (re im : Float)
  | text (value : String)
  | bytes (value : List UInt8)
  | list (items : List Value)
  | tuple (items : List Value)
  | dict (entries : List (String × Value))
  | array (type : Elem) (shape : List Nat) (items : List Value)
  | scalar (type : Elem) (value : Value)

abbrev Values := List Value

abbrev Dict := Named Value

namespace Value

instance : Inhabited Value := ⟨.none⟩

def ofJson : Json → Value
  | .null => .none
  | .bool b => .bool b
  | .int n => .int n
  | .float x => .float x
  | .text s => .text s
  | .array xs => .list (xs.map ofJson)
  | .object fs => .dict (fs.map fun e => (e.1, ofJson e.2))
decreasing_by all_goals grind

def ofNumber : Number → Value
  | .int n => .int n
  | .float x => .float x

def isNone : Value → Bool
  | .none => true
  | _ => false

def isDict : Value → Bool
  | .dict _ => true
  | _ => false

def entries : Value → List (String × Value)
  | .dict entries => entries
  | _ => []

def ofFloats (xs : Floats) : Value := .array (.floating 64) [xs.length] (xs.map .float)

def own : Value → Value | .scalar _ a | a => a

def number? (a : Value) : Option Number :=
  match a.own with
  | .bool b => some (.int (if b then 1 else 0))
  | .int n => some (n)
  | .float x => some (.float x)
  | _ => .none

def float? (a : Value) := a.number?.map Number.toFloat

def parts? : Value → Option (Number × Number)
  | .complex re im | .scalar _ (.complex re im) => some (.float re, .float im)
  | a => a.number?.map (·, 0)

def floats? : Value → Option Floats
  | .array _ _ ys | .list ys | .tuple ys => ys.mapM float?
  | _ => .none

mutual

def equal : Value → Value → Bool
  | .none, .none => true
  | .text a, .text b | .bytes a, .bytes b => a == b
  | .list a, .list b | .tuple a, .tuple b => equalItems a b
  | .dict a, .dict b => a.length == b.length && equalEntries a b
  | .array _ s a, .array _ t b => s == t && equalItems a b
  | .scalar _ (.text a), .text b | .text a, .scalar _ (.text b) => a == b
  | a, b =>
    match parts? a, parts? b with
    | some (u, v), some (x, y) => u == x && v == y
    | _, _ => false

def equalItems : Values → Values → Bool
  | [], [] => true
  | a :: xs, b :: others => equal a b && equalItems xs others
  | _, _ => false

def equalEntries : List (String × Value) → List (String × Value) → Bool
  | [], _ => true
  | (n, a) :: xs, others =>
    (match others.lookup n with
      | some b => equal a b
      | .none => false) && equalEntries xs others

end

instance : BEq Value := ⟨equal⟩

mutual

def isFixed : Value → Bool
  | .list _ | .dict _ | .array .. => false
  | .tuple ys => areFixed ys
  | _ => true

def areFixed : Values → Bool
  | [] => true
  | item :: xs => isFixed item && areFixed xs

end

variable (f : Format)

def shownPart (x : Float) :=
  let s := renderIn f x
  if s.endsWith ".0" then (s.dropEnd 2).toString else s

def shownComplexIn (re im : Float) :=
  let imaginary := shownPart f im
  if re == 0 && !(parts re).negative then imaginary ++ "j"
  else
    "(" ++ shownPart f re ++ (if imaginary.startsWith "-" then "" else "+") ++ imaginary ++ "j)"

def shownComplex (re im : Float) := shownComplexIn .double re im

def shownSized? : Elem → Value → Option String
  | .floating bits, .float x => some (renderIn (.ofBits bits) x)
  | .complex bits, .complex re im => some (shownComplexIn (.ofBits (bits / 2)) re im)
  | _, _ => .none

def shownBytes (bytes : List UInt8) :=
  "b'" ++ .join (bytes.map fun b => if b < 127 then escape '\'' (.ofNat b.toNat) else "\\x" ++ hexByte b.toNat) ++ "'"

def sizeOf (shape : List Nat) := shape.foldl (· * ·) 1

def rows {α : Type} (w : Nat) : Nat → List α → List (List α)
  | 0, _ => []
  | count + 1, ys => ys.take w :: rows w count (ys.drop w)

/-- The text of an array of shown elements in brackets, nested by its shape. Rows stand on lines of their own,
indented by a number of blanks. -/
def shownNested (sep : String) (indent : Nat) : List Nat → Names → String
  | [], ys => ys.headD ""
  | [_], ys => bracketed sep ("".pushn ' ' (indent + 1)) ys
  | n :: shape, ys =>
    let between := sep.trimAsciiEnd.toString ++ "".pushn '\n' shape.length ++ "".pushn ' ' (indent + 1)
    "[" ++ between.intercalate ((rows (sizeOf shape) n ys).map (shownNested sep (indent + 1) shape)) ++ "]"

def doubles? (ys : Values) : Option Floats :=
  ys.mapM fun
    | .float x => some x
    | _ => .none

/-- The texts of elements: doubles stand in a column. -/
def columned (ys : Values) (texts : Names) := ((doubles? ys).map column).getD texts

def shown : Value → String
  | .none => "None"
  | .bool b => if b then "True" else "False"
  | .int n => toString n
  | .float x => render x
  | .complex re im => shownComplex re im
  | .text s => quoted s
  | .bytes b => shownBytes b
  | .list xs => listed (xs.map shown)
  | .tuple xs => tupled (xs.map shown)
  | .dict es => mapped (es.map fun e => (quoted e.1, shown e.2))
  | .array _ shape xs => "array(" ++ shownNested ", " 6 shape (columned xs (xs.map shown)) ++ ")"
  | .scalar t v => (shownSized? t v).getD (shown v)
decreasing_by all_goals grind

def plain : Value → String
  | .text s | .scalar _ (.text s) => s
  | .array _ shape xs => shownNested " " 0 shape (columned xs (xs.map shown))
  | v => shown v

def isFilled : Value → Bool
  | .none => false
  | .text s => !s.isEmpty
  | .bytes b => !b.isEmpty
  | .list xs | .tuple xs => !xs.isEmpty
  | .dict es => !es.isEmpty
  | .array _ shape _ => shape.head? != some 0
  | _ => true

def isTrue : Value → Bool
  | .bool b | .scalar _ (.bool b) => b
  | .int n => n != 0
  | .float x => x != 0
  | a => a.isFilled

end Value

/-!
Arrays and the types of their elements.
-/

namespace Elem

def scalarName : Elem → String
  | .boolean => "bool_"
  | .text _ => "str_"
  | .bytes _ => "bytes_"
  | .anything => "object_"
  | .reversed t => t.scalarName
  | t => t.name

def ofScalarName? (n : String) := scalarNames.lookup n

def textLength : Elem → Nat
  | .boolean => 5
  | .signed 8 => 4
  | .signed 16 => 6
  | .signed 32 => 11
  | .signed _ => 21
  | .unsigned 8 => 3
  | .unsigned 16 => 5
  | .unsigned 32 => 10
  | .unsigned _ => 20
  | .floating _ => 32
  | .complex _ => 64
  | .text len | .bytes len => len
  | .anything => 0
  | .reversed t => t.textLength

def join (a b : Elem) : Elem :=
  match a.plain, b.plain with
  | .anything, _ | _, .anything => .anything
  | .text n, x | x, .text n => .text (max n x.textLength)
  | .bytes n, .bytes m => .bytes (max n m)
  | .bytes n, x | x, .bytes n => .bytes (max n x.textLength)
  | .boolean, x | x, .boolean => x
  | .complex n, .complex m => .complex (max n m)
  | .complex n, .floating m | .floating m, .complex n => .complex (max n (2 * m))
  | .complex n, .signed m | .complex n, .unsigned m | .signed m, .complex n | .unsigned m, .complex n =>
    .complex (if m ≤ 16 then n else 128)
  | .floating n, .floating m => .floating (max n m)
  | .floating n, .signed m | .floating n, .unsigned m | .signed m, .floating n | .unsigned m, .floating n =>
    .floating (if m ≤ 8 then n else if m ≤ 16 then max n 32 else 64)
  | .signed n, .signed m => .signed (max n m)
  | .unsigned n, .unsigned m => .unsigned (max n m)
  | .signed n, .unsigned m | .unsigned m, .signed n =>
    if m < n then .signed n else if m < 64 then .signed (2 * m) else .floating 64
  | .reversed _, x | x, .reversed _ => x

def bytesPerElem : Elem → Nat
  | .boolean => 1
  | .signed bits | .unsigned bits | .floating bits | .complex bits => bits / 8
  | .text len => 4 * len
  | .bytes len => len
  | .anything => 8
  | .reversed t => t.bytesPerElem

end Elem

namespace Value

def elemType : Value → Elem
  | .bool _ => .boolean
  | .int n => if isSignedWord n then .signed 64 else if isWord n then .unsigned 64 else .anything
  | .float _ => .floating 64
  | .complex _ _ => .complex 128
  | .text s => .text s.length
  | .bytes b => .bytes b.length
  | .scalar (.text _) (.text s) => .text s.length
  | .scalar (.bytes _) (.bytes b) => .bytes b.length
  | .scalar t _ | .array t [] _ => t.plain
  | _ => .anything

def bare : Value → Value | .scalar _ a | .array _ [] [a] | a => a

variable (bits : Nat)

def wrapSigned (n : Int) := Int.bmod n (.pow 2 bits)

def wrapUnsigned (n : Int) := n % (.pow 2 bits : Nat)

def elemText : Value → String | .array _ [] [a] | a => a.plain

def narrowed (x : Float) := Decimal.narrowed (.ofBits bits) x

section Nums

def doubleOfInt (n : Int) :=
  let x := ofInt n
  if x.isInf then fail .overflow else pure x

def wholeOfDouble (x : Float) :=
  if x.isNaN then fail .invalid else if x.isInf then fail .overflow else return truncate x

def converted {α : Type} (ofInt : Int → Outcome α) (ofFloat : Float → Outcome α) (ofText : String → Option α) :
    Value → Outcome α
  | .bool b => ofInt (if b then 1 else 0)
  | .int n => ofInt n
  | .float x | .scalar _ (.complex x _) => ofFloat x
  | .text s => require .invalid (ofText s)
  | .bytes b => require .invalid ((plainText? b).bind ofText)
  | .scalar _ a | .array _ _ [a] => converted ofInt ofFloat ofText a
  | _ => fail .type

def toDouble := converted doubleOfInt pure Decimal.float?

def toWhole := converted pure wholeOfDouble int?

def toTruth : Value → Bool
  | .none => false
  | .bool b => b
  | .int n => n != 0
  | .float x => x != 0
  | .complex re im => re != 0 || im != 0
  | .text s => !s.isEmpty
  | .bytes b => !b.isEmpty
  | .scalar _ a => toTruth a
  | _ => true

end Nums

def boundedWhole (isLarge : Bool) (a : Value) := do
  let n ← toWhole a
  if isSignedWord n || (isLarge && isWord n) then pure n else fail .overflow

def withoutZeros (s : String) := String.ofList (trimEnd (·.toNat == 0) s.toList)

def bytesWithoutZeros (b : List UInt8) := trimEnd (· == 0) b

def complexElem (a : Value) : Outcome (Float × Float) :=
  match a with
  | .none => pure (0.0 / 0.0, 0.0 / 0.0)
  | .complex re im => pure (re, im)
  | .text s => require .invalid (complex? s)
  | .bytes b => require .invalid ((plainText? b).bind complex?)
  | .bool _ | .int _ | .float _ => do pure (← toDouble a, 0.0)
  | _ => fail .type

def asElem (t : Elem) (a : Value) : Outcome Value :=
  match t with
  | .anything => pure a
  | .boolean => return .bool a.toTruth
  | .signed bits => do return .int (wrapSigned bits (← boundedWhole false a))
  | .unsigned bits => do return .int (wrapUnsigned bits (← boundedWhole (16 < bits) a))
  | .floating bits =>
    match a with
    | .none => return .float (0.0 / 0.0)
    | a => do return .float (narrowed bits (← toDouble a))
  | .complex bits => do
    let (re, im) ← complexElem a
    return .complex (narrowed (bits / 2) re) (narrowed (bits / 2) im)
  | .text len =>
    match a with
    | .bytes b =>
      return .text (withoutZeros ((← require (.other "UnicodeDecodeError") (plainText? b)).take len).toString)
    | a => return .text (withoutZeros (a.elemText.take len).toString)
  | .bytes len =>
    match a with
    | .bytes b => return .bytes (bytesWithoutZeros (b.take len))
    | a =>
      let s := a.elemText
      if s.toList.any fun c => 127 < c.toNat then fail (.other "UnicodeEncodeError")
      else return .bytes (bytesWithoutZeros (s.toUTF8.toList.take len))
  | .reversed t => asElem t a

def boundedTruncation (x : Float) := if x.isFinite then truncate x else -(.pow 2 63 : Nat)

def recast (t : Elem) (a : Value) : Outcome Value :=
  match t, a with
  | .signed bits, .int n => return .int (wrapSigned bits n)
  | .unsigned bits, .int n => return .int (wrapUnsigned bits n)
  | .signed bits, .float x | .signed bits, .complex x _ => return .int (wrapSigned bits (boundedTruncation x))
  | .unsigned bits, .float x | .unsigned bits, .complex x _ => return .int (wrapUnsigned bits (boundedTruncation x))
  | .floating bits, .complex x _ => return .float (narrowed bits x)
  | _, _ => asElem t a

def convertTo (t : Elem) (a : Value) : Outcome Value :=
  let plain := t.plain
  match plain, a with
  | .anything, _ => pure a
  | .text _, .scalar _ (.bytes b) | .bytes _, .scalar _ (.bytes b) => asElem plain (.bytes b)
  | .text _, _ | .bytes _, _ => asElem plain a
  | _, .scalar _ inner | _, .array _ [] [inner] => recast plain inner
  | _, _ => asElem plain a

def parts : Value → Option Values
  | .list ys | .tuple ys | .array .anything [_] ys => some ys
  | .array t [_] ys => some (ys.map (.scalar t.plain ·))
  | .array t (n :: shape) ys => some ((rows (sizeOf shape) n ys).map (.array t shape ·))
  | _ => .none

def shape? : Nat → Value → Option (List Nat)
  | 0, _ => some []
  | fuel + 1, v =>
    match v.parts with
    | .none => some []
    | some [] => some [0]
    | some (x :: xs) => do
      let inner ← shape? fuel x
      if (← xs.mapM (shape? fuel)).all (· == inner) then some ((xs.length + 1) :: inner) else .none

def leaves : Nat → Value → Values
  | 0, v => [v]
  | fuel + 1, v =>
    match v.parts with
    | .none => [v]
    | some xs => xs.flatMap (leaves fuel)

def maxDimensions := 32

def longestText (leaves : Values) :=
  leaves.foldl (fun n leaf => max n (if let .bytes b := leaf.bare then b.length else leaf.elemText.length)) 1

variable (type? : Option Elem)

def commonType (leaves : Values) : Elem :=
  match type? with
  | some (.text 0) => .text (longestText leaves)
  | some (.bytes 0) => .bytes (longestText leaves)
  | some (.reversed (.text 0)) => .reversed (.text (longestText leaves))
  | some t => t
  | .none =>
    match leaves.map elemType with
    | [] => .floating 64
    | x :: xs =>
      match xs.foldl .join x with
      | .text 0 => .text 1
      | .bytes 0 => .bytes 1
      | t => t

def toArray (v : Value) : Outcome Value := do
  match type?, v with
  | .none, .array t shape xs => return .array t shape xs
  | _, _ =>
    let (shape, leaves) ← match shape? maxDimensions v, type?, v.parts with
      | some shape, _, _ => pure (shape, leaves maxDimensions v)
      | .none, some .anything, some xs => pure ([xs.length], xs)
      | _, _, _ => fail .invalid
    let t := commonType type? leaves
    return .array t shape (← leaves.mapM (convertTo t))

def nest : List Nat → Values → Value
  | [], ys => ys.headD .none
  | [_], ys => .list ys
  | n :: shape, ys => .list ((rows (sizeOf shape) n ys).map (nest shape))

def toNested : Value → Value
  | .array _ shape xs => nest shape xs
  | v => v

def className : Value → String
  | .none => "NoneType"
  | .bool _ => "bool"
  | .int _ => "int"
  | .float _ => "float"
  | .complex _ _ => "complex"
  | .text _ => "str"
  | .bytes _ => "bytes"
  | .list _ => "list"
  | .tuple _ => "tuple"
  | .dict _ => "dict"
  | .array _ _ _ => "numpy.ndarray"
  | .scalar t _ => "numpy." ++ t.scalarName

def shownClass (a : Value) := s!"<class '{a.className}'>"

end Value

def Json.shown (j : Json) := (Value.ofJson j).plain

end Transmon
