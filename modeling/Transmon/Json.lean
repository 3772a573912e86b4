import Transmon.Decimal
import Transmon.Table
import Transmon.Text.Moment

/-!
JSON documents with the order of their fields.
-/

namespace Transmon

inductive Json
  | null
  | bool (value : Bool)
  | int (value : Int)
  | float (value : Float)
  | text (value : String)
  | array (items : List Json)
  | object (fields : List (String × Json))

abbrev Fields := Named Json

namespace Json

instance : Inhabited Json := ⟨.null⟩

instance : Coe String Json := ⟨.text⟩

instance : Coe Int Json := ⟨.int⟩

instance : Coe Nat Json := ⟨(.int ·)⟩

instance : Coe Bool Json := ⟨.bool⟩

instance : Coe (List Json) Json := ⟨.array⟩

instance : Coe Fields Json := ⟨.object⟩

def list {α : Type} (xs : List α) (x : α → Json) : Json := xs.map x

def table {α : Type} (es : Named α) (v : α → Json) : Json := es.map fun e => (e.1, v e.2)

variable (j : Json) (m : String)

def field? := do
  let .object fields := j | none
  fields.lookup m

def get (default : Json := .null) := (j.field? m).getD default

/-- What a field holds, else an object without fields. -/
def group := j.get m (.object [])

def member := do
  let .object fields := j | fail .type
  require .missing (fields.lookup m)

def part := require .noAttr (j.field? m)

def hasField := (j.field? m).isSome

def items : Json → List Json
  | .array items => items
  | _ => []

def each {α : Type} (read : Json → Outcome α) := (j.get m).items.mapM read

def fields : Json → Fields
  | .object fields => fields
  | _ => []

def text? : Json → Option String
  | .text value => some value
  | _ => none

def int? : Json → Option Int
  | .int value => some value
  | _ => none

def isNull : Json → Bool
  | .null => true
  | _ => false

def isObject : Json → Bool
  | .object _ => true
  | _ => false

def setField (v : Json) : Json :=
  match j with
  | .object fs => Table.put m v fs
  | x => x

def sorted : Json → Json
  | .array xs => xs.map sorted
  | .object fs => (fs.map fun e => (e.1, sorted e.2)).mergeSort fun a b => a.1 ≤ b.1
  | x => x
decreasing_by all_goals grind

mutual

def equal : Json → Json → Bool
  | .null, .null => true
  | .bool a, .bool b | .int a, .int b | .float a, .float b | .text a, .text b => a == b
  | .array a, .array b => equalItems a b
  | .object a, .object b => equalFields a b
  | _, _ => false

def equalItems : List Json → List Json → Bool
  | [], [] => true
  | a :: xs, b :: others => equal a b && equalItems xs others
  | _, _ => false

def equalFields : Fields → Fields → Bool
  | [], [] => true
  | (m, a) :: xs, (n, b) :: others => m == n && equal a b && equalFields xs others
  | _, _ => false

end

instance : BEq Json := ⟨equal⟩

/-!
Shapes of documents.
-/

inductive Shape
  | any | moment
  | word (known : String → Option String)
  | list (item : Shape)
  | table (value : Shape)
  | record (members : List (String × Shape)) (defaults : List (String × Json))

namespace Shape

def plain (ns : Names) : Named Shape := ns.map (·, .any)

def filled (fs : Fields) (defaults : Fields) : Fields := defaults.filter fun e => (fs.lookup e.1).isNone

mutual

def read : Shape → Json → Outcome Json
  | _, .null => pure .null
  | .any, j => pure j
  | .moment, .text s => do return (← Text.Moment.read s).written
  | .moment, _ => fail .type
  | .word known, .text s => .text <$> require .invalid (known s)
  | .word _, _ => fail .invalid
  | .list x, .array xs => .array <$> xs.mapM (read x)
  | .list _, _ => fail .type
  | .table v, .object fs => do return ← fs.mapM fun e => do pure (e.1, ← read v e.2)
  | .table _, _ => fail .type
  | .record members defaults, .object fs => return (← readMembers members fs) ++ filled fs defaults
  | .record _ _, _ => fail .type

def readMembers : Named Shape → Fields → Outcome Fields
  | [], _ => return []
  | (m, shape) :: xs, fs => do
    let some v := fs.lookup m | readMembers xs fs
    return (m, ← read shape v) :: (← readMembers xs fs)

end

end Shape

/-!
Reading JSON text.
-/

structure ReadError where
  reason : String
  left : Nat

def ReadError.msg (error : ReadError) (s : String) :=
  let place := s.length - error.left
  let before := s.toList.take place
  let line := before.count '\n' + 1
  let column := (before.reverse.takeWhile (· != '\n')).length + 1
  s!"{error.reason}: line {line} column {column} (char {place})"

namespace Reader

def isBlank (c : Char) := c == ' ' || c == '\n' || c == '\t' || c == '\r'

variable (cs : Chars)

def skip : Chars := cs.dropWhile isBlank

def unit? : Option (Nat × Chars) :=
  if (cs.drop 4).isEmpty then none else (Text.hexNum? (cs.take 4)).map (·, cs.drop 4)

def escapes :=
  [('"', '"'), ('\\', '\\'), ('/', '/'), ('b', '\x08'), ('f', '\x0c'), ('n', '\n'), ('r', '\r'), ('t', '\t')]

def escape? : Chars → Option (Char × Chars)
  | 'u' :: xs => do
    let (unit, xs) ← unit? xs
    let pair := do
      let (low, more) ← unit? (← Text.after? "\\u" xs)
      if unit / 0x400 = 0x36 && low / 0x400 = 0x37 then
        some (Char.ofNat (0x10000 + unit % 0x400 * 0x400 + low % 0x400), more)
      else none
    return pair.getD (if unit / 0x800 = 0x1B then '\ufffd' else .ofNat unit, xs)
  | cs => do pure (← escapes.lookup (← cs.head?), cs.drop 1)

abbrev Read := Except ReadError

def string (opened : Nat) : Nat → Chars → Chars → Read (String × Chars)
  | 0, _, _ | _, _, [] => throw ⟨"Unterminated string starting at", opened⟩
  | _, seen, '"' :: xs => pure (.ofList seen.reverse, xs)
  | n + 1, seen, '\\' :: xs =>
    match escape? xs, xs with
    | some (c, xs), _ => string opened n (c :: seen) xs
    | none, [] => throw ⟨"Unterminated string starting at", opened⟩
    | none, 'u' :: more => throw ⟨"Invalid \\uXXXX escape", more.length + 1⟩
    | none, _ => throw ⟨"Invalid \\escape", xs.length + 1⟩
  | n + 1, seen, c :: xs =>
    if c.toNat < 32 then throw ⟨"Invalid control character at", xs.length + 1⟩ else string opened n (c :: seen) xs

def number : Read (Json × Chars) := do
  let isNegative := cs.head? == some '-'
  let (whole, xs) := match if isNegative then cs.drop 1 else cs with
    | '0' :: xs => (['0'], xs)
    | body => body.span Char.isDigit
  if whole.isEmpty then throw ⟨"Expecting value", cs.length⟩
  let (frac, xs) := match xs with
    | '.' :: more => if more.head?.any Char.isDigit then more.span Char.isDigit else ([], xs)
    | _ => ([], xs)
  let power := match xs with
    | 'e' :: more | 'E' :: more => Decimal.exponent? more
    | _ => none
  let n := Text.number (whole ++ frac)
  if frac.isEmpty && power.isNone then return (.int (if isNegative then -n else n), xs)
  let (power, xs) := power.getD (0, xs)
  let size := Decimal.scaled n (power - frac.length)
  pure (.float (if isNegative then -size else size), xs)

def words : Fields :=
  [("true", true), ("false", false), ("null", .null), ("NaN", .float (0.0 / 0.0)), ("Infinity", .float (1.0 / 0.0)),
   ("-Infinity", .float (-1.0 / 0.0))]

/-- Items up to the mark that closes them. -/
def items {α : Type} (item : Chars → Read (α × Chars)) (close : Char) : Nat → List α → Chars → Read (List α × Chars)
  | 0, _, _ => throw ⟨"Expecting value", 0⟩
  | n + 1, seen, cs => do
    let (x, xs) ← item cs
    let xs := skip xs
    if xs.head? == some ',' then items item close n (x :: seen) xs.tail
    else if xs.head? == some close then pure ((x :: seen).reverse, xs.tail)
    else throw ⟨"Expecting ',' delimiter", xs.length⟩

def value : Nat → Chars → Read (Json × Chars)
  | 0, _ => throw ⟨"Expecting value", 0⟩
  | n + 1, cs => do
    let text (rest : Chars) := string (rest.length + 1) n [] rest
    let field (cs : Chars) : Read ((String × Json) × Chars) := do
      let '"' :: rest := skip cs | throw ⟨"Expecting property name enclosed in double quotes", (skip cs).length⟩
      let (m, rest) ← text rest
      let ':' :: rest := skip rest | throw ⟨"Expecting ':' delimiter", (skip rest).length⟩
      return (← value n rest).map (m, ·) id
    match skip cs with
    | '\x7b' :: rest =>
      if let '\x7d' :: rest := skip rest then return (.object [], rest)
      return (← items field '\x7d' n [] rest).map (fun fs => (Table.ofList fs).entries) id
    | '[' :: rest =>
      if let ']' :: rest := skip rest then return (.array [], rest)
      return (← items (value n) ']' n [] rest).map .array id
    | '"' :: rest => return (← text rest).map .text id
    | rest =>
      if let some x := words.findSome? fun e => (Text.after? e.1 rest).map (e.2, ·) then return x
      number rest

end Reader

def read (s : String) : Except ReadError Json := do
  let cs := s.toList
  if cs.head? = some '\ufeff' then throw ⟨"Unexpected UTF-8 BOM (decode using utf-8-sig)", cs.length⟩
  let (j, xs) ← Reader.value (cs.length + 1) cs
  match Reader.skip xs with
  | [] => pure j
  | xs => throw ⟨"Extra data", xs.length⟩

/-!
Writing JSON text.
-/

namespace Writer

def hexUnit (n : Nat) := Text.hexByte (n / 256) ++ Text.hexByte n

def escape (c : Char) : String :=
  if let some e := Reader.escapes.find? fun e => e.2 == c && c != '/' then .ofList ['\\', e.1]
  else if c.toNat < 32 then "\\u" ++ hexUnit c.toNat
  else c.toString

def escapeAscii (c : Char) :=
  if c.toNat < 127 then escape c
  else if c.toNat < 0x10000 then "\\u" ++ hexUnit c.toNat
  else
    let off := c.toNat - 0x10000
    "\\u" ++ hexUnit (0xD800 + off / 0x400) ++ "\\u" ++ hexUnit (0xDC00 + off % 0x400)

def quoted (how : Char → String) (s : String) := s.foldl (fun out c => out ++ how c) "\"" ++ "\""

def number (x : Float) :=
  if x.isNaN then "NaN"
  else if x.isInf then if x < 0 then "-Infinity" else "Infinity"
  else Decimal.render x

def value (comma colon : String) (how : Char → String) : Json → String
  | .null => "null"
  | .bool b => toString b
  | .int n => toString n
  | .float x => number x
  | .text s => quoted how s
  | .array xs => s!"[{comma.intercalate (xs.map (value comma colon how))}]"
  | .object fs =>
    "\x7b" ++ comma.intercalate (fs.map fun e => quoted how e.1 ++ colon ++ value comma colon how e.2) ++ "\x7d"
decreasing_by all_goals grind

def laid (s margin : String) (xs : Names) := margin ++ s ++ ("," ++ margin ++ s).intercalate xs ++ margin

def nested (how : Char → String) (step margin : String) : Json → String
  | .array [] => "[]"
  | .object [] => "\x7b\x7d"
  | .array xs => s!"[{laid step margin (xs.map (nested how step (margin ++ step)))}]"
  | .object fs =>
    "\x7b" ++ laid step margin (fs.map fun e => quoted how e.1 ++ ": " ++ nested how step (margin ++ step) e.2)
      ++ "\x7d"
  | plain => value "" "" how plain
decreasing_by all_goals grind

end Writer

def indented (j : Json) (blanks : Nat := 2) :=
  Writer.nested Writer.escapeAscii (.ofList (.replicate blanks ' ')) "\n" j

def compact (j : Json) := Writer.value "," ":" Writer.escape j

def spaced (j : Json) := Writer.value ", " ": " Writer.escapeAscii j

end Json

end Transmon
