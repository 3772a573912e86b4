import Transmon.Json

/-!
Numbers as bytes.
-/

namespace Transmon

namespace Wire

abbrev Bytes := List UInt8

def varint (n : Nat) : Bytes := if n < 128 then [n.toUInt8] else (n % 128 + 128).toUInt8 :: varint (n / 128)
termination_by n

def readVarintFrom : Nat → Nat → Nat → Bytes → Option (Nat × Bytes)
  | 0, _, _, _ | _, _, _, [] => none
  | allowed + 1, scale, sum, byte :: xs =>
    let sum := sum + byte.toNat % 128 * scale
    if byte.toNat < 128 then some (sum % 2 ^ 64, xs) else readVarintFrom allowed (scale * 128) sum xs

variable (bs : Bytes)

def readVarint := readVarintFrom 10 1 0 bs

def fixed : Nat → Nat → Bytes
  | 0, _ => []
  | count + 1, n => (n % 256).toUInt8 :: fixed count (n / 256)

def ofFixed : Bytes → Nat
  | [] => 0
  | byte :: xs => byte.toNat + 256 * ofFixed xs

def wordSpan := 18446744073709551616

def halfSpan := 9223372036854775808

variable (n : Int)

def wrapped := (n % (wordSpan : Int)).toNat

def signed (n : Nat) : Int := if n < halfSpan then n else (n : Int) - wordSpan

def isSignedWord := decide (-(halfSpan : Int) ≤ n) && decide (n < (halfSpan : Int))

def isWord := decide (0 ≤ n) && decide (n < (wordSpan : Int))

def zigzag := if 0 ≤ n then (2 * n).toNat else (-2 * n - 1).toNat

def ofZigzag (n : Nat) : Int := if n % 2 = 0 then (n / 2 : Nat) else -((n / 2 : Nat) : Int) - 1

theorem ofZigzag_zigzag : ofZigzag (zigzag n) = n := by
  unfold ofZigzag zigzag
  split <;> split <;> omega

theorem ofFixed_fixed (count n : Nat) : ofFixed (fixed count n) = n % .pow 256 count := by
  induction count generalizing n with
  | zero => simp [fixed, ofFixed, Nat.mod_one]
  | succ count ih =>
    simp only [fixed, ofFixed, ih]
    have byteValue : (n % 256).toUInt8.toNat = n % 256 := by simp [Nat.toUInt8, UInt8.toNat_ofNat']
    have grown : .pow 256 (count + 1) = 256 * .pow 256 count := Nat.mul_comm _ _
    rw [byteValue, grown, Nat.mod_mul]

def ofText (s : String) : Bytes := s.toUTF8.toList

def text? := String.fromUTF8? ⟨bs.toArray⟩

def hex : String :=
  .ofList (bs.flatMap fun byte => [Nat.digitChar (byte.toNat / 16), Nat.digitChar (byte.toNat % 16)])

def ofHexDigits : Chars → Option Bytes
  | [] => some []
  | [_] => none
  | high :: low :: xs => return ((← Text.hexDigit? high) * 16 + (← Text.hexDigit? low)).toUInt8 :: (← ofHexDigits xs)

def ofHex? (s : String) := ofHexDigits s.toList

def ofFloat (x : Float) := fixed 8 x.toBits.toNat

def float := Float.ofBits (ofFixed bs).toUInt64

end Wire

/-!
Bytes as text of 64 characters.
-/

namespace Wire.Base64

def alphabet : Chars := "ABCDEFGHIJKLMNOPQRSTUVWXYZabcdefghijklmnopqrstuvwxyz0123456789+/".toList

def character (n : Nat) := alphabet.getD n '='

def encodeChars : Bytes → Chars
  | [] => []
  | [a] => [character (a.toNat / 4), character (a.toNat % 4 * 16), '=', '=']
  | [a, b] => [character (a.toNat / 4), character (a.toNat % 4 * 16 + b.toNat / 16), character (b.toNat % 16 * 4), '=']
  | a :: b :: c :: xs =>
    character (a.toNat / 4) :: character (a.toNat % 4 * 16 + b.toNat / 16) ::
      character (b.toNat % 16 * 4 + c.toNat / 64) :: character (c.toNat % 64) :: encodeChars xs

def encode (bs : Bytes) := String.ofList (encodeChars bs)

def decodeFrom : Bool → List Nat → Chars → Option Bytes
  | _, [], [] => some []
  | _, _ :: _, [] => none
  | padded, g, c :: xs =>
    if c == '=' then
      match g with
      | [a, b] => if padded then some [(a * 4 + b / 16).toUInt8] else decodeFrom true g xs
      | [a, b, d] => some [(a * 4 + b / 16).toUInt8, (b % 16 * 16 + d / 4).toUInt8]
      | _ => decodeFrom padded g xs
    else match alphabet.idxOf? c with
      | none => decodeFrom padded g xs
      | some v =>
        match g with
        | [a, b, d] =>
          (decodeFrom false [] xs).map fun bs =>
            (a * 4 + b / 16).toUInt8 :: (b % 16 * 16 + d / 4).toUInt8 :: (d % 4 * 64 + v).toUInt8 :: bs
        | g => decodeFrom false (g ++ [v]) xs

def decode? (s : String) := decodeFrom false [] s.toList

end Wire.Base64

/-!
Messages: lists of numbered fields.
-/

namespace Wire

inductive Value
  | number (value : Nat)
  | eight (bs : Bytes)
  | four (bs : Bytes)
  | block (bs : Bytes)

abbrev Msg := List (Nat × Value)

def Value.kind : Value → Nat
  | .number _ => 0
  | .eight _ => 1
  | .block _ => 2
  | .four _ => 5

def Value.number? : Value → Option Nat
  | .number n => some n
  | _ => none

def Value.double? : Value → Option Float
  | .eight bs => some (float bs)
  | _ => none

def Value.block? : Value → Option Bytes
  | .block bs => some bs
  | _ => none

def encodeField (field : Nat × Value) : Bytes :=
  varint (field.1 * 8 + field.2.kind) ++ match field.2 with
    | .number n => varint n
    | .eight bs | .four bs => bs
    | .block bs => varint bs.length ++ bs

def encode (m : Msg) : Bytes := m.flatMap encodeField

section Writing

def number (field : Nat) (n : Nat) : Msg := if n = 0 then [] else [(field, .number n)]

variable (field : Nat)

def whole (n : Int) := number field (wrapped n)

def flag (b : Bool) : Msg := if b then [(field, .number 1)] else []

def double (x : Float) : Msg := if x.toBits = 0 then [] else [(field, .eight (ofFloat x))]

def packed (bs : Bytes) : Msg := if bs.isEmpty then [] else [(field, .block bs)]

def text (s : String) := packed field (ofText s)

def nested (m : Msg) : Msg := [(field, .block (encode m))]

def numbers (ns : List Nat) := packed field (ns.flatMap varint)

def doubles (xs : Floats) := packed field (xs.flatMap ofFloat)

def texts (xs : Names) : Msg := xs.map fun s => (field, .block (ofText s))

def keyOrdered : Bytes → Bytes → Bool
  | _, [] => true
  | [], _ :: _ => false
  | a :: xs, b :: ys => a < b || (a == b && keyOrdered xs ys)

def table (es : Named Msg) : Msg :=
  let sorted := es.mergeSort fun a b => keyOrdered (ofText a.1) (ofText b.1)
  sorted.flatMap fun e => nested field ((1, .block (ofText e.1)) :: nested 2 e.2)

end Writing

section Reading

def take? (count : Nat) (bs : Bytes) : Option (Bytes × Bytes) :=
  if count ≤ bs.length then some (bs.splitAt count) else none

def value? (k : Nat) (bs : Bytes) : Option (Value × Bytes) :=
  match k with
  | 0 => (readVarint bs).map (.map .number id)
  | 1 => (take? 8 bs).map (.map .eight id)
  | 2 => do
    let (len, xs) ← readVarint bs
    (take? len xs).map (.map .block id)
  | 5 => (take? 4 bs).map (.map .four id)
  | _ => none

def maxNesting := 100

def readTag (bs : Bytes) : Option (Nat × Bytes) := do
  let (tag, xs) ← readVarintFrom 5 1 0 bs
  if tag < .pow 2 32 then some (tag, xs) else none

def fieldsFrom (n depth : Nat) (opened : List Nat) (x : Msg) (bs : Bytes) : Option Msg := do
  let n + 1 := n | none
  if bs.isEmpty then if opened.isEmpty then return x.reverse else none
  let (tag, xs) ← readTag bs
  let field := tag / 8
  if field = 0 then none
  else match tag % 8 with
    | 3 => if opened.length < depth then fieldsFrom n depth (field :: opened) x xs else none
    | 4 => if opened.head? = some field then fieldsFrom n depth (opened.drop 1) x xs else none
    | k =>
      let (v, xs) ← value? k xs
      fieldsFrom n depth opened (if opened.isEmpty then (field, v) :: x else x) xs

def fieldsWithin (depth : Nat) (bs : Bytes) := fieldsFrom (bs.length + 1) depth [] [] bs

def decode (bs : Bytes) := require .undecodable (fieldsWithin maxNesting bs)

def unpack {α : Type} (one : Bytes → Option (α × Bytes)) : Nat → Bytes → Option (List α)
  | _, [] => some []
  | 0, _ => none
  | n + 1, bs => do
    let (x, xs) ← one bs
    return x :: (← unpack one n xs)

namespace Msg

variable (m : Msg) (field : Nat)

def under {α : Type} (pick : Value → Option α) := m.filterMap fun e => if e.1 = field then pick e.2 else none

def number := (m.under field Value.number?).getLastD 0

def whole := signed (m.number field)

def double := (m.under field Value.double?).getLastD 0.0

def blocks := m.under field Value.block?

def texts : Outcome Names := (m.blocks field).mapM fun bs => require .undecodable (text? bs)

def text := return ((← m.texts field).getLast?).getD ""

def msgs := (m.blocks field).mapM decode

def nested : Outcome Msg := return (← m.msgs field).flatten

def unpacked {α : Type} (single : Value → Option α) (one : Bytes → Option (α × Bytes)) : Outcome (List α) := do
  let ps ← (m.under field some).mapM fun
    | .block bs => require .undecodable (unpack one bs.length bs)
    | v => return (single v).toList
  pure ps.flatten

def numbers := m.unpacked field Value.number? readVarint

def doubles : Outcome Floats := m.unpacked field Value.double? fun bs => (take? 8 bs).map (.map float id)

def table : Outcome (Table String Msg) := do
  let es ← (← m.msgs field).mapM fun e => do pure (← e.text 1, ← e.nested 2)
  return .ofList es

def choice (ms : List (Nat × Nat)) : Option (Nat × Value) :=
  m.foldl (fun chosen e =>
    if ms.lookup e.1 = some e.2.kind then
      match chosen, e.2 with
      | some (field, .block earlier), .block later => some (e.1, .block (if field = e.1 then earlier ++ later else later))
      | _, v => some (e.1, v)
    else chosen) none

end Msg

end Reading

/-!
Messages as JSON.
-/

inductive FieldKind
  | text | octets | flag | double | whole | zigzag | natural | small | nothing
  | member (names : List (Nat × String))
  | msg (type : String)
  | table (type : String)

structure Field where
  number : Nat
  name : String
  kind : FieldKind
  isRepeated : Bool := false

abbrev Schema := String → List Field

namespace Field

variable (number : Nat)

def one (name : String) (kind : FieldKind) : Field := { number, name, kind }

def many (name : String) (kind : FieldKind) : Field := { number, name, kind, isRepeated := true }

def part (name type : String) := one number name (.msg type)

def parts (m t : String) := many number m (.msg t)

/-- Whether what stands under a field can be read, if it is written as the field asks: text is text, repeated numbers
fill their block, and `inner` accepts the message of a type. What is written in another way is passed over. -/
def accepts (inner : List Field → Bytes → Bool) (s : Schema) (f : Field) (v : Value) : Bool :=
  match v with
  | .block c =>
    match f.kind with
    | .text => (text? c).isSome
    | .octets => true
    | .msg type => inner (s type) c
    | .table type => inner [.one 1 "key" .text, .part 2 "value" type] c
    | .double => !f.isRepeated || c.length % 8 == 0
    | _ => !f.isRepeated || (unpack readVarint c.length c).isSome
  | _ => true

end Field

def areFields (s : Schema) (inner : List Field → Bytes → Bool) (depth : Nat) (fs : List Field) (bs : Bytes) :=
  (fieldsWithin depth bs).any fun m => m.all fun e => (fs.find? (·.number = e.1)).all (·.accepts inner s e.2)

def isMsg (s : Schema) : Nat → List Field → Bytes → Bool
  | 0 => areFields s (fun _ _ => false) 0
  | depth + 1 => areFields s (isMsg s depth) (depth + 1)

def read (s : Schema) (t : String) (bs : Bytes) :=
  if isMsg s maxNesting (s t) bs then decode bs else fail .undecodable

def camelCase (m : String) : String :=
  if let x :: rest := m.splitOn "_" then x ++ .join (rest.map .capitalize) else ""

def FieldKind.number (k : FieldKind) (n : Nat) : Json :=
  match k with
  | .flag => n != 0
  | .whole => toString (signed n)
  | .zigzag => toString (ofZigzag n)
  | .natural => toString n
  | .small => signed n
  | .member ns => if let some m := ns.lookup n then m else n
  | _ => .null

def doubleJson (x : Float) : Json := if x.isFinite then .float x else Json.Writer.number x

def toJson (s : Schema) (naming : String → String) : Nat → String → Msg → Outcome Json
  | 0, _, _ => fail .undecodable
  | fuel + 1, t, m => do
    let es ← (s t).mapM fun field => do
      let n := field.number
      if (m.under n some).isEmpty then return none
      let x : List Json ← match field.kind with
        | .text => do pure ((← m.texts n).map .text)
        | .octets => pure ((m.blocks n).map (Base64.encode ·))
        | .double => do pure ((← m.doubles n).map doubleJson)
        | .nothing => pure [.null]
        | .msg t =>
          let cs := if field.isRepeated then m.blocks n else [(m.blocks n).flatten]
          cs.mapM fun c => do toJson s naming fuel t (← decode c)
        | .table t => do pure [(← (← m.table n).mapM fun _ e => toJson s naming fuel t e).entries]
        | k => do pure ((← m.numbers n).map k.number)
      return some (naming field.name, if field.isRepeated then .array x else x.getLastD .null)
    return es.filterMap id

end Wire

end Transmon
