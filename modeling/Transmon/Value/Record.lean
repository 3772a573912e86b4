import Transmon.Value

/-!
Complex numbers, arrays and tuples as tables of plain values.
-/

namespace Transmon.Value

open Wire Decimal

open Wire (Bytes)

def floatBytes (bits : Nat) (x : Float) : Bytes :=
  if bits ≤ 16 then fixed 2 (halfBits x)
  else if bits ≤ 32 then fixed 4 x.toFloat32.toBits.toNat
  else ofFloat x

def floatOfBytes (bits : Nat) (bs : Bytes) :=
  if bits ≤ 16 then ofHalfBits (ofFixed bs)
  else if bits ≤ 32 then (Float32.ofBits (ofFixed bs).toUInt32).toFloat
  else Wire.float bs

def bytesPerNum : Elem → Nat
  | .complex bits => bits / 16
  | .text _ => 4
  | t => t.bytesPerElem

def reverseNums (t : Elem) (bs : Bytes) : Bytes :=
  let w := bytesPerNum t
  (rows w (bs.length / w) bs).flatMap .reverse

def elemBytes (t : Elem) (v : Value) : Bytes :=
  match t, v with
  | .boolean, .bool b => [if b then 1 else 0]
  | .signed bits, .int n | .unsigned bits, .int n => fixed (bits / 8) (n % (.pow 2 bits : Nat)).toNat
  | .floating bits, .float x => floatBytes bits x
  | .complex bits, .complex re im => floatBytes (bits / 2) re ++ floatBytes (bits / 2) im
  | .text len, .text s =>
    let units := s.toList.flatMap (fixed 4 ·.toNat)
    units ++ List.replicate (4 * len - units.length) 0
  | .bytes len, .bytes b => b ++ List.replicate (len - b.length) 0
  | .reversed t, v => reverseNums t (elemBytes t v)
  | _, _ => []

def ofElemBytes (t : Elem) (bs : Bytes) : Value :=
  match t with
  | .boolean => .bool (bs.any (· != 0))
  | .signed bits => .int (wrapSigned bits (ofFixed bs))
  | .unsigned _ => .int (ofFixed bs)
  | .floating bits => .float (floatOfBytes bits bs)
  | .complex bits => .complex (floatOfBytes (bits / 2) (bs.take (bits / 16)))
    (floatOfBytes (bits / 2) (bs.drop (bits / 16)))
  | .text len => .text (withoutZeros (.ofList ((rows 4 len bs).map fun unit => .ofNat (ofFixed unit))))
  | .bytes _ => .bytes (bytesWithoutZeros bs)
  | .anything => .none
  | .reversed t => ofElemBytes t (reverseNums t bs)

def resolvedShape (k : Nat) (wanted : List Int) : Outcome (List Nat) := do
  let known := ((wanted.filter (0 ≤ ·)).map Int.toNat).foldl (· * ·) 1
  if maxDimensions < wanted.length then fail .invalid
  match wanted.filter (· < 0) with
  | [] => if known = k then return wanted.map Int.toNat else fail .invalid
  | [_] =>
    if known = 0 ∨ k % known ≠ 0 then fail .invalid
    return wanted.map fun n => if n < 0 then k / known else n.toNat
  | _ => fail .invalid

def complexRecord (re im : Value) : Value := .dict [("__complex__", .text "true"), ("real", re), ("imag", im)]

def arrayRecord (t : Elem) (shape : List Nat) (xs : Values) : Value :=
  let c := Base64.encode (xs.flatMap (elemBytes t))
  .dict [("__ndarray__", .text "true"), ("data", .bytes (ofText c)), ("dtype", .text t.name),
    ("shape", .tuple (shape.map fun (n : Nat) => .int n))]

def tupleRecord (xs : Values) : Value := .dict [("__tuple__", .text "true"), ("data", .tuple xs)]

def record : Value → Value
  | .complex re im => complexRecord (.float re) (.float im)
  | .scalar (.complex 128) (.complex re im) =>
    complexRecord (.scalar (.floating 64) (.float re)) (.scalar (.floating 64) (.float im))
  | .array t shape xs => arrayRecord t shape xs
  | v => v

def isNumeric : Value → Bool
  | .bool _ | .int _ | .float _ | .complex _ _ | .array _ _ _ => true
  | .scalar t _ => match t.plain with
    | .text _ | .bytes _ | .anything => false
    | _ => true
  | _ => false

def realPart : Value → Outcome ((Float × Float) × Bool)
  | .complex re im | .scalar _ (.complex re im) => pure ((re, im), true)
  | .array t _ [x] =>
    match t.plain with
    | .text _ | .bytes _ => fail .type
    | _ => do pure (← complexElem x, true)
  | .array _ _ _ => fail .type
  | v => do pure ((← toDouble v, 0.0), false)

def imagPart : Value → Outcome ((Float × Float) × Bool)
  | .complex re im | .scalar (.complex 128) (.complex re im) => pure ((re, im), true)
  | v => do pure ((← toDouble v, 0.0), false)

def complexOf (real imag : Value) : Outcome Value := do
  if !real.isNumeric || !imag.isNumeric then fail .type
  let ((a, b), isComplex) ← realPart real
  let ((c, d), isTurned) ← imagPart imag
  return .complex (if isTurned then a - d else a) (if isComplex then c + b else c)

variable (es : Dict)

def entry (n : String) := require .missing (es.lookup n)

def length : Value → Outcome Int
  | .int n => if isSignedWord n then pure n else fail .invalid
  | .scalar _ (.int n) | .array _ [] [.int n] => pure n
  | _ => fail .type

def lengths (k : Nat) : Value → Outcome (List Int)
  | .none => pure [k]
  | .list xs | .tuple xs => xs.mapM length
  | .bytes b => return b.map (·.toNat)
  | .text s => if s.isEmpty then pure [] else fail .type
  | .array t [n] xs => if n = xs.length then xs.mapM fun x => length (.scalar t x) else fail .type
  | v => do pure [← length v]

def namedType : Value → Outcome Elem
  | .text n | .scalar _ (.text n) => require .type (Elem.ofName? n)
  | .bytes b | .scalar _ (.bytes b) => require .type ((plainText? b).bind Elem.ofName?)
  | .scalar t _ => pure t
  | .none => return .floating 64
  | _ => fail .type

def arrayOf : Outcome Value := do
  let bs ← match ← entry es "data" with
    | .text s | .scalar _ (.text s) => if s.toList.all fun c => c.toNat < 128 then pure (ofText s) else fail .invalid
    | .bytes b | .scalar _ (.bytes b) => pure b
    | .scalar t v => pure (elemBytes t v)
    | .array t _ xs => pure (xs.flatMap (elemBytes t))
    | _ => fail .type
  let bs ← require (.other "Error") (Base64.decode? (.ofList (bs.map (.ofNat ·.toNat))))
  let t ← namedType (← entry es "dtype")
  let w := t.bytesPerElem
  if w = 0 || t == .anything || bs.length % w ≠ 0 then fail .invalid
  let xs := (rows w (bs.length / w) bs).map (ofElemBytes t)
  return .array t (← resolvedShape xs.length (← lengths xs.length (← entry es "shape"))) xs

def sequence : Value → Outcome Values
  | .text s | .scalar _ (.text s) => return s.toList.map (.text ·.toString)
  | .bytes b | .scalar _ (.bytes b) => return b.map (.int ·.toNat)
  | .dict es => return es.map (.text ·.1)
  | v => require .type v.parts

variable (v : Value)

def ofRecord (hasTuples : Bool := false) : Outcome Value := do
  let has (mark : String) : Bool := (v.entries.lookup mark).isSome
  let entry (n : String) := entry v.entries n
  if has "__complex__" then complexOf (← entry "real") (← entry "imag")
  else if has "__ndarray__" then arrayOf v.entries
  else if hasTuples && has "__tuple__" then return .tuple (← (← entry "data").sequence)
  else pure v

def ofRecordOrTuple := v.ofRecord true

def native : Value :=
  match v with
  | .array (.signed 32) shape xs => .array (.signed 64) shape xs
  | .scalar (.text _) _ | .scalar (.bytes _) _ => v
  | .scalar _ v | v => v

def isComplexRecord : Value → Bool
  | .dict es => (es.lookup "__complex__").isSome
  | _ => false

def isComplex : Value → Bool
  | .complex _ _ | .scalar (.complex 128) _ => true
  | _ => false

/-- Changes the items of a list that are of a kind, which a tuple may not have. -/
def inSweep (isChanged : Value → Bool) (change : Value → Outcome Value) (v : Value) : Outcome Value := do
  match v with
  | .list xs => .list <$> xs.mapM fun x => if isChanged x then change x else pure x
  | .tuple xs => if xs.any isChanged then fail .type else pure v
  | .none | .text _ | .bytes _ | .dict _ | .scalar _ (.text _) | .scalar _ (.bytes _) => pure v
  | _ => fail .type

def ofSweepRecord := inSweep isComplexRecord ofRecord v.toNested

def sweepRecord := do
  let v ← if let .list _ := v then toArray .none v else pure v
  inSweep isComplex (return ·.record) v.toNested

/-!
Merging and comparing tables of values.
-/

mutual

def mergeValue (p : Names) (withNones : Bool) (old : Option Value) : Value → Outcome (Option Value)
  | .dict new =>
    match old with
    | some (.dict es) => do return some (.dict (← mergeEntries p withNones es new))
    | some .none | .none => return if withNones || !new.isEmpty then some (.dict new) else .none
    | some _ =>
      let place := ".".intercalate p
      refuse s!"Merging scalar with dict: {place}"
  | plain => do
    let some (.dict _) := old | return if withNones || plain.isFilled then some plain else .none
    let place := ".".intercalate p
    refuse s!"Merging dict with scalar: {place}"

def mergeEntries (p : Names) (withNones : Bool) (base : Dict) : Dict → Outcome Dict
  | [] => pure base
  | (n, v) :: xs => do
    match ← mergeValue (p ++ [n]) withNones (base.lookup n) v with
    | some written => mergeEntries p withNones (Table.put n written base) xs
    | .none => mergeEntries p withNones base xs

end

def merge (base update : Dict) (withNones : Bool) := mergeEntries [] withNones base update

mutual

def differ : Value → Value → Outcome Bool
  | .dict a, .dict b =>
    if a.length != b.length || !(a.all fun e => (b.lookup e.1).isSome) then pure true
    else differEntries b a
  | .array _ s a, .array _ t b => return !(s == t && equalItems a b)
  | .array _ _ [x], y | x, .array _ _ [y] => return !(equal x y)
  | .array _ _ [], _ | _, .array _ _ [] => pure false
  | .array .., _ | _, .array .. => fail .invalid
  | a, b => return !(equal a b)

def differEntries (x : Dict) : Dict → Outcome Bool
  | [] => pure false
  | (n, a) :: xs => do
    if ← differ a ((x.lookup n).getD .none) then return true
    differEntries x xs

end

end Transmon.Value
