import Transmon.Text

/-!
A double as an exact dyadic number.
-/

namespace Transmon.Decimal

open Text

def roundDiv (num den : Nat) :=
  let quot := num / den
  let twice := 2 * (num % den)
  if twice < den then quot
  else if den < twice then quot + 1
  else if quot % 2 = 0 then quot else quot + 1

structure Parts where
  negative : Bool
  significand : Nat
  exponent : Int

def Parts.sign (p : Parts) := if p.negative then "-" else ""

def parts (x : Float) : Parts :=
  let bits := x.toBits.toNat
  let neg := bits / .pow 2 63 == 1
  let biased := bits / .pow 2 52 % 2048
  let frac := bits % .pow 2 52
  if biased = 0 then ⟨neg, frac, -1074⟩
  else ⟨neg, frac + .pow 2 52, biased - 1075⟩

def Parts.ratio (p : Parts) : Nat × Nat :=
  match p.exponent with
  | .ofNat e => (p.significand * .pow 2 e, 1)
  | .negSucc e => (p.significand, .pow 2 (e + 1))

def Parts.signed (p : Parts) (n : Nat) := if p.negative then -(n : Int) else n

variable (x : Float)

def isWhole := x.isFinite && (let (num, den) := (parts x).ratio; num % den == 0)

def nearest :=
  let p := parts x
  let (num, den) := p.ratio
  p.signed (roundDiv num den)

def truncate :=
  let p := parts x
  let (num, den) := p.ratio
  p.signed (num / den)

def floor :=
  let p := parts x
  let (num, den) := p.ratio
  (p.signed num).fdiv den

def ceiling : Int :=
  let p := parts x
  let (num, den) := p.ratio
  .neg ((Int.neg (p.signed num)).fdiv den)

def ofInt : Int → Float
  | .ofNat m => .ofScientific m false 0
  | .negSucc m => -(.ofScientific (m + 1) false 0)

def ofParts (p : Parts) :=
  let size := (Float.ofScientific p.significand false 0).scaleB p.exponent
  if p.negative then -size else size

structure Format where
  precision : Nat
  (least limit : Int)

namespace Format

def double : Format := ⟨53, -1074, 1024⟩

def single : Format := ⟨24, -149, 128⟩

def half : Format := ⟨11, -24, 16⟩

def ofBits (bits : Nat) : Format := if bits ≤ 16 then half else if bits ≤ 32 then single else double

def unit (f : Format) (p : Parts) := max f.least (p.exponent + (p.significand.log2 : Int) + 1 - f.precision)

def round (f : Format) (p : Parts) : Parts :=
  let unit := f.unit p
  match unit - p.exponent with
  | .ofNat e => ⟨p.negative, roundDiv p.significand (.pow 2 e), unit⟩
  | .negSucc e => ⟨p.negative, p.significand * .pow 2 (e + 1), unit⟩

end Format

def narrowed (f : Format) (x : Float) : Float :=
  if x.isNaN || x.isInf then x
  else
    let p := f.round (parts x)
    let bound := p.exponent + (p.significand.log2 : Int) + 1
    if p.significand ≠ 0 ∧ f.limit < bound then if p.negative then -(1.0 / 0.0) else 1.0 / 0.0 else ofParts p

variable (x : Float)

def halfBits : Nat :=
  let sign := if x.toBits.toNat / .pow 2 63 = 1 then 0x8000 else 0
  if x.isNaN then sign + 0x7E00
  else if (narrowed .half x).isInf then sign + 0x7C00
  else
    let p := Format.half.round (parts x)
    sign + (p.exponent + 24).toNat * 1024 + p.significand

def ofHalfBits (bits : Nat) : Float :=
  let neg := bits / 0x8000 % 2 == 1
  let biased := bits / 1024 % 32
  let frac := bits % 1024
  if biased = 31 then if frac = 0 then if neg then -(1.0 / 0.0) else 1.0 / 0.0 else 0.0 / 0.0
  else if biased = 0 then ofParts ⟨neg, frac, -24⟩
  else ofParts ⟨neg, frac + 1024, biased - 25⟩

def align (a b : Parts) :=
  let low := min a.exponent b.exponent
  (a.significand * .pow 2 (a.exponent - low).toNat, b.significand * .pow 2 (b.exponent - low).toNat, low)

def truncatedRemainder (x y : Float) : Float :=
  if x.isNaN || y.isNaN || x.isInf || y == 0 then 0.0 / 0.0
  else if y.isInf then x
  else
    let a := parts x
    let (m, n, e) := align a (parts y)
    ofParts ⟨a.negative, m % n, e⟩

def flooredRemainder (x y : Float) :=
  let r := truncatedRemainder x y
  if r == 0 then if y < 0 then -0.0 else 0.0
  else if (r < 0) != (y < 0) then r + y else r

/-!
The fewest decimal digits that read back to the same number of a binary format.
-/

structure Digits where
  digits : Nat
  exponent : Int

def powerRatio : Int → Nat × Nat
  | .ofNat e => (.pow 10 e, 1)
  | .negSucc e => (1, .pow 10 (e + 1))

def decimalExponent (num den : Nat) (guess : Int) :=
  let below (k : Int) : Bool := let (u, v) := powerRatio k; u * den ≤ num * v
  if below (guess + 1) then guess + 1
  else if below guess then guess
  else guess - 1

structure Interval where
  (low value high denominator : Nat)
  closed : Bool

variable (f : Format) (p : Parts)

def interval : Interval :=
  let low := 4 * p.significand - (if p.significand = .pow 2 (f.precision - 1) ∧ f.least < p.exponent then 1 else 2)
  let v := 4 * p.significand
  let high := 4 * p.significand + 2
  let closed := p.significand % 2 == 0
  match p.exponent - 2 with
  | .ofNat e => ⟨low * .pow 2 e, v * .pow 2 e, high * .pow 2 e, 1, closed⟩
  | .negSucc e => ⟨low, v, high, .pow 2 (e + 1), closed⟩

def Interval.pick (i : Interval) (leading : Int) (n : Nat) : Option Digits :=
  let unit := leading - (n : Int) + 1
  let (u, v) := powerRatio unit
  let step := i.denominator * u
  let a := i.value * v
  let digit := a / step
  let inside (d : Nat) : Bool :=
    if i.closed then i.low * v ≤ d * step && d * step ≤ i.high * v
    else i.low * v < d * step && d * step < i.high * v
  let twice := 2 * (a % step)
  let lower := inside digit
  let upper := inside (digit + 1)
  if lower && upper then
    if twice < step then some ⟨digit, unit⟩
    else if step < twice then some ⟨digit + 1, unit⟩
    else some ⟨if digit % 2 = 0 then digit else digit + 1, unit⟩
  else if lower then some ⟨digit, unit⟩
  else if upper then some ⟨digit + 1, unit⟩
  else none

def Interval.search (i : Interval) (leading : Int) : Nat → Nat → Digits
  | n, 0 => ⟨i.value / i.denominator, 0 * (n : Int)⟩
  | n, fuel + 1 => (i.pick leading n).getD (i.search leading (n + 1) fuel)

def shortestIn :=
  let i := interval f p
  let guess := (((p.significand.log2 : Int) + p.exponent) * 30103).fdiv 100000
  i.search (decimalExponent i.value i.denominator guess) 1 18

def shortest := shortestIn .double p

def Digits.trim (d : Digits) : Nat → Digits
  | 0 => d
  | fuel + 1 => if d.digits ≠ 0 ∧ d.digits % 10 = 0 then .trim ⟨d.digits / 10, d.exponent + 1⟩ fuel else d

def pointed (ds : String) (ps : Nat) :=
  let padded := padLeft ds (ps + 1) '0'
  let whole := padded.length - ps
  (padded.take whole).toString ++ "." ++ (padded.drop whole).toString

def positional (d : Digits) :=
  let t := toString d.digits
  match d.exponent with
  | .ofNat e => t ++ "".pushn '0' e ++ ".0"
  | .negSucc e => pointed t (e + 1)

def powerText (power : Int) := (if power < 0 then "-" else "+") ++ padLeft (toString power.natAbs) 2 '0'

def scientific (d : Digits) :=
  let t := toString d.digits
  let mantissa := if t.length = 1 then t else (t.take 1).toString ++ "." ++ (t.drop 1).toString
  mantissa ++ "e" ++ powerText (d.exponent + t.length - 1)

/-- The text of a number of a format: the fewest digits that read back, positional from `1e-4` up to below `1e16`
and scientific elsewhere. -/
def renderIn (x : Float) : String :=
  if x.isNaN then "nan"
  else if x.isInf then if x < 0 then "-inf" else "inf"
  else
    let p := f.round (parts x)
    if p.significand = 0 then p.sign ++ "0.0"
    else
      let d := (shortestIn f p).trim 17
      let leading := d.exponent + ((toString d.digits).length : Int) - 1
      p.sign ++ if -5 < leading ∧ leading < 16 then positional d else scientific d

def render := renderIn .double x

/-!
Rounding of doubles to decimal places.
-/

variable (ps : Nat)

def roundTo : Float :=
  if !x.isFinite then x
  else
    let p := parts x
    let (num, den) := p.ratio
    let size := Float.ofScientific (roundDiv (num * .pow 10 ps) den) true ps
    if p.negative then -size else size

def fixed : String :=
  if !x.isFinite then render x
  else
    let p := parts x
    let (num, den) := p.ratio
    let t := toString (roundDiv (num * .pow 10 ps) den)
    p.sign ++ if ps = 0 then t else pointed t ps

/-!
Doubles that are written side by side.
-/

def significant (n : Nat) : Digits :=
  let (num, den) := p.ratio
  let unit := decimalExponent num den (((p.significand.log2 + p.exponent) * 30103).fdiv 100000) - n + 1
  let (up, down) := powerRatio (-unit)
  ⟨roundDiv (num * up) (den * down), unit⟩

def scientificText : String :=
  let p := parts x
  if !x.isFinite then render x
  else if p.significand = 0 then p.sign ++ "0" ++ (if ps = 0 then "" else "." ++ "".pushn '0' ps) ++ "e+00"
  else p.sign ++ scientific (significant p (ps + 1))

def toSignificant (n : Nat) : Float :=
  let p := parts x
  if !x.isFinite || p.significand = 0 then x
  else
    let d := significant p n
    let size := Float.ofScientific d.digits (d.exponent < 0) d.exponent.natAbs
    if p.negative then -size else size

def columnPlaces := 8

def positionalParts : String × String :=
  let p := parts x
  let t :=
    if p.significand = 0 then "0.0"
    else positional ((shortest p).trim 17)
  let t := if ((t.splitOn ".").getD 1 "").length ≤ columnPlaces then t else fixed x.abs columnPlaces
  (p.sign ++ (t.splitOn ".").getD 0 "", .ofList (trimEnd (· == '0') ((t.splitOn ".").getD 1 "").toList))

def scientificParts : String × String × Int :=
  let p := parts x
  if p.significand = 0 then (p.sign, "0", 0)
  else
    let d := (shortest p).trim 17
    let d := if (toString d.digits).length ≤ columnPlaces + 1 then d else (significant p (columnPlaces + 1)).trim 17
    let t := toString d.digits
    (p.sign, t, d.exponent + (t.length : Int) - 1)

def isScientificRow (xs : Floats) : Bool :=
  match (xs.filter fun x => x.isFinite && x != 0).map .abs with
  | [] => false
  | first :: ys =>
    let greatest := ys.foldl (fun a b => if a < b then b else a) first
    let least := ys.foldl (fun a b => if b < a then b else a) first
    greatest ≥ 1e8 || least < 1e-4 || greatest / least > 1000.0

def longest (xs : List String) := xs.foldl (fun most s => max most s.length) 0

def column (xs : Floats) :=
  let finite := xs.filter Float.isFinite
  if isScientificRow xs then
    let all := finite.map scientificParts
    let ps := all.foldl (fun most e => max most (e.2.1.length - 1)) 0
    let whole := all.foldl (fun most e => max most (e.1.length + 1)) 0
    let powers := longest (all.map (powerText ·.2.2))
    xs.map fun x =>
      if !x.isFinite then padLeft (render x) (whole + ps + powers + 2)
      else
        let (sign, ds, e) := scientificParts x
        let decimals := (ds.drop 1).toString
        padLeft (sign ++ (ds.take 1).toString) whole ++ "." ++ decimals
          ++ "".pushn '0' (ps - decimals.length) ++ "e" ++ powerText e
  else
    let all := finite.map positionalParts
    let whole := longest (all.map Prod.fst)
    let ps := longest (all.map Prod.snd)
    xs.map fun x =>
      if !x.isFinite then padLeft (render x) (whole + ps + 1)
      else
        let (before, after) := positionalParts x
        padLeft before whole ++ "." ++ padRight after ps

def bracketed (sep : String) (indent : String) (ws : List String) : String :=
  let (t, l, _) := ws.foldl (fun (state : String × String × Bool) w =>
    let (t, l, started) := state
    let l := l ++ (if started then sep.trimAsciiEnd.toString else "")
    if started && l.length + w.length + 1 > 74 then (t ++ l ++ "\n", indent ++ w, true)
    else (t, l ++ (if started then " " else "") ++ w, true)) ("", indent, false)
  "[" ++ ((t ++ l).drop indent.length).toString ++ "]"

/-!
Reading numbers from text.
-/

variable (cs : Chars)

def signed {α : Type} [Neg α] : Chars → (α → α) × Chars
  | '-' :: xs => (Neg.neg, xs)
  | '+' :: xs | xs => (id, xs)

def exponent? : Option (Int × Chars) :=
  let (sign, xs) := signed cs
  let (ds, xs) := xs.span Char.isDigit
  if ds.isEmpty then none else some (sign (number ds), xs)

def scaled (mantissa : Nat) (power : Int) :=
  let size := (Nat.toDigits 10 mantissa).length
  if mantissa = 0 then 0.0
  else if 400 < power + size then 1.0 / 0.0
  else if power + size < -400 then 0.0
  else .ofScientific mantissa (decide (power < 0)) power.natAbs

def magnitude? : Option (Float × Chars) :=
  let (whole, xs) := cs.span Char.isDigit
  let (frac, xs) := if let '.' :: more := xs then more.span Char.isDigit else ([], xs)
  if whole.isEmpty && frac.isEmpty then none
  else
    let (power, xs) := match xs with
      | 'e' :: more | 'E' :: more => (exponent? more).getD (0, xs)
      | _ => (0, xs)
    some (scaled (number (whole ++ frac)) (power - frac.length), xs)

def afterWord? : Chars → Chars → Option Chars
  | [], cs => some cs
  | w :: word, c :: cs => if c.toLower == w then afterWord? word cs else none
  | _ :: _, [] => none

def unsigned? :=
  magnitude? cs <|>
    match afterWord? "infinity".toList cs, afterWord? "inf".toList cs, afterWord? "nan".toList cs with
    | some xs, _, _ | none, some xs, _ => some (1.0 / 0.0, xs)
    | none, none, some xs => some (0.0 / 0.0, xs)
    | none, none, none => none

def signedFloat? : Option (Float × Chars) :=
  let (sign, xs) := signed cs
  (unsigned? xs).map fun e => (sign e.1, e.2)

def joinDigits : Bool → Chars → Option Chars
  | _, [] => some []
  | afterDigit, '_' :: xs =>
    if afterDigit && (xs.head?.map Char.isDigit).getD false then joinDigits false xs else none
  | _, c :: xs => (joinDigits c.isDigit xs).map (c :: ·)

variable (s : String)

def prepared? := joinDigits false (plainlyStripped (s.toList.map plainNumeral))

def maxDigits := 4300

def float? : Option Float := do
  let (x, []) ← signedFloat? (← prepared? s) | none
  some x

def int? : Option Int := do
  let (sign, ds) := signed (← prepared? s)
  if ds.isEmpty || !ds.all Char.isDigit || maxDigits < ds.length then none
  else some (sign (number ds))

def imaginary? : Option (Float × Chars) :=
  let unit (sign : Float) (xs : Chars) : Option (Float × Chars) :=
    if let some (x, xs) := unsigned? xs then some (sign * x, xs) else some (sign, xs)
  let y := match cs with
    | '+' :: xs => unit 1.0 xs
    | '-' :: xs => unit (-1.0) xs
    | _ => none
  match y with
  | some (x, 'j' :: xs) | some (x, 'J' :: xs) => some (x, xs)
  | _ => none

def complexParts? : Option ((Float × Float) × Chars) :=
  match signedFloat? cs with
  | some (x, 'j' :: xs) | some (x, 'J' :: xs) => some ((0.0, x), xs)
  | some (x, xs) => if let some (y, xs) := imaginary? xs then some ((x, y), xs) else some ((x, 0.0), xs)
  | none =>
    match cs with
    | 'j' :: xs | 'J' :: xs => some ((0.0, 1.0), xs)
    | _ => (imaginary? cs).map fun e => ((0.0, e.1), e.2)

def complex? : Option (Float × Float) := do
  let cs ← prepared? s
  match cs with
  | '(' :: xs =>
    let (ps, xs) ← complexParts? (xs.dropWhile isPlainBlank)
    if xs.dropWhile isPlainBlank == [')'] then some ps else none
  | _ =>
    let (ps, []) ← complexParts? cs | none
    some ps

def plainText? (bs : List UInt8) : Option String :=
  if bs.all (· < 128) then some (.ofList (bs.map (.ofNat ·.toNat))) else none

end Transmon.Decimal
