import Transmon.Decimal
import Transmon.Fault

/-!
Numbers that are whole or floating.

Sums, differences and products of whole numbers are exact and whole; as soon as one operand is floating
the result is the double nearest to it. A quotient is always floating. The text of a number shows which
of the two it is.
-/

namespace Transmon

/-- A whole number or a double. -/
inductive Number
  | int (value : Int)
  | float (value : Float)

namespace Number

instance : Inhabited Number := ⟨.int 0⟩

instance (n : Nat) : OfNat Number n := ⟨.int n⟩

instance : Coe Int Number := ⟨.int⟩

def toFloat : Number → Float
  | .int n => Decimal.ofInt n
  | .float x => x

/-- The text of a number: a double always shows a point, an exponent or that it is not finite. -/
def text : Number → String
  | .int n => toString n
  | .float x => Decimal.render x

def add : Number → Number → Number
  | .int a, .int b => a + b
  | a, b => .float (a.toFloat + b.toFloat)

def sub : Number → Number → Number
  | .int a, .int b => a - b
  | a, b => .float (a.toFloat - b.toFloat)

def mul : Number → Number → Number
  | .int a, .int b => a * b
  | a, b => .float (a.toFloat * b.toFloat)

def neg : Number → Number
  | .int a => .int (-a)
  | .float x => .float (-x)

instance : Add Number := ⟨add⟩
instance : Sub Number := ⟨sub⟩
instance : Mul Number := ⟨mul⟩
instance : Neg Number := ⟨neg⟩

def less : Number → Number → Bool
  | .int a, .int b => decide (a < b)
  | a, b => decide (a.toFloat < b.toFloat)

def atMost : Number → Number → Bool
  | .int a, .int b => decide (a ≤ b)
  | a, b => decide (a.toFloat ≤ b.toFloat)

def same : Number → Number → Bool
  | .int a, .int b => a == b
  | a, b => a.toFloat == b.toFloat

instance : BEq Number := ⟨same⟩
instance : LT Number := ⟨fun a b => less a b = true⟩
instance : LE Number := ⟨fun a b => atMost a b = true⟩
instance (a b : Number) : Decidable (a < b) := inferInstanceAs (Decidable (less a b = true))
instance (a b : Number) : Decidable (a ≤ b) := inferInstanceAs (Decidable (atMost a b = true))

variable (a b : Number)

/-- The greater of two numbers; of two equal ones the first. -/
def greater := if a < b then b else a

/-- The lesser of two numbers; of two equal ones the first. -/
def lesser := if b < a then b else a

def divide := if b == .int 0 then fail .divisionByZero else return a.toFloat / b.toFloat

def magnitude : Number → Number
  | .int n => .int n.natAbs
  | .float x => .float x.abs

variable (a b : Int)

@[simp] theorem int_add : a + Number.int b = .int (a + b) := rfl

@[simp] theorem int_sub : a - Number.int b = .int (a - b) := rfl

@[simp] theorem int_lt : a < Number.int b ↔ a < b := by
  change decide (a < b) = true ↔ a < b
  exact decide_eq_true_iff

/-- On whole numbers the greater of two is their maximum. -/
theorem greater_int : greater (a) (b) = (max a b) := by
  unfold greater
  by_cases below : a < b
  · simp [below, Int.max_eq_right (Int.le_of_lt below)]
  · simp [below, Int.max_eq_left (Int.not_lt.mp below)]

end Number

/-!
Complex numbers over a scalar type, with the operations that pulse synthesis and circuit unitaries need.
-/

namespace Numeric

structure Complex (α : Type) where
  (re im : α)

namespace Complex

variable {α : Type}

instance [Zero α] : Zero (Complex α) := ⟨⟨0, 0⟩⟩
instance [Zero α] [One α] : One (Complex α) := ⟨⟨1, 0⟩⟩
instance [Add α] : Add (Complex α) := ⟨fun a b => ⟨a.re + b.re, a.im + b.im⟩⟩
instance [Sub α] : Sub (Complex α) := ⟨fun a b => ⟨a.re - b.re, a.im - b.im⟩⟩
instance [Neg α] : Neg (Complex α) := ⟨fun a => ⟨-a.re, -a.im⟩⟩
instance [Add α] [Sub α] [Mul α] : Mul (Complex α) :=
  ⟨fun a b => ⟨a.re * b.re - a.im * b.im, a.re * b.im + a.im * b.re⟩⟩

def conj [Neg α] (a : Complex α) : Complex α := ⟨a.re, -a.im⟩

def ofReal [Zero α] (x : α) : Complex α := ⟨x, 0⟩

def scale [Mul α] (factor : α) (a : Complex α) : Complex α := ⟨factor * a.re, factor * a.im⟩

end Complex

instance nullFloat : Zero Float := ⟨0.0⟩
instance unitFloat : One Float := ⟨1.0⟩

def pi := 3.141592653589793

namespace Complex

def cis (phase : Float) : Complex Float := ⟨phase.cos, phase.sin⟩

def weight (a : Complex Float) := a.re.abs + a.im.abs

def div (a b : Complex Float) : Complex Float :=
  if b.im.abs ≤ b.re.abs then
    let ratio := b.im / b.re
    let den := b.re + b.im * ratio
    ⟨(a.re + a.im * ratio) / den, (a.im - a.re * ratio) / den⟩
  else
    let ratio := b.re / b.im
    let den := b.re * ratio + b.im
    ⟨(a.re * ratio + a.im) / den, (a.im * ratio - a.re) / den⟩

instance : Div (Complex Float) := ⟨div⟩

end Complex

end Numeric

/-!
Angles and phases.
-/

namespace Phase

open Numeric

def normalise (angle : Float) := Decimal.flooredRemainder (angle - pi) (-(2.0 * pi)) + pi

def transformation (before after : Float) := (after, -(before + after))

end Phase

/-!
Matrices by their rows.
-/

namespace Numeric.Matrix

variable {α : Type}

def identity [Zero α] [One α] (n : Nat) : List (List α) :=
  (List.range n).map fun i => (List.range n).map fun j => if i = j then 1 else 0

def columns [Zero α] (w : Nat) (rs : List (List α)) := (List.range w).map fun j => rs.map fun r => r.getD j 0

def dot [Zero α] [Add α] [Mul α] (a b : List α) := (a.zip b).foldl (fun sum e => sum + e.1 * e.2) 0

def product [Zero α] [Add α] [Mul α] (left : List (List α)) (w : Nat) (right : List (List α)) :=
  let columns := columns w right
  left.map fun r => columns.map (dot r)

def kronecker [Mul α] (left right : List (List α)) :=
  left.flatMap fun r => right.map fun x => r.flatMap fun a => x.map fun b => a * b

def isSquare (n : Nat) (rs : List (List α)) := rs.length == n && rs.all (·.length == n)

end Numeric.Matrix

/-!
Systems of linear equations, solved by elimination with row exchange.
-/

namespace Numeric

def largest {α : Type} (size : α → Float) : List α → Option (Nat × α)
  | [] => none
  | x :: ys => do
    let some (k, best) := largest size ys | some (0, x)
    if size x < size best then some (k + 1, best) else some (0, x)

section

variable {α : Type} [Add α] [Sub α] [Mul α] [Div α] [Zero α]

def eliminate (pivot row : List α) : List α :=
  match pivot, row with
  | p :: pivots, r :: ys =>
    let factor := r / p
    .zipWith (fun x y => x - factor * y) ys pivots
  | _, _ => []

def exchange (rs : List (List α)) (k : Nat) :=
  match k, rs with
  | 0, rs => rs
  | k + 1, x :: ys => if let some chosen := ys[k]? then chosen :: ys.set k x else rs
  | _, [] => []

def triangular (size : α → Float) : Nat → List (List α) → Option (List (List α))
  | 0, rs => if rs.isEmpty then some [] else none
  | fuel + 1, rs => do
    if rs.isEmpty then return []
    let (k, best) ← largest size (rs.map (·.headD 0))
    if size best == 0 then none
    let pivot :: rest := exchange rs k | pure []
    return pivot :: (← triangular size fuel (rest.map (eliminate pivot)))

def backSubstitute : List (List α) → Option (List α)
  | [] => some []
  | r :: rs => do
    let known ← backSubstitute rs
    let pivot :: others := r | none
    let total := (List.zipWith (· * ·) others known).foldl (fun total term => total - term) (← others.getLast?)
    return total / pivot :: known

def solve (size : α → Float) (mat : List (List α)) (right : List α) := do
  backSubstitute (← triangular size mat.length (.zipWith (fun row r => row ++ [r]) mat right))

end

/-!
Evenly spaced points, and sums over them.
-/

def ofNat (n : Nat) := Decimal.ofInt n

def evenlySpaced (x last : Float) : Nat → Floats
  | 0 => []
  | 1 => [0.0 * (last - x) + x]
  | n + 2 =>
    let s := (last - x) / ofNat (n + 1)
    let point (k : Nat) : Float := if s == 0 then ofNat k / ofNat (n + 1) * (last - x) + x else ofNat k * s + x
    (List.range (n + 1)).map point ++ [last]

variable (xs : Floats)

def sum := xs.foldl (· + ·) 0.0

def partialSums : Floats :=
  (xs.foldl (fun (st : Float × Floats) x => let s := st.1 + x; (s, s :: st.2)) (0.0, [])).2.reverse

def greatestMagnitude :=
  xs.foldl (fun best x => if best.isNaN then best else if x.isNaN then x else if best < x.abs then x.abs else best) 0.0

def strided (xs : Array Float) (start s n : Nat) : Floats := (List.range n).map fun k => (xs[start + k * s]?).getD 0.0

def extrapolate (refined : Float) (above : Floats) (power : Nat) : Floats :=
  match above with
  | [] => [refined]
  | prev :: ys => refined :: extrapolate (refined + (refined - prev) / ofNat (Nat.pow 4 power - 1)) ys (power + 1)

def extrapolatedIntegral (samples : Floats) (k : Nat) (s : Float) : Float :=
  let xs := samples.toArray
  let intervals := Nat.pow 2 k
  let w := ofNat intervals * s
  let rec refine : Nat → Nat → Float → Floats → Floats
    | 0, _, _, r => r
    | fuel + 1, level, h, r =>
      let start := Nat.pow 2 (k - level)
      let refined := 0.5 * (r.headD 0.0 + h * (sum (strided xs start (2 * start) (Nat.pow 2 (level - 1)))))
      refine fuel (level + 1) (h / 2.0) (extrapolate refined r 1)
  (refine k 1 w [(xs[0]?.getD 0.0 + xs[intervals]?.getD 0.0) / 2.0 * w]).getLastD 0.0

/-!
Numbers that are real or complex.
-/

inductive Scalar
  | real (value : Number)
  | complex (re im : Float)

namespace Scalar

def parts : Scalar → Float × Float
  | .real x => (x.toFloat, 0.0)
  | .complex re im => (re, im)

def add : Scalar → Scalar → Scalar
  | .real a, .real b => .real (a + b)
  | a, b => .complex (a.parts.1 + b.parts.1) (a.parts.2 + b.parts.2)

def sub : Scalar → Scalar → Scalar
  | .real a, .real b => .real (a - b)
  | a, b => .complex (a.parts.1 - b.parts.1) (a.parts.2 - b.parts.2)

def half : Scalar → Scalar
  | .real x => .real (.float (x.toFloat / 2.0))
  | .complex re im => .complex (re / 2.0) (im / 2.0)

def hypotenuse (a b : Float) : Float :=
  if a.isInf || b.isInf then 1.0 / 0.0
  else if a.isNaN || b.isNaN then 0.0 / 0.0
  else
    let (m, n, e) := Decimal.align (Decimal.parts a) (Decimal.parts b)
    let square := (m * m + n * n) * .pow 2 128
    let root := square.sqrt
    Decimal.ofParts (Decimal.Format.double.round ⟨false, 2 * root + (if root * root = square then 0 else 1), e - 65⟩)

def magnitude : Scalar → Number
  | .real x => x.magnitude
  | .complex re im => .float (hypotenuse re im)

def isZero : Scalar → Bool
  | .real x => x == .int 0
  | .complex re im => re == 0 && im == 0

def evenlySpaced (first last : Scalar) (n : Nat) : List Scalar :=
  match first, last with
  | .real a, .real b => (Numeric.evenlySpaced a.toFloat b.toFloat n).map fun x => .real (.float x)
  | a, b =>
    let re := Numeric.evenlySpaced a.parts.1 b.parts.1 n
    (re.zip (Numeric.evenlySpaced a.parts.2 b.parts.2 n)).map fun e => .complex e.1 e.2

end Scalar

/-!
The error function and its inverse.
-/

def errorSeries (square : Float) : Nat → Nat → Float → Float → Float
  | 0, _, _, total => total
  | fuel + 1, n, term, total =>
    let next := term * (2.0 * square) / ofNat (2 * n + 3)
    if total + next == total then total else errorSeries square fuel (n + 1) next (total + next)

def erf (x : Float) :=
  if x.isNaN then x
  else if 6.0 ≤ x then 1.0
  else if x ≤ -6.0 then -1.0
  else 2.0 / pi.sqrt * (-(x * x)).exp * errorSeries (x * x) 400 0 x x

def refineInverse (y : Float) : Nat → Float → Float
  | 0, x => x
  | fuel + 1, x => refineInverse y fuel (x - (erf x - y) / (2.0 / pi.sqrt * (-(x * x)).exp))

def erfInverse (y : Float) := refineInverse y 60 (y * 0.886)

end Numeric

end Transmon
