import Transmon.Number
import Transmon.Waveform.Shape

/-!
Envelopes whose spectrum vanishes, or is small, at chosen frequencies.
-/

namespace Transmon

namespace Suppressed

open Numeric Complex

def sinc (x : Float) :=
  let y := pi * (if x == 0 then 1.0e-20 else x)
  y.sin / y

def basisTransform (n freq span : Float) :=
  let f := span * freq
  let above := scale (sinc (n + f)) (scale 0.5 (cis (-(pi * (n + f)))))
  scale span (scale (sinc f) (cis (-(pi * f))) - (scale (sinc (n - f)) (scale 0.5 (cis (pi * (n - f))))) - above)

/-- The integral of equally spaced samples at unit distance by Simpson's rule. With an odd number of
intervals the last one is closed by the parabola through the last three samples. -/
def simpson (samples : List (Complex Float)) : Complex Float :=
  let total (xs : List (Complex Float)) := xs.foldl (· + ·) 0
  let ps (xs : List (Complex Float)) : Complex Float :=
    let rec go : List (Complex Float) → List (Complex Float)
      | a :: b :: c :: ys => scale (1.0 / 3.0) (a + scale 4.0 b + c) :: go (c :: ys)
      | _ => []
    total (go xs)
  let count := samples.length
  if count % 2 = 1 then ps samples
  else if count = 2 then scale 0.5 (total samples)
  else
    match samples.reverse with
    | a :: b :: c :: _ => ps samples.dropLast + scale (5.0 / 12.0) a + scale (2.0 / 3.0) b - scale (1.0 / 12.0) c
    | _ => 0

def overlaps (orders : Floats) (ws : Floats) (ranges : List (Float × Float))
    (span scaling : Float) (ps : Nat) : List (List (Complex Float)) :=
  let grids := ranges.map fun range => evenlySpaced (range.1 / scaling) (range.2 / scaling) ps
  let transforms := orders.map fun n => grids.map fun grid => grid.map fun f => basisTransform n f (span * scaling)
  let ss := grids.map fun
    | a :: b :: _ => b - a
    | _ => 0.0
  let factors := List.zipWith (· * ·) ws ss
  transforms.map fun left => transforms.map fun right =>
    let integrals := List.zipWith
      (fun u v => simpson (.zipWith (fun (a b : Complex Float) => a * b.conj) u v)) left right
    (List.zipWith (fun factor z => scale factor z) factors integrals).foldl (· + ·) 0

def aligned {α β : Type} (xs : List α) (ys : List β) : Outcome (List (α × β)) :=
  match xs, ys with
  | [x], ys => return ys.map (x, ·)
  | xs, [y] => return xs.map (·, y)
  | xs, ys => if xs.length = ys.length then return xs.zip ys else fail .invalid

def intervalCoeffs (ts : Int) (span : Float) (ws : Floats)
    (ranges : List (Float × Float)) (ps : Int) : Outcome Floats := do
  if span == 0 then fail .divisionByZero
  if ts < 0 then fail .invalid
  if ranges.isEmpty then fail .index
  if ps < 0 then fail .invalid
  if ps < 2 then fail .index
  let weighted ← aligned ws ranges
  let ps := ps.toNat
  let scaling := 1.0 / span
  let n := ts.toNat
  let energy := overlaps (evenlySpaced 1.0 (ofNat n) n) (weighted.map Prod.fst) (weighted.map .snd) span scaling ps
  let transposed := (List.range n).map fun k => energy.map fun r => (r[k]?).getD 0
  let upper := List.zipWith (fun a b => .zipWith (· + ·) a b ++ [(⟨-1.0, 0.0⟩ : Complex Float)]) energy transposed
  let last := List.replicate n (1 : Complex Float) ++ [0]
  let right := List.replicate n (0 : Complex Float) ++ [⟨pi / (span * scaling), 0.0⟩]
  let some solution := solve Numeric.Complex.weight (upper ++ [last]) right | fail .singular
  return (solution.take n).map Numeric.Complex.re

variable (span : Float)

def derivativeCoeffs (freqs : Floats) : Outcome Floats :=
  let n := freqs.length + 1
  let sign (k : Nat) : Float := if k % 2 = 0 then 1.0 else -1.0
  let row (f : Float) : Floats := (List.range n).map fun k => sign k * (span * f).pow (ofNat (2 * k))
  let x := 1.0 :: .replicate (n - 1) 0.0
  if let some solution := solve .abs (x :: freqs.map row) x then pure solution else fail .singular

def basisCoeffs (suppressed : Int) : Outcome Floats := do
  if suppressed = 0 then return [1.0]
  if suppressed = -1 then fail .index
  if suppressed < 0 then fail .invalid
  let n := suppressed.toNat + 1
  let entry (r c : Nat) : Float :=
    if r < n - 1 then (if r % 2 = 0 then 1.0 else -1.0) * ofNat (.pow (c + 1) (2 * (r + 1))) else 1.0
  let mat := (List.range n).map fun r => (List.range n).map (entry r)
  if mat.any (·.any Float.isInf) then fail .overflow
  let some solution := solve .abs mat (.replicate (n - 1) 0.0 ++ [1.0]) | fail .singular
  pure solution

def tabulatedCoeffs : Nat → Option Floats
  | 0 => some [1.0]
  | 1 => some [1.33333333, -0.33333333]
  | 2 => some [1.5, -0.6, 0.1]
  | 3 => some [1.6, -0.8, 0.22857143, -0.02857143]
  | 4 => some [1.66666667, -0.95238095, 0.35714286, -0.07936508, 0.00793651]
  | 5 => some [1.71428571, -1.07142857, 0.47619048, -0.14285714, 0.02597403, -0.0021645]
  | 6 => some [1.75, -1.16666667, 0.583333333, -0.212121212, 0.053030303, -0.00815850816, 0.000582750583]
  | 7 => some [1.77777778, -1.24444444, 0.678787879, -0.282828283, 0.087024087, -0.0186480186,
      0.00248640249, -0.000155400155]
  | _ => none

def inside (term : Float → Float) (t : Float) := if t > -span / 2.0 && t < span / 2.0 then term t else 0.0

variable (coeffs : Floats)

def harmonics (term : Nat → Float) := sum (coeffs.mapIdx fun k c => c * term (k + 1))

def inPhase :=
  inside span fun t => harmonics coeffs fun k =>
    1.0 + (if k % 2 = 1 then 1.0 else -1.0) * (2.0 * pi * ofNat k * t / span).cos

def quadrature :=
  inside span fun t => sum (coeffs.mapIdx fun i c =>
    let k := i + 1
    c * ofNat k * (if k % 2 = 1 then -1.0 else 1.0) * (2.0 * pi * ofNat k * t / span).sin)

def wordPower (base power : Nat) := Decimal.ofInt (.bmod (Nat.pow base power) 18446744073709551616)

def basisDerivative (cosines : Floats) (n : Nat) : Float → Float :=
  let sign (k : Nat) : Float := if k % 2 = 0 then 1.0 else -1.0
  inside span fun t =>
    if n = 0 then harmonics cosines fun k => 1.0 - sign k * (2.0 * pi * ofNat k * t / span).cos
    else if n % 2 = 0 then
      sum (cosines.mapIdx fun i c =>
        c * sign (n / 2 + i) * wordPower (i + 1) n * (2.0 * pi * ofNat (i + 1) * t / span).cos)
    else
      sum (cosines.mapIdx fun i c =>
        c * sign (n / 2 + i + 1) * wordPower (i + 1) n * (2.0 * pi * ofNat (i + 1) * t / span).sin)

/-- The even derivatives make up the one quadrature, the odd ones the other. -/
def derivatives (x : Nat) (coeffs cosines : Floats) (t : Float) :=
  sum (coeffs.mapIdx fun i c => c * basisDerivative span cosines (2 * i + x) t)

def normalised (xs : Floats) : Floats :=
  let top := greatestMagnitude xs
  xs.map fun x =>
    let y := x / top
    if y < -1.0 then -1.0 else if 1.0 < y then 1.0 else y

end Suppressed

/-!
The samples of an envelope.
-/

open Numeric

namespace Shape

def threshold := 0.003

def cutAndRescale (y : Float) :=
  let z := (y - threshold) / (1.0 - threshold)
  if z.isNaN then z else if 0.0 < z then z else 0.0

def truncatedSigma (fullWidth : Float) := fullWidth / (8.0 * (1.0 / threshold).log).sqrt

def bell (sigma x : Float) :=
  let u := x / sigma
  (-0.5 * (u * u)).exp

def bellSlope (sigma x : Float) := -(0.5 : Float).exp * x / sigma * bell sigma x

def smoothedSquare (rising falling sigma x : Float) :=
  let unit := (2.0 : Float).sqrt * sigma
  0.5 * (erf ((x - rising) / unit) - erf ((x - falling) / unit))

def riseAndFall (fullWidth riseTime : Float) (top : Float) (flank : Float → Float) (x : Float) : Float :=
  let fw := fullWidth.abs
  let rt := riseTime.abs
  let plateau := fw - 2.0 * rt
  if plateau < 0 then
    if x >= fw / 2.0 then 0.0
    else if x > 0 then flank (pi / rt * (x - plateau / 2.0))
    else if x > -fw / 2.0 then flank (pi / rt * (x + plateau / 2.0))
    else 0.0
  else
    if x >= plateau / 2.0 + rt then 0.0
    else if x > plateau / 2.0 then flank (pi / rt * (x - plateau / 2.0))
    else if x >= -plateau / 2.0 then top
    else if x > -plateau / 2.0 - rt then flank (pi / rt * (x + plateau / 2.0))
    else 0.0

def raisedCosine (u : Float) := 0.5 + 0.5 * u.cos

def taper (alpha : Float) (n : Nat) : Floats :=
  if n ≤ 1 || alpha ≤ 0 then .replicate n 1.0
  else if 1.0 ≤ alpha then (evenlySpaced (-pi) pi n).map (0.5 + 0.5 * ·.cos)
  else
    let last := ofNat (n - 1)
    let w := (Decimal.floor (alpha * last / 2.0)).toNat
    (List.range n).map fun k =>
      if k ≤ w then 0.5 * (1.0 + (pi * (-1.0 + 2.0 * ofNat k / alpha / last)).cos)
      else if k < n - w - 1 then 1.0
      else 0.5 * (1.0 + (pi * (-2.0 / alpha + 1.0 + 2.0 * ofNat k / alpha / last)).cos)

def sweptTone (x last alpha phase : Float) (n : Nat) : Floats :=
  let phases := (partialSums (evenlySpaced x last n)).map (2.0 * pi * · + phase)
  .zipWith (fun p w => p.cos * w) phases (taper alpha n)

end Shape

namespace Trajectory

variable (t : Trajectory)

def angle (start tau : Float) :=
  let term (l k : Float) := l * (1.0 - (2.0 * pi * k * tau).cos)
  start + (0.0 + term t.lambda1 1.0 + term t.lambda2 2.0)

def time (start tau : Float) :=
  if tau == 0 then 0.0
  else
    let ps := evenlySpaced 0.0 tau 129
    let step := (ps[1]?).getD 0.0 - (ps[0]?).getD 0.0
    (extrapolatedIntegral (ps.map fun s => (t.angle start s).sin) 7 step).abs

def voltage (freq asymmetry : Float) :=
  -(((freq.pow 4.0 - asymmetry * asymmetry) / (1.0 - asymmetry * asymmetry)).sqrt).acos

def interpolate (ps : List (Float × Float)) (x : Float) : Option Float :=
  if x < ((ps.head?).map Prod.fst).getD 0.0 || (((ps.getLast?).map Prod.fst).getD 0.0) < x then none
  else if x.isNaN then some x
  else
    let rec go : List (Float × Float) → Option Float
      | (a, u) :: (b, v) :: xs =>
        if x <= b || xs.isEmpty then if x == b then some v else some ((v - u) / (b - a) * (x - a) + u)
        else go ((b, v) :: xs)
      | [(_, u)] => some u
      | [] => none
    go ps

def sample (cs : Floats) : Outcome Floats := do
  let gap := t.initialFreq - t.minimalFreq
  if gap == 0 then fail .divisionByZero
  let start := (2.0 * t.coupling / gap).atan
  let knots := (evenlySpaced 0.0 1.0 51).map fun tau => (t.time start tau, t.angle start tau)
  let knots := knots.mergeSort fun a b => a.1 ≤ b.1
  let total := t.time start 1.0
  let angles ← cs.mapM fun c => require .invalid (interpolate knots (c * total))
  if (t.asymmetry * t.asymmetry).isInf || (t.initialFreq.pow 4.0).isInf then fail .overflow
  if t.asymmetry * t.asymmetry == 1.0 then fail .divisionByZero
  let xs := voltage t.initialFreq t.asymmetry
  let raw := angles.map fun a => voltage (t.minimalFreq + 2.0 * t.coupling / a.tan) t.asymmetry - xs
  let top := greatestMagnitude raw
  return raw.map fun v => (v / top).abs

end Trajectory

namespace Waveform

open Shape Suppressed

def coords (n : Int) : Outcome Floats := do
  if n = 0 then fail .divisionByZero
  let bound := 0.5 - 0.5 / Decimal.ofInt n
  if n < 0 then fail .invalid
  return evenlySpaced (-bound) bound n.toNat

def make (n : Int) (sh : Shape) : Outcome Waveform := do
  match sh with
  | .samples vs => pure ⟨vs.length, sh⟩
  | .higherDerivative p s off =>
    if s.fromFreqs then
      pure ⟨n, .higherDerivative p ⟨s.fullWidth, (← derivativeCoeffs s.fullWidth s.freqs), s.freqs, true⟩ off⟩
    else pure ⟨n, sh⟩
  | .intervalSuppressed p s =>
    if s.fromFreqs then
      let intervals ← aligned s.freqs s.intervalWidths
      if intervals.length ≠ s.freqs.length then fail .invalid
      let ranges := intervals.map fun i => (i.1 - i.2 / 2.0, i.1 + i.2 / 2.0)
      let coefs ← intervalCoeffs s.terms s.fullWidth s.weights ranges 60
      pure ⟨n, .intervalSuppressed p
        ⟨⟨s.fullWidth, coefs, s.freqs, true⟩, s.terms, s.intervalWidths, s.weights, s.centerOffset⟩⟩
    else pure ⟨n, sh⟩
  | _ => pure ⟨n, sh⟩

def evaluate (s : Shape) (cs : Floats) : Outcome Floats := do
  match s with
  | .blank | .suppressed _ | .samples _ | .higherDerivative .neither .. | .intervalSuppressed .neither _ =>
    failWith .unsupported ""
  | .constant => return cs.map fun _ => 1.0
  | .cosineRise => return cs.map fun x => 0.5 + 0.5 * (pi * x).sin
  | .cosineFall => return cs.map fun x => 0.5 - 0.5 * (pi * x).sin
  | .gaussian sigma off => return cs.map fun x => bell sigma (x - off)
  | .gaussianDerivative sigma off => return cs.map fun x => bellSlope sigma (x - off)
  | .truncatedGaussian w off => return cs.map fun x => cutAndRescale (bell (truncatedSigma w) (x - off))
  | .truncatedGaussianDerivative w off => return cs.map fun x => bellSlope (truncatedSigma w) (x - off)
  | .gaussianSmoothedSquare w sigma off =>
    let rising := off - w / 2.0
    return cs.map (smoothedSquare rising (rising + w) sigma)
  | .truncatedSmoothedSquare w riseTime off =>
    let rt := riseTime.abs
    let square := if 0 < w && w ≤ 2.0 * rt then
        let ratio := 2.0 * rt / w
        w / (2.0 * (ratio * ratio))
      else w - rt
    let sigma := rt / (erfInverse (1.0 - 2.0 * threshold) * (8.0 : Float).sqrt)
    let rising := off - square / 2.0
    if square > 0 then
      return cs.map fun x => cutAndRescale (smoothedSquare rising (rising + square) sigma x)
    else return cs.map fun x => cutAndRescale (0.0 * x)
  | .cosineRiseFall w rise off => return cs.map fun x => riseAndFall w rise 1.0 raisedCosine (x - off)
  | .cosineRiseFallDerivative w rise off => return cs.map fun x => riseAndFall w rise 0.0 (-·.sin) (x - off)
  | .cosine freq phase => return cs.map fun x => (2.0 * pi * freq * x + phase).cos
  | .modulatedCosine w rise freq phase off =>
    return cs.map fun x => riseAndFall w rise 1.0 raisedCosine (x - off) * (2.0 * pi * freq * x + phase).cos
  | .chirp first last alpha phase | .chirpImag first last alpha phase =>
    return sweptTone first last alpha phase cs.length
  | .slepian t =>
    let fw := t.fullWidth.abs
    let isOutside (x : Float) := x ≤ -fw / 2.0 || fw / 2.0 ≤ x
    let offsets := cs.map (· - t.centerOffset)
    let within := offsets.filter (!isOutside ·)
    if within.isEmpty then return offsets.map fun _ => 0.0
    return spread isOutside offsets (← t.sample (within.map (· / fw + 0.5)))
  | .higherDerivative p s off =>
    match tabulatedCoeffs (s.coefficients.length - 1), s.coefficients with
    | some cosines, _ :: _ =>
      let first := if p == .inPhase then 0 else 1
      return normalised (cs.map fun x => derivatives s.fullWidth first s.coefficients cosines (x - off))
    | _, _ => refuse "Too many suppressed frequencies. At most 7 is allowed."
  | .intervalSuppressed p s =>
    let envelope := if p == .inPhase then inPhase else quadrature
    return normalised (cs.map fun x => envelope s.fullWidth s.coefficients (x - s.centerOffset))
where
  spread (isOutside : Float → Bool) : Floats → Floats → Floats
    | [], _ => []
    | x :: xs, vs =>
      if isOutside x then 0.0 :: spread isOutside xs vs
      else match vs with
        | v :: more => v :: spread isOutside xs more
        | [] => 0.0 :: spread isOutside xs []

def sample (w : Waveform) : Outcome Floats :=
  match w.shape with
  | .samples vs => pure vs
  | shape => do evaluate shape (← coords w.size)

def canonical (w : Waveform) := do
  if w.kind.isCanonical then return w
  let vs ← w.sample
  pure ⟨vs.length, .samples vs⟩

end Waveform

end Transmon
