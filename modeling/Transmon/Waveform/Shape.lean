import Transmon.Decimal
import Transmon.Fault

/-!
Pulse envelopes by their shape.
-/

namespace Transmon

inductive Quadrature
  | neither | inPhase | quadrature
deriving DecidableEq

structure Suppression where
  fullWidth : Float
  (coefficients freqs : Floats)
  fromFreqs : Bool

structure IntervalSuppression extends Suppression where
  terms : Int
  (intervalWidths weights : Floats)
  centerOffset : Float

structure Trajectory where
  (fullWidth lambda1 lambda2 initialFreq minimalFreq coupling centerOffset asymmetry : Float)

inductive Shape
  | blank | constant | cosineRise | cosineFall
  | samples (values : Floats)
  | gaussian (sigma centerOffset : Float)
  | gaussianDerivative (sigma centerOffset : Float)
  | truncatedGaussian (fullWidth centerOffset : Float)
  | truncatedGaussianDerivative (fullWidth centerOffset : Float)
  | gaussianSmoothedSquare (squareWidth gaussianSigma centerOffset : Float)
  | truncatedSmoothedSquare (fullWidth riseTime centerOffset : Float)
  | cosineRiseFall (fullWidth riseTime centerOffset : Float)
  | cosineRiseFallDerivative (fullWidth riseTime centerOffset : Float)
  | cosine (freq phase : Float)
  | modulatedCosine (fullWidth riseTime modulation phase centerOffset : Float)
  | chirp (startFreq stopFreq alpha phase : Float)
  | chirpImag (startFreq stopFreq alpha phase : Float)
  | slepian (trajectory : Trajectory)
  | suppressed (params : Suppression)
  | higherDerivative (part : Quadrature) (params : Suppression) (centerOffset : Float)
  | intervalSuppressed (part : Quadrature) (params : IntervalSuppression)

inductive ShapeKind
  | blank | constant | cosineRise | cosineFall | samples
  | gaussian | gaussianDerivative | truncatedGaussian | truncatedGaussianDerivative
  | gaussianSmoothedSquare | truncatedSmoothedSquare
  | cosineRiseFall | cosineRiseFallDerivative | cosine | modulatedCosine
  | chirp | chirpImag | slepian | suppressed
  | higherDerivative (part : Quadrature) | intervalSuppressed (part : Quadrature)
deriving DecidableEq

namespace ShapeKind

def names : List (ShapeKind × String) :=
  [(.blank, "Waveform"), (.constant, "Constant"), (.cosineRise, "CosineRise"), (.cosineFall, "CosineFall"),
   (.samples, "Samples"), (.gaussian, "Gaussian"), (.gaussianDerivative, "GaussianDerivative"),
   (.truncatedGaussian, "TruncatedGaussian"), (.truncatedGaussianDerivative, "TruncatedGaussianDerivative"),
   (.gaussianSmoothedSquare, "GaussianSmoothedSquare"),
   (.truncatedSmoothedSquare, "TruncatedGaussianSmoothedSquare"),
   (.cosineRiseFall, "CosineRiseFall"), (.cosineRiseFallDerivative, "CosineRiseFallDerivative"),
   (.cosine, "Cosine"), (.modulatedCosine, "ModulatedCosineRiseFall"), (.chirp, "Chirp"),
   (.chirpImag, "ChirpImag"), (.slepian, "Slepian"), (.suppressed, "SuppressedPulse"),
   (.higherDerivative .neither, "HdDrag"), (.higherDerivative .inPhase, "HdDragI"),
   (.higherDerivative .quadrature, "HdDragQ"), (.intervalSuppressed .neither, "FastDrag"),
   (.intervalSuppressed .inPhase, "FastDragI"), (.intervalSuppressed .quadrature, "FastDragQ")]

def name (k : ShapeKind) := (names.lookup k).getD ""

def ofName? (n : String) := if n = "CanonicalWaveform" then some .blank else (names.find? (·.2 == n)).map Prod.fst

def isCanonical : ShapeKind → Bool
  | .samples | .gaussian | .gaussianDerivative | .truncatedGaussian | .truncatedGaussianDerivative
  | .constant | .gaussianSmoothedSquare | .truncatedSmoothedSquare | .cosineRiseFall => true
  | _ => false

inductive FieldType
  | whole | real | flag | reals
deriving DecidableEq

structure Field where
  name : String
  type : FieldType
  default : Option Float := none

def real (n : String) (default : Option Float := none) : Field := ⟨n, .real, default⟩

def offset := real "center_offset" (some 0.0)

def suppressionFields :=
  [real "full_width", ⟨"coefficients", .reals, none⟩, ⟨"suppressed_frequencies", .reals, none⟩,
   ⟨"compute_coefs_from_frequencies", .flag, none⟩]

def fields : ShapeKind → List Field
  | .blank | .constant | .cosineRise | .cosineFall => []
  | .samples => [⟨"samples", .reals, none⟩]
  | .gaussian | .gaussianDerivative => [real "sigma", offset]
  | .truncatedGaussian | .truncatedGaussianDerivative => [real "full_width", offset]
  | .gaussianSmoothedSquare => [real "square_width", real "gaussian_sigma", offset]
  | .truncatedSmoothedSquare | .cosineRiseFall | .cosineRiseFallDerivative =>
    [real "full_width", real "rise_time", offset]
  | .cosine => [real "frequency", real "phase" (some 0.0)]
  | .modulatedCosine =>
    [real "full_width", real "rise_time", real "modulation_frequency" (some 0.0), real "phase" (some 0.0), offset]
  | .chirp => [real "freq_start", real "freq_stop", real "alpha" (some 0.05), real "phase" (some 0.0)]
  | .chirpImag =>
    [real "freq_start", real "freq_stop", real "alpha" (some 0.05), real "phase" (some (-1.5707963267948966))]
  | .slepian =>
    [real "full_width", real "lambda_1", real "lambda_2",
     real "frequency_initial_normalized", real "frequency_to_minimize_normalized",
     real "coupling_strength_normalized", offset,
     real "squid_asymmetry" (some 0.0)]
  | .suppressed => suppressionFields
  | .higherDerivative _ => suppressionFields ++ [offset]
  | .intervalSuppressed _ =>
    suppressionFields ++
      [⟨"number_of_cos_terms", .whole, none⟩, ⟨"suppressed_interval_widths", .reals, none⟩,
       ⟨"weights", .reals, none⟩, offset]

def units : ShapeKind → List (String × String)
  | .cosine => [("frequency", "Hz")]
  | .slepian =>
    [("lambda_1", ""), ("lambda_2", ""), ("frequency_initial_normalized", ""),
     ("frequency_to_minimize_normalized", ""), ("coupling_strength_normalized", ""), ("squid_asymmetry", "")]
  | .chirp | .chirpImag => [("alpha", ""), ("phase", ""), ("freq_start", ""), ("freq_stop", "")]
  | .modulatedCosine => [("modulation_frequency", "Hz"), ("phase", "rad")]
  | .higherDerivative _ =>
    [("coefficients", ""), ("suppressed_frequencies", "Hz"), ("compute_coefs_from_frequencies", "")]
  | .intervalSuppressed _ =>
    [("compute_coefs_from_frequencies", ""), ("coefficients", ""), ("suppressed_frequencies", "Hz"),
     ("number_of_cos_terms", ""), ("suppressed_interval_widths", "Hz"), ("weights", "")]
  | _ => []

end ShapeKind

inductive ShapeValue
  | whole (value : Int)
  | real (value : Float)
  | flag (value : Bool)
  | reals (values : Floats)

def ShapeValue.real? : ShapeValue → Option Float
  | .real x => some x
  | _ => none

namespace Shape

def kind : Shape → ShapeKind
  | .blank => .blank
  | .constant => .constant
  | .cosineRise => .cosineRise
  | .cosineFall => .cosineFall
  | .samples _ => .samples
  | .gaussian .. => .gaussian
  | .gaussianDerivative .. => .gaussianDerivative
  | .truncatedGaussian .. => .truncatedGaussian
  | .truncatedGaussianDerivative .. => .truncatedGaussianDerivative
  | .gaussianSmoothedSquare .. => .gaussianSmoothedSquare
  | .truncatedSmoothedSquare .. => .truncatedSmoothedSquare
  | .cosineRiseFall .. => .cosineRiseFall
  | .cosineRiseFallDerivative .. => .cosineRiseFallDerivative
  | .cosine .. => .cosine
  | .modulatedCosine .. => .modulatedCosine
  | .chirp .. => .chirp
  | .chirpImag .. => .chirpImag
  | .slepian _ => .slepian
  | .suppressed _ => .suppressed
  | .higherDerivative p .. => .higherDerivative p
  | .intervalSuppressed p _ => .intervalSuppressed p

def values : Shape → List ShapeValue
  | .blank | .constant | .cosineRise | .cosineFall => []
  | .samples xs => [.reals xs]
  | .gaussian a b | .gaussianDerivative a b | .truncatedGaussian a b | .truncatedGaussianDerivative a b
  | .cosine a b => [a, b].map .real
  | .gaussianSmoothedSquare a b c | .truncatedSmoothedSquare a b c | .cosineRiseFall a b c
  | .cosineRiseFallDerivative a b c => [a, b, c].map .real
  | .modulatedCosine a b c d e => [a, b, c, d, e].map .real
  | .chirp a b c d | .chirpImag a b c d => [a, b, c, d].map .real
  | .slepian t =>
    [t.fullWidth, t.lambda1, t.lambda2, t.initialFreq, t.minimalFreq, t.coupling, t.centerOffset,
     t.asymmetry].map .real
  | .suppressed s => ofSuppression s
  | .higherDerivative _ s off => ofSuppression s ++ [.real off]
  | .intervalSuppressed _ s =>
    ofSuppression s.toSuppression ++ [.whole s.terms, .reals s.intervalWidths, .reals s.weights, .real s.centerOffset]
where
  ofSuppression (s : Suppression) : List ShapeValue :=
    [.real s.fullWidth, .reals s.coefficients, .reals s.freqs, .flag s.fromFreqs]

def ofReals? : ShapeKind → Floats → Option Shape
  | .blank, [] => some .blank
  | .constant, [] => some .constant
  | .cosineRise, [] => some .cosineRise
  | .cosineFall, [] => some .cosineFall
  | .gaussian, [a, b] => some (.gaussian a b)
  | .gaussianDerivative, [a, b] => some (.gaussianDerivative a b)
  | .truncatedGaussian, [a, b] => some (.truncatedGaussian a b)
  | .truncatedGaussianDerivative, [a, b] => some (.truncatedGaussianDerivative a b)
  | .gaussianSmoothedSquare, [a, b, c] => some (.gaussianSmoothedSquare a b c)
  | .truncatedSmoothedSquare, [a, b, c] => some (.truncatedSmoothedSquare a b c)
  | .cosineRiseFall, [a, b, c] => some (.cosineRiseFall a b c)
  | .cosineRiseFallDerivative, [a, b, c] => some (.cosineRiseFallDerivative a b c)
  | .cosine, [a, b] => some (.cosine a b)
  | .modulatedCosine, [a, b, c, d, e] => some (.modulatedCosine a b c d e)
  | .chirp, [a, b, c, d] => some (.chirp a b c d)
  | .chirpImag, [a, b, c, d] => some (.chirpImag a b c d)
  | .slepian, [a, b, c, d, e, f, g, h] => some (.slepian ⟨a, b, c, d, e, f, g, h⟩)
  | _, _ => none

def ofValues? : ShapeKind → List ShapeValue → Option Shape
  | .samples, [.reals xs] => some (.samples xs)
  | .suppressed, [.real a, .reals b, .reals c, .flag d] => some (.suppressed ⟨a, b, c, d⟩)
  | .higherDerivative p, [.real a, .reals b, .reals c, .flag d, .real e] => some (.higherDerivative p ⟨a, b, c, d⟩ e)
  | .intervalSuppressed p, [.real a, .reals b, .reals c, .flag d, .whole e, .reals f, .reals g, .real h] =>
    some (.intervalSuppressed p ⟨⟨a, b, c, d⟩, e, f, g, h⟩)
  | k, vs => (vs.mapM ShapeValue.real?).bind (ofReals? k)

end Shape

structure Waveform where
  size : Int
  shape : Shape

namespace Waveform

instance : Inhabited Waveform := ⟨⟨0, .blank⟩⟩

def kind (w : Waveform) := w.shape.kind

def sameValue : ShapeValue → ShapeValue → Bool
  | .whole a, .whole b | .real a, .real b | .flag a, .flag b | .reals a, .reals b => a == b
  | _, _ => false

def sameValues (a b : List ShapeValue) := a.length == b.length && (List.zipWith sameValue a b).all id

instance : BEq Waveform := ⟨fun a b => a.kind == b.kind && a.size == b.size && sameValues a.shape.values b.shape.values⟩

def sameReals : Floats → Floats → Outcome Bool
  | [x], [y] => return x == y
  | [], [] | [], [_] | [_], [] => pure false
  | _, _ => fail .invalid

def compareValues (shared : Option String) : List (String × ShapeValue × ShapeValue) → Outcome Bool
  | [] => pure true
  | (n, a, b) :: zs => do
    let isSame ← match a, b with
      | .reals xs, .reals ys => if shared == some n then pure true else sameReals xs ys
      | a, b => pure (sameValue a b)
    if isSame then compareValues shared zs else pure false

/-- Whether two envelopes are equal. Lists of numbers other than samples are compared only if they are single
numbers, or coefficients that were computed from the same parameters. -/
def compare (a b : Waveform) : Outcome Bool := do
  if a.kind == .samples || a.kind != b.kind then return a == b
  if a.size != b.size then return false
  let ps := (a.kind.fields.map ShapeKind.Field.name).zip (a.shape.values.zip b.shape.values)
  let isComputed := ps.all fun
    | (n, .reals xs, .reals ys) => n == "coefficients" || xs == ys
    | ("compute_coefs_from_frequencies", .flag x, .flag y) => x && y
    | ("center_offset", _) => true
    | (_, x, y) => sameValue x y
  compareValues (if isComputed then some "coefficients" else none) ps

def shownReals (xs : Floats) := "array(" ++ Decimal.bracketed ", " "       " (Decimal.column xs) ++ ")"

def shownValue : ShapeValue → String
  | .whole n => toString n
  | .real x => Decimal.render x
  | .flag b => if b then "True" else "False"
  | .reals xs => shownReals xs

def shown (w : Waveform) :=
  Text.called w.kind.name (("n_samples", toString w.size) ::
    .zipWith (fun (f : ShapeKind.Field) v => (f.name, shownValue v)) w.kind.fields w.shape.values)

end Waveform

end Transmon
