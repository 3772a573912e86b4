import Transmon.Ansatz.TreeAngles
import Transmon.Problem.Graphs
import Transmon.Routing.Pattern

/-!
The angles of an alternating ansatz.
-/

namespace Transmon.Ansatz

open Quantity Numeric

structure Angles (K : Type) where
  values : List K
  isWhole : Bool

structure Schedule (K : Type) where
  layers : Nat
  angles : Angles K
  isTrained : Bool

namespace Angles

variable {K : Type} [Quantity K]

def phases : List K → List K
  | [] => []
  | [g] => [g]
  | g :: _ :: xs => g :: phases xs

def mixings : List K → List K
  | [] | [_] => []
  | _ :: b :: xs => b :: mixings xs

def interleaved : List K → List K → List K
  | g :: gs, b :: bs => g :: b :: interleaved gs bs
  | _, _ => []

def zeros (ls : Nat) : Angles K := ⟨.replicate (2 * ls) zero, false⟩

variable (a : Angles K)

def write (i : Nat) (v : K) :=
  if i < a.values.length then
    pure { a with values := a.values.set i (if a.isWhole then ofInt (whole v) else v) }
  else fail .index

def resized (n : Nat) := { a with values := (List.range n).map fun i => (a.values[i % a.values.length]?).getD zero }

def padded (n : Nat) : Angles K := { a with values := a.values ++ .replicate n zero }

end Angles

def lengthOf : Value → Outcome Nat
  | .list xs | .tuple xs => pure xs.length
  | .text s => pure s.length
  | .dict es => pure es.length
  | _ => fail .type

mutual

def shapeOf? : Value → Option (List Nat)
  | .list xs => (commonShape? xs).map (xs.length :: ·)
  | v => if v.number?.isSome then some [] else none

def commonShape? : Values → Option (List Nat)
  | [] => some []
  | [x] => shapeOf? x
  | x :: xs =>
    match shapeOf? x, commonShape? xs with
    | some a, some b => if a = b then some a else none
    | _, _ => none

end

def flatNums : Value → List Number
  | .list xs => xs.flatMap flatNums
  | v => v.number?.toList

def isWholeNum : Number → Bool
  | .int _ => true
  | .float _ => false

def rowOf (v : Value) : Outcome (Angles Number) := do
  let some _ := shapeOf? v | fail .invalid
  let ns := flatNums v
  pure ⟨ns, !ns.isEmpty && ns.all isWholeNum⟩

def columnOf (v : Value) : Outcome (List Number) :=
  match shapeOf? v with
  | some [_] => return flatNums v
  | some shape => if shape.all (· == 1) then return flatNums v else fail .invalid
  | none => fail .invalid

def chosenAngles (ls : Nat) (betas gammas angles : Option Value) : Outcome (Angles Number) := do
  match betas, gammas, angles with
  | none, none, none => return .zeros ls
  | none, none, some x =>
    let len ← lengthOf x
    if len ≠ 2 * ls then
      refuse (s!"The length of provided angles ({len}) doesn't equal twice the number of QAOA layers " ++ s!"({ls}).")
    rowOf x
  | some betas, some gammas, none =>
    let gammaCount ← lengthOf gammas
    let betaCount ← lengthOf betas
    if gammaCount ≠ betaCount then
      refuse (s!"The lengths of provided ``betas`` ({betaCount}) and ``gammas`` " ++ s!"({gammaCount}) aren't equal.")
    if gammaCount ≠ ls then
      refuse (s!"The length of the provided ``gammas`` and ``betas`` ({gammaCount}) needs to "
        ++ s!"equal the number of the QAOA layers ({ls}).")
    pure ⟨Angles.interleaved (← columnOf gammas) (← columnOf betas), false⟩
  | some _, none, _ => refuse "The beta angles were provided, but the gamma angles were not provided."
  | none, some _, _ => refuse "The gamma angles were provided, but the beta angles were not provided."
  | some _, some _, some _ =>
    refuse ("The ``initial_angles`` were provided together with ``gammas`` and "
      ++ "``betas``. Please provide EITHER ``initial_angles`` OR ``betas`` and "
      ++ "``gammas``.")

def layerCount (v : Value) : Outcome Nat := do
  match v with
  | .int n =>
    if n ≤ 0 then refuse s!"The number of QAOA layers must be positive, not {n}."
    pure n.toNat
  | x => failWith .type s!"The number of QAOA layers must be an integer, got {x.className}."

namespace Schedule

variable {K : Type} [Quantity K] (s : Schedule K)

def gammas := Angles.phases s.angles.values

def betas := Angles.mixings s.angles.values

def withLayers (ls : Nat) :=
  if ls < s.layers then ⟨ls, s.angles.resized (2 * ls), false⟩
  else if s.layers < ls then ⟨ls, s.angles.padded (2 * (ls - s.layers)), false⟩
  else s

def rampStep (delta : K × K) (ls : Nat) (a : Angles K) (i : Nat) := do
  let a ← a.write i ((← require .divisionByZero (over? (ofInt (i + 1) : K) (ofInt ls))) * delta.2)
  a.write (i + 1) ((ofInt 1 - (← require .divisionByZero (over? (ofInt i) (ofInt ls)))) * delta.1)

def ramped (beta gamma : K) :=
  return { s with
    angles := ← (List.range s.layers).foldlM (rampStep (beta, gamma) s.layers) s.angles, isTrained := true }

end Schedule

/-!
Circuits of an alternating ansatz, its value for one layer, and angles from regular trees.
-/

open Problem

inductive Gate
  | hadamard (q : Nat)
  | rz (angle : Number) (q : Nat)
  | rzz (angle : Number) (a b : Nat)
  | rx (angle : Number) (q : Nat)

structure Alternating where
  schedule : Schedule Number
  qubits : Nat
  model : Model Nat Number

namespace Alternating

variable (a : Alternating)

def angle (i : Nat) := itemAt a.schedule.angles.values i

def turn (angle bias : Number) := 2 * angle * bias

def fieldTurn (phase : Number) (q : Nat) : Outcome Gate :=
  return .rz (turn phase (← require .missing (a.model.field? q))) q

def layer (p : Nat) : Outcome (List Gate) := do
  let qs := List.range a.qubits
  let fs ← qs.mapM fun q => do a.fieldTurn (← a.angle (2 * p)) q
  let cs ← a.model.couplings.mapM fun c => do return .rzz (turn (← a.angle (2 * p)) c.2.2) c.1 c.2.1
  return fs ++ cs ++ (← qs.mapM fun q => do return .rx (2 * (← a.angle (2 * p + 1))) q)

def gates : Outcome (List Gate) :=
  return (List.range a.qubits).map .hadamard ++ (← (List.range a.schedule.layers).mapM a.layer).flatten

def lightCone (last : Slots) :=
  (List.range a.schedule.layers).foldl (fun (sets : List Slots) _ =>
    .ofList ((sets.headD last).toList.flatMap fun q => q :: a.model.partners q) :: sets) [last]

def coneGates (chosen : List Nat) : Outcome (List Nat × List Gate) := do
  let last := Slots.ofList chosen
  let cone := a.lightCone last
  let entering := last.toList ++ (cone.headD last).without last
  let sets := cone.map Slots.toList
  let ls ← (sets.zip (sets.drop 1)).zipIdx.mapM fun ((now, next), p) => do
    let fs ← now.mapM fun q => do a.fieldTurn (← a.angle (2 * p)) q
    let kept := a.model.couplings.filter fun c =>
      (now.contains c.1 && next.contains c.2.1) || (now.contains c.2.1 && next.contains c.1)
    let cs ← kept.mapM fun c => do return .rzz (turn (← a.angle (2 * p)) c.2.2) c.1 c.2.1
    return fs ++ cs ++ (← next.mapM fun q => do return .rx (2 * (← a.angle (2 * p + 1))) q)
  pure (entering, ls.flatten)

def cosines (args : Floats) := args.foldl (fun product x => product * x.cos) 1.0

def checkSingle (ls : Nat) : Check := if ls ≠ 1 then refuse s!"The number of layers is not 1, but {ls}" else pure ()

def singleLayerValue : Outcome Float := do
  checkSingle a.schedule.layers
  let g := (← a.angle 0).toFloat
  let b := (← a.angle 1).toFloat
  let m := a.model
  let field (v : Nat) : Float := (m.field v).toFloat
  let coupling (u v : Nat) : Float := ((m.coupling? u v).getD 0).toFloat
  let near (v : Nat) := ascending (m.partners v)
  let ofQubit (v : Nat) : Float :=
    let h := field v
    h * (2.0 * b).sin * (2.0 * g * h).sin * cosines ((near v).map (2.0 * g * coupling v ·))
  let ofPair (i j : Nat) : Float :=
    let hi := field i
    let hj := field j
    let w := coupling i j
    let nearI := (near i).filter (· != j)
    let nearJ := (near j).filter (· != i)
    let onlyI := nearI.filter (!nearJ.contains ·)
    let onlyJ := nearJ.filter (!nearI.contains ·)
    let both := nearJ.filter (!onlyJ.contains ·)
    let around (v : Nat) (ks : List Nat) := cosines (ks.map (2.0 * g * coupling v ·))
    let plus := cosines (both.map fun k => 2.0 * g * (coupling i k + coupling j k))
    let minus := cosines (both.map fun k => 2.0 * g * (coupling i k - coupling j k))
    let x := 0.5 * w * (4.0 * b).sin * (2.0 * g * w).sin
      * ((2.0 * g * hi).cos * around i nearI + (2.0 * g * hj).cos * around j nearJ)
    let half := 0.5 * w * ((2.0 * b).sin * (2.0 * b).sin) * around i onlyI * around j onlyJ
    x - half * ((2.0 * g * (hi + hj)).cos * plus - (2.0 * g * (hi - hj)).cos * minus)
  let qs := sum (m.unknowns.map ofQubit)
  return m.couplings.foldl (fun total c => total + ofPair c.1 c.2.1) qs + m.offset.toFloat

end Alternating

def treeDegrees := [19, 2, 3, 4, 49, 5, 6, 7, 8, 9, 99]

def nearestIndex (xs : Floats) (v : Float) : Nat :=
  match xs.map fun x => (x - v).abs with
  | [] => 0
  | d :: ys =>
    (ys.zipIdx.foldl (fun (best : Float × Nat) e => if e.1 < best.1 then (e.1, e.2 + 1) else best) (d, 0)).2

def interpolated (ps : List (Float × Float)) (x : Float) :=
  let rec go : List (Float × Float) → Float
    | [] => 0.0
    | [p] => p.2
    | p :: q :: xs => if x < q.1 then (q.2 - p.2) / (q.1 - p.1) * (x - p.1) + p.2 else go (q :: xs)
  go ps

def middles (n : Nat) : Floats := (List.range n).map fun k => (ofNat k + 0.5) / ofNat n

def stretched (ls : Nat) (r : Floats × Floats) : Outcome (Floats × Floats) := do
  let (betas, gammas) := r
  if betas.length ≠ 6 then fail .invalid
  let ps := 0.0 :: middles 6 ++ [1.0]
  let gammaPoints := ps.zip (gammas.headD 0.0 / 2.0 :: gammas ++ [gammas.getLastD 0.0 * 1.1])
  let betaPoints := ps.zip (betas.headD 0.0 * 1.1 :: betas ++ [betas.getLastD 0.0 / 2.0])
  pure ((middles ls).map (interpolated betaPoints), (middles ls).map (interpolated gammaPoints))

structure Likeness where
  (degree coupling field : Float)
  last : Nat

def likeness (m : Model Nat Number) : Outcome Likeness := do
  let g := m.graph
  let deg ← Number.divide (.int (2 * g.size)) (.int g.order)
  let coupling ← g.edges.foldlM (fun (total : Number) e => do
    if e.2.2 < 0 then refuse "Only anti-ferromagnetic (i.e., positive) interactions are allowed."
    return total + e.2.2) (.float 0.0)
  let coupling ← Number.divide coupling (.int g.size)
  let field ← Number.divide (g.nodes.foldl (fun (total : Number) v => total + m.field v) (.float 0.0)) (.int g.order)
  pure ⟨deg, coupling, (← Number.divide (.float field) (.float coupling)), g.nodes.getLastD 0⟩

def overwritten (a : Angles Number) (gammas betas : Floats) : Outcome (Angles Number) := do
  let ls := a.values.length / 2
  let r := match gammas, betas with
    | [gamma], [beta] => Angles.interleaved (.replicate ls gamma) (.replicate ls beta)
    | gammas, betas => Angles.interleaved gammas betas
  if r.length ≠ a.values.length then fail .invalid
  r.zipIdx.foldlM (fun (a : Angles Number) e => a.write e.2 (.float e.1)) a

/-- The angles that are good on the regular tree that a model is most like. The tree is searched with one branch less
than the degree. Beyond six layers the row of the last node's number is stretched. -/
def Schedule.onTree (s : Schedule Number) (m : Model Nat Number) : Outcome (Schedule Number) := do
  let like ← likeness m
  let deg := Decimal.nearest like.degree
  let strength := nearestIndex (0.0 :: evenlySpaced 0.1 (Decimal.ofInt (deg + 1)) 15) like.field
  if !treeDegrees.any fun (d : Nat) => d = deg then
    refuse ("For this regularity the tree calculation has not been performed yet. Implemented regularities are: "
      ++ " ".intercalate (treeDegrees.map toString))
  let (betas, gammas) ← require .noAttr (TreeAngles.angles? (deg.toNat - 1) strength)
  let scale := (Decimal.ofInt (deg - 1)).sqrt * like.coupling
  let at? (rs : List Floats) (k : Nat) : Outcome Floats := itemAt rs k
  let (betas, gammas) ← (do
    if s.layers < 7 then pure (← at? betas (s.layers - 1), ← at? gammas (s.layers - 1))
    else stretched s.layers (← at? betas like.last, ← at? gammas like.last))
  pure { s with angles := ← overwritten s.angles (gammas.map (· / scale)) (betas.map (-·)), isTrained := true }

def mirrored (cs : Counts) : Counts := .ofList (cs.entries.map fun e => (.ofList e.1.toList.reverse, e.2))

def checkedShare (share : Option Number) := do
  let some x := share | pure 1
  if 0 < x && x ≤ 1 then return x
  refuse (s!"The provided ``cvar`` must be between 0 and 1 (0 excluded, 1 included). It is {x.text}")

def operatorTerms (ns : List (Nat × Number)) (es : List (Nat × Nat × Number)) : Named Number :=
  let width := (ns.map (·.1 + 1)).foldl max 0
  let word (ps : List Nat) : String := .ofList ((List.range width).map fun i => if ps.contains i then 'Z' else 'I')
  let ts := ns.map (fun e => (word [e.1], e.2)) ++ es.map fun e => (word [e.1, e.2.1], e.2.2)
  (ts.foldl (fun (x : Table String Number) t =>
    if x.contains t.1 then x.modify t.1 (· + t.2) else x.insert t.1 t.2) ∅).entries

/-!
The ansatz with one layer along a fixed pattern, for a full matrix of couplings.
-/

open Routing

structure Weights (K : Type) where
  couplings : List (List K)
  fields : List K

namespace Weights

variable {K : Type} (w : Weights K)

def coupling (i j : Nat) := do require .index (← itemAt w.couplings i)[j]?

def field (i : Nat) := itemAt w.fields i

variable [Quantity K]

def value (spins : List K) : Outcome K := do
  let indexed := spins.zipIdx
  let ps ← (Model.pairsOf indexed).mapM fun e => do return (← w.coupling e.1.2 e.2.2) * e.1.1 * e.2.1
  return (← indexed.mapM fun e => do return (← w.field e.2) * e.1).foldl (· - ·) (sum ps)

def spinsOf (bits : String) : Outcome (List K) :=
  bits.toList.reverse.mapM fun c => do
    if c.isDigit then return ofInt (2 * ((c.toNat - '0'.toNat : Nat) : Int) - 1) else fail .invalid

def ofBits (bits : String) : Outcome K := do w.value (← spinsOf bits)

def mean (cs : Named Int) : Outcome K := do
  let vs ← cs.mapM fun e => do return (← w.ofBits e.1) * ofInt e.2
  require .divisionByZero (over? (sum vs) (ofInt (cs.foldl (fun total e => total + e.2) 0)))

end Weights

def cosineProduct (args : List (Outcome Float)) := Alternating.cosines <$> args.mapM id

def Weights.expected (w : Weights Float) (gamma beta : Float) : Outcome Float := do
  let size := w.fields.length
  let field (i : Nat) := return -(← w.field i)
  let ys (i j : Nat) : List Nat := (List.range size).filter fun k => k ≠ i && k ≠ j
  let g := 2.0 * gamma
  let ofPair (i j : Nat) : Outcome Float := do
    let hi ← field i
    let hj ← field j
    let around (v : Nat) (h : Float) : Outcome Float :=
      return (← cosineProduct ((ys i j).map fun k => do return g * (← w.coupling v k))) * (g * h).cos
    let both (join : Float → Float → Float) : Outcome Float :=
      return (← cosineProduct ((ys i j).map fun k =>
        return g * join (← w.coupling i k) (← w.coupling j k))) * (g * join hi hj).cos
    let c ← w.coupling i j
    let x := 0.5 * c * (4.0 * beta).sin * (g * c).sin * ((← around i hi) + (← around j hj))
    let half := 0.5 * c * ((2.0 * beta).sin * (2.0 * beta).sin)
    return x - half * ((← both (· + ·)) - (← both (· - ·)))
  let ofQubit (i : Nat) : Outcome Float := do
    let h ← field i
    let around ← cosineProduct ((ys i i).map fun k => do return g * (← w.coupling i k))
    return around * (h * (2.0 * beta).sin * (g * h).sin)
  let ps ← ((List.range size).flatMap fun i => (List.range i).map fun j => (i, j)).mapM fun e => ofPair e.1 e.2
  return ps.foldl (· + ·) 0.0 + (← (List.range size).mapM ofQubit).foldl (· + ·) 0.0

def swapped {α : Type} (xs : List α) (m n : Int) := do
  let i ← require .index (Slice.place? xs.length m)
  let j ← require .index (Slice.place? xs.length n)
  let a ← itemAt xs i
  return (xs.set i (← itemAt xs j)).set j a

inductive PatternedOp
  | gate (g : Gate)
  | exchange (a b : Nat)
  | measure (qubits bits : List Nat)

def patternPlaces :=
  let ten := [13, 14, 9, 4, 3, 8, 7, 10, 15, 5]
  [13, 14, 9, 8] :: [13, 14, 9, 8, 3] :: (List.range 5).map fun k => ten.take (k + 6)

def placesFor (n : Nat) := require .index (Slice.at? patternPlaces (n - 4))

def stepGates (w : Weights Number) (gamma : Number) (place : Nat → Nat) : List PatternStep → List Nat →
    Outcome (List PatternedOp × List Nat)
  | [], bits => pure ([], bits)
  | step :: xs, bits => do
    let (a, b) := match step with
      | .meet a b | .swap a b => (place a, place b)
    let meeting := PatternedOp.gate (.rzz (2 * (← w.coupling (bits.getD a 0) (bits.getD b 0)) * gamma) a b)
    match step with
    | .meet _ _ =>
      let (more, bits) ← stepGates w gamma place xs bits
      pure (meeting :: more, bits)
    | .swap _ _ =>
      let (more, bits) ← stepGates w gamma place xs (← swapped bits a b)
      pure (meeting :: .exchange a b :: more, bits)

def patterned (w : Weights Number) (n : Nat) (ls : Int) (angles : List Number) :
    Outcome (Option (List PatternedOp)) := do
  let qs := List.range n
  let start := qs.map fun q => .gate (.hadamard q)
  if ls < 1 then return some (start ++ [.measure qs qs])
  else if 1 < ls then pure none
  else
    let ss := if 4 ≤ n && n ≤ 10 then Pattern.steps n else []
    let ps := patternPlaces.getD (n - 4) []
    let gamma ← if ss.isEmpty && n = 0 then pure 0 else itemAt angles 0
    let (gs, bits) ← stepGates w gamma (fun v => (ps.findIdx? (· == v)).getD 0) ss qs
    let fs ← qs.mapM fun q => do return .gate (.rz (2 * (← w.field (bits.getD q 0)) * gamma) q)
    let mixings ← qs.mapM fun q => do return .gate (.rx (2 * (← itemAt angles 1)) q)
    return some (start ++ gs ++ fs ++ mixings ++ [.measure qs bits])

end Transmon.Ansatz
