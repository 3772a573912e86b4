import Transmon.Graph
import Transmon.Number

/-!
Quadratic models: a value for every assignment of numbers to variables.
-/

namespace Transmon

class Quantity (K : Type) extends Add K, Sub K, Mul K, Neg K where
  ofInt : Int → K
  over? : K → K → Option K
  below : K → K → Bool
  whole : K → Int

instance : Quantity Number where
  ofInt := .int
  over? a b := (Number.divide a b).toOption.map .float
  below := Number.less
  whole
    | .int n => n
    | .float x => Decimal.truncate x

instance : Quantity Rat where
  ofInt n := n
  over? a b := if b = 0 then none else some (a / b)
  below a b := decide (a < b)
  whole q := q.num.tdiv q.den

namespace Quantity

variable {K : Type} [Quantity K]

def zero : K := ofInt 0

def sum (xs : List K) := xs.foldl (· + ·) zero

def greater (a b : K) := if below a b then b else a

def lesser (a b : K) := if below b a then b else a

def isZero (a : K) := !below a zero && !below zero a

end Quantity

namespace Problem

open Quantity

structure Model (ν K : Type) where
  fields : Table ν K
  couplings : List (ν × ν × K)
  offset : K

inductive Edit (ν K : Type)
  | declare (v : ν)
  | linear (v : ν) (bias : K)
  | quadratic (u v : ν) (bias : K)
  | equality (terms : List (ν × K)) (penalty constant : K)
  | inequality (terms : List (ν × K)) (penalty : K) (slack : String) (constant lower upper : K)
  | fix (values : List (ν × Int))

namespace Model

variable {ν K : Type}

def unknowns (m : Model ν K) := m.fields.keys

def size (m : Model ν K) := m.fields.size

section Keyed

variable [BEq ν]

def joins (u v : ν) (coupling : ν × ν × K) :=
  (coupling.1 == u && coupling.2.1 == v) || (coupling.1 == v && coupling.2.1 == u)

variable (m : Model ν K)

def coupling? (u v : ν) := (m.couplings.find? (joins u v)).map (·.2.2)

def field? (v : ν) := m.fields.get? v

def partners (v : ν) :=
  m.couplings.filterMap fun c => if c.1 == v then some c.2.1 else if c.2.1 == v then some c.1 else none

def graph : Graph ν K := .ofEdges m.unknowns m.couplings

variable [Quantity K]

def field (v : ν) := m.fields.getD v zero

def energy (x : ν → K) :=
  sum (m.fields.entries.map fun e => e.2 * x e.1) + sum (m.couplings.map fun c => c.2.2 * x c.1 * x c.2.1) + m.offset

def addField (v : ν) (bias : K) : Model ν K := { m with fields := m.fields.update v zero (· + bias) }

def addCoupling (u v : ν) (bias : K) : Model ν K :=
  let m := (m.addField u zero).addField v zero
  if m.couplings.any (joins u v) then
    { m with couplings := m.couplings.map fun c => if joins u v c then (c.1, c.2.1, c.2.2 + bias) else c }
  else { m with couplings := m.couplings ++ [(u, v, bias)] }

def pairsOf {α : Type} : List α → List (α × α)
  | [] => []
  | a :: xs => xs.map (a, ·) ++ pairsOf xs

end Keyed

end Model

def sparseMatrix {K : Type} [Quantity K] (n : Nat) (es : Table (Nat × Nat) K) : List (List K) :=
  (List.range n).map fun i => (List.range n).map fun j => es.getD (i, j) zero

/-!
Problems whose solutions are bitstrings, and what samples of bitstrings are worth.
-/

abbrev Counts := Table String Int

structure Instance (K : Type) where
  size : Nat
  quality : String → Outcome K
  isLimited : Bool
  allows : String → Outcome Bool
  fixed : Table Int Int
  unknowns : List Int

/-- What is known of a problem: bounds, average and best quality as far as they were found, and the number of notes. -/
structure Findings (K : Type) where
  (upper lower average best : Option K)
  notes : Nat

def bitstrings : Nat → List Chars
  | 0 => [[]]
  | n + 1 => (bitstrings n).map ('0' :: ·) ++ (bitstrings n).map ('1' :: ·)

def Counts.add (cs : Counts) (bits : String) (n : Int) : Counts := .update cs bits 0 (· + n)

def Counts.total (cs : Counts) := cs.values.foldl (· + ·) 0

def violationNote :=
  "Constraint(s) violated, quality isn't defined, returning the loss function with default parameters\n"

def weightedMean? {K : Type} [Quantity K] (scored : List (K × Int)) :=
  let count := scored.foldl (fun n e => n + e.2) (0 : Int)
  if count = 0 then none else over? (sum (scored.map fun e => e.1 * ofInt e.2)) (ofInt count)

def firstShots (wanted : Int) : Int → Named Int → Named Int
  | _, [] => []
  | taken, (bits, count) :: xs =>
    if wanted ≤ taken + count then if taken < wanted then [(bits, wanted - taken)] else []
    else (bits, count) :: firstShots wanted (taken + count) xs

def ranked {K : Type} [Quantity K] (bestFirst : Bool) (scored : List (K × String × Int)) : Named Int :=
  let precedes (a b : K × String × Int) : Bool := if bestFirst then !below b.1 a.1 else !below a.1 b.1
  (scored.mergeSort precedes).map .snd

def flippedAt (bits : Chars) (i : Nat) : Chars := bits.modify i fun c => if c = '0' then '1' else '0'

def inserted {α : Type} (xs : List α) : List (Nat × α) → List α
  | [] => xs
  | (i, x) :: ys => inserted (xs.take i ++ x :: xs.drop i) ys

namespace Instance

variable {K : Type} [Quantity K]

def nothingKnown : Findings K := ⟨none, none, none, none, 0⟩

variable (p : Instance K)

def consult (bits : String) : Work (Findings K) K := do
  if p.isLimited then if !(← p.allows bits) then modify fun f => { f with notes := f.notes + 1 }
  p.quality bits

def tooLarge (limit : Number) : Fault :=
  let method := if p.isLimited then "initialize_properties" else "``initialize_properties``"
  let start := s!"The problem dimension {p.size} exceeds the maximum of {limit.text}. For large dimensions (>30), "
  .refuse (start ++ "the brute force approach of " ++ method ++ " may be too slow. Change the ``max_size`` "
    ++ "parameter or set it to ``None`` to bypass this error.")

/-- Tries all bitstrings and keeps the bounds, the average and the best quality. The bounds stay even if the
average cannot be taken. -/
def survey (limit : Option Number) : Work (Findings K) Unit := do
  if let some most := limit then if most < .int p.size then throw (p.tooLarge most)
  let zeros := String.ofList (.replicate p.size '0')
  let upper ← p.consult zeros
  let lower ← p.consult zeros
  let all := (bitstrings p.size).map .ofList
  let tried ← if p.isLimited then all.filterM fun bits => p.allows bits else pure all
  let qualities ← tried.mapM p.consult
  let upper := qualities.foldl greater upper
  let lower := qualities.foldl lesser lower
  modify ({ · with upper := some upper, lower := some lower })
  let average ← require .divisionByZero (over? (sum qualities) (ofInt qualities.length))
  modify ({ · with average := some average, best := some lower })

def usualLimit : Number := 30

def known (finding : Findings K → Option K) : Work (Findings K) K := do
  match finding (← get) with
  | some v => pure v
  | none =>
    p.survey (some usualLimit)
    require .invalid (finding (← get))

def rescaled (v : K) : Work (Findings K) K := do
  let average ← p.known Findings.average
  let best ← p.known Findings.best
  require .divisionByZero (over? (v - average) (best - (← p.known Findings.average)))

variable (cs : Counts)

def meanQuality : Work (Findings K) K := do
  let scored ← cs.entries.mapM fun e => do pure (← p.consult e.1, e.2)
  let some mean := weightedMean? scored | refuse "There are no counts. The quality can't be averaged."
  pure mean

def percentile (share : K) (bestFirst : Bool) : Work (Findings K) Counts := do
  if below share zero || below (ofInt 1) share then refuse "The quantile has to be a number between 0 and 1 (included)."
  let wanted := whole (ofInt cs.total * share)
  return ⟨firstShots wanted 0 (ranked bestFirst (← cs.entries.mapM fun e => do pure (← p.consult e.1, e)))⟩

def tailMean (share : K) := do p.meanQuality (← p.percentile cs share true)

def polished (bits : String) : Work (Findings K) String := do
  let chars := bits.toList
  let (_, best) ← (List.range chars.length).foldlM (fun (s : K × String) i => do
    let next := String.ofList (flippedAt chars i)
    let quality ← p.consult next
    return if below quality s.1 then (quality, next) else s) (← p.consult bits, bits)
  pure best

def recounted {σ : Type} (s : String → Work σ String) (cs : Counts) : Work σ Counts := do
  cs.entries.foldlM (fun (x : Counts) e => do return x.add (← s e.1) e.2) ∅

def restored : Outcome Counts := do
  let fixed := p.fixed.entries.mergeSort fun a b => a.1 ≤ b.1
  let es ← cs.entries.mapM fun e => do
    let ps ← fixed.mapM fun f => do pure (← require .invalid (p.unknowns.findIdx? (· == f.1)), toString f.2)
    pure (.join (inserted (e.1.toList.map Char.toString) ps), e.2)
  return .ofList es

def satisfying : Outcome Counts := return ⟨← cs.entries.filterM (p.allows ·.1)⟩

end Instance

/-!
Quadratic problems over binary variables, with and without constraints.
-/

inductive Label
  | number (n : Int)
  | name (s : String)
deriving DecidableEq

namespace Label

def text : Label → String
  | .number n => toString n
  | .name s => s

def atMost : Label → Label → Bool
  | .number a, .number b => decide (a ≤ b)
  | .number _, .name _ => true
  | .name _, .number _ => false
  | .name a, .name b => decide (a ≤ b)

def sorted (ls : List Label) := ls.mergeSort atMost

def number? : Label → Option Int
  | .number n => some n
  | .name _ => none

def position (len : Nat) : Label → Outcome Nat
  | .name _ => fail .type
  | .number n =>
    if 0 ≤ n && n < len then pure n.toNat
    else if n < 0 && -(len : Int) ≤ n then return (n + len).toNat
    else fail .index

end Label

inductive Start (K : Type)
  | matrix (rows : List (List K))
  | blank (size : Option Nat)

structure Draft (ν K : Type) where
  start : Start K
  edits : List (Edit ν K)

abbrev Fixing := Table Label Int

def checkFixing (before : Fixing) (vs : List (Label × Int)) : Check :=
  vs.forM fun e => do
    let some old := before.get? e.1 | return ()
    if old = e.2 then return ()
    else
      let l := e.1.text
      refuse s!"The variable {l} has been fixed previously to {old}, but now it's attempted to be fixed to {e.2}."

structure Unconstrained (K : Type) where
  draft : Draft Label K
  unknowns : List Label
  fixed : Fixing

namespace Unconstrained

variable {K : Type}

def ofMatrix (rs : List (List K)) : Unconstrained K :=
  { draft := ⟨.matrix rs, []⟩
    unknowns := (List.range rs.length).map fun (i : Nat) => .number i
    fixed := ∅ }

def ofGraph (ns : List (Label × K)) (es : List (Label × Label × K)) : Unconstrained K :=
  { draft := ⟨.blank (some ns.length),
      ns.map (fun e => .linear e.1 e.2) ++ es.map fun e => .quadratic e.1 e.2.1 e.2.2⟩
    unknowns := ns.map Prod.fst
    fixed := ∅ }

def fix (p : Unconstrained K) (vs : List (Label × Int)) : Outcome (Unconstrained K) := do
  checkFixing p.fixed vs
  pure { p with
    fixed := p.fixed.insertMany vs
    draft := { p.draft with edits := p.draft.edits ++ [.fix vs] } }

end Unconstrained

inductive Sense
  | equal | atLeast | atMost
deriving DecidableEq

structure Constraint (ν K : Type) where
  terms : List (ν × K)
  isLinear : Bool
  constant : K
  sense : Sense
  bound : K

structure Constrained (ν K : Type) where
  unknowns : List ν
  linear : List (ν × K)
  quadratic : List (ν × ν × K)
  constraints : List (Constraint ν K)

def greatestBound : Int := 9223372036854775807

def leastBound := -9223372036854775808

variable {ν K : Type}

def Constraint.edit [Quantity K] (c : Constraint ν K) (penalty : K) (slack : Nat) : Outcome (Edit ν K × Nat) := do
  if !c.isLinear then refuse "CQM must not have any quadratic constraints."
  let l := s!"slack{slack}"
  match c.sense with
  | .equal => pure (.equality c.terms penalty (c.constant - c.bound), slack)
  | .atLeast => pure (.inequality c.terms penalty l c.constant c.bound (ofInt greatestBound), slack + 1)
  | .atMost => pure (.inequality c.terms penalty l c.constant (ofInt leastBound) c.bound, slack + 1)

def constraintEdits [Quantity K] (penalty : K) : List (Constraint ν K) → Nat → Outcome (List (Edit ν K) × Nat)
  | [], slack => pure ([], slack)
  | c :: xs, slack => do
    let (edit, slack) ← c.edit penalty slack
    let (edits, slack) ← constraintEdits penalty xs slack
    pure (edit :: edits, slack)

def Constrained.draft [Quantity K] (p : Constrained ν K) (penalty : K) (slack : Nat) : Outcome (Draft ν K × Nat) := do
  let obj := p.unknowns.map (.declare ·) ++ p.linear.map (fun e => .linear e.1 e.2)
    ++ p.quadratic.map fun e => .quadratic e.1 e.2.1 e.2.2
  let (edits, slack) ← constraintEdits penalty p.constraints slack
  pure (⟨.blank none, obj ++ edits⟩, slack)

def Constrained.drafts [Quantity K] (p : Constrained ν K) : List K → Nat → Outcome (List (Draft ν K))
  | [], _ => pure []
  | penalty :: xs, slack => do
    let (draft, slack) ← p.draft penalty slack
    return draft :: (← p.drafts xs slack)

end Problem

end Transmon
