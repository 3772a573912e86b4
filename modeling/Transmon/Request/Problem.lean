import Transmon.Form.Logical

/-!
Requests about problems over bitstrings, about graphs and about quadratic models.
-/

namespace Transmon.Request.Problems

open Form Problem Instance Findings

def checkDigits (bits : String) : Check := if bits.toList.all fun c => c.isDigit then return () else fail .invalid

def isAmong (feasible : Names) (bits : String) : Outcome Bool := do
  checkDigits bits
  return feasible.contains bits

def toInstance (j : Json) : Outcome (Instance Number) := do
  let isLimited := textD j "kind" "plain" != "plain"
  let qualities ← readAll toNum (j.get "quality").fields
  let feasible ← textsD j "feasible" []
  let fixed ← (j.get "fixed").fields.mapM fun e => do pure (← require .invalid (Decimal.int? e.1), ← toInt e.2)
  let unknowns ← j.each "original" toInt
  pure {
    size := (← intD j "dim" 0).toNat
    quality := fun bits => do
      if isLimited then checkDigits bits
      require .missing (qualities.lookup bits)
    isLimited
    allows := isAmong feasible
    fixed := ⟨fixed⟩
    unknowns }

def notImplemented (k : String) : Fault :=
  .because .unsupported s!"The problem instance class {k} does not have this method implemented."

variable (p : Instance Number)

def notAvailable := notImplemented (if p.isLimited then "TableQubo" else "Table")

def methods : Named (Nat × Nat × Bool) :=
  ["quality", "quality_renormalized", "average_quality_counts", "average_quality_renormalized",
   "restore_fixed_variables", "local_bitflip_bitstring", "local_bitflip_postprocessing", "fix_variables"].map (·, 1, 1, false)
  ++ ["constraints_checker", "loss", "satisfy_constraints", "fix_constraint_violation",
   "fix_constraint_violation_bitstring"].map (·, 1, 1, true)
  ++ [("percentile_counts", 2, 3, false), ("cvar", 1, 2, false)]

def checkMethod (s : Json) : Check := do
  let (least, most, isLimited) ← require .noAttr (methods.lookup (verb s))
  if isLimited && !p.isLimited then fail .noAttr
  let x := (s.get "args").items.length
  if x < least || most < x then fail .type

variable (step : Json)

def argAt (i : Nat) : Result := require .type ((step.get "args").items[i]?)

def argD (i : Nat) (default : Json) := ((step.get "args").items[i]?).getD default

def firstCounts := do
  let .object fs ← argAt step 0 | fail .noAttr
  toCounts (fs)

def firstBits := do
  match ← argAt step 0 with
  | .text bits => pure bits
  | .array _ | .object _ => fail .type
  | _ => if p.isLimited then fail .type else fail .missing

def method : Action (Findings Number) Json := do
  checkMethod p step
  match verb step with
  | "quality" => quantity <$> p.consult (← firstBits p step)
  | "quality_renormalized" => quantity <$> p.rescaled (← p.consult (← firstBits p step))
  | "average_quality_counts" => quantity <$> p.meanQuality (← firstCounts step)
  | "average_quality_renormalized" => quantity <$> p.rescaled (← p.meanQuality (← firstCounts step))
  | "restore_fixed_variables" => counts <$> p.restored (← firstCounts step)
  | "local_bitflip_bitstring" => return ← p.polished (← firstBits p step)
  | "local_bitflip_postprocessing" => counts <$> recounted p.polished (← firstCounts step)
  | "percentile_counts" =>
    let share ← toNum (← argAt step 1)
    counts <$> p.percentile (← firstCounts step) share (toBool (argD step 2 true))
  | "cvar" =>
    let share ← toNum (argD step 1 (.float 0.05))
    quantity <$> p.tailMean (← firstCounts step) share
  | "constraints_checker" => return ← p.allows (← firstBits p step)
  | "loss" => quantity <$> p.quality (← firstBits p step)
  | "satisfy_constraints" => counts <$> p.satisfying (← firstCounts step)
  | "fix_constraint_violation" => counts <$> recounted (fun _ => throw (notAvailable p)) (← firstCounts step)
  | "fix_variables" | "fix_constraint_violation_bitstring" => throw (notAvailable p)
  | _ => fail .noAttr

def instanceStep (penalty : Number) (s : Json) : Action (Findings Number) Json := do
  match verb s with
  | "upper_bound" => quantity <$> p.known upper
  | "lower_bound" => quantity <$> p.known lower
  | "average_quality" => quantity <$> p.known average
  | "best_quality" => quantity <$> p.known best
  | "dim" => pure p.size
  | "penalty" => if p.isLimited then return quantity penalty else fail .noAttr
  | "initialize_properties" =>
    let limit ← (match s.field? "max_size" with
      | none => return some usualLimit
      | some .null => pure none
      | some v => some <$> toNum v)
    p.survey limit
    let x ← get
    return .list [x.upper, x.lower, x.average, x.best] optQuantity
  | "clear" =>
    match textD s "name" "" with
    | "upper_bound" => modify ({ · with upper := none })
    | "lower_bound" => modify ({ · with lower := none })
    | "average_quality" => modify ({ · with average := none })
    | "best_quality" => modify ({ · with best := none })
    | _ => pure ()
    pure .null
  | _ =>
    modify ({ · with notes := 0 })
    let v ← method p s
    let ns := (← get).notes
    if ns = 0 then return v
    pure [("value", v), ("printed", String.join (.replicate ns violationNote))]

variable (r : Json)

def pairsInOrder (ps : List (Nat × Nat)) := naturalPairs (orderedPairs ps)

variable (g : Graph Nat Number)

def cutOrReason (bits : String) :=
  match checkCut g.order bits with
  | .ok () => quantity (cutWeight g bits)
  | .error f => f.text

def cuts (average upper : Json) (r : Json) : Result :=
  return .object
    [("matrix", quantityRows (cutMatrix g)), ("edges", pairsInOrder g.pairs), ("average", average), ("upper", upper),
     ("dim", g.order), ("cuts", .list (← textsD r "bits" []) (cutOrReason g))]

def labelPairs (ps : List (Label × Label)) : Result := do
  let ls := ps.flatMap fun e => [e.1, e.2]
  if ls.any (·.number?.isSome) && ls.any (·.number?.isNone) then fail .type
  let ordered := ps.map fun e => if e.1.atMost e.2 then e else e.swap
  let precedes (a b : Label × Label) : Bool := if a.1 = b.1 then a.2.atMost b.2 else a.1.atMost b.1
  return .list (ordered.mergeSort precedes) fun e => .array (if e.1 = e.2 then [label e.1] else [label e.1, label e.2])

variable (g : Labelled)

def painted := g.graph.mapEdges (·.get? "color")

def coloured :=
  (painted g).mapEdges fun colour => (colour.bind Value.number?).bind fun n =>
    let whole := Quantity.whole n
    if n == whole && 0 ≤ whole then some whole.toNat else none

def coloursInOrder (x : Table Value Label) : Result := do
  let es ← x.entries.mapM fun e => do pure (← require .type e.1.number?, e)
  return .list (es.mergeSort fun a b => a.1 ≤ b.1) fun e => [value e.2.1, label e.2.2]

def greatestRecognised : Int := 256

def isSeenFree (g : Graph Label (Option Value)) (v : Label) (colour : Nat) :=
  (g.row v).values.all fun x => if let some (.int n) := x then n != colour || greatestRecognised < n else true

def colouringParts (r : Json) : Result := do
  let ps := List.range (← needInt r "palette").toNat
  let (u, v) ← pairOf toLabel toLabel (← need r "edge") .invalid
  if !g.graph.hasNode u then fail (.other "NetworkXError")
  let ns := coloured g
  if !g.graph.hasEdge u v then refuse s!"The nodes {u.text} and {v.text} aren't connected by an edge."
  return .object
    [("on", ← coloursInOrder ((painted g).coloursOn u)), ("free", naturals (ns.freeColours ps u)),
     ("is_free", .list ps (isSeenFree (painted g) u ·)), ("fan", .list (ns.maximalFan ps u v) label)]

def needBias (ns : Notes) := do require .type (← ns.need "bias").number?

def operatorOf : Outcome (Named Number) := do
  let w := ((← g.graph.nodes.mapM (require .type ·.number?)).foldl max (-1) + 1).toNat
  let ns ← g.graph.nodes.mapM fun v => do pure (← v.position w, ← needBias (g.notes.getD v ∅))
  let es ← g.graph.edges.mapM fun e => do pure (← e.1.position w, ← e.2.1.position w, ← needBias e.2.2)
  return Ansatz.operatorTerms ns es

def operator (xs : Named Number) : Json :=
  .array [[.text "SparsePauliOp", .array [.array ["PauliList", texts (xs.map Prod.fst)]],
    quantities (xs.map Prod.snd)]]

def graph : Result := do
  let g ← toGraph r
  match what r with
  | "relabel" =>
    let made := numbered g.graph
    return .object
      [("edges", pairsInOrder made.graph.pairs), ("nodes", naturals made.graph.nodes),
       ("to_new", .list made.numbers.entries fun e => [label e.1, e.2]),
       ("to_old", .list made.labels.entries fun e => .array [e.1, label e.2])]
  | "maxcut" =>
    let plain := (numbered g.graph).graph.mapEdges fun _ => 1
    cuts plain (opt (.float ·.toFloat) (cutAverage? plain)) (quantity cutBound) r
  | "weighted_maxcut" => cuts (← weighted g) .null .null r
  | "bron_kerbosch" => return ← bitsOfLabels g.graph.order (g.graph.greatestIndependentSet Label.listed)
  | "greedy_mis" => return ← bitsOfLabels g.graph.order (greedySet Graph.leastBy? g.graph.order g.graph)
  | "coloring" =>
    let (colours, made) ← require .invalid ((coloured g).edgeColouring Graph.leastColour)
    return .object
      [("colors", ← (made.colourClasses colours).mapM labelPairs), ("valid", made.isProper),
       ("complete", made.isComplete)]
  | "coloring_check" =>
    let x := painted g
    return .array [x.isProper, x.edges.all fun e => !(e.2.2.getD .none).isNone]
  | "coloring_parts" => colouringParts g r
  | "hamiltonian" => operator <$> operatorOf g
  | "qubo" =>
    let ns := g.graph.nodes.map fun v => (v, biasOf (g.notes.getD v ∅))
    return draft (.ofGraph ns (g.graph.edges.map fun e => (e.1, e.2.1, biasOf e.2.2)) : Unconstrained Number).draft
  | _ => fail .missing

structure Independent where
  problem : IndependentSet Number
  isWeighted : Bool
  feasible : Names
  told : List Json

def toIndependent : Outcome Independent := do
  let g ← toGraph r
  let penalty ← numD r "penalty" 1
  let isWeighted := boolD r "weighted" false
  let problem ← if isWeighted then heaviest g penalty else pure (.largest g penalty)
  pure ⟨problem, isWeighted, ← textsD r "feasible" [], [modelStart (.matrix problem.objective)]⟩

def independentStep : Action Independent Json := do
  let s ← get
  let p := s.problem
  match verb step with
  | "made" =>
    let constraints := p.graph.pairs.map fun e =>
      call "add_constraint_from_iterable" [[naturals [e.1, e.2, 1]], "==", .int 0]
    return .object
      [("constraints", [call "Constraints", call "set_objective"] ++ constraints),
       ("objective", quantityRows p.objective), ("penalty", quantity p.penalty), ("upper", optQuantity p.upper)]
  | "fix" =>
    let (made, sent) ← p.fix (← needAs step "variables" toFixing)
    set { s with problem := made }
    return .object
      [("constraints", pairsInOrder made.conflicts), ("fixed", fixing made.fixed.entries), ("sent", fixing sent)]
  | "repair" =>
    return counts (← recounted (fun bits => do
      if s.isWeighted then throw (notImplemented "MaximumWeightISInstance")
      return p.repair (← isAmong s.feasible bits) bits) (← needAs step "counts" toCounts))
  | "satisfy" => return counts ⟨← (← needAs step "counts" toCounts).entries.filterM (isAmong s.feasible ·.1)⟩
  | "bqm" =>
    let told := s.told ++ call "copy" :: p.penalties.map (edit label Label.text)
    set { s with told }
    return .array [p.graph.order, told]
  | _ => fail .noAttr

def toUnconstrained : Outcome (Unconstrained Number) := do
  let refusal := Fault.refuse ("The input is not a valid QUBO object. Valid objects are: 2D numpy array, networkx graph "
    ++ "or dimod BQM.")
  let some (.array rs) := (← need r "object").field? "array" | throw refusal
  if rs.isEmpty || rs.any fun | .array (.array _ :: _) => true | .array _ => false | _ => true then throw refusal
  if (rs.map (·.items.length)).eraseDups.length ≠ 1 then fail .invalid
  .ofMatrix <$> toNumRows (rs)

def spread {α : Type} (ps : Nat) : List α → List α
  | [x] => .replicate ps x
  | xs => xs

def matrixOf (vectors : Json) : Result := do
  let linear ← needAs vectors "linear" toNums
  let rs ← needList vectors "row" toInt
  let cols ← needList vectors "col" toInt
  let biases ← needAs vectors "bias" toNums
  let ps := if rs.length = 1 then cols.length else rs.length
  let cols := spread ps cols
  if cols.length ≠ ps then fail .index
  let place (n : Int) := Label.position linear.length (.number n)
  let rs ← (spread ps rs).mapM place
  let cols ← cols.mapM place
  let biases := spread ps biases
  if biases.length ≠ ps then fail .invalid
  let diagonal := linear.zipIdx.map fun e => ((e.2, e.2), e.1)
  return quantityRows (sparseMatrix linear.length (.ofList (diagonal ++ (rs.zip cols).zip biases)))

def unconstrainedStep : Action (Unconstrained Number) Json := do
  let p ← get
  match verb step with
  | "made" =>
    return .object [("calls", draft p.draft), ("dim", p.unknowns.length), ("original", .list p.unknowns label)]
  | "fix" =>
    let vs ← needAs step "variables" toFixing
    let made ← p.fix vs
    set made
    pure [("fixed", fixing made.fixed.entries), ("last", .object (vs.map fun e => (e.1.text, e.2)))]
  | "matrix" => matrixOf (← need step "vectors")
  | _ => fail .noAttr

def toTerm (j : Json) := pairOf toLabel toNum j .invalid

def toConstraint (j : Json) : Outcome (Constraint Label Number) := do
  let sense ← (match textD j "sense" "" with
    | "==" => pure .equal
    | ">=" => pure .atLeast
    | "<=" => pure .atMost
    | _ => fail .missing)
  pure {
    terms := ← j.each "linear" toTerm
    isLinear := (j.get "quadratic").items.isEmpty
    constant := ← numD j "offset" 0
    sense
    bound := ← toNum (← need j "rhs") }

def constrained : Result := do
  let obj ← need r "objective"
  let quadratic ← obj.each "quadratic" fun x => do
    let [u, v, bias] ← toItems x | fail .invalid
    pure (← toLabel u, ← toLabel v, ← toNum bias)
  let p : Constrained Label Number := {
    unknowns := ← r.each "variables" toLabel
    linear := ← obj.each "linear" toTerm
    quadratic
    constraints := ← r.each "constraints" toConstraint }
  let penalty ← numD r "penalty" 1
  let more ← r.each "penalties" toNum
  return .list (← p.drafts (penalty :: more) 0) (draft ·)

end Transmon.Request.Problems
