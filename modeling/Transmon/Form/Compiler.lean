import Transmon.Compiler.Standard
import Transmon.Form.Settings

/-!
JSON forms of operations, their parameters and their calibration.
-/

namespace Transmon.Form

def params : Param.Tree → Json
  | .item x =>
    .object ([("label", .text x.label), ("unit", .text x.unit), ("data", .text x.data.name),
      ("collection", .text x.collection.name)] ++
      if let some y := x.default then [("default", value y)] else [])
  | .group es => es.map fun e => (e.1, params e.2)
decreasing_by grind

def locusKey (locus : Names) := Calibration.nameOfLocus locus

def sortedPairs (ps : Named String) : Json :=
  .list (ps.mergeSort fun a b => a.1 < b.1 || (a.1 == b.1 && a.2 ≤ b.2)) fun e => texts [e.1, e.2]

def localDefaults (o : Operation) := sortedPairs (o.localDefaults.entries.map fun e => (locusKey e.1, e.2))

def operation (o : Operation) : Json :=
  .object
    [("arity", o.arity), ("params", texts o.params),
     ("implementations", .list o.implementations.entries fun e => texts [e.1, e.2.name]),
     ("symmetric", o.isSymmetric), ("factorizable", o.isFactorizable),
     ("defaults_for_locus", localDefaults o), ("unitary", o.matrix.isSome)]

def operations (t : OperationTable) : Json := .table t.entries operation

variable (j : Json)

def toLocalDefaults : Outcome (Table Names String) := .ofList <$> listOf j (pairOf toTexts toText)

def toAttr (n : String) (j : Json) : Outcome Operation.Attr := do
  if n = "defaults_for_locus" then return .localDefaults (← toLocalDefaults j) false
  else return .value (toPlain j)

def toPlainAttr (n : String) (j : Json) : Outcome Operation.Attr := do
  if n = "defaults_for_locus" then
    let .object fs := j | fail .noAttr
    return .localDefaults (.ofList (← fs.mapM fun e => do pure ([e.1], ← toText e.2))) true
  else return .value (toPlain j)

variable (fs : Fields)

def toAttrs (read : String → Json → Outcome Operation.Attr := toAttr) : Outcome (Named Operation.Attr) :=
  fs.mapM fun e => do pure (e.1, ← read e.1 e.2)

def toNamed : Json → Outcome Fields
  | .object fs => return fs
  | _ => fail .noAttr

def toDef (read : String → Json → Outcome Operation.Attr) (j : Json) : Outcome Operation.Def := do
  let fs ← toNamed j
  let impls ← (← toNamed (j.group "implementations")).mapM fun e => do
    match e.2 with
    | .array _ | .object _ => fail .type
    | x => pure (e.1, x.shown)
  pure ⟨impls, ← toAttrs (fs.filter (·.1 != "implementations")) read⟩

def toDefs (read : String → Json → Outcome Operation.Attr := toAttr) := do readAll (toDef read) (← toNamed j)

def toObs : Outcome Dict := return (← toFields j).map fun e => (e.1, toCal ((e.1.splitOn ".").getLastD "") e.2)

def toCalTree : Outcome CalibrationTree := do Calibration.treeOf (← toObs j)

def calData (d : CalibrationData) := value (.dict d)

def calTree (t : CalibrationTree) (s : CalibrationData → Json := calData) : Json :=
  .table t.entries fun e => .table e.entries fun f => f.entries.map fun g => (locusKey g.1, s g.2)

/-!
JSON forms of circuits.
-/

def toArg : Json → Value
  | .int n => .float (Decimal.ofInt n)
  | .array xs => .tuple (xs.map toArg)
  | .object fs => .dict (fs.map fun e => (e.1, toArg e.2))
  | plain => toPlain plain
decreasing_by all_goals grind

def toArgEntries : Dict := fs.map fun e => (e.1, toArg e.2)

variable (j : Json)

def toStep : Outcome Circuit.Step :=
  return {
    name := ← needText j "name"
    locus := ← needTexts j "locus"
    arguments := toArgEntries (j.get "args").fields
    implementation := text? j "impl" }

def toSteps := listOf j toStep

variable (s : Circuit.Step)

def circuitStep : Json :=
  .object [("name", s.name), ("locus", texts s.locus), ("args", value (.dict s.arguments)),
    ("impl", optText s.implementation)]

/-!
JSON forms of what a compiler takes and gives.
-/

open Compiler Text

def toDecouplingPattern : Json → Outcome DecouplingPattern
  | .text s => return .letters s
  | x => .rotations <$> listOf x (pairOf toFloat toFloat)

def toDecouplingSeq : Json → Outcome DecouplingSeq
  | .array [ratio, pat, align] => do pure ⟨← toNum ratio, ← toDecouplingPattern pat, ← toText align⟩
  | _ => fail .type

def toDecouplingStrategy : Outcome DecouplingStrategy := do
  checkFields fs []
    ["merge_contiguous_waits", "target_qubits", "skip_leading_wait", "skip_trailing_wait", "gate_sequences"]
  let j := Json.object fs
  pure {
    joinsWaits := boolD j "merge_contiguous_waits" true
    targets := ← given? j "target_qubits" toTexts
    skipsLeading := boolD j "skip_leading_wait" true
    skipsTrailing := boolD j "skip_trailing_wait" true
    sequences := ← j.each "gate_sequences" toDecouplingSeq }

def optionNames : Names :=
  ["measurement_mode", "heralding_mode", "dd_mode", "dd_strategy", "circuit_boundary_mode", "move_gate_validation",
   "move_gate_frame_tracking", "active_reset_cycles"]

def toOptions : Outcome Options := do
  let fs := j.fields
  checkFields fs [] optionNames
  let standard : Options := {}
  let mode {α : Type} (n : String) (ofName : String → α) (usual : α) : α :=
    if let some x := fs.lookup n then ofName x.shown else usual
  let strategy ← match fs.lookup "dd_strategy" with
    | none | some .null => pure .standard
    | some (.object inner) => .custom <$> toDecouplingStrategy inner
    | some y => pure (.unknown y.shown)
  pure {
    measurement := mode "measurement_mode" .ofName standard.measurement
    heralding := mode "heralding_mode" .ofName standard.heralding
    decoupling := mode "dd_mode" .ofName standard.decoupling
    strategy
    boundary := mode "circuit_boundary_mode" .ofName standard.boundary
    moveValidation := mode "move_gate_validation" .ofName standard.moveValidation
    frameTracking := mode "move_gate_frame_tracking" .ofName standard.frameTracking
    resetCycles := ← given? j "active_reset_cycles" toInt }

def toCircuits : Outcome (List Circuit) := do
  let xs ← toItems j
  (xs.zip (.range xs.length)).mapM fun (x, i) =>
    return { name := textD x "name" s!"c{i}", steps := ← toSteps (← need x "instructions") }

def compiledStep : Json :=
  match s.arguments.lookup "key" with
  | some (.text k) => circuitStep (if k = finalKey then { s with locus := sorted s.locus } else s)
  | _ => circuitStep s

def circuit (c : Circuit) : Json := .object [("name", c.name), ("instructions", .list c.steps compiledStep)]

def isOutlinedBefore (a b : Timebox) : Bool :=
  let (left, right) := (sorted a.locus, sorted b.locus)
  let length (box : Timebox) : Float := ((box.timeline.map Schedule.duration).map Number.toFloat).getD 0.0
  if left = right then length a ≤ length b else lexical left right

def boxOutline : Timebox → Json
  | ⟨_, _, l, locus, tl, cs, _, _, _⟩ =>
    let inner := cs.map boxOutline
    let ordered := if cs.all (·.label == "Wait")
      then ((cs.zip inner).mergeSort fun a b => isOutlinedBefore a.1 b.1).map Prod.snd
      else inner
    .array [l, names locus, opt (number ·.duration) tl, ordered]

def scheduleOutline (s : Schedule) : Json :=
  .table s.channels.entries fun e => .list e.instructions fun i => .array [i.kind.name, number i.duration]

def playlistOutline (p : Playlist) : Json :=
  .object [("segments", p.segments.length), ("channels", names p.channels.keys)]

def compiled (b : Builder) (isFull : Bool) : Data → Json
  | .circuits list => .list list circuit
  | .boxes ns => .list ns fun n => (if isFull then timebox else boxOutline) (b.shelf.tree n)
  | .schedules tls =>
    .list tls fun tl =>
      match ((Build.contents tl).run.run b).1 with
      | .ok s => if isFull then schedule s else scheduleOutline s
      | .error _ => .null
  | .playlist p => if isFull then playlist p else playlistOutline p

def metrics (m : Metrics) : Json :=
  .object
    [("components", names m.components),
     ("pairs", .list (m.pairs.mergeSort lexical) texts),
     ("loci", .table m.loci.entries fun e => .table e.entries fun e =>
       .object (e.entries.map fun e => (locusKey e.1, e.2))),
     ("duration", rounded 12 m.duration), ("time", rounded 12 m.time)]

def readoutLabels (ls : ReadoutLabels) : Json :=
  (ls.map fun e => (e.1, if e.1 = heraldKey then names e.2 else texts e.2))

def contextEntries (c : Context) :=
  let shown (n k : String) (form : Entry → Option Json) : Fields :=
    if let some json := (c.get? k).bind form then [(n, json)] else []
  shown "metrics" "circuit_metrics" (fun | .metrics list => some (.list list metrics) | _ => none)
    ++ shown "readout" "readout_mappings" (fun | .readout list => some (.list list readoutLabels) | _ => none)
    ++ shown "heralded" "heralded_components" (fun | .heralded list => some (.list list names) | _ => none)

end Transmon.Form
