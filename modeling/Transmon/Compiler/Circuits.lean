import Transmon.Builder.Play
import Transmon.Compiler.Options
import Transmon.Readout
import Transmon.Settings.Tree

/-!
What the passes of a compilation work on and what they tell each other.
-/

namespace Transmon.Compiler

structure Metrics where
  components : Names := []
  pairs : List Names := []
  loci : Table String (Table String (Table Names Nat)) := ∅
  duration : Float := 0.0
  time : Float := 0.0

abbrev ReadoutLabels := Named Names

inductive Data
  | circuits (circuits : List Circuit)
  | boxes (boxes : List Nat)
  | schedules (timelines : List Timeline)
  | playlist (playlist : Playlist)

inductive Entry
  | builder
  | calibration (obs : Dict)
  | mapping (mapping : Option (Named String))
  | opts (opts : Options)
  | channels (channels : Channels)
  | chip (chip : Chip.Topology)
  | metrics (metrics : List Metrics)
  | readout (labels : List ReadoutLabels)
  | heralded (parts : List Names)
  | schedules (timelines : List Timeline)
  | settings (tree : Settings.Tree)
  | note (value : Value)

abbrev Context := Table String Entry

namespace Context

def find {α : Type} (c : Table String α) (n : String) (said : String := s!": \"{n}\".") : Outcome α :=
  if let some e := c.get? n then pure e else failWith .missingContext s!"Missing context data{said}"

variable (c : Context)

def opts : Outcome Options := do
  let .opts opts ← find c "options" | fail .noAttr
  pure opts

def mapping : Outcome (Option (Named String)) := do
  let .mapping mapping ← find c "component_mapping" | fail .noAttr
  pure mapping

def metrics : Outcome (List Metrics) := do
  let .metrics metrics ← find c "circuit_metrics" | fail .type
  pure metrics

def heralded : Outcome (List Names) := do
  let .heralded parts ← find c "heralded_components" | fail .type
  pure parts

end Context

def Data.toCircuits : Data → Outcome (List Circuit)
  | .circuits list => pure list
  | .playlist _ => fail .type
  | _ => fail .noAttr

def Data.toBoxes : Data → Outcome (List Nat)
  | .boxes ns => pure ns
  | .playlist _ => fail .type
  | _ => fail .noAttr

def Data.toSchedules : Data → Outcome (List Timeline)
  | .schedules timelines => pure timelines
  | .playlist _ => fail .type
  | _ => fail .noAttr

/-!
Passes and stages.
-/

structure Pass where
  name : String
  run : Data → Context → Build (Data × Context)

def Pass.onBuilder (name : String) (run : Data → Context → Build (Data × Context)) : Pass where
  name
  run data c := do
    let _ ← Context.find c "builder"
    run data c

structure Stage where
  name : String
  passes : List Pass

variable (s : Stage)

def Stage.report (p : Pass) (f : Fault) : Fault :=
  let isClients := f.kind matches .compilation | .badCircuit | .unknownOption | .calibration | .decoupling
  .because (if isClients then f.kind else .runtime) s!"Error in stage \"{s.name}\" pass \"{p.name}\": {f.text}"

def runPasses (report : Pass → Fault → Fault) : List Pass → Data → Context → Build (Data × Context)
  | [], d, c => pure (d, c)
  | pass :: xs, d, c => do
    let (d, c) ← tryCatch (pass.run d c) fun fault => throw (report pass fault)
    runPasses report xs d c

def Stage.run (d : Data) (c : Context) := runPasses s.report s.passes d c

def Stage.isReady := !s.passes.isEmpty

def outline (ss : List Stage) : String :=
  if ss.isEmpty then "No stages defined.\n"
  else .join ((ss.zip (.range ss.length)).map fun (s, n) =>
    s!"Stage {n}: {s.name}\n"
      ++ (if s.isReady then "" else "    No passes defined.\n")
      ++ .join ((s.passes.zip (.range s.passes.length)).map fun (pass, place) => s!"    {place}: {pass.name}\n")
      ++ "\n")

/-!
Passes made of plain functions.
-/

structure Wrapped (α : Type) where
  data : α
  entries : Table String α := ∅

def wrap {α : Type} (needed : Names) (fn : α → List α → Outcome (Wrapped α)) (data : α)
    (c : Table String α) : Outcome (α × Table String α) := do
  let result ← fn data (← needed.mapM (Context.find c ·))
  pure (result.data, c.insertMany result.entries.entries)

/-!
Passes on circuits.
-/

open Circuit (Step)

def eachCircuit {α : Type} (work : Circuit → Outcome α) (cs : List Circuit) : Outcome (List α) :=
  (cs.zip (.range cs.length)).mapM fun (c, i) =>
    match work c with
    | .ok r => pure r
    | .error f =>
      if f.kind = .badCircuit || f.kind = .invalid then
        failWith .badCircuit s!"Circuit {i}: {f.text}"
      else throw f

def currentName : String → String
  | "phased_rx" => "prx"
  | "measurement" => "measure"
  | n => n

def inRadians (args : Dict) (turns radians : String) : Outcome Dict := do
  let ys := args.filter (·.1 != turns)
  match args.lookup turns with
  | none | some .none => return ys
  | some v =>
    let some x := v.float? | hint .type "can't multiply sequence by non-int of type 'float'"
    return Table.put radians (.float (2.0 * Numeric.pi * x)) ys

def modernised (s : Step) := do
  let name := currentName s.name
  let arguments ← if name = "prx" || name = "cc_prx" then do
      inRadians (← inRadians s.arguments "angle_t" "angle") "phase_t" "phase"
    else pure s.arguments
  pure { s with name, arguments }

variable (mapping : Option (Named String))

def physical (d : Names) (part : String) : Outcome String := do
  match mapping with
  | none =>
    if d.contains part then pure part
    else failWith .badCircuit s!"Unknown physical qubit '{part}'."
  | some mapping =>
    let some t := mapping.lookup part
      | failWith .badCircuit s!"Logical qubit '{part}' does not map to a physical qubit."
    if d.contains t then pure t
    else
      failWith .badCircuit (s!"The logical qubit '{part}' maps to the physical qubit '{t}'. However, this "
        ++ "physical qubit does not appear on the QPU.")

def placed (d : Names) (s : Step) := return { s with locus := ← s.locus.mapM (physical mapping d) }

def Metrics.count (ms : Metrics) (o : Operation) (n i : String) (locus : Names) :=
  { ms with
    components := ms.components.union (.ofList locus)
    pairs := if o.arity = 2 && !ms.pairs.contains locus then ms.pairs ++ [locus] else ms.pairs
    loci := ms.loci.update n ∅ fun impls => impls.update i ∅ fun loci => loci.update locus 0 (· + 1) }

def implemented (b : Builder) (r : Calibration.Report) (st : List Step × Metrics) (s : Step) :
    Outcome (List Step × Metrics) := do
  let some o := b.operations.get? s.name | hint .missing (Text.quoted s.name)
  let (i, locus) ← match b.find o s.implementation s.locus false with
    | .ok found => pure found
    | .error f => if f.kind = .invalid then failWith .badCircuit f.text else throw f
  match r.get? (s.name, i, locus) with
  | some error =>
    let all := "\n- ".intercalate r.values
    failWith .calibration s!"Inconsistencies in calibration set:\n- {all}\n\nCause of error:\n{error}"
  | none => pure (st.1 ++ [{ s with implementation := some i, locus }], st.2.count o s.name i locus)

def withImpls (b : Builder) (r : Calibration.Report) (validation : MoveValidation)
    (c : Circuit) : Outcome (Circuit × Metrics) := do
  let (steps, metrics) ← c.steps.foldlM (implemented b r) ([], {})
  if metrics.loci.contains "move" && validation ≠ .none then
    Circuit.checkMoves b.station.chip (decide (validation ≠ .allowRotations)) steps
  pure ({ c with steps }, metrics)

def finalKey := "__MEASUREMENT_MODE"

def readoutLabel (part key : String) := s!"{part}__{key}"

def measures (steps : List Step) := steps.filter (·.name == "measure")

structure Labelling where
  steps : List Step := []
  labels : ReadoutLabels := []
  used : Names := []
  measured : Names := []

def Labelling.add (total : Nat) (step : Step) (s : Labelling) : Outcome Labelling := do
  let used := s.used.union (.ofList step.locus)
  if step.name ≠ "measure" then return { s with steps := step :: s.steps, used }
  let some v := step.arguments.lookup "key" | hint .missing "'key'"
  let k := v.plain
  if k = finalKey || k = heraldKey then
    failWith .badCircuit s!"Measurement keys ['{finalKey}', '{heraldKey}'] are reserved for internal use."
  let label := s!"m{total - s.labels.length}"
  pure {
    steps := { step with arguments := Table.put "key" (.text label) step.arguments } :: s.steps
    labels := Table.put k (step.locus.map (readoutLabel · label)) s.labels
    used
    measured := if Names.meets step.locus s.used then s.measured else s.measured.union (.ofList step.locus) }

/-- The steps with a measurement at the end of the components in `final` that are not measured last anyway. -/
def Labelling.closed (final : Names) (state : Labelling) :=
  let missing := Text.sorted (Names.diff final state.measured)
  if missing.isEmpty then state.steps
  else state.steps ++ [{ name := "measure", locus := missing, arguments := [("key", .text finalKey)] }]

/-- A circuit with labelled measurements, the labels of each key, and the components that are measured first. -/
def labelled (measurable final : Names) (heralding : HeraldingMode) (c : Circuit) (ms : Metrics) :
    Outcome (Circuit × ReadoutLabels × Names) := do
  let s ← c.steps.foldrM (Labelling.add (measures c.steps).length) {}
  let steps := s.closed final
  if heralding = .none then return ({ c with steps }, s.labels, [])
  let heralded := Text.sorted (Names.inter ms.components measurable)
  let ls := Table.put heraldKey (heralded.map (readoutLabel · heraldKey)) s.labels
  pure ({ c with steps }, ls, heralded)

variable (cal : CalibrationTree)

def measurable : Outcome Names := do
  let some impls := cal.get? "measure" | hint .missing "'measure'"
  return .ofList (impls.values.flatMap (·.keys.flatten))

def measuredAtEnd (mode : MeasurementMode) (measurable : Names) : Outcome Names :=
  match mode with
  | .all => pure measurable
  | .circuit => return []
  | .unknown s => failWith .unknownOption s!"Unknown measurement mode: {s}"

def labelAll (o : Options) (cs : List Circuit) (metrics : List Metrics) :
    Outcome (List (Circuit × ReadoutLabels × Names)) := do
  let measurable ← measurable cal
  let final ← measuredAtEnd o.measurement measurable
  (cs.zip (.range cs.length)).mapM fun (c, i) => do
    let own ← if o.heralding = .none then pure {}
      else match metrics[i]? with
        | some own => pure own
        | none => hint .index "tuple index out of range"
    match labelled measurable final o.heralding c own with
    | .ok r => pure r
    | .error f =>
      if f.kind = .badCircuit then
        failWith .badCircuit s!"Circuit {i}: {f.text}"
      else throw f

end Transmon.Compiler
