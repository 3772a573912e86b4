import Transmon.Compiler.Circuits
import Transmon.Schedule.MoveCorrection
import Transmon.Settings.Station

/-!
Passes on boxes and schedules.
-/

namespace Transmon

namespace Compiler

open Build

open Timebox (Group Nesting Shelving)

def blamingCircuits {α : Type} (k : Fault.Kind) (start : String) (work : Build α) :=
  tryCatch work fun f => if f.kind = .invalid then failWith k (start ++ f.text) else throw f

def boxesOf (cs : List Circuit) :=
  blamingCircuits .compilation "" (cs.mapM fun c => circuitBox c.steps c.name .hardBoundary [])

def multiplex (n : Nat) := do put (← (← tree n).multiplexed)

def pauseAfterHerald := 4.0 * 8e-08

def withHerald (ps : Names) (n : Nat) := do
  let herald ← call (← implementNamed "measure" ps none false false none) { named := [("key", .text heraldKey)] }
  let start ← onShelf (.add herald (.one (← put (← wait ps pauseAfterHerald false))))
  let .one n ← onShelf (.beside start (.one n)) | fail .noAttr
  pure n

def withReset (cs : Option Int) (ps : Names) (n : Nat) := do
  let reset ← match cs with
    | none => do compose [(← call (← implementNamed "reset_wait" ps none false false none) {}).nesting] ""
    | some count => do
      compose (.replicate count.toNat (← call (← implementNamed "reset" ps none false false none) {}).nesting) ""
  onShelf (.plus reset n)

def DecouplingPattern.turns : DecouplingPattern → Outcome (List (Float × Float))
  | .letters t => Schedule.Decoupling.ofPattern t
  | .rotations ps => pure ps

variable (st : DecouplingStrategy)

def DecouplingStrategy.rules : Outcome (List DecouplingRule) :=
  (st.sequences.mergeSort fun a b => b.ratio ≤ a.ratio).mapM fun seq =>
    return ⟨seq.ratio, ← seq.pattern.turns, seq.alignment⟩

variable (s : Schedule)

def DecouplingStrategy.insert : Build Schedule := do
  decouple (fun _ => pure ()) (← st.rules) st.targets st.skipsLeading st.skipsTrailing s

/-- The copy of a schedule that a strategy works on. -/
def DecouplingStrategy.prepared (sta : Station) (s : Schedule) :=
  (if st.joinsWaits then withJoinedWaits sta s else s.measured).cleanup

/-- The schedule that a strategy makes of another, before it belongs to the builder. -/
def DecouplingStrategy.apply := do st.insert (st.prepared (← station) s)

def decoupled (tl : Timeline) : Build Timeline := do
  own (← tryCatch (st.apply (← contents tl)) fun f =>
    if f.kind = .unassigned then
      hint .unassigned "cannot access local variable 'prx' where it is not associated with a value"
    else throw f)

def Options.decouplingStrategy (o : Options) : Outcome (Option DecouplingStrategy) :=
  match o.decoupling, o.strategy with
  | .disabled, _ => pure none
  | .enabled, .standard => return some .standard
  | .enabled, .custom st => return some st
  | .enabled, .unknown _ => failWith .unknownOption "Unsupported dynamical decoupling strategy submitted."
  | .unknown shown, _ => failWith .unknownOption s!"Unsupported dynamical decoupling mode requested ({shown})."

def decoupleAll (o : Options) (tls : List Timeline) : Build (List Timeline) := do
  if let some st ← o.decouplingStrategy then tls.mapM (decoupled st)
  else tls.mapM fun tl => do own (← contents tl).measured

def corrected (tracking : FrameTracking) (ms : Metrics) (tl : Timeline) : Build Timeline := do
  if !ms.loci.contains "move" || tracking = .none then return tl
  let start := "Unable to determine MOVE gate phase correction, consider using MOVE gate validation or turn "
    ++ "off MOVE gate frame tracking: "
  blamingCircuits .badCircuit start do
    own (← (← contents tl).correctMoves (← station) (decide (tracking ≠ .withoutDetuning)))

end Compiler

/-!
The standard passes and stages, from circuits to a playlist.
-/

namespace Compiler.Standard

def validateOptions : Pass where
  name := "validate_execution_options"
  run data ctx := do
    let o ← ctx.opts
    let checksMoves := o.moveValidation = .strict || o.moveValidation = .allowRotations
    if o.frameTracking = .full && !checksMoves then
      failWith .badCircuit "Full MOVE gate frame tracking requires MOVE gate validation to be 'strict' or 'allow_prx'."
    pure (data, ctx)

def modernise : Pass where
  name := "map_old_operations"
  run data ctx := do
    let cs ← data.toCircuits
    let cs ← cs.mapM fun c => return { c with steps := ← liftM (c.steps.mapM modernised) }
    pure (.circuits cs, ctx)

def validateCircuits : Pass := .onBuilder "validate_circuits" fun d c => do
  let cs ← d.toCircuits
  let ops := (← get).operations
  let _ ← eachCircuit (Circuit.check ops true ·.steps) cs
  pure (d, c)

def mapComponents : Pass := .onBuilder "map_components" fun data ctx => do
  let m ← ctx.mapping
  let cs ← data.toCircuits
  let d := (← get).station.chip.dataComponents
  pure (.circuits (← liftM (eachCircuit (fun c => return { c with steps := ← c.steps.mapM (placed m d) }) cs)), ctx)

def chooseImpls : Pass := .onBuilder "choose_op_implementations" fun d c => do
  let o ← c.opts
  let cs ← d.toCircuits
  let b ← get
  let r ← Calibration.report b.calibration b.operations
  let rs ← eachCircuit (withImpls b r o.moveValidation) cs
  pure (.circuits (rs.map Prod.fst), c.insert "circuit_metrics" (.metrics (rs.map Prod.snd)))

def deriveReadout : Pass := .onBuilder "derive_readout_mappings" fun d c => do
  let o ← c.opts
  let ms ← c.metrics
  let cs ← d.toCircuits
  let rs ← labelAll (← get).calibration o cs ms
  let c := c.insert "readout_mappings" (.readout (rs.map (·.2.1)))
  pure (.circuits (rs.map Prod.fst), c.insert "heralded_components" (.heralded (rs.map (·.2.2))))

def resolveCircuits : Pass := .onBuilder "resolve_circuits" fun d c => return (.boxes (← boxesOf (← d.toCircuits)), c)

def multiplexReadout : Pass where
  name := "multiplex_readout"
  run data ctx := return (.boxes (← (← data.toBoxes).mapM multiplex), ctx)

def prependHeralding : Pass := .onBuilder "prepend_heralding" fun d c => do
  let heralded ← c.heralded
  let o ← c.opts
  if o.heralding ≠ .zeros then return (d, c)
  let bs ← d.toBoxes
  let bs ← blamingCircuits .compilation "" <|
    (bs.zip (.range bs.length)).mapM fun (n, i) =>
      if let some ps := heralded[i]? then withHerald ps n
      else hint .index "tuple index out of range"
  pure (.boxes bs, c)

def prependReset : Pass := .onBuilder "prepend_reset" fun d c => do
  let o ← c.opts
  let ms ← c.metrics
  if !(← get).calibration.contains "reset_wait" then return (d, c)
  let bs ← d.toBoxes
  let bs ← blamingCircuits .compilation "" <| (bs.zip ms).mapM fun (n, ms) =>
    withReset o.resetCycles (Text.sorted ms.components) n
  pure (.boxes bs, c)

def resolveBoxes : Pass := .onBuilder "resolve_timeboxes" fun d c =>
  return (.schedules (← (← d.toBoxes).mapM (.timelineOf · 1 false)), c)

def applyDecoupling : Pass := .onBuilder "apply_dd_strategy" fun d c =>
  return (.schedules (← decoupleAll (← c.opts) (← d.toSchedules)), c)

def correctMoves : Pass := .onBuilder "apply_move_gate_phase_corrections" fun d c => do
  let ms ← c.metrics
  let o ← c.opts
  let tls ← d.toSchedules
  let tls ← (tls.zip ms).mapM fun (tl, ms) => corrected o.frameTracking ms tl
  pure (.schedules tls, c)

def cleanSchedules : Pass := .onBuilder "clean_schedule" fun d c =>
  return (.schedules (← (← d.toSchedules).mapM .finish), c)

def buildPlaylist : Pass := .onBuilder "build_playlist" fun d c => do
  let tls ← d.toSchedules
  pure (.playlist (← .playlistOf tls true), c.insert "schedules" (.schedules tls))

def stages : List Stage :=
  [⟨"circuit", [validateOptions, modernise, validateCircuits, mapComponents, chooseImpls, deriveReadout]⟩,
   ⟨"circuit_resolution", [resolveCircuits]⟩,
   ⟨"timebox", [multiplexReadout, prependHeralding, prependReset]⟩,
   ⟨"timebox_resolution", [resolveBoxes]⟩,
   ⟨"dynamical_decoupling", [applyDecoupling]⟩,
   ⟨"schedule", [correctMoves, cleanSchedules]⟩,
   ⟨"schedule_resolution", [buildPlaylist]⟩]

def passes := stages.flatMap Stage.passes

end Compiler.Standard

/-!
A compiler: a calibration, a builder made from it, options and stages.
-/

structure Compiler where
  calibration : Dict
  mapping : Option (Named String) := none
  opts : Compiler.Options := {}
  stages : List Compiler.Stage := Compiler.Standard.stages
  isIsolated : Bool := true
  builder : Builder

namespace Compiler

def checkCalibration (b : Builder) : Check := do
  let .error fault := Calibration.check b.calibration b.operations | pure ()
  if fault.kind = .invalid then failWith .calibration fault.text else throw fault

def builderFor (s : Station) (ops : OperationTable) (cal : Dict) := do
  let frequency? (n : String) : Option Float := (cal.lookup n).bind Value.float?
  Builder.make { s with channels := ← Station.tuned s.channels s.lines frequency? } ops (← Calibration.treeOf cal)

def make (s : Station) (cal : Dict) (isStrict : Bool) : Outcome Compiler := do
  let builder ← builderFor s Operation.library cal
  match checkCalibration builder with
  | .ok _ => pure ()
  | .error f => if isStrict || f.kind ≠ .calibration then throw f
  pure { calibration := cal, builder }

abbrev Tuning := Work Compiler

def refresh : Tuning Unit := do
  let compiler ← get
  let builder ← builderFor compiler.builder.station compiler.builder.operations compiler.calibration
  set { compiler with builder }
  checkCalibration builder

def setCalibration (cal : Dict) : Tuning Unit := do
  modify ({ · with calibration := cal })
  refresh

def operation (n : String) : Tuning Operation := do (← get).builder.operations.need n

def setOp (n : String) (o : Operation) : Tuning Unit :=
  modify fun c => { c with builder.operations := c.builder.operations.insert n o }

variable (name i : String)

def amended (locus : Names) (ps cal : Dict) :=
  let place := Calibration.nameOfLocus locus
  ps.foldl (fun cal (p, v) => Table.put s!"gates.{name}.{i}.{place}.{p}" v cal) cal

def amend (locus : Names) (ps : Dict) : Tuning Unit := do
  let c ← get
  match c.builder.operations.get? name with
  | none => refuse s!"{name} is not a registered gate."
  | some op =>
    if !op.implementations.contains i then refuse s!"{i} is not a registered gate implementation of {name}."
  setCalibration (amended name i locus ps c.calibration)

def setDefault : Tuning Unit := do
  setOp name (← (← operation name).setDefault i)
  refresh

def setDefaultAt (loci : List Names) : Tuning Unit := do
  loci.forM fun locus => do setOp name (← (← operation name).setLocalDefault i locus)
  refresh

def addImpl (d : Gate.Design) (asDefault overwrite : Bool) (as : Option (Named Operation.Attr)) : Tuning Unit := do
  let c ← get
  let (ops, o) := Operation.register c.builder.operations name i d asDefault overwrite as
  set { c with builder.operations := ops }
  o
  refresh

variable (c : Compiler)

def isReady := !c.stages.isEmpty && c.stages.all Stage.isReady

def ctx : Context :=
  .ofList
    [("calibration_set", .calibration c.calibration), ("builder", .builder),
     ("component_mapping", .mapping c.mapping), ("options", .opts c.opts),
     ("channel_properties", .channels c.builder.station.channels),
     ("chip_topology", .chip c.builder.station.chip)]

def build {α : Type} (work : Build α) : Tuning (α × Builder) := do
  let c ← get
  let (r, builder) := work.run.run c.builder
  if !c.isIsolated then set { c with builder }
  pure (← r, builder)

def runStages (ss : List Stage) (cs : List Circuit) (c : Context) :=
  ss.foldlM (fun state stage => do
    let (d, c) ← stage.run (state.1.headD (.circuits cs)) state.2
    pure (d :: state.1, c)) ([], c)

def compile (cs : List Circuit) : Tuning ((Data × Context) × Builder) := do
  let c ← get
  if !c.isReady then failWith .runtime "Compiler is not ready: no stages defined, or some stages have zero passes."
  build do
    let (rs, c) ← runStages c.stages cs c.ctx
    pure (rs.headD (.circuits cs), c)

def paramTrees (o : Operation) : String :=
  .join (o.implementations.entries.map fun (n, d) =>
    (Param.treeAt [] [s!"Operation: {o.name}, implementation: {n}"] d.params).outline)

def allParamTrees (ops : OperationTable) : String :=
  .join (ops.values.map fun o => s!"Operation: {o.name}\n{paramTrees o}-----------------------------------\n\n")

/-!
The settings of the station for compiled circuits, and how long the circuits take.
-/

def couplerOf (c : Chip.Topology) (pair : Names) :=
  let joins (e : String × Names) : Bool := (Names.ofList e.2).length == 2 && e.2.length == 2 && Names.same e.2 pair
  require .missing ((c.couplerComponents.entries.reverse.find? joins).map Prod.fst)

def setupFor (s : Station) (o : Options) (ms : List Metrics) : Outcome Station.Setup := do
  if ms.isEmpty then fail .type
  let c := s.chip
  let ps := ms.foldl (fun ns m => Names.union ns m.components) []
  let couplers ← (ms.flatMap Metrics.pairs).mapM (couplerOf c)
  let couplers := Names.ofList couplers
  let (around, couplersAround) ← c.boundary o.boundary ps couplers
  let pulsed := s.lines.entries.filter fun e => e.2.contains "flux" && c.qubits.contains e.1
  pure {
    qubits := .inter ps c.qubits
    couplers
    probeLines := c.probeLines
    boundaryQubits := .inter around c.qubits
    boundaryCouplers := couplersAround
    fluxPulsed := pulsed.map Prod.fst }

/-- The settings of the station for compiled circuits, and the metrics with their times. Settings of the context
under `custom_settings` go first. -/
def settings (c : Context) (shots : Number) : Build (Settings.Tree × List Metrics) := do
  let ns := ["schedules", "builder", "calibration_set", "circuit_metrics", "options"]
  let es ← liftM (ns.mapM fun m => Context.find c m s!" for building settings: '{m}'")
  let [.schedules tls, .builder, .calibration cal, .metrics ms, .opts o] := es
    | fail .type
  let sta ← .station
  let count := match shots with
    | .int n => .int n
    | .float x => .float x
  let t ← Station.settingsFor cal (← setupFor sta o ms) count
  let t ← match c.get? "custom_settings" with
    | some (.settings custom) => Settings.Tree.merge custom t
    | _ => pure t
  let delay ← liftM (require .type ((cal.lookup Station.endDelayObs).bind Value.float?))
  let ch ← require .exhausted sta.channels.values.head?
  let timed ← (ms.zip tls).mapM fun (own, tl) => do
    let duration ← ch.toSeconds (← .contents tl).duration
    pure { own with duration, time := shots.toFloat * (duration + delay) }
  pure (t, timed ++ ms.drop timed.length)

end Compiler

end Transmon
