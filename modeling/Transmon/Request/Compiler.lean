import Transmon.Request.Builder

/-!
Requests to a compiler.
-/

namespace Transmon.Request.Compilers

open Form Compiler
open Compiler (Tuning Pass Stage Context Data)

abbrev Step := Action Compiler

def same : Pass := ⟨"same", fun d c => pure (d, c)⟩

def mark : Pass where
  name := "mark"
  run data ctx := return (data, ctx.insert "marked" (← Context.find ctx "mark_key"))

def refusing : Pass := ⟨"fail", fun _ _ => refuse "told to fail"⟩

def refusingCircuit : Pass := ⟨"fail_client", fun _ _ => failWith .badCircuit "told to fail"⟩

def passNamed (n : String) :=
  let all := Standard.passes ++ [same, mark, refusing, refusingCircuit]
  require .missing (all.find? (·.name == n))

def toStages : Json → Outcome (List Stage × Bool)
  | .text "standard" => pure (Standard.stages, true)
  | .text _ => pure (Standard.stages, false)
  | j => do
    let ss ← listOf j fun x => do
      let [n, passes] ← toItems x | fail .invalid
      pure ⟨← toText n, ← (← toTexts passes).mapM passNamed⟩
    pure (ss, false)

def toMapping : Option Json → Outcome (Option (Named String))
  | none => pure none
  | some j => some <$> fieldsOf j toText

variable (r : Json)

/-- Reads what a compiler is made of. -/
def toCompiler := do
  let st ← needAs r "station" toStation
  let cal ← toObs (r.group "calset")
  let opts ← toOptions (r.get "options")
  let mapping ← toMapping (present? r "mapping")
  return fun isStrict => do pure { ← make st cal isStrict with opts, mapping }

def start := do
  let c ← toCompiler r
  let (stages, isIsolated) ← toStages (r.get "stages" "standard")
  pure { ← c (boolD r "strict" false) with stages, isIsolated }

def settingsForm (custom : Option Settings.Tree) (c : Context) (shots : Number) (b : Builder) : Outcome Fields := do
  let c := if let some t := custom then c.insert "custom_settings" (.settings t) else c
  let (t, timed) ← ((settings c shots).run.run b).1
  return [("settings", brief t), ("metrics", .list timed metrics)]

def circuitsOf : Step (List Circuit) := needAs r "circuits" toCircuits

def compileSteps : Option (Step Json) :=
  let isFull := boolD r "detail" false
  match verb r with
  | "compile" => some do
    let ((d, ctx), b) ← compile (← circuitsOf r)
    return ("data", compiled b isFull d) :: contextEntries ctx
  | "until" => some do
    let cs ← circuitsOf r
    let count ← needInt r "stages"
    let c ← get
    let ss := c.stages.take (if count < 0 then c.stages.length + count else count).toNat
    let work : Build (List Json × Data × Context) :=
      ss.foldlM (fun (forms, d, ctx) stage => do
        let (d, ctx) ← stage.run d ctx
        pure (forms ++ [compiled (← get) isFull d], d, ctx)) ([], .circuits cs, c.ctx)
    let ((forms, _, ctx), _) ← build work
    return .object (("stages", forms) :: contextEntries ctx)
  | "passes" => some do
    let cs ← circuitsOf r
    let passes ← needList r "names" fun x => do passNamed (← toText x)
    let ns ← toFields (r.group "context")
    let ctx := (← get).ctx.insertMany (ns.map fun e => (e.1, .note (toPlain e.2)))
    let ((d, ctx), b) ← build (runPasses (fun _ f => f) passes (.circuits cs) ctx)
    let marked := if let some (.note note) := ctx.get? "marked" then value note else .null
    return [("data", compiled b isFull d), ("marked", marked)] ++ contextEntries ctx
  | "settings" => some do
    let cs ← circuitsOf r
    let (shots, without) ← (return (← needAs r "shots" toNum, ← textsD r "without" []))
    let custom ← given? r "custom" settingsTree
    let ((_, ctx), b) ← compile cs
    .object <$> settingsForm custom (without.foldl .erase ctx) shots b
  | _ => none

def tuningSteps : Option (Step Json) :=
  let ns : Outcome (String × String) := return (← needText r "op", ← needText r "impl")
  let impls (n : String) := return texts (← operation n).implementations.keys
  match verb r with
  | "calibration" => some do
    let ks ← needTexts r "keys"
    let cal := (← get).calibration
    return ks.map fun k => (k, ((cal.lookup k).map value).getD .null)
  | "set_calibration" => some do
    setCalibration (← needAs r "calset" toObs)
    return (← get).calibration.length
  | "amend" => some do
    let (n, i) ← ns
    let locus ← needTexts r "locus"
    amend n i locus ((← needAs r "params" toFields).map fun e => (e.1, toCal ((e.1.splitOn ".").getLastD "") e.2))
    calData <$> Calibration.dataAt (← get).builder.calibration n i locus
  | "set_default" => some do
    let (n, i) ← ns
    setDefault n i
    impls n
  | "set_default_for" => some do
    let (n, i) ← ns
    setDefaultAt n i (← needList r "loci" toTexts)
    localDefaults <$> operation n
  | "add" => some do
    let (n, i) ← ns
    let d ← require .missing (Gate.Design.find? (← needText r "class"))
    let named := r.group "kwargs"
    let as ← given? named "quantum_op_specs" fun specs => do toAttrs (← toFields specs)
    addImpl n i d (boolD named "set_as_default" false) (boolD named "overwrite" false) as
    impls n
  | "trees" => some do return paramTrees (← operation (← needText r "op"))
  | "all_trees" => some do return .int (((allParamTrees (← get).builder.operations).splitOn "\n").length - 1)
  | "calibration_errors" => some do
    let b := (← get).builder
    let report ← Calibration.report b.calibration b.operations
    return .list ((report.entries.map fun ((n, i, locus), s) => [n, i, locusKey locus, s]).mergeSort Text.lexical) texts
  | _ => none

def step : Step Json := do
  match verb r with
  | "ready" => return (← get).isReady
  | "stages" => return outline (← get).stages
  | "options" =>
    let opts ← toOptions (r.get "options")
    modify ({ · with opts })
    pure .null
  | "mapping" =>
    let mapping ← toMapping (present? r "mapping")
    modify ({ · with mapping })
    pure .null
  | _ => ((compileSteps r).or (tuningSteps r)).getD (fail .missing)

def answer := continuing r (start r) step

def compileAll : Result := do
  let c ← toCompiler r
  let shots ← needAs r "shots" toNum
  let custom ← given? r "custom" settingsTree
  let cs ← needAs r "circuits" toCircuits
  let (r, _) := (compile cs).run.run { ← c true with isIsolated := false }
  let ((d, ctx), b) ← r
  let ls := (contextEntries ctx).lookup "readout"
  return [("playlist", compiled b false d), ("readout", ls.getD .null)] ++ (← settingsForm custom ctx shots b)

def stationSettings : Result := do
  let shots := toPlain (← need r "shots")
  let obs ← needAs r "calset" toObs
  let list (n : String) := textsD r n []
  let setup : Station.Setup := {
    qubits := ← list "circuit_qubits"
    couplers := ← list "circuit_couplers"
    probeLines := ← list "measured_probe_lines"
    boundaryQubits := ← list "boundary_qubits"
    boundaryCouplers := ← list "boundary_couplers"
    fluxPulsed := ← list "flux_pulsed_qubits" }
  let t ← Station.settingsFor obs setup shots
  pure [("settings", brief t), ("units", t.allSettings.map fun s => (s.path, texts [s.param.label, s.param.unit]))]

end Transmon.Request.Compilers
