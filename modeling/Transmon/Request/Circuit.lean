import Transmon.Form.Compiler

/-!
Requests about circuits and their matrices.
-/

namespace Transmon.Request.Circuits

open Form Circuit Slice

def draft (d : Draft) : Json := [("qubits", texts d.qubits), ("ops", .list d.steps circuitStep)]

def unitary (mat : Unitary.Gate) : Json :=
  .list mat.rows fun r => r.map fun z => if mat.isReal then rounded 9 z.re else roundedComplex 9 z

def named (n : String) : Action Drafts Draft := do (← get).drafts.need n

def keep (n : String) (d : Draft) : Action Drafts Json := do
  modify (·.keep n d)
  return draft d

def make (n : String) (d : Draft) : Action Drafts Json := do
  modify (·.make n d)
  return draft d

def toInts (j : Json) := listOf j toInt

def intsOf (s : Json) (n : String) := if let some xs := present? s n then toInts xs else pure []

def toInput : Json → Value
  | .int n => .int n
  | x => toArg x

def toEnd : Json → Outcome (Option Int)
  | .null => pure none
  | x => some <$> toInt x

def sliced (d : Draft) (ends : List Json) : Outcome Draft := do
  let ss ← match ← ends.mapM toEnd with
    | [stop] => require .invalid (take? d.steps none stop 1)
    | [start, stop] => require .invalid (take? d.steps start stop 1)
    | [start, stop, s] => require .invalid (take? d.steps start stop (s.getD 1))
    | _ => fail .type
  return d.withSteps ss

variable (r : Json)

def step : Action Drafts Json := do
  if verb r = "new" then
    let t ← needText r "as"
    let ss ← toSteps (r.get "ops" (.array []))
    return ← make t (.make ss (← textsOf r "qubits") (← intD r "num_qubits" 0))
  let n ← needText r "c"
  let d ← named n
  let i := text? r "impl"
  match verb r with
  | "add_op" =>
    let args ← toItems (r.get "args" (.array []))
    let ps ← needAs r "indices" toInts
    keep n (← d.add (← needText r "name") ps (args.map toArg) i)
  | "gate" =>
    let args ← toItems (r.get "args" (.array []))
    let is ← toItems (r.get "indices" (.array []))
    let g ← needText r "name"
    let inputs := args.map toArg ++ is.map toInput
    if g = "barrier" then
      if i.isSome then fail .type
      keep n (← (inputs.mapM Draft.wholePosition).bind d.addBarrier)
    else keep n (← (← get).call n g inputs i)
  | "barrier" => keep n (← d.addBarrier (← intsOf r "indices"))
  | "compose" =>
    let x ← named (← needText r "other")
    let ps ← intsOf r "indices"
    keep n (← d.compose x ps)
  | "map_loci" =>
    let locus ← textsOf r "locus"
    if boolD r "make_circuit" true then
      let moved ← d.relabel locus
      make (← needText r "as") moved
    else return .list (← d.relabelled locus) circuitStep
  | "slice" =>
    let p ← sliced d (← needAs r "slice" toItems)
    make (← needText r "as") p
  | "mul" =>
    let times ← needInt r "times"
    make (← needText r "as") (d.withSteps (List.replicate times.toNat d.steps).flatten)
  | "add" =>
    let x ← named (← needText r "other")
    make (← needText r "as") (d.withSteps (d.steps ++ x.steps))
  | "find_qubits" => keep n { d with qubits := .ofList (d.steps.flatMap Step.locus) }
  | "add_qubits" => keep n { d with qubits := Draft.numbered (← needInt r "n") }
  | "item" => circuitStep <$> require .index (at? d.steps (← needInt r "index"))
  | "count_ops" => return .object (d.counts.toList.map fun e => (e.1, e.2))
  | "unitary" =>
    let qs ← textsOf r "qubits"
    unitary <$> Unitary.ofSteps .known d.operations (if qs.isEmpty then d.qubits else qs) d.steps
  | "unitary_auto" => unitary <$> Unitary.ofSteps .known Operation.library (← textsOf r "qubits") d.steps
  | "validate" =>
    check d.operations (boolD r "require_measurements" false) d.steps
    pure .null
  | _ => fail .missing

def answer := continuing r (.ok ({} : Drafts)) step

def toComplex : Json → Outcome (Numeric.Complex Float)
  | .array [re, im] => do pure ⟨← toFloat re, ← toFloat im⟩
  | x => do pure ⟨← toFloat x, 0⟩

def toMatrix (j : Json) : Outcome Unitary.Gate := return ⟨← listOf j (listOf · toComplex), false⟩

def reorder : Result := return unitary (← (← needAs r "matrix" toMatrix).reorder (← needAs r "permutation" toInts))

def extend : Result := do
  unitary <$> (← needAs r "matrix" toMatrix).extend (← needAs r "indices" toInts) (← needInt r "n")

def configuration : Result := do
  let doc ← need r "config"
  if !doc.isObject then fail .noAttr
  let some experiment := present? doc "experiment" | refuse "The config YAML is missing the \"experiment\" section."
  if !experiment.isObject then fail .noAttr
  let defs ← toDefs (experiment.group "gate_definitions") toPlainAttr
  pure [("ops", operations (← Operation.withDefs defs)), ("calibration", experiment.group "gates")]

def whyNotNamed : Json → String
  | .null => "'NoneType' object is not subscriptable"
  | .bool _ => "'bool' object is not subscriptable"
  | .int _ => "'int' object is not subscriptable"
  | .float _ => "'float' object is not subscriptable"
  | .text _ => "string indices must be integers, not 'str'"
  | .array _ => "list indices must be integers or slices, not str"
  | .object _ => "'component_mapping'"

def rename : Result := do
  let cs ← needList r "circuits" fun c => return (c.get "name", ← toSteps (c.get "ops" (.array [])))
  let ctx ← need r "context"
  match ctx.field? "component_mapping" with
  | none =>
    failWith .missingContext
      s!"Missing context data for circuit map_names_and_validate_circuits pass: {whyNotNamed ctx}"
  | some (.object m) =>
    let es ← m.mapM fun e => match e.2 with
      | .text t => return some (t, e.1)
      | .array _ | .object _ => fail .type
      | _ => pure none
    let ns := Table.ofList (es.filterMap id)
    return .list cs fun (n, ss) =>
      [("name", n), ("ops", ss.map fun s => circuitStep { s with locus := s.locus.map fun q => ns.getD q q })]
  | some _ => fail .noAttr

end Transmon.Request.Circuits

/-!
Requests about envelopes, instructions, channels and names.
-/

namespace Transmon.Request.Pulse

open Form Suppressed

variable (r : Json)

def waveform : Result := do
  let j ← need r "wave"
  let w ← toWaveform j
  if let .float x := j.get "n_samples" then if x == 0 then fail .divisionByZero else fail .type
  let xs ← w.sample
  let canonical ← w.canonical
  return .object
    [("wave", Form.waveform w), ("samples", roundedList 9 xs),
     ("is_canonical", w.kind.isCanonical), ("canonical_type", canonical.kind.name),
     ("non_timelike", .table w.kind.units .text)]

def toRanges (j : Json) : Outcome (List (Float × Float)) := do
  let rs ← listOf j toFloats
  if rs.any fun r => r.length ≠ (rs.headD []).length then fail .invalid
  rs.mapM fun
    | low :: high :: _ => pure (low, high)
    | _ => fail .index

def intervalCoeffs : Result := do
  let solution ← Suppressed.intervalCoeffs (← needInt r "n") (← needFloat r "duration")
    (← needAs r "weights" toFloats) (← needAs r "ranges" toRanges) (← intD r "points" 60)
  return roundedList 6 solution

def mapNested (f : Float → Json) : Json → Json
  | .array xs => xs.map (mapNested f)
  | .int n => f (Decimal.ofInt n)
  | .float x => f x
  | y => y

variable (r : Json)

def derivativeCoeffs : Result :=
  return roundedList 6 (← Suppressed.derivativeCoeffs (← needFloat r "duration") (← needAs r "frequencies" toFloats))

def basisCoeffs : Result := return roundedList 6 (← Suppressed.basisCoeffs (← needInt r "n"))

def envelope : Result := do
  let times ← needAs r "t" toFloats
  let span ← needFloat r "duration"
  let coeffs ← toFloats (r.get "coefficients" (.array []))
  let cosines := toFloats (r.get "cosine" (.array []))
  let shape ← match textD r "kind" "" with
    | "fast_i" => pure (inPhase span coeffs)
    | "fast_q" => pure (quadrature span coeffs)
    | "derivative" => do
      let n ← needInt r "n"
      if n < 0 && !coeffs.isEmpty then fail .invalid
      pure (basisDerivative span coeffs n.toNat)
    | "hd_i" => pure (derivatives span 0 coeffs (← cosines))
    | "hd_q" => pure (derivatives span 1 coeffs (← cosines))
    | _ => fail .missing
  return roundedList 9 (times.map shape)

def channel :=
  let isModel := boolD r "model" false
  continuing r (needAs r "channel" toChannel) fun s => do
    let c ← get
    let span ← needFloat s "duration"
    match verb s with
    | "to_samples" => return float (c.toSamples span)
    | "to_seconds" => float <$> c.toSeconds (.float span)
    | "to_int_samples" =>
      return ← c.toWholeSamples (.float span) (textD s "message" "Given duration") (boolD s "check_min_samples" true)
    | "round" =>
      let roundUp := boolD s "round_up" false
      let forceMin := boolD s "force_min_duration" false
      if isModel && roundUp then return float (← c.roundUpToGranularity span forceMin)
      float <$> c.roundToGranularity span roundUp forceMin
    | _ => fail .missing

def channelTable :=
  continuing r (pure ({} : ChannelTable)) fun s => do
    let .instruction i ← toEntity s | fail .noAttr
    let (j, t) ← (← get).add i
    set t
    return .object
      [("index", j), ("instructions", .list t.instructions instruction),
       ("waveforms", .list t.waveforms Form.waveform)]

def instruction : Result := do
  let i ← needAs r "instruction" toInstr
  match verb r with
  | "validate" => do i.validate; pure .null
  | "children" =>
    return .object [("instructions", .list i.children Form.instruction), ("waveforms", .list i.waveforms Form.waveform)]
  | "copy" =>
    let changed := (← toFields (r.group "changes")).foldl (fun j e => j.setField e.1 e.2) (Form.instruction i)
    Form.instruction <$> toInstr changed
  | "add" =>
    match i, ← needAs r "other" toInstr with
    | .readout a, .readout b => return Form.instruction (.readout (a.merge b))
    | .readout _, _ => fail .noAttr
    | _, _ => fail .type
  | _ => fail .missing

def sortNames : Result := do
  let ns ← needTexts r "names"
  return .object
    [("components", texts (Text.sortComponents ns)), ("couplers", texts (Text.sortCouplers ns)),
     ("natural", if boolD r "natural" true then texts (Text.sortNaturally ns) else .null)]

end Transmon.Request.Pulse
