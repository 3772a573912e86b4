import Transmon.Gate.Design

/-!
Quantum operations.
-/

namespace Transmon

open Gate

inductive MatrixRule
  | planarRotation | generalRotation | quarterTurn | frameChange | controlledPhase
deriving DecidableEq

structure Operation where
  name : String
  arity : Int
  params : Names := []
  paramsAsList : Bool := false
  implementations : Table String Design := ∅
  isSymmetric : Bool := false
  isFactorizable : Bool := false
  localDefaults : Table Names String := ∅
  matrix : Option MatrixRule := none

abbrev OperationTable := Table String Operation

namespace Operation

instance : Inhabited Operation := ⟨{ name := "", arity := 0 }⟩

variable (op : Operation)

def shownParams := if op.paramsAsList then Text.quotedList op.params else Text.quotedTuple op.params

def check : Check := do
  for ((n, design), index) in op.implementations.entries.zipIdx do
    if design.isSymmetric && !op.isSymmetric then
      refuse s!"{op.name}.{n}: non-symmetric gate cannot have a symmetric implementation."
    if index = 0 && design.isSpecial then
      refuse (s!"{op.name}.{n}: a special implementation cannot be set as the default "
        ++ "(i.e. highest priority) implementation.")
  for n in op.localDefaults.values do
    if (← op.implementations.need n).isSpecial then
      refuse (s!"{op.name}.{n}: a special implementation cannot be set as a locus specific "
        ++ "default implementation.")

def defaultImpl := require .exhausted op.implementations.keys.head?

def cand (n k : String) : Outcome Design := do
  let some d := op.implementations.get? n
    | refuse s!"Operation '{op.name}' has no implementation named '{n}'."
  if d.isSpecial then refuse s!"{n} is a special implementation and cannot be set as {k}."
  pure d

def setDefault (n : String) := do
  let d ← op.cand n "the default"
  pure { op with implementations := ⟨(n, d) :: op.implementations.entries.filter (·.1 != n)⟩ }

def setLocalDefault (n : String) (locus : Names) := do
  let _ ← op.cand n "a default"
  pure { op with localDefaults := op.localDefaults.insert locus n }

def defaultAt (locus : Names) :=
  if op.localDefaults.isEmpty then op.defaultImpl
  else
    let loci := if 1 < op.arity && op.isSymmetric then Names.orders locus else [locus]
    if let some n := loci.findSome? op.localDefaults.get? then pure n else op.defaultImpl

/-!
The operations that every station knows.
-/

def designs (ps : Named String) : Table String Design := ⟨ps.map fun e => (e.1, (Design.find? e.2).getD default)⟩

def standard : List Operation :=
  [{ name := "barrier", arity := 0, isSymmetric := true, implementations := designs [("", "Barrier")] },
   { name := "delay", arity := 0, params := ["duration"], isSymmetric := true
     implementations := designs [("wait", "Delay")] },
   { name := "measure", arity := 0, params := ["key"], isFactorizable := true
     implementations := designs
       [("constant", "Measure_Constant"), ("constant_qnd", "Measure_Constant"),
        ("shelved_constant", "Shelved_Measure_Constant")] },
   { name := "prx", arity := 1, params := ["angle", "phase"], matrix := some .planarRotation
     implementations := designs
       [("drag_gaussian", "PRX_DRAGGaussian"), ("drag_crf", "PRX_DRAGCosineRiseFall"),
        ("drag_crf_sx", "PRX_DRAGCosineRiseFallSX"), ("drag_gaussian_sx", "PRX_DRAGGaussianSX")] },
   { name := "prx_12", arity := 1, params := ["angle", "phase"]
     implementations := designs [("modulated_drag_crf", "PRX_ModulatedDRAGCosineRiseFall")] },
   { name := "u", arity := 1, params := ["theta", "phi", "lam"], matrix := some .generalRotation
     implementations := designs [("prx_u", "UGate")] },
   { name := "sx", arity := 1, matrix := some .quarterTurn
     implementations := designs [("prx_sx", "SXGate")] },
   { name := "rz", arity := 1, params := ["angle"], matrix := some .frameChange
     implementations := designs [("virtual", "RZ_Virtual"), ("prx_composite", "RZ_PRX_Composite")] },
   { name := "rz_physical", arity := 1
     implementations := designs [("ac_stark_crf", "RZ_ACStarkShift_CosineRiseFall")] },
   { name := "cz", arity := 2, isSymmetric := true, matrix := some .controlledPhase
     implementations := designs
       [("tgss", "CZ_TruncatedGaussianSmoothedSquare"), ("tgss_crf", "FluxPulseGate_TGSS_CRF"),
        ("crf_crf", "FluxPulseGate_CRF_CRF"), ("crf", "CZ_CRF"),
        ("gaussian_smoothed_square", "CZ_GaussianSmoothedSquare"), ("slepian", "CZ_Slepian"),
        ("slepian_crf", "CZ_Slepian_CRF"), ("crf_acstarkcrf", "CZ_CRF_ACStarkCRF"),
        ("slepian_acstarkcrf", "CZ_Slepian_ACStarkCRF")] },
   { name := "move", arity := 2
     implementations := designs
       [("tgss_crf", "MOVE_TGSS_CRF"), ("crf_crf", "MOVE_CRF_CRF"), ("slepian_crf", "MOVE_SLEPIAN_CRF")] },
   { name := "cc_prx", arity := 1, params := ["angle", "phase", "feedback_qubit", "feedback_key"]
     implementations := designs
       [("prx_composite", "CCPRX_Composite"), ("prx_composite_drag_crf", "CCPRX_Composite_DRAGCosineRiseFall"),
        ("prx_composite_drag_gaussian", "CCPRX_Composite_DRAGGaussian")] },
   { name := "reset", arity := 0, isSymmetric := true, isFactorizable := true
     implementations := designs [("reset_conditional", "Reset_Conditional")] },
   { name := "reset_wait", arity := 0, isSymmetric := true, isFactorizable := true
     implementations := designs [("reset_wait", "Reset_Wait")] },
   { name := "flux_multiplexer", arity := 0
     implementations := designs [("sample_linear", "FluxMultiplexer_SampleLinear")] }]

def library : OperationTable := ⟨standard.map fun op => (op.name, op)⟩

/-!
Definitions of operations by the user.
-/

inductive Attr
  | value (value : Value)
  | localDefaults (defaults : Table Names String) (isPlain : Bool)

structure Def where
  implementations : Named String := []
  attrs : Named Attr := []

def designsOf (o : String) (ps : Named String) : Outcome (Table String Design) := do
  let standard := (library.getD o default).implementations
  let designs ← ps.mapM fun (n, designName) => do
    let some d := Design.named? designName | refuse s!"Implementation {designName} has not been exposed."
    let some usual := standard.get? n | pure (n, d)
    if usual.name != designName then
      refuse (s!"'{usual.name}' is the default GateImplementation class for implementation '{n}' and cannot be "
        ++ "overridden. Consider adding a new implementation with a different name.")
    pure (n, d)
  pure ⟨designs⟩

def toWhole : Value → Outcome Int
  | .int n => pure n
  | .bool b => return if b then 1 else 0
  | .float x => return Decimal.truncate x
  | _ => fail .type

def toTexts : Value → Outcome Names
  | .list xs | .tuple xs => xs.mapM fun
    | .text s => pure s
    | _ => fail .type
  | _ => fail .type

variable (op : Operation)

def setAttr (n : String) (c : Attr) : Outcome Operation := do
  match n, c with
  | "arity", .value v => pure { op with arity := ← toWhole v }
  | "params", .value v => pure { op with params := ← toTexts v, paramsAsList := true }
  | "symmetric", .value v => pure { op with isSymmetric := v.isTrue }
  | "factorizable", .value v => pure { op with isFactorizable := v.isTrue }
  | "defaults_for_locus", .localDefaults d _ => pure { op with localDefaults := d }
  | "name", .value (.text s) => pure { op with name := s }
  | "unitary", .value .none => pure { op with matrix := none }
  | _, _ => fail .type

def attrValue? : String → Option Value
  | "name" => some (.text op.name)
  | "arity" => some (.int op.arity)
  | "params" => some (.tuple (op.params.map .text))
  | "symmetric" => some (.bool op.isSymmetric)
  | "factorizable" => some (.bool op.isFactorizable)
  | "default_implementation" => op.implementations.keys.head?.map .text
  | "unitary" => if op.matrix.isSome then none else some .none
  | _ => none

def ruleNames : Names :=
  ["unitary", "copy", "set_default_implementation", "get_default_implementation_for_locus",
   "set_default_implementation_for_locus"]

def comparable : Value → Value
  | .list xs => .tuple xs
  | .dict es => .tuple (es.map (.text ·.1))
  | .text s => .tuple (s.toList.map (.text ·.toString))
  | v => v

def checkUnchanged (as : Named Attr) : Check := do
  for (n, c) in as do
    match c with
    | .localDefaults .. => pure ()
    | .value x =>
      match op.attrValue? n with
      | none =>
        if ruleNames.contains n then
          let .tuple _ := comparable x | fail .invalid
          fail .type
        else if n = "default_implementation" then fail .exhausted
        else refuse s!"QuantumOp {op.name} has no attribute '{n}'."
      | some usual =>
        let x := comparable x
        let usual ← match x, usual with
          | .tuple _, .tuple xs => pure (.tuple xs)
          | .tuple _, .text s => pure (comparable (.text s))
          | .tuple _, _ => fail .type
          | _, y => pure y
        if !Value.equal usual x then
          refuse ("The QuantumOp definition provided by the user has a different value in the attribute "
            ++ s!"{n} compared to the QuantumOp definition in iqm-pulse  ({x.shown} != {usual.shown}). "
            ++ "Changing the attributes of default QuantumOps is not allowed, other thanimplementations and "
            ++ "defaults_for_locus.")

variable (t : OperationTable)

def define (name : String) (defn : Def) : Outcome OperationTable := do
  let implementations ← designsOf name defn.implementations
  for (_, c) in defn.attrs do
    if let .localDefaults defaults isPlain := c then
      for (locus, impl) in defaults.entries do
        if !implementations.contains impl then
          let s := if isPlain then .join locus else Text.quotedTuple locus
          refuse (s!"defaults_for_locus[{s}] implementation '{impl}' does not appear "
            ++ s!"in the implementations field of {name}.")
  let start ← match t.get? name with
    | some o =>
      checkUnchanged o defn.attrs
      pure { o with implementations }
    | none =>
      if (defn.attrs.lookup "arity").isNone || (defn.attrs.lookup "name").isSome then fail .type
      pure { name, arity := 0, implementations }
  let o ← defn.attrs.foldlM (fun o e => setAttr o e.1 e.2) start
  o.check
  return t.insert name o

def withDefs (defs : Named Def) := defs.foldlM (fun t e => define t e.1 e.2) library

def alike (a b : Operation) :=
  a.name == b.name && a.arity == b.arity && a.params == b.params && a.isSymmetric == b.isSymmetric
    && a.isFactorizable == b.isFactorizable

def registered (g : String) (d : Design) (as : Option (Named Attr)) : Outcome Operation := do
  match as, t.get? g with
  | none, some op => pure op
  | _, _ =>
    let start : Operation := { name := g, arity := 1, isSymmetric := d.isSymmetric }
    let op ← (as.getD []).foldlM (fun op e => setAttr op e.1 e.2) start
    op.check
    pure { op with paramsAsList := false }

def reconciled (g : String) (op : Operation) (overwrite : Bool) : Outcome Operation := do
  let known := t.get? g
  let standard := library.get? g
  if let some old := known then
    if !overwrite && !op.alike old then refuse s!"{g} already registered with different parameters"
  if let some usual := standard then
    if !op.alike usual then refuse s!"{g} conflicts with a canonical operation in iqm-pulse"
  match op.matrix with
  | some _ => pure op
  | none =>
    let op := { op with matrix := (known.bind matrix).or (standard.bind matrix) }
    op.check
    pure op

def checkImpl (o : Operation) (n : String) (d : Design) : Check := do
  if let some usual := (library.getD o.name default).implementations.get? n then
    if usual.name != d.name then
      refuse (s!"The implementation '{n}' already exists in default implementations with '{usual.name}' as "
        ++ "corresponding GateImplementation class.")
  if let some held := (t.getD o.name default).implementations.get? n then
    if held.name != d.name then
      refuse (s!"The implementation '{n}' already exists with '{held.name}' as corresponding GateImplementation "
        ++ "class.")

def register (g n : String) (d : Design) (asDefault overwrite : Bool)
    (as : Option (Named Attr)) : OperationTable × Check :=
  match registered t g d as >>= (reconciled t g · overwrite) with
  | .error f => (t, .error f)
  | .ok o =>
    let isKnown := as.isNone && t.contains g
    let o := { o with implementations := o.implementations.insert n d }
    let changed :=
      if isKnown then t.modify g ({ · with implementations := o.implementations })
      else t
    match checkImpl changed o n d with
    | .error f => (changed, .error f)
    | .ok _ =>
      match if asDefault then o.setDefault n else .ok o with
      | .error f => (changed, .error f)
      | .ok o => (changed.insert g o, .ok ())

end Operation

end Transmon
