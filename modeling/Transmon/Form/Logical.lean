import Transmon.Ansatz.Circuit
import Transmon.Form.Client
import Transmon.Logical.Passes

/-!
JSON forms of logical circuits, of targets and of the calls that build something elsewhere.
-/

namespace Transmon.Form

def argument : Value → Json
  | .float x => rounded 9 x
  | .complex re im => [rounded 9 re, rounded 9 im]
  | .bytes _ => .null
  | .list xs | .tuple xs => xs.map argument
  | .dict es => es.map fun e => (e.1, argument e.2)
  | .array _ shape xs => nested shape (xs.map argument)
  | .scalar _ inner => argument inner
  | plain => echo plain
decreasing_by all_goals grind

variable (name : String)

def call (args : List Json := []) (named : Fields := []) : Json :=
  .array (.text name :: args ++ if named.isEmpty then [] else [.object named])

def naturals (ns : List Nat) : Json := .list ns fun (n : Nat) => n

def toNat (j : Json) := do
  let n ← toInt j
  if n < 0 then fail .index else pure n.toNat

def toPosition := require .invalid ((Decimal.int? name).map Int.toNat)

variable (j : Json)

def toBit : Outcome Logical.Bit := do
  let .array [reg, i] := j | fail .type
  pure { register := ← toText reg, index := ← toNat i }

def bit (b : Logical.Bit) : Json := .array [b.register, b.index]

def toRegister : Outcome Logical.Register := do
  let .array [n, size] := j | fail .type
  pure ⟨← toText n, ← toNat size⟩

variable (regs : List Logical.Register)

def toBitOf (j : Json) : Outcome Logical.Bit := do
  let x ← toBit j
  if (← require .missing (regs.find? (·.name = x.register))).size ≤ x.index then fail .index
  pure x

def toCondition (j : Json) : Outcome Logical.Condition := do
  match j with
  | .array [.text n, v] => return .register (← require .missing (regs.find? (·.name = n))) (toPlain v)
  | .array [x, v] => return .bit (← toBitOf regs x) (toPlain v)
  | _ => fail .type

def toOperation (j : Json) : Outcome (Logical.Operation Nat) :=
  return {
    name := ← needText j "name"
    wires := ← listD j "qubits" toNat
    params := (j.get "params").items.map toPlain
    bits := ← j.each "clbits" (toBitOf regs)
    unit := text? j "unit"
    condition := ← given? j "condition" (toCondition regs) }

def toLogical : Outcome Logical.Circuit := do
  let regs ← j.each "cregs" toRegister
  pure {
    name := textD j "name" "circuit"
    width := (← intD j "qubits" 0).toNat
    registers := regs
    notes := toPlain (j.get "metadata")
    operations := ← listD j "data" (toOperation regs) }

def toNumberedNames : Outcome (Table Nat String) :=
  return Table.ofList (← (← toFields j).mapM fun e => do pure (← toPosition e.1, ← toText e.2))

def stepArg (v : Value) :=
  match name, v with
  | "angle_t", .float x | "phase_t", .float x => rounded 9 x
  | "duration", .float x => .float (Decimal.toSignificant x 12)
  | _, y => echo y

def toldStep (s : Circuit.Step) : Json :=
  .array [s.name, texts s.locus, s.arguments.map fun e => (e.1, stepArg e.1 e.2)]

def opCalls (o : Logical.Operation Logical.Bit) : List Json :=
  let ws := o.wires.map bit
  match o.name with
  | "move" => [call "append" ["MoveGate", ws]]
  | "measure" => [call "measure" (ws ++ o.bits.map bit)]
  | "delay" => [call "delay" (o.params.map argument ++ [.array ws]) [("unit", optText o.unit)]]
  | n =>
    call n (o.params.map argument ++ ws) ::
      match o.condition with
      | some (.bit b v) => [call "c_if" [bit b, argument v]]
      | some (.register r v) => [call "c_if" [r.name, argument v]]
      | none => []

def rebuiltCalls (r : Logical.Rebuilt) : Json :=
  let regs := r.layout.registers.map .text ++ r.registers.map fun r => optText (r.map Logical.Register.name)
  (call "QuantumCircuit" regs :: r.operations.flatMap opCalls)

def toLayout : Outcome Logical.Layout := do
  let ws ← (← toFields j).mapM fun e => do pure (← toPosition e.1, ← toBit e.2)
  pure { wires := Table.ofList ws }

def layout (l : Logical.Layout) : Json := l.wires.entries.map fun e => (toString e.1, bit e.2)

def naturalPairs (ps : List (Nat × Nat)) : Json := .list ps fun e => naturals [e.1, e.2]

def offerName : String → String
  | "delay" => "Delay"
  | "measure" => "Measure"
  | "id" => "IGate"
  | "r" => "RGate"
  | "reset" => "Reset"
  | "move" => "MoveGate"
  | "cz" => "CZGate"
  | x => x

def targetFields (t : Logical.Target) : Outcome Fields :=
  return [
    ("added", .object (t.offers.entries.map fun e => (offerName e.1, .list e.2 naturals))),
    ("components", .table t.positions.entries (.int ·)),
    ("resonators", t.hasResonators), ("fake", t.hasRelays),
    ("physical", texts (← t.components))]

def toComponent : Outcome Logical.Component :=
  match j with
  | .int n => return .numbered n
  | .bool b => return .numbered (if b then 1 else 0)
  | x => return .named x.shown

def pass : Logical.Pass → Json
  | .rotations drops ignores =>
    .array ["IQMOptimizeSingleQubitGates", .object [("_drop_final_rz", drops), ("_ignore_barriers", ignores)], .null]
  | .moves existing => .array ["IQMNaiveResonatorMoving", .object [], Logical.existingName existing]

def prepared : Logical.Prepared → Json
  | .kept o => .array [o.name, naturals o.wires, .list o.params argument]
  | .rotation w angle phase => [.text "RGate", naturals [w], [argument angle, rounded 9 phase]]

/-!
JSON forms of graphs, quadratic models and circuits of an ansatz. Doubles are rounded to nine decimals.
-/

open Problem

def quantity : Number → Json
  | .int n => n
  | .float x => rounded 9 x

def quantities (xs : List Number) : Json := .list xs quantity

def quantityRows (rs : List (List Number)) : Json := .list rs quantities

def optQuantity := opt quantity

variable (j : Json)

def toNums := listOf j toNum

def toNumRows := listOf j toNums

def numD (n : String) := readD j n toNum

def needNat (n : String) := needAs j n toNat

def toLabel : Json → Outcome Label
  | .int n => return .number n
  | .text s => return .name s
  | .null => fail .invalid
  | _ => fail .type

def label : Label → Json
  | .number n => n
  | .name s => s

def toNotes : Notes := ⟨j.fields.map fun e => (e.1, toPlain e.2)⟩

def toNode : Json → Outcome (Label × Notes)
  | .array [n, ns] => do pure (← toLabel n, toNotes ns)
  | n => do pure (← toLabel n, ∅)

def toEdge : Json → Outcome (Label × Label × Notes)
  | .array [u, v] => do pure (← toLabel u, ← toLabel v, ∅)
  | .array [u, v, ns] => do pure (← toLabel u, ← toLabel v, toNotes ns)
  | _ => fail .type

def toGraph : Outcome Labelled := do
  let ns ← j.each "nodes" toNode
  let start : Graph Label Notes := (∅ : Graph Label Notes).addNodes (ns.map Prod.fst)
  let graph := (← j.each "edges" toEdge).foldl (fun (g : Graph Label Notes) e =>
    g.addEdge e.1 e.2.1 (((g.edge? e.1 e.2.1).getD ∅).insertMany e.2.2.entries)) start
  pure ⟨graph, ns.foldl (fun (t : Table Label Notes) e => t.update e.1 ∅ (·.insertMany e.2.entries)) ∅⟩

def biasOf (ns : Notes) := ((ns.get? "bias").bind Value.number?).getD 0

def toModel : Outcome (Model Nat Number) := do
  let linear ← needAs j "linear" toNums
  let unknowns ← readD j "variables" (listOf · toNat) (.range linear.length)
  let cs ← j.each "quadratic" fun x => do
    let [u, v, bias] ← toItems x | fail .type
    pure (← toNat u, ← toNat v, ← toNum bias)
  let byPair : Table (Nat × Nat) Number := .ofList (cs.map fun c => ((c.1, c.2.1), c.2.2))
  pure {
    fields := .ofList (unknowns.zip linear)
    couplings := byPair.entries.map fun e => (e.1.1, e.1.2, e.2)
    offset := ← numD j "offset" 0 }

def toCounts : Outcome Counts := return ⟨← fieldsOf j toInt⟩

def counts (c : Counts) : Json := .table c.entries .int

def fixing (vs : List (Label × Int)) : Json :=
  .list (vs.mergeSort fun a b => Label.atMost a.1 b.1) fun e => [label e.1, e.2]

def toFixing : Json → Outcome (List (Label × Int))
  | .array xs => do return (Table.ofList (← xs.mapM fun x => do pure (← toLabel x, 1))).entries
  | j => do
    (← toFields j).mapM fun e => do
      let m := if let some n := Decimal.int? e.1 then .number n else .name e.1
      pure (m, ← toInt e.2)

def orderedPairs (ps : List (Nat × Nat)) :=
  (ps.map fun p => (min p.1 p.2, max p.1 p.2)).mergeSort fun a b =>
    decide (a.1 < b.1) || (a.1 == b.1 && decide (a.2 ≤ b.2))

def modelStart (start : Start Number) :=
  let k := [("vartype", .text "BINARY")]
  match start with
  | .matrix rs => call "Matrix" [quantityRows rs] k
  | .blank (some size) => call "Matrix" [size] k
  | .blank none => call "Matrix" [.null] k

def terms {ν : Type} (n : ν → Json) (xs : List (ν × Number)) : Json := .list xs fun e => [n e.1, quantity e.2]

def edit {ν : Type} (n : ν → Json) (s : ν → String) : Edit ν Number → Json
  | .declare v => call "add_variable" [n v]
  | .linear v bias => call "add_linear" [n v, quantity bias]
  | .quadratic u v bias => call "add_quadratic" [n u, n v, quantity bias]
  | .equality xs penalty constant =>
    call "add_linear_equality_constraint" [terms n xs, quantity penalty, quantity constant]
  | .inequality xs penalty slack constant lower upper =>
    call "add_linear_inequality_constraint" [terms n xs, quantity penalty, slack]
      [("constant", quantity constant), ("lb", quantity lower), ("ub", quantity upper)]
  | .fix vs => call "fix_variables" [.object (vs.map fun e => (s e.1, e.2))]

def draft (d : Draft Label Number) := modelStart d.start :: d.edits.map (edit label Label.text)

def ansatzGate (n : Nat → Json) : Ansatz.Gate → Json
  | .hadamard q => call "h" [n q]
  | .rz angle q => call "rz" [quantity angle, n q]
  | .rzz angle a b => call "rzz" [quantity angle, n a, n b]
  | .rx angle q => call "rx" [quantity angle, n q]

def networkGate : Ansatz.Gate → Json
  | .hadamard q => call "apply_gate" ["H", q]
  | .rz angle q => call "apply_gate" ["RZ", quantity angle, q]
  | .rzz angle a b => call "apply_gate" ["RZZ", quantity angle, a, b]
  | .rx angle q => call "apply_gate" ["RX", quantity angle, q]

end Transmon.Form
