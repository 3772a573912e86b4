import Transmon.Value

/-!
Measurement keys that say which classical bit a result belongs to.
-/

def Transmon.heraldKey := "__HERALD"

namespace Transmon.Readout

structure Key where
  register : String
  (length regIndex bitIndex : Nat)
deriving DecidableEq

namespace Key

def toText (k : Key) := s!"{k.register}_{k.length}_{k.regIndex}_{k.bitIndex}"

variable (s : String)

def number? (ds : Chars) := if ds.isEmpty then none else ds.foldlM (fun n c => (Text.digit? c).map (10 * n + ·)) 0

def withoutBreak : Chars → Chars
  | '\n' :: xs => xs
  | chars => chars

/-- Reads a key from its end. A line break after it does not count. -/
def ofText? : Option Key := do
  let bit :: index :: length :: first :: rest := (withoutBreak s.toList.reverse).splitOn '_' | none
  let reg := (['_'].intercalate (first :: rest)).reverse
  if reg.contains '\n' then none
  else pure ⟨.ofList reg, ← number? length.reverse, ← number? index.reverse, ← number? bit.reverse⟩

def ofText := if let some k := ofText? s then pure k else refuse "Invalid measurement key string representation."

end Key

/-!
Results of measurements as texts of bits.
-/

structure Register where
  width : Nat
  rows : List (List Int)

/-- The results of one key as a column, if they make up one: the single result of each repetition. Without
repetitions there are none, unless an exact number of them is expected. -/
def resultsOf (k : Key) (xs : Values) (isExact : Bool) : Outcome (Option (List Int)) := do
  let .array _ shape elems ← Value.toArray (some (.signed 64)) (.list xs) | fail .index
  let col := elems.filterMap fun
    | .int n => some n
    | _ => none
  if xs.isEmpty && !isExact then return some []
  match shape with
  | [_, 1] => return some col
  | count :: 1 :: ys => return if (count :: ys).dropLast.all (· == 1) then some col else none
  | _ :: _ :: _ =>
    refuse s!"Measurement result {k.toText} has the wrong shape {Text.tupled (shape.map toString)}, expected (*, 1)"
  | _ => fail .index

def Register.blank (shots w : Nat) : Register := ⟨w, .replicate shots (.replicate w 0)⟩

def spread (n : Nat) : List Int → Outcome (List Int)
  | [single] => pure (.replicate n single)
  | many => if many.length = n then pure many else fail .invalid

def Register.write (reg : Register) (bit : Nat) (rs : Option (List Int)) : Outcome Register := do
  if reg.width ≤ bit then fail .index
  let rs ← spread reg.rows.length (← require .invalid rs)
  pure { reg with rows := (reg.rows.zip rs).map fun (row, r) => row.set bit r }

structure Formatting where
  registers : Table Nat Register := ∅
  shots : Option Nat := none

def Formatting.add (requested : Value) (isExact : Bool) (s : Formatting) (e : String × Values) :
    Outcome Formatting := do
  let k ← Key.ofText e.1
  let shots := e.2.length
  let rs ← resultsOf k e.2 isExact
  if isExact && !Value.equal (.int shots) requested then
    refuse s!"Expected {requested.plain} shots but got {shots} for measurement result {k.toText}"
  let reg := s.registers.getD k.regIndex (.blank shots k.length)
  pure ⟨s.registers.insert k.regIndex (← reg.write k.bitIndex rs), some shots⟩

def bitstrings (rs : Named Values) (requested : Value) (isExact : Bool) : Outcome Names := do
  let s ← rs.foldlM (Formatting.add requested isExact) {}
  let sorted := s.registers.entries.mergeSort fun a b => a.1 ≤ b.1
  (List.range (← require .unassigned s.shots)).mapM fun shot => do
    let ws ← sorted.mapM fun e => do return .join ((← itemAt e.2.rows shot).map toString)
    return .ofList (" ".intercalate ws).toList.reverse

/-!
From results of readout labels to results of measurements.
-/

abbrev Mapping := Named Names

variable (ms : List Mapping)

def labels := (ms.flatMap (·.flatMap Prod.snd)).eraseDups

def triggerCounts : Table String Nat := (ms.flatMap (·.flatMap Prod.snd)).foldl (fun t l => t.update l 0 (· + 1)) ∅

def labelsByCircuit : List Names := ms.map (·.flatMap Prod.snd)

def place (byCircuit : List Names) (c : Nat) (l : String) := ((byCircuit.take c).filter (·.contains l)).length

abbrev Shots := Table String (List Values)

variable (rs : Named Values)

def shots : Outcome Shots := do
  let cs := triggerCounts ms
  let (firstLabel, firstResults) :: _ := rs | fail .exhausted
  let repetitions := firstResults.length / (← cs.need firstLabel)
  let es ← rs.mapM fun (l, xs) => do
    let count ← cs.need l
    if repetitions * count ≠ xs.length then fail .invalid
    pure (l, Value.rows count repetitions xs)
  return ⟨es⟩

def column (ss : Shots) (byCircuit : List Names) (c : Nat) (l : String) : Outcome Values :=
  return (← ss.need l).map (·.getD (place byCircuit c l) .none)

def stacked (cols : List Values) : Outcome (List Values) := do
  let x :: _ := cols | fail .invalid
  return (List.range x.length).map fun k => cols.map fun col => col.getD k .none

def resultOf (ss : Shots) (byCircuit : List Names) (c : Nat) (ls : Names) : Outcome (List Values) := do
  stacked (← ls.mapM (column ss byCircuit c))

def isZero (v : Value) := v.number?.any (· == .int 0)

abbrev Results := List (Named (List Values))

def convert : Outcome Results := do
  let shots ← shots ms rs
  let byCircuit := labelsByCircuit ms
  ms.zipIdx.mapM fun (m, c) => m.mapM fun e => do pure (e.1, ← resultOf shots byCircuit c e.2)

def convertHeralded : Outcome Results := do
  let shots ← shots ms rs
  let byCircuit := labelsByCircuit ms
  ms.zipIdx.mapM fun (m, c) => do
    let keep := (← resultOf shots byCircuit c (← require .missing (m.lookup heraldKey))).map (·.all isZero)
    if !keep.any id then
      failWith .runtime s!"Execution of circuit {c} in heralding mode \"zeros\" discarded all the shots."
    (m.filter (·.1 != heraldKey)).mapM fun e =>
      return (e.1, ((← resultOf shots byCircuit c e.2).zip keep).filterMap fun (r, kept) =>
        if kept then some r else none)

def ofSweep (rs : Named (List Values)) (ms : List Mapping) (isHeralded : Bool) : Outcome Results := do
  let x ← rs.mapM fun e => do pure (e.1, ← itemAt e.2 0)
  if isHeralded then convertHeralded ms x else convert ms x

end Transmon.Readout
