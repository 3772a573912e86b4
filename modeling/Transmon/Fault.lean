import Transmon.Text

/-!
Why an operation was refused.
-/

namespace Transmon

inductive Fault.Kind
  | missing | index | type | invalid | noAttr | divisionByZero | overflow | exhausted
  | unassigned | assertion | singular | undecodable | badEncoding | unsupported | runtime | noFile | system
  | playlistMismatch | ctrlMismatch | badInstr | badValue | unknownSetting | invalidSweep
  | unknownOption | compilation | badCircuit | decoupling | missingContext | calibration | circuitInvalid
  | transpilation | authentication | configuration | execution | timeout | http | notJson | notBase64
  | badVersion | badAnswer | notStopped | unfinishedAccount | connection | noChipLabel | noChipDesign
  | noStationSettings | interrupted
  | other (name : String)
deriving DecidableEq

structure Fault where
  kind : Fault.Kind
  msg : Option String := none
  detail : Option String := none
deriving DecidableEq

abbrev Outcome (α : Type) := Except Fault α

abbrev Check := Outcome Unit

namespace Fault

variable (kind : Kind)

def bare : Fault := { kind }

def hinted (detail : String) : Fault := { kind, detail := some detail }

def because (reason : String) : Fault := { kind, msg := some reason }

def refuse (reason : String) : Fault := { kind := .invalid, msg := some reason }

def isFailure (f : Fault) : Bool := f.kind ≠ .interrupted

def text (f : Fault) : String :=
  match f.msg with
  | some reason => if f.kind = .missing then Text.quoted reason else reason
  | none => f.detail.getD ""

end Fault

variable {α : Type} (k : Fault.Kind)

def fail : Outcome α := .error (.bare k)

def refuse (reason : String) : Outcome α := .error (.refuse reason)

def failWith (reason : String) : Outcome α := .error (.because k reason)

def hint (detail : String) : Outcome α := .error (.hinted k detail)

def require : Option α → Outcome α
  | some a => .ok a
  | none => fail k

def itemAt (xs : List α) (n : Nat) := require .index xs[n]?

def requireName (n : String) : Option α → Outcome α
  | some a => .ok a
  | none => .error (.hinted .missing (Text.quoted n))

abbrev Work (σ : Type) := ExceptT Fault (StateM σ)

def Work.within {σ τ α : Type} (p : σ → τ) (put : τ → σ → σ) (work : Work τ α) : Work σ α :=
  .mk do
    let whole ← get
    let (r, changed) := work.run.run (p whole)
    set (put changed whole)
    pure r

/-- The state after work that can fail. -/
def Work.after {σ : Type} (work : Work σ Unit) (start : σ) : Outcome σ :=
  let (r, last) := work.run.run start
  r.map fun _ => last

/-- What is kept, or else made and kept. -/
def keeping {ε σ α : Type} (kept : σ → Option α) (keep : α → σ → σ) (make : ExceptT ε (StateM σ) α) :
    ExceptT ε (StateM σ) α := do
  if let some a := kept (← get) then return a
  let a ← make
  modify (keep a)
  pure a

def Work.attempt {σ α : Type} (work : Work σ α) : Work σ (Outcome α) := .mk do return .ok (← work.run)

def Work.retelling {σ α : Type} (ws : Fault → Fault) (work : Work σ α) : Work σ α :=
  tryCatch work fun f => throw (if f.isFailure then ws f else f)

end Transmon
