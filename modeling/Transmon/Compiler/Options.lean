import Transmon.Chip

/-!
Options of the compilation of circuits.
-/

namespace Transmon.Compiler

inductive MeasurementMode
  | circuit | all
  | unknown (shown : String)
deriving DecidableEq

inductive HeraldingMode
  | none | zeros
  | unknown (shown : String)
deriving DecidableEq

inductive DecouplingMode
  | disabled | enabled
  | unknown (shown : String)
deriving DecidableEq

inductive MoveValidation
  | strict | allowRotations | none
  | unknown (shown : String)
deriving DecidableEq

inductive FrameTracking
  | full | withoutDetuning | none
  | unknown (shown : String)
deriving DecidableEq

inductive DecouplingPattern
  | letters (text : String)
  | rotations (pairs : List (Float × Float))

structure DecouplingSeq where
  ratio : Number
  pattern : DecouplingPattern
  alignment : String

structure DecouplingStrategy where
  joinsWaits : Bool := true
  targets : Option Names := none
  skipsLeading : Bool := true
  skipsTrailing : Bool := true
  sequences : List DecouplingSeq := []

def DecouplingStrategy.standard : DecouplingStrategy where
  sequences :=
    [⟨.int 9, .letters "XYXYYXYX", "asap"⟩, ⟨.int 5, .letters "YXYX", "asap"⟩, ⟨.int 2, .letters "XX", "center"⟩]

inductive DecouplingChoice
  | standard
  | custom (strategy : DecouplingStrategy)
  | unknown (shown : String)

structure Options where
  measurement : MeasurementMode := .all
  heralding : HeraldingMode := .none
  decoupling : DecouplingMode := .disabled
  strategy : DecouplingChoice := .standard
  boundary : Chip.Topology.BoundaryMode := .all
  moveValidation : MoveValidation := .strict
  frameTracking : FrameTracking := .full
  resetCycles : Option Int := none

def modeNamed {μ : Type} (n : μ → String) (known : List μ) (unknown : String → μ) (s : String) :=
  (known.find? (n · == s)).getD (unknown s)

def MeasurementMode.name : MeasurementMode → String
  | circuit => "circuit"
  | all => "all"
  | unknown s => s

def MeasurementMode.ofName := modeNamed name [circuit, all] unknown

def HeraldingMode.name : HeraldingMode → String
  | none => "none"
  | zeros => "zeros"
  | unknown s => s

def HeraldingMode.ofName := modeNamed name [none, zeros] unknown

def DecouplingMode.name : DecouplingMode → String
  | disabled => "disabled"
  | enabled => "enabled"
  | unknown s => s

def DecouplingMode.ofName := modeNamed name [disabled, enabled] unknown

def MoveValidation.name : MoveValidation → String
  | strict => "strict"
  | allowRotations => "allow_prx"
  | none => "none"
  | unknown s => s

def MoveValidation.ofName := modeNamed name [strict, allowRotations, none] unknown

def FrameTracking.name : FrameTracking → String
  | full => "full"
  | withoutDetuning => "no_detuning_correction"
  | none => "none"
  | unknown s => s

def FrameTracking.ofName := modeNamed name [full, withoutDetuning, none] unknown

end Transmon.Compiler
