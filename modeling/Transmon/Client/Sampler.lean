import Transmon.Client.Basic
import Transmon.Moments.Device

/-!
Samplers: a chip behind a link, for circuits in moments.
-/

namespace Transmon.Client

structure Sampler where
  link : Link
  isOpen : Bool := true
  device : Moments.Device
  calibration : String
  isDefault : Bool
  timeout : Option Number := none
  opts : Options

structure PreparedCircuit where
  circuit : Moments.Circuit
  calibration : Option String := none

abbrev Sampling := Work Sampler

namespace Sampling

def online {α : Type} (work : Talk α) : Sampling α :=
  .within Sampler.link (fun link sampler => { sampler with link }) work

def warn (s : String) := online (.onHost (Host.warn s))

def shownCal : Option String → String
  | none => "None"
  | some id => s!"UUID('{id}')"

variable (circuits : List PreparedCircuit)

def req (shots : Json) : Sampling Run := do
  let told ← circuits.mapM (Moments.toCircuit ·.circuit)
  let sampler ← get
  if !sampler.isOpen then failWith .runtime "Cannot submit circuits since session to IQM client has been closed."
  let cals := circuits.map PreparedCircuit.calibration
  let ys := (cals.filter (· ≠ some sampler.calibration)).eraseDups
  if !ys.isEmpty then
    let s := ", ".intercalate (Text.sorted (ys.map shownCal))
    warn ("Circuits have been decomposed/routed using calibration set(s) \x7b" ++ s ++ "\x7d, different than the "
      ++ s!"current calibration set {sampler.calibration} of this sampler. Decompose/route the circuits using this "
      ++ "sampler to ensure successful execution.")
  if sampler.isDefault then
    let now := (← online (.architecture none)).calsetId
    if sampler.calibration ≠ now then
      warn (s!"Server default calibration set has changed from {sampler.calibration} to {now}. Use a new IQMSampler "
        ++ "to decompose/route the circuits using the new calibration set to ensure successful execution.")
  online (.prepare { circuits := told, calibration := some sampler.calibration, shots, opts := sampler.opts })

def run (shots : Json) : Sampling (String × List Json × Json) := do
  let j ← online (.submit (← req circuits shots))
  let x ← online (.awaitResult j ((← get).timeout.getD jobPatience))
  match x.get "measurements" with
  | .null => failWith .runtime "No measurements returned from IQM quantum computer."
  | measured => pure (j, measured.items, (x.get "metadata").get "calibration_set_id")

def close : Sampling Unit := do
  if (← get).isOpen then
    discard (online .close)
    modify ({ · with isOpen := false })

end Sampling

def Sampler.connect (cal : Option String) (dev : Option Moments.Device) (timeout : Option Number)
    (opts : Options) : Talk Sampler := do
  let a ← .architecture cal
  let x := Moments.Device.ofArchitecture a
  if let some given := dev then
    if !given.agrees x then
      let which := match cal with
        | none => s!"the server default calibration set {a.calsetId}"
        | some chosen => s!"calibration set {chosen}"
      refuse s!"The given 'device' is not compatible with {which}."
  pure {
    link := ← get, device := dev.getD x, calibration := a.calsetId,
    isDefault := cal.isNone, timeout, opts }

end Transmon.Client
