import Transmon.Schedule.Basic
import Transmon.Station

/-!
Phases that qubit states gather while they are in a resonator.

Markers stand where a state enters or leaves a resonator; each is followed by a frame change. Between the two
markers the resonator's frame changes are counted together with the phase that the detuning gathers in the time
between. The sum goes to the qubit when the state comes back.
-/

namespace Transmon.Schedule

/-- A marker by its fields. -/
abbrev Marker := Number × String × String × Float

/-- The corrections that markers bring to their qubits. Equal markers share one. -/
abbrev Corrections := List (Marker × Float)

def sameMarker (a b : Marker) := a.1 == b.1 && a.2.1 == b.2.1 && a.2.2.1 == b.2.2.1 && a.2.2.2 == b.2.2.2

def enterCorrection (fixes : Corrections) (m : Marker) (phase : Float) : Corrections :=
  (fixes.filter (!sameMarker ·.1 m)) ++ [(m, phase)]

def shownClass (i : Instruction) :=
  let home := if i.kind == .moveMarker then "iqm.pulse.gates.move" else "iqm.pulse.playlist.instructions"
  s!"<class '{home}.{i.kind.name}'>"

def frameAfter (part : String) : Option Instruction → Outcome (Number × Float)
  | some (.virtualRz span phase) => pure (span, phase)
  | some x => refuse s!"{shownClass x} following MoveMarker on {part}, should not happen."
  | none => fail .exhausted

/-- A state in a resonator: its qubit, the phase so far and the time so far in samples. -/
structure Guest where
  qubit : String
  phase : Float
  samples : Number

def detuningPhase (st : Station) (q : String) (n : Number) (detuning : Float) :=
  return 2.0 * Numeric.pi * (detuning * (← (← st.channel (← st.driveChannel q)).toSeconds n))

def resonatorCorrections (st : Station) (res : String) (usesDetuning : Bool) :
    Corrections → Option Guest → List Instruction → Outcome Corrections
  | fixes, _, [] => pure fixes
  | fixes, guest, .moveMarker span q t detuning :: xs =>
    match guest, xs with
    | none, next :: xs => do
      let (_, phase) ← frameAfter res (some next)
      resonatorCorrections st res usesDetuning fixes (some ⟨q, phase, 0⟩) xs
    | some guest, next :: xs => do
      let (_, phase) ← frameAfter res (some next)
      let gathered ← if usesDetuning then do
          if guest.qubit ≠ q then
            refuse (s!"Resonator {res}: interleaved MOVE gates between {guest.qubit} and\n" ++
              s!"                                    {q}")
          detuningPhase st guest.qubit guest.samples detuning
        else pure 0.0
      let mark : Marker := (span, q, t, detuning)
      resonatorCorrections st res usesDetuning (enterCorrection fixes mark (guest.phase + phase - gathered)) none xs
    | _, [] => fail .exhausted
  | fixes, guest, .virtualRz span phase :: xs =>
    let guest := guest.map fun g => { g with phase := g.phase + phase, samples := g.samples + span }
    resonatorCorrections st res usesDetuning fixes guest xs
  | fixes, guest, .wait span :: xs | fixes, guest, .block span :: xs =>
    resonatorCorrections st res usesDetuning fixes (guest.map fun g => { g with samples := g.samples + span }) xs
  | _, _, x :: _ => refuse s!"{shownClass x} in virtual drive channel of {res}, should not happen."

/-- The instructions of a qubit's channel without markers and with the corrections put in. `inside` is the
resonator that holds the state. -/
def correctQubit (q : String) (usesDetuning : Bool) (fixes : Corrections) :
    Option String → List Instruction → Outcome (List Instruction)
  | _, [] => pure []
  | inside, .moveMarker span owner res detuning :: xs =>
    match inside with
    | none => correctQubit q usesDetuning fixes (some res) xs
    | some x => do
      if usesDetuning && x ≠ res then refuse s!"Qubit {q}: interleaved MOVE gates between {x} and {res}"
      let mark : Marker := (span, owner, res, detuning)
      let y ← require .missing (fixes.find? (sameMarker ·.1 mark))
      match xs with
      | [] => fail .exhausted
      | next :: xs =>
        let (len, phase) ← frameAfter q (some next)
        let frame : Instruction := .virtualRz len (Phase.normalise (y.2 + phase))
        return frame :: (← correctQubit q usesDetuning fixes none xs)
  | inside, i :: xs => do return i :: (← correctQubit q usesDetuning fixes inside xs)

section channels

variable (s : Schedule) (st : Station) (usesDetuning : Bool) (fixes : Corrections)

/-- The corrections with those that the channel of a resonator brings. -/
def enterCorrections (res : String) := do
  match s.channels.get? (← st.driveChannel res) with
  | none => pure fixes
  | some seg => resonatorCorrections st res usesDetuning fixes none seg.instructions

/-- The channel of a qubit with its corrected content, if the schedule has it. -/
def correctedChannel? (q : String) := do
  let ch ← st.driveChannel q
  match s.channels.get? ch with
  | none => pure none
  | some seg => return some (ch, ← correctQubit q usesDetuning fixes none seg.instructions)

def correctMoves : Outcome Schedule := do
  let fixes ← st.chip.resonators.foldlM (s.enterCorrections st usesDetuning) []
  let corrected ← st.chip.qubits.filterMapM (s.correctedChannel? st usesDetuning fixes)
  return .ofChannels (s.channels.entries.map fun e => (e.1, (corrected.lookup e.1).getD e.2.instructions)) none

end channels

end Transmon.Schedule
