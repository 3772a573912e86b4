import Mathlib
import Transmon.Proofs.Basic
import Transmon.Schedule.MoveCorrection

/-!
Corrections of MOVE sandwiches.

A sandwich shows on two channels: on the drive channel of its resonator as a stay, with the frame changes that are
to be handed over, and on the drive channel of its qubit, where the frame change behind the closing marker takes
them. The two passes meet in a table that is keyed by the fields of closing markers. So what a sandwich gets is the
correction of the last stay whose closing marker has the same fields, which need not be its own.
-/

namespace Transmon.Schedule

open Outcome List Option
open Float.Model (UnpackedFloat)

/-!
Markers are told apart by their fields.
-/

/-- What a double stands for in comparisons: the zeros are one, and what is no number is nothing. -/
def standing : UnpackedFloat → Option UnpackedFloat
  | .notANumber => none
  | .zero _ => some (.zero .positive)
  | number => some number

theorem unpacked_beq_iff {a b : UnpackedFloat} (number : (standing a).isSome) :
    a.beq b = true ↔ standing a = standing b := by
  rcases a with (_ | _) | _ | (_ | _) | ⟨(_ | _), m, e, _⟩ <;>
    rcases b with (_ | _) | _ | (_ | _) | ⟨(_ | _), n, f, _⟩ <;>
    simp_all [UnpackedFloat.beq, UnpackedFloat.compare, standing]
  all_goals first | rfl | exact and_comm

/-- The fields of a marker that takes a whole number of samples and has a detuning. -/
def identity : Marker → Option (Int × String × String × UnpackedFloat)
  | (.int samples, qubit, resonator, detuning) =>
    (standing detuning.toModel.unpack).map fun detuning => (samples, qubit, resonator, detuning)
  | _ => none

theorem sameMarker_iff {a b : Marker} (first : (identity a).isSome) (second : (identity b).isSome) :
    sameMarker a b = true ↔ identity a = identity b := by
  obtain ⟨m | m, p, r, x⟩ := a
  · obtain ⟨n | n, q, s, y⟩ := b
    · simp only [identity, isSome_map] at first second
      have equal : (x == y) = true ↔ standing x.toModel.unpack = standing y.toModel.unpack := unpacked_beq_iff first
      obtain ⟨u, left⟩ := isSome_iff_exists.mp first
      obtain ⟨v, right⟩ := isSome_iff_exists.mp second
      have whole : (Number.int m == Number.int n) = true ↔ m = n := beq_iff_eq (a := m)
      simp only [sameMarker, Bool.and_eq_true, whole, equal, beq_iff_eq, identity, left, right, map_some,
        some.injEq, Prod.mk.injEq, and_assoc]
    · simp [identity] at second
  · simp [identity] at first

/-!
Stays.
-/

/-- Idling and frame changes are all that the drive channel of a resonator shows between markers. -/
def isIdling : Instruction → Bool
  | .virtualRz .. | .wait _ | .block _ => true
  | _ => false

def frame? : Instruction → Option Float
  | .virtualRz _ phase => some phase
  | _ => none

def markerOf (marker : Marker) : Instruction := .moveMarker marker.1 marker.2.1 marker.2.2.1 marker.2.2.2

/-- The stay of a state in a resonator: the markers where it comes and goes, the frame changes behind them, and
what the resonator's channel shows between. -/
structure Stay where
  (opening closing : Marker)
  (entry exit : Number × Float)
  inside : List Instruction
  idling : ∀ instr ∈ inside, isIdling instr
  sameQubit : closing.2.1 = opening.2.1
  sameResonator : closing.2.2.1 = opening.2.2.1
  identified : (identity closing).isSome

namespace Stay

variable (stay : Stay)

def instructions : List Instruction :=
  markerOf stay.opening :: .virtualRz stay.entry.1 stay.entry.2 ::
    (stay.inside ++ [markerOf stay.closing, .virtualRz stay.exit.1 stay.exit.2])

/-- The sum of the frame changes, in the order of time. -/
def phase : Float := (stay.inside.filterMap frame?).foldl (· + ·) stay.entry.2 + stay.exit.2

def samples : Number := (stay.inside.map Instruction.duration).foldl (· + ·) 0

/-- The frame changes of the stay without the phase that the detuning gathers while it lasts. -/
def correction (station : Station) (usesDetuning : Bool) : Outcome Float := do
  let gathered ← if usesDetuning then detuningPhase station stay.opening.2.1 stay.samples stay.closing.2.2.2
    else pure 0.0
  return stay.phase - gathered

end Stay

/-- A stay as a sandwich on the channel of its qubit: what stands between its markers there, and the frame change
behind the closing one. -/
structure Sandwich where
  stay : Stay
  filling : List Instruction
  own : Number × Float

def Sandwich.instructions (sandwich : Sandwich) : List Instruction :=
  markerOf sandwich.stay.opening :: (sandwich.filling ++
    [markerOf sandwich.stay.closing, .virtualRz sandwich.own.1 sandwich.own.2])

/-- A sandwich without markers, with `correction` added to the frame change that closes it. -/
def Sandwich.corrected (correction : Float) (sandwich : Sandwich) : List Instruction :=
  sandwich.filling ++ [.virtualRz sandwich.own.1 (Phase.normalise (correction + sandwich.own.2))]

/-- The content of a channel: pieces, what stands before each of them, and what stands behind the last. -/
structure Strand (α : Type) where
  turns : List (List Instruction × α)
  last : List Instruction

namespace Strand

variable {α : Type} (strand : Strand α)

def pieces : List α := strand.turns.map Prod.snd

variable (shown : α → List Instruction)

def instructions : List Instruction :=
  strand.turns.flatMap (fun turn => turn.1 ++ shown turn.2) ++ strand.last

def between : List Instruction := strand.turns.flatMap Prod.fst ++ strand.last

theorem instructions_cons (turn : List Instruction × α)
    (turns : List (List Instruction × α)) (last : List Instruction) :
    (Strand.mk (turn :: turns) last).instructions shown =
      turn.1 ++ (shown turn.2 ++ (Strand.mk turns last).instructions shown) := by
  simp [instructions]

end Strand

/-!
First pass: the channels of the resonators.
-/

variable {station : Station} {q res : String} {usesDetuning : Bool} {corrections : Corrections}
  {amount : Stay → Float} {stays : List Stay}

def Guest.pass (guest : Guest) (instr : Instruction) : Guest :=
  { guest with phase := (frame? instr).elim guest.phase (guest.phase + ·), samples := guest.samples + instr.duration }

theorem foldl_pass (inside : List Instruction) (guest : Guest) :
    inside.foldl Guest.pass guest = ⟨guest.qubit, (inside.filterMap frame?).foldl (· + ·) guest.phase,
      (inside.map Instruction.duration).foldl (· + ·) guest.samples⟩ := by
  induction inside generalizing guest with
  | nil => rfl
  | cons instr rest ih =>
    rw [foldl_cons, ih]
    cases shown : frame? instr <;> simp [Guest.pass, shown]

theorem resonatorCorrections_idling {gap : List Instruction} (idling : ∀ instr ∈ gap, isIdling instr)
    (guest : Option Guest) (rest : List Instruction) :
    resonatorCorrections station res usesDetuning corrections guest (gap ++ rest) =
      resonatorCorrections station res usesDetuning corrections (guest.map (gap.foldl Guest.pass)) rest := by
  induction gap generalizing guest with
  | nil => cases guest <;> rfl
  | cons instr gap ih =>
    have next := ih (fun later mem => idling later (.tail _ mem)) (guest.map (Guest.pass · instr))
    have first := idling instr (.head _)
    rw [Option.map_map] at next
    cases instr <;> simp only [isIdling, Bool.false_eq_true] at first
    all_goals
      rw [cons_append, resonatorCorrections]
      exact next

theorem resonatorCorrections_stay (stay : Stay) (rest : List Instruction) :
    resonatorCorrections station res usesDetuning corrections none (stay.instructions ++ rest) = (do
      let phase ← stay.correction station usesDetuning
      resonatorCorrections station res usesDetuning (enterCorrection corrections stay.closing phase) none rest) := by
  have inside := foldl_pass stay.inside ⟨stay.opening.2.1, stay.entry.2, 0⟩
  simp only [Stay.instructions, markerOf, cons_append, append_assoc, nil_append, resonatorCorrections,
    frameAfter, pure_bind, resonatorCorrections_idling stay.idling, map_some, inside]
  cases usesDetuning <;> simp [Stay.correction, Stay.phase, Stay.samples, ← stay.sameQubit]

/-- The last stay that closes with such a marker. -/
def lastClosing (stays : List Stay) (marker : Marker) : Option Stay :=
  stays.reverse.find? fun stay => sameMarker stay.closing marker

/-- The table holds for each marker the amount of the last stay that closes with it. -/
structure Records (amount : Stay → Float) (stays : List Stay) (corrections : Corrections) : Prop where
  identified : ∀ entry ∈ corrections, (identity entry.1).isSome
  latest : ∀ marker, (identity marker).isSome →
    (corrections.find? fun entry => sameMarker entry.1 marker).map Prod.snd = (lastClosing stays marker).map amount

/-- A new entry takes the place of those with the same marker and leaves the others. -/
theorem find?_enterCorrection (identified : ∀ e ∈ corrections, (identity e.1).isSome) {stay : Stay}
    {marker : Marker} (known : (identity marker).isSome) (phase : Float) :
    (enterCorrection corrections stay.closing phase).find? (fun e => sameMarker e.1 marker) =
      if sameMarker stay.closing marker then some (stay.closing, phase)
      else corrections.find? fun e => sameMarker e.1 marker := by
  have same := sameMarker_iff stay.identified known
  rw [enterCorrection, find?_append, find?_filter]
  split
  case isTrue closes =>
    have gone : corrections.find? (fun e => !sameMarker e.1 stay.closing && sameMarker e.1 marker) = none := by
      refine find?_eq_none.mpr fun e mem kept => ?_
      rw [Bool.and_eq_true, Bool.not_eq_true', ← Bool.not_eq_true, sameMarker_iff (identified e mem) known,
        sameMarker_iff (identified e mem) stay.identified] at kept
      exact kept.1 (kept.2.trans (same.mp closes).symm)
    simp [gone, closes]
  case isFalse other =>
    have kept : corrections.find? (fun e => !sameMarker e.1 stay.closing && sameMarker e.1 marker) =
        corrections.find? fun e => sameMarker e.1 marker := by
      rw [← head?_filter, ← head?_filter, filter_congr fun e mem => ?_]
      cases closes : sameMarker e.1 marker with
      | false => rw [Bool.and_false]
      | true =>
        rw [sameMarker_iff (identified e mem) known] at closes
        rw [same, ← closes, eq_comm, ← sameMarker_iff (identified e mem) stay.identified] at other
        simp [other]
    simp [kept, other]

theorem Records.enter (records : Records amount stays corrections) (stay : Stay) :
    Records amount (stays ++ [stay]) (enterCorrection corrections stay.closing (amount stay)) where
  identified e mem := by
    rcases mem_append.mp mem with earlier | added
    · exact records.identified e (mem_filter.mp earlier).1
    · rw [mem_singleton.mp added]
      exact stay.identified
  latest marker known := by
    rw [find?_enterCorrection records.identified known, lastClosing, reverse_append, reverse_singleton,
      singleton_append, find?_cons]
    cases sameMarker stay.closing marker with
    | true => rfl
    | false => exact records.latest marker known

theorem Records.channel {strand : Strand Stay} (records : Records amount stays corrections)
    (idling : ∀ instr ∈ strand.between, isIdling instr)
    (amounts : ∀ stay ∈ strand.pieces, stay.correction station usesDetuning = .ok (amount stay)) :
    ∃ entered, resonatorCorrections station res usesDetuning corrections none (strand.instructions Stay.instructions) =
      .ok entered ∧ Records amount (stays ++ strand.pieces) entered := by
  obtain ⟨turns, last⟩ := strand
  induction turns generalizing stays corrections with
  | nil =>
    refine ⟨corrections, ?_, by simpa [Strand.pieces] using records⟩
    have only : ∀ instr ∈ last, isIdling instr := idling
    rw [Strand.instructions, flatMap_nil, nil_append, ← append_nil last, resonatorCorrections_idling only]
    rfl
  | cons turn turns ih =>
    obtain ⟨first, later⟩ := forall_mem_cons.mp amounts
    obtain ⟨entered, run, recorded⟩ := ih (records.enter turn.2)
      (fun instr mem => idling instr (by simp_all [Strand.between])) later
    refine ⟨entered, ?_, by simpa [Strand.pieces] using recorded⟩
    have before : ∀ instr ∈ turn.1, isIdling instr := fun instr mem => idling instr (by simp_all [Strand.between])
    rw [Strand.instructions_cons, resonatorCorrections_idling before, map_none, resonatorCorrections_stay, first,
      ok_bind, run]

/-!
Second pass: the channels of the qubits.
-/

def isUnmarked (instr : Instruction) : Bool := instr.kind != .moveMarker

theorem correctQubit_unmarked {gap rest corrected : List Instruction} (unmarked : ∀ instr ∈ gap, isUnmarked instr)
    {inside : Option String} (run : correctQubit q usesDetuning corrections inside rest = .ok corrected) :
    correctQubit q usesDetuning corrections inside (gap ++ rest) = .ok (gap ++ corrected) := by
  induction gap with
  | nil => exact run
  | cons instr gap ih =>
    have next := ih fun later mem => unmarked later (.tail _ mem)
    have first := unmarked instr (.head _)
    cases instr
    case moveMarker => simp [isUnmarked, Instruction.kind] at first
    all_goals simp [correctQubit, next]

variable {sandwich : Sandwich}

theorem correctQubit_sandwich {rest corrected : List Instruction} {phase : Float}
    (unmarked : ∀ instr ∈ sandwich.filling, isUnmarked instr)
    (found : (corrections.find? fun e => sameMarker e.1 sandwich.stay.closing).map Prod.snd = some phase)
    (run : correctQubit q usesDetuning corrections none rest = .ok corrected) :
    correctQubit q usesDetuning corrections none (sandwich.instructions ++ rest) =
      .ok (sandwich.corrected phase ++ corrected) := by
  obtain ⟨e, mem, rfl⟩ := map_eq_some_iff.mp found
  have closing : correctQubit q usesDetuning corrections (some sandwich.stay.opening.2.2.1)
      (markerOf sandwich.stay.closing :: .virtualRz sandwich.own.1 sandwich.own.2 :: rest) =
      .ok (.virtualRz sandwich.own.1 (Phase.normalise (e.2 + sandwich.own.2)) :: corrected) := by
    simp [markerOf, correctQubit, ← sandwich.stay.sameResonator, mem, require, frameAfter, run]
  have filling := correctQubit_unmarked unmarked closing
  simpa [Sandwich.instructions, Sandwich.corrected, markerOf, correctQubit] using filling

/-- What the channel of a qubit must be for its sandwiches to be closed. -/
structure Strand.Lends (strand : Strand Sandwich) (stays : List Stay) : Prop where
  unmarked : ∀ instr ∈ strand.between, isUnmarked instr
  filled : ∀ sandwich ∈ strand.pieces, ∀ instr ∈ sandwich.filling, isUnmarked instr
  hosted : ∀ sandwich ∈ strand.pieces, sandwich.stay ∈ stays

/-- The stay whose correction a sandwich gets: the last one that closes as its own does. -/
def governing (stays : List Stay) (sandwich : Sandwich) : Stay :=
  (lastClosing stays sandwich.stay.closing).getD sandwich.stay

/-- Where no other stay closes with such a marker, a sandwich gets the correction of its own stay. -/
theorem governing_eq
    (alone : ∀ stay ∈ stays, sameMarker stay.closing sandwich.stay.closing → stay = sandwich.stay) :
    governing stays sandwich = sandwich.stay := by
  rw [governing]
  cases latest : lastClosing stays sandwich.stay.closing with
  | none => rfl
  | some last =>
    have closes := find?_some latest
    exact alone last (mem_reverse.mp (mem_of_find?_eq_some latest)) closes

def Strand.corrected (strand : Strand Sandwich) (correction : Sandwich → Float) : List Instruction :=
  strand.instructions fun sandwich => sandwich.corrected (correction sandwich)

variable {strand : Strand Sandwich}

theorem Strand.corrected_congr {first second : Sandwich → Float}
    (same : ∀ sandwich ∈ strand.pieces, first sandwich = second sandwich) :
    strand.corrected first = strand.corrected second := by
  rw [corrected, corrected, instructions, instructions,
    flatMap_congr fun turn mem => by rw [same turn.2 (mem_map_of_mem mem)]]

theorem lastClosing_of_mem {stay : Stay} (mem : stay ∈ stays) :
    ∃ last, lastClosing stays stay.closing = some last := by
  refine isSome_iff_exists.mp (find?_isSome.mpr ⟨stay, mem_reverse.mpr mem, ?_⟩)
  exact (sameMarker_iff stay.identified stay.identified).mpr rfl

theorem Records.closes
    (records : Records amount stays corrections) (lends : strand.Lends stays) :
    correctQubit q usesDetuning corrections none (strand.instructions Sandwich.instructions) =
      .ok (strand.corrected fun sandwich => amount (governing stays sandwich)) := by
  obtain ⟨turns, last⟩ := strand
  induction turns with
  | nil =>
    have unmarked : ∀ instr ∈ last, isUnmarked instr := lends.unmarked
    have ends : correctQubit q usesDetuning corrections none [] = .ok [] := rfl
    simpa [Strand.instructions, Strand.corrected] using correctQubit_unmarked unmarked ends
  | cons turn turns ih =>
    have later : (Strand.mk turns last).Lends stays :=
      ⟨fun instr mem => lends.unmarked instr (by simp_all [Strand.between]),
        fun sandwich mem => lends.filled sandwich (.tail _ mem),
        fun sandwich mem => lends.hosted sandwich (.tail _ mem)⟩
    obtain ⟨governor, latest⟩ := lastClosing_of_mem (lends.hosted turn.2 (.head _))
    have found := records.latest _ turn.2.stay.identified
    rw [latest, map_some] at found
    have closed := correctQubit_sandwich (lends.filled turn.2 (.head _)) found (ih later)
    rw [Strand.corrected, Strand.instructions_cons, Strand.instructions_cons]
    simpa [Strand.corrected, governing, latest] using
      correctQubit_unmarked (fun instr mem => lends.unmarked instr (by simp_all [Strand.between])) closed

/-- The channel of a resonator shows its stays; it may be missing if there are none. -/
structure Hosted (schedule : Schedule) (station : Station) (usesDetuning : Bool) (amount : Stay → Float)
    (strand : Strand Stay) (resonator : String) : Prop where
  idling : ∀ instr ∈ strand.between, isIdling instr
  amounts : ∀ stay ∈ strand.pieces, stay.correction station usesDetuning = .ok (amount stay)
  shown : ∃ channel, station.driveChannel resonator = .ok channel ∧
    match schedule.channels.get? channel with
    | none => strand.turns = []
    | some segment => segment.instructions = strand.instructions Stay.instructions

def staysOf (station : Station) (hosting : String → Strand Stay) : List Stay :=
  station.chip.resonators.flatMap fun resonator => (hosting resonator).pieces

/-- A schedule of sandwiches. The channels of the resonators show their stays. Those of the qubits, which are told by
their own names, show sandwiches with these stays. -/
structure Planned (schedule : Schedule) (station : Station) (usesDetuning : Bool) (amount : Stay → Float)
    (hosting : String → Strand Stay) (lending : String → Strand Sandwich) : Prop where
  hosts : ∀ resonator ∈ station.chip.resonators,
    Hosted schedule station usesDetuning amount (hosting resonator) resonator
  lends : ∀ qubit ∈ station.chip.qubits, ∃ channel, station.driveChannel qubit = .ok channel ∧
    ∀ segment, schedule.channels.get? channel = some segment →
      segment.instructions = (lending channel).instructions Sandwich.instructions ∧
      (lending channel).Lends (staysOf station hosting)

variable {schedule : Schedule} {hosting : String → Strand Stay} {lending : String → Strand Sandwich}

theorem Records.enterCorrections {strand : Strand Stay} (records : Records amount stays corrections)
    (hosted : Hosted schedule station usesDetuning amount strand res) :
    ∃ entered, schedule.enterCorrections station usesDetuning corrections res = .ok entered ∧
      Records amount (stays ++ strand.pieces) entered := by
  obtain ⟨idling, amounts, ch, line, shown⟩ := hosted
  rw [Schedule.enterCorrections, line, ok_bind]
  cases held : schedule.channels.get? ch with
  | none =>
    rw [held] at shown
    exact ⟨corrections, rfl, by simpa [Strand.pieces, shown] using records⟩
  | some segment =>
    rw [held] at shown
    simpa only [shown] using records.channel idling amounts

theorem Records.ofResonators {resonators : List String} (records : Records amount stays corrections)
    (hosts : ∀ res ∈ resonators, Hosted schedule station usesDetuning amount (hosting res) res) :
    ∃ entered, resonators.foldlM (schedule.enterCorrections station usesDetuning) corrections = .ok entered ∧
      Records amount (stays ++ resonators.flatMap fun res => (hosting res).pieces) entered := by
  induction resonators generalizing stays corrections with
  | nil => exact ⟨corrections, rfl, by simpa using records⟩
  | cons res resonators ih =>
    obtain ⟨first, later⟩ := forall_mem_cons.mp hosts
    obtain ⟨entered, run, recorded⟩ := records.enterCorrections first
    obtain ⟨last, rest, whole⟩ := ih recorded later
    refine ⟨last, ?_, by simpa using whole⟩
    rw [foldlM_cons, run, ok_bind, rest]

variable {content : String → List Instruction}

/-- The second pass gives the channels of the qubits that the schedule has, each with its corrected content. -/
theorem lookup_correctedChannels {qubits : List String}
    (each : ∀ q ∈ qubits, ∃ ch, station.driveChannel q = .ok ch ∧
      ∀ segment, schedule.channels.get? ch = some segment →
        correctQubit q usesDetuning corrections none segment.instructions = .ok (content ch)) :
    ∃ corrected, qubits.filterMapM (schedule.correctedChannel? station usesDetuning corrections) = .ok corrected ∧
      ∀ ch segment, schedule.channels.get? ch = some segment →
        (∀ q ∈ qubits, station.driveChannel q = .ok ch →
          corrected.lookup ch = some (content ch)) ∧
        ((∀ q ∈ qubits, station.driveChannel q ≠ .ok ch) → corrected.lookup ch = none) := by
  induction qubits with
  | nil => exact ⟨[], rfl, by simp⟩
  | cons q qubits ih =>
    obtain ⟨corrected, run, looked⟩ := ih fun other mem => each other (.tail _ mem)
    obtain ⟨line, known, done⟩ := each q (.head _)
    rw [filterMapM_cons, correctedChannel?, known, ok_bind]
    cases found : schedule.channels.get? line with
    | none =>
      refine ⟨corrected, by simp [run], fun ch segment present => ?_⟩
      have other : line ≠ ch := by
        rintro rfl
        simp [found] at present
      simpa only [forall_mem_cons, known, Except.ok.injEq, other, false_imp_iff, ne_eq, not_false_eq_true,
        true_and] using looked ch segment present
    | some held =>
      refine ⟨(line, content line) :: corrected, by simp [run, done held found], fun ch segment present => ?_⟩
      by_cases same : line = ch
      · subst same
        simp [known]
      · rw [Table.lookup_cons_of_ne (Ne.symm same)]
        simpa only [forall_mem_cons, known, Except.ok.injEq, same, false_imp_iff, ne_eq, not_false_eq_true,
          true_and] using looked ch segment present

/-- The corrected schedule has the same channels. Those of the qubits have their corrected content. -/
theorem correctMoves_content
    (entered : station.chip.resonators.foldlM (schedule.enterCorrections station usesDetuning) [] = .ok corrections)
    (each : ∀ q ∈ station.chip.qubits, ∃ ch, station.driveChannel q = .ok ch ∧
      ∀ segment, schedule.channels.get? ch = some segment →
        correctQubit q usesDetuning corrections none segment.instructions = .ok (content ch)) :
    ∃ after, schedule.correctMoves station usesDetuning = .ok after ∧ ∀ ch,
      (schedule.channels.get? ch = none → after.channels.get? ch = none) ∧
      ∀ segment, schedule.channels.get? ch = some segment →
        ∃ corrected, after.channels.get? ch = some corrected ∧
          (∀ q ∈ station.chip.qubits, station.driveChannel q = .ok ch →
            corrected.instructions = content ch) ∧
          ((∀ q ∈ station.chip.qubits, station.driveChannel q ≠ .ok ch) →
            corrected.instructions = segment.instructions) := by
  obtain ⟨corrected, second, looked⟩ := lookup_correctedChannels each
  refine ⟨_, by rw [Schedule.correctMoves, entered, ok_bind, second, ok_bind]; rfl, fun ch => ?_⟩
  have shown : (Schedule.ofChannels (schedule.channels.entries.map fun e =>
      (e.1, (corrected.lookup e.1).getD e.2.instructions)) none).channels =
      schedule.channels.map fun name held => Segment.ofInstructions ((corrected.lookup name).getD held.instructions) := by
    simp [Schedule.ofChannels, Table.map]
  rw [shown, Table.get?_map]
  refine ⟨fun absent => by rw [absent, map_none], fun segment present => ?_⟩
  obtain ⟨inside, outside⟩ := looked ch segment present
  refine ⟨_, by rw [present, map_some], fun q mem line => ?_, fun other => ?_⟩
  · rw [inside q mem line]
    rfl
  · rw [outside other]
    rfl

/-- Every sandwich of a schedule is closed with the correction of the last stay that closes with a marker of the same
fields. That is the correction of its own stay where no other closes so. Other channels stay as they are. -/
theorem correctMoves_governed (planned : Planned schedule station usesDetuning amount hosting lending) :
    ∃ after, schedule.correctMoves station usesDetuning = .ok after ∧
      ∀ channel segment, schedule.channels.get? channel = some segment →
        ∃ corrected, after.channels.get? channel = some corrected ∧
          (∀ qubit ∈ station.chip.qubits, station.driveChannel qubit = .ok channel →
            corrected.instructions =
              (lending channel).corrected (fun sandwich => amount (governing (staysOf station hosting) sandwich)) ∧
            ((∀ sandwich ∈ (lending channel).pieces, ∀ stay ∈ staysOf station hosting,
                sameMarker stay.closing sandwich.stay.closing → stay = sandwich.stay) →
              corrected.instructions = (lending channel).corrected fun sandwich => amount sandwich.stay)) ∧
          ((∀ qubit ∈ station.chip.qubits, station.driveChannel qubit ≠ .ok channel) →
            corrected.instructions = segment.instructions) := by
  have start : Records amount [] [] := ⟨by simp, by simp [lastClosing]⟩
  obtain ⟨corrections, first, records⟩ := start.ofResonators planned.hosts
  rw [List.nil_append] at records
  have closed : ∀ qubit ∈ station.chip.qubits, ∃ channel, station.driveChannel qubit = .ok channel ∧
      ∀ segment, schedule.channels.get? channel = some segment →
        correctQubit qubit usesDetuning corrections none segment.instructions =
          .ok ((lending channel).corrected fun sandwich => amount (governing (staysOf station hosting) sandwich)) := by
    intro qubit member
    obtain ⟨channel, line, shown⟩ := planned.lends qubit member
    refine ⟨channel, line, fun segment present => ?_⟩
    obtain ⟨same, lends⟩ := shown segment present
    rw [same]
    exact records.closes lends
  obtain ⟨after, run, shown⟩ := correctMoves_content first closed
  refine ⟨after, run, fun channel segment present => ?_⟩
  obtain ⟨corrected, found, governed, others⟩ := (shown channel).2 segment present
  refine ⟨corrected, found, fun qubit member line => ⟨governed qubit member line, fun alone => ?_⟩, others⟩
  refine (governed qubit member line).trans (Strand.corrected_congr fun sandwich piece => ?_)
  rw [governing_eq (alone sandwich piece)]

/-- A qubit and a resonator. -/
def moveStation : Station where
  chip := ⟨["QB1"], ["CR1"], [], [], ∅, ∅, ∅, ∅, ∅⟩
  channels := ⟨[("qubit", ⟨1e9, 1, 0, [], true, false, true, none⟩),
    ("resonator", ⟨1e9, 1, 0, [], true, true, true, none⟩)]⟩
  lines := ⟨[("QB1", ⟨[("drive", "qubit")]⟩), ("CR1", ⟨[("drive", "resonator")]⟩)]⟩

/-- A stay of the qubit's state with one frame change. -/
def turnedStay (phase : Float) : Stay where
  opening := (.int 0, "QB1", "CR1", 0.0)
  closing := (.int 0, "QB1", "CR1", 0.0)
  entry := (.int 8, 0.0)
  exit := (.int 8, 0.0)
  inside := [.virtualRz (.int 16) phase]
  idling := by simp [isIdling]
  sameQubit := rfl
  sameResonator := rfl
  identified := rfl

def twoStays : Strand Stay := ⟨[([], turnedStay 0.5), ([], turnedStay 0.25)], []⟩

def twoSandwiches : Strand Sandwich :=
  ⟨[([], ⟨turnedStay 0.5, [.wait (.int 24)], (.int 8, 0.0)⟩),
    ([], ⟨turnedStay 0.25, [.wait (.int 24)], (.int 8, 0.0)⟩)], []⟩

def twiceMoved : Schedule :=
  .ofChannels [("qubit", twoSandwiches.instructions Sandwich.instructions),
    ("resonator", twoStays.instructions Stay.instructions)] none

theorem planned_twiceMoved :
    Planned twiceMoved moveStation false (fun stay => stay.phase - 0.0) (fun _ => twoStays) fun _ => twoSandwiches where
  hosts res mem := by
    obtain rfl := mem_singleton.mp mem
    exact ⟨by simp [Strand.between, twoStays], fun _ _ => rfl, "resonator", rfl, rfl⟩
  lends q mem := by
    obtain rfl := mem_singleton.mp mem
    refine ⟨"qubit", rfl, fun segment present => ⟨?_, by simp [Strand.between, twoSandwiches], ?_, ?_⟩⟩
    · obtain rfl := some.inj present
      rfl
    all_goals
      intro sandwich piece
      rcases mem_pair.mp piece with rfl | rfl <;>
        simp [isUnmarked, Instruction.kind, staysOf, moveStation, twoStays, Strand.pieces]

/-- Both sandwiches of a pair get the correction of the second one. -/
theorem second_stay_corrects_both :
    ∃ after corrected, twiceMoved.correctMoves moveStation false = .ok after ∧
      after.channels.get? "qubit" = some corrected ∧
      corrected.instructions.filterMap frame? = [Phase.normalise 0.25, Phase.normalise 0.25] := by
  obtain ⟨after, run, shown⟩ := correctMoves_governed planned_twiceMoved
  obtain ⟨corrected, present, closed, -⟩ := shown "qubit" _ rfl
  refine ⟨after, corrected, run, present, ?_⟩
  have brought : (turnedStay 0.25).phase - 0.0 + 0.0 = 0.25 := by decide +kernel
  rw [(closed "QB1" (.head _) rfl).1, ← brought]
  rfl

end Transmon.Schedule
