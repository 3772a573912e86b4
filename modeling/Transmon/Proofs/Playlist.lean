import Mathlib
import Transmon.Builder.Play
import Transmon.Proofs.Basic

/-!
# What playlists play

A playlist has a table of commands for each channel, and refers to them by number. Tables only grow, so a number stands
for the same command from then on. An instruction is not entered if an earlier one on its channel has the same
fingerprint, whose number it gets instead. So a playlist plays, in place of every instruction, the first one with its
fingerprint. It is right as long as instructions with the same fingerprint mean the same command, but the fingerprint
leaves out the kind of an envelope, and it takes minus one and minus two for the same number.
-/

namespace Transmon.Playlist

open Outcome List Table Option

/-- A command that is used for another one. -/
def Same (held command : Command) : Prop := held = command ∨ (held == command) = true

/-- A number stands for the command that an instruction means. -/
def Expands (table : List Command) (instruction : Instruction) (number : Nat) : Prop :=
  ∃ command held, commandOf instruction = .ok command ∧ table[number]? = some held ∧ Same held command

theorem Expands.mono {table later : List Command} {instr : Instruction} {number : Nat}
    (expands : Expands table instr number) (grown : table <+: later) : Expands later instr number := by
  obtain ⟨command, held, means, found, same⟩ := expands
  obtain ⟨rest, rfl⟩ := grown
  exact ⟨command, held, means, List.getElem?_append_left (List.getElem?_eq_some_iff.mp found).1 ▸ found, same⟩

namespace Description

variable {d next : Description} {command : Command} {number : Nat}

theorem commands_enterWaves (d : Description) (waves : List (Option Waveform)) :
    (d.enterWaves waves).1.commands = d.commands := by
  induction waves generalizing d with
  | nil => rfl
  | cons wave rest ih =>
    unfold enterWaves
    split
    · rw [ih, enterWave]
    · rfl

theorem commands_addCapture (d : Description) (capture : Capture) : (d.addCapture capture).1.commands = d.commands := by
  have kept := d.commands_enterWaves capture.waves
  unfold addCapture
  split
  · split
    · next entered => rwa [entered] at kept
    · next entered => rwa [entered] at kept
  · rfl

theorem commands_addCaptures (d : Description) (captures : List (Option Capture)) :
    (d.addCaptures captures).1.commands = d.commands := by
  induction captures generalizing d with
  | nil => rfl
  | cons capture rest ih =>
    cases capture with
    | none => exact ih d
    | some capture =>
      have kept := d.commands_addCapture capture
      unfold addCaptures
      split
      · next added => rw [ih]; rwa [added] at kept
      · next added => rwa [added] at kept

/-- A command that was entered in a table, which has only grown. -/
structure Enters (d next : Description) (command : Command) (number : Nat) : Prop where
  grown : d.commands <+: next.commands
  held : ∃ held, next.commands[number]? = some held ∧ Same held command

theorem enters_enterCommand {before : Description} (grown : before.commands <+: d.commands)
    (entered : d.enterCommand command = (next, .ok number)) : Enters before next command number := by
  obtain ⟨rfl, same⟩ := Prod.mk.inj entered
  obtain rfl := Except.ok.inj same
  split
  · next index found =>
    obtain ⟨within, equal, -⟩ := findIdx?_eq_some_iff_getElem.mp found
    exact ⟨grown, d.commands[index], getElem?_eq_getElem within, .inr equal⟩
  · exact ⟨grown.trans (prefix_append ..), command, getElem?_concat_length, .inl rfl⟩

theorem enters_after_waves {waves : List (Option Waveform)} (added : (match d.enterWaves waves with
    | (d, .error fault) => (d, .error fault)
    | (d, .ok _) => d.enterCommand command) = (next, .ok number)) : Enters d next command number := by
  have kept := d.commands_enterWaves waves
  split at added
  · cases (Prod.mk.inj added).2
  · next entered =>
    rw [entered] at kept
    exact enters_enterCommand (kept ▸ prefix_rfl) added

mutual

/-- Adding a command enters it. -/
theorem enters_add {command : Command} {d next : Description} {number : Nat}
    (added : d.add command = (next, .ok number)) : Enters d next command number := by
  match command with
  | .wait _ | .virtualRz .. =>
    rw [add] at added
    exact enters_enterCommand prefix_rfl added
  | .realPulse .. | .iqPulse .. =>
    rw [add] at added
    exact enters_after_waves added
  | .conditional _ _ ifTrue ifFalse =>
    rw [add] at added
    split at added
    · cases (Prod.mk.inj added).2
    · next first =>
      split at added
      · cases (Prod.mk.inj added).2
      · next second => exact enters_enterCommand ((enters_add first).grown.trans (enters_add second).grown) added
  | .multiplexed _ _ pulses _ =>
    rw [add] at added
    split at added
    · cases (Prod.mk.inj added).2
    · next all => exact enters_enterCommand (grown_addAll all) added
  | .readout _ probe captures =>
    rw [add] at added
    split at added
    · cases (Prod.mk.inj added).2
    · next middle _ probed =>
      have kept := middle.commands_addCaptures captures
      split at added
      · cases (Prod.mk.inj added).2
      · next captured =>
        rw [captured] at kept
        exact enters_enterCommand (kept ▸ (enters_add probed).grown) added

theorem grown_addAll {commands : List Command} {d next : Description} {done : Unit}
    (added : d.addAll commands = (next, .ok done)) : d.commands <+: next.commands := by
  match commands with
  | [] => exact (Prod.mk.inj added).1 ▸ prefix_rfl
  | command :: rest =>
    rw [addAll] at added
    split at added
    · cases (Prod.mk.inj added).2
    · next first => exact (enters_add first).grown.trans (grown_addAll added)

end

end Description

/-- The commands that the numbers of a channel refer to. -/
def table (playlist : Playlist) (name : String) : List Command :=
  (playlist.channels.get? name).elim [] Description.commands

/-- Instructions whose commands are entered, by their fingerprints, and what is played so far in place of those
given. -/
structure Memory where
  known : List (Fingerprint × Instruction) := []
  played : List Instruction := []

/-- In place of an instruction, the one that was entered with its fingerprint is played, if there is one. -/
def Memory.next (memory : Memory) (instruction : Instruction) : Memory :=
  let fingerprint := (Fingerprint.ofInstruction instruction).toOption
  match fingerprint.bind fun f => memory.known.lookup f with
  | some earlier => { memory with played := memory.played ++ [earlier] }
  | none => ⟨fingerprint.elim memory.known fun f => (f, instruction) :: memory.known, memory.played ++ [instruction]⟩

/-- What is played in place of instructions. -/
def standIns (instructions : List Instruction) : List Instruction := (instructions.foldl Memory.next {}).played

namespace Assembly

variable {assembly after : Assembly} {name other : String} {instr : Instruction} {number : Nat} {memory : Memory}
  {numbers : List Nat}

/-- An assembly follows a memory: what it knows, and the numbers that it gave, stand for the same instructions. -/
structure Follows (assembly : Assembly) (name : String) (memory : Memory) (numbers : List Nat) : Prop where
  known : List.Forall₂ (fun held entry => held.1 = entry.1 ∧ Expands (assembly.playlist.table name) entry.2 held.2)
    ((assembly.known.lookup name).getD []) memory.known
  plays : List.Forall₂ (Expands (assembly.playlist.table name)) memory.played numbers

/-- Entering an instruction concerns one channel only. -/
theorem enterInstruction_frame (entered : assembly.enterInstruction name instr = .ok (number, after)) :
    after.playlist.segments = assembly.playlist.segments ∧ ∀ other, other ≠ name →
      after.playlist.table other = assembly.playlist.table other ∧
        after.known.lookup other = assembly.known.lookup other := by
  unfold enterInstruction at entered
  dsimp only at entered
  split at entered
  · obtain ⟨-, rfl⟩ := Prod.mk.inj (pure_eq_ok_iff.mp entered)
    exact ⟨rfl, fun _ _ => ⟨rfl, rfl⟩⟩
  · obtain ⟨command, -, entered⟩ := bind_eq_ok_iff.mp entered
    obtain ⟨d, -, entered⟩ := bind_eq_ok_iff.mp entered
    obtain ⟨index, -, entered⟩ := bind_eq_ok_iff.mp entered
    obtain ⟨-, rfl⟩ := Prod.mk.inj (pure_eq_ok_iff.mp entered)
    exact ⟨rfl, fun other ne => ⟨by rw [table, get?_insert_of_ne _ _ ne]; rfl,
      lookup_put_of_ne _ _ ne⟩⟩

theorem lookup_forall₂ {held : List (Fingerprint × Nat)} {known : List (Fingerprint × Instruction)}
    {R : Instruction → Nat → Prop} (related : List.Forall₂ (fun held e => held.1 = e.1 ∧ R e.2 held.2) held known)
    (f : Fingerprint) : Option.Rel R (known.lookup f) (held.lookup f) := by
  induction related with
  | nil => exact .none
  | @cons e other _ _ same _ ih =>
    obtain ⟨same, holds⟩ := same
    obtain ⟨key, number⟩ := e
    obtain ⟨_, earlier⟩ := other
    subst same
    rw [lookup_cons, lookup_cons]
    cases f == key with
    | true => exact .some holds
    | false => exact ih

/-- Entering an instruction keeps in step with the memory. -/
theorem Follows.enterInstruction (follows : Follows assembly name memory numbers)
    (entered : assembly.enterInstruction name instr = .ok (number, after)) :
    Follows after name (memory.next instr) (numbers ++ [number]) := by
  unfold Assembly.enterInstruction at entered
  dsimp only at entered
  unfold Memory.next
  dsimp only
  generalize (Fingerprint.ofInstruction instr).toOption = fingerprint at entered ⊢
  have found : Option.Rel (Expands (assembly.playlist.table name)) (fingerprint.bind fun f => memory.known.lookup f)
      (fingerprint.bind fun f => ((assembly.known.lookup name).getD []).lookup f) := by
    cases fingerprint with
    | none => exact .none
    | some f => exact lookup_forall₂ follows.known f
  split at entered
  · next earlier known =>
    obtain ⟨rfl, rfl⟩ := Prod.mk.inj (pure_eq_ok_iff.mp entered)
    rw [known] at found
    generalize (fingerprint.bind fun f => memory.known.lookup f) = held at found ⊢
    cases found with
    | some expands => exact ⟨follows.known, rel_append follows.plays (.cons expands .nil)⟩
  · next new =>
    obtain ⟨command, means, entered⟩ := bind_eq_ok_iff.mp entered
    obtain ⟨d, held, entered⟩ := bind_eq_ok_iff.mp entered
    obtain ⟨index, added, entered⟩ := bind_eq_ok_iff.mp entered
    obtain ⟨rfl, rfl⟩ := Prod.mk.inj (pure_eq_ok_iff.mp entered)
    rw [new] at found
    generalize (fingerprint.bind fun f => memory.known.lookup f) = earlier at found ⊢
    cases found
    have enters : d.Enters (d.add command).1 command index := Description.enters_add (by rw [← added])
    have before : assembly.playlist.table name = d.commands := by
      rw [table, requireName_eq_ok_iff.mp held, elim_some]
    have grown : assembly.playlist.table name <+: (d.add command).1.commands := before ▸ enters.grown
    obtain ⟨stored, at_, same⟩ := enters.held
    have expands : Expands (d.add command).1.commands instr index := ⟨command, stored, means, at_, same⟩
    have known : List.Forall₂ (fun held e => held.1 = e.1 ∧ Expands (d.add command).1.commands e.2 held.2)
        ((assembly.known.lookup name).getD []) memory.known :=
      follows.known.imp fun _ _ related => ⟨related.1, related.2.mono grown⟩
    have plays := follows.plays.imp fun _ _ related => related.mono grown
    refine ⟨?_, ?_⟩
    · rw [table, get?_insert_self, lookup_put_self]
      cases fingerprint with
      | none => exact known
      | some f => exact .cons ⟨rfl, expands⟩ known
    · rw [table, get?_insert_self]
      exact rel_append plays (.cons expands .nil)

/-- An assembly with the segment that is being written, and how many numbers it has on a channel. -/
structure Tracks (before : List Nat) (state : Assembly × Playlist.Segment) (name : String) (memory : Memory)
    (count : Nat) : Prop where
  follows : state.1.Follows name memory (before ++ state.2.getD name [])
  length : (state.2.getD name []).length = count

variable {before : List Nat} {state final : Assembly × Playlist.Segment} {count : Nat} {ch : String}

theorem Tracks.enterInstruction (tracks : Tracks before state name memory count)
    (entered : state.1.enterInstruction ch instr = .ok (number, after)) :
    Tracks before (after, state.2.update ch [] (· ++ [number])) name
      (if ch = name then memory.next instr else memory) (if ch = name then count + 1 else count) := by
  by_cases same : ch = name
  · subst same
    have written : (state.2.update ch [] (· ++ [number])).getD ch [] = state.2.getD ch [] ++ [number] := by
      simp [Table.update, Table.getD]
    rw [if_pos rfl, if_pos rfl]
    refine ⟨?_, by rw [written, length_append, tracks.length]; rfl⟩
    rw [written, ← append_assoc]
    exact tracks.follows.enterInstruction entered
  · obtain ⟨table, known⟩ := (enterInstruction_frame entered).2 name (Ne.symm same)
    have kept : (state.2.update ch [] (· ++ [number])).getD name [] = state.2.getD name [] := by
      rw [Table.getD, Table.update, Table.get?_insert_of_ne _ _ (Ne.symm same)]
      rfl
    rw [if_neg same, if_neg same]
    refine ⟨⟨?_, ?_⟩, kept ▸ tracks.length⟩
    · rw [table, known]
      exact tracks.follows.known
    · rw [table, kept]
      exact tracks.follows.plays

/-- Entering the instructions of a channel. -/
theorem Tracks.enterAll {instructions : List Instruction} (tracks : Tracks before state name memory count)
    (entered : instructions.foldlM (fun (state : Assembly × Playlist.Segment) instr => do
      let step ← state.1.enterInstruction ch instr
      return (step.2, state.2.update ch [] (· ++ [step.1]))) state = .ok final) :
    final.1.playlist.segments = state.1.playlist.segments ∧
      Tracks before final name ((if ch = name then instructions else []).foldl Memory.next memory)
        (count + (if ch = name then instructions else []).length) := by
  induction instructions generalizing state memory count with
  | nil =>
    obtain rfl := pure_eq_ok_iff.mp entered
    simpa using tracks
  | cons instr rest ih =>
    rw [foldlM_cons] at entered
    obtain ⟨middle, stepped, entered⟩ := bind_eq_ok_iff.mp entered
    obtain ⟨⟨number, after⟩, first, stepped⟩ := bind_eq_ok_iff.mp stepped
    obtain rfl := pure_eq_ok_iff.mp stepped
    obtain ⟨segments, later⟩ := ih (tracks.enterInstruction first) entered
    refine ⟨segments.trans (enterInstruction_frame first).1, ?_⟩
    by_cases same : ch = name
    · simpa [same, Nat.add_assoc, Nat.add_comm 1] using later
    · simpa [same] using later

/-- What the entries of a schedule have to play on a channel. -/
def playedBy (name : String) (entries : List (String × Transmon.Segment)) : List Instruction :=
  entries.flatMap fun e => if e.1 = name then joinIdle none e.2.instructions else []

variable {stations : Table String Channel} {station : Channel} {entries : List (String × Transmon.Segment)}

/-- Adding one channel, whichever it is. -/
theorem Tracks.addChannel {segment : Transmon.Segment} (tracks : Tracks before state name memory count)
    (stationed : stations.get? name = some station) (real : station.isVirtual = false)
    (added : Assembly.addChannel stations true state ch segment = .ok final) :
    final.1.playlist.segments = state.1.playlist.segments ∧
      Tracks before final name ((if ch = name then joinIdle none segment.instructions else []).foldl Memory.next memory)
        (count + (if ch = name then joinIdle none segment.instructions else []).length) := by
  have skipped (ne : ch ≠ name) (same : state = final) : final.1.playlist.segments = state.1.playlist.segments ∧
      Tracks before final name ((if ch = name then joinIdle none segment.instructions else []).foldl Memory.next memory)
        (count + (if ch = name then joinIdle none segment.instructions else []).length) := by
    subst same
    simpa [ne] using tracks
  unfold Assembly.addChannel at added
  split at added
  · next absent =>
    exact skipped (fun same => by simp [← same, absent] at stationed) (pure_eq_ok_iff.mp added)
  · next held present =>
    split at added
    · next isVirtual =>
      refine skipped (fun same => ?_) (pure_eq_ok_iff.mp added)
      obtain rfl := some.inj (present.symm.trans (same ▸ stationed))
      simp [real] at isVirtual
    · dsimp only at added
      generalize opened : (if state.1.playlist.channels.contains ch = true then state.1.playlist else _) = playlist
        at added
      have same : playlist.table name = state.1.playlist.table name ∧ playlist.segments = state.1.playlist.segments := by
        subst opened
        split
        · exact ⟨rfl, rfl⟩
        · next new =>
          refine ⟨?_, rfl⟩
          by_cases own : name = ch
          · have empty : state.1.playlist.channels.get? ch = none := by simpa [Table.contains] using new
            rw [table, table, own, Table.get?_insert_self, empty]
            rfl
          · rw [table, get?_insert_of_ne _ _ own, table]
      have tracks : Tracks before ({ state.1 with playlist }, state.2) name memory count := by
        refine ⟨⟨?_, ?_⟩, tracks.length⟩
        · rw [same.1]
          exact tracks.follows.known
        · rw [same.1]
          exact tracks.follows.plays
      obtain ⟨segments, later⟩ := tracks.enterAll added
      exact ⟨segments.trans same.2, later⟩

/-- Adding the channels of a schedule. -/
theorem Tracks.addChannels (tracks : Tracks before state name memory count)
    (stationed : stations.get? name = some station) (real : station.isVirtual = false)
    (added : entries.foldlM (fun state e => Assembly.addChannel stations true state e.1 e.2) state = .ok final) :
    final.1.playlist.segments = state.1.playlist.segments ∧
      Tracks before final name ((playedBy name entries).foldl Memory.next memory)
        (count + (playedBy name entries).length) := by
  induction entries generalizing state memory count with
  | nil =>
    obtain rfl := pure_eq_ok_iff.mp added
    simpa [playedBy] using tracks
  | cons entry rest ih =>
    rw [foldlM_cons] at added
    obtain ⟨middle, first, added⟩ := bind_eq_ok_iff.mp added
    obtain ⟨same, tracks⟩ := tracks.addChannel stationed real first
    obtain ⟨segments, later⟩ := ih tracks added
    exact ⟨segments.trans same, by simpa [playedBy, Nat.add_assoc] using later⟩

/-- What a schedule has to play on a channel. -/
def played (name : String) (schedule : Schedule) : List Instruction := playedBy name schedule.channels.entries

/-- An assembly of schedules: the segments hold the numbers of what they have to play. -/
structure Built (assembly : Assembly) (name : String) (schedules : List Schedule) : Prop where
  follows : assembly.Follows name ((schedules.flatMap (played name)).foldl Memory.next {})
    (assembly.playlist.segments.flatMap (·.getD name []))
  lengths : assembly.playlist.segments.map (fun segment => (segment.getD name []).length) =
    schedules.map fun schedule => (played name schedule).length

theorem Built.addSchedule {schedules : List Schedule} {schedule : Schedule} (built : assembly.Built name schedules)
    (stationed : stations.get? name = some station) (real : station.isVirtual = false)
    (added : assembly.addSchedule stations true schedule = .ok after) : after.Built name (schedules ++ [schedule]) := by
  obtain ⟨⟨last, opened⟩, entered, added⟩ := bind_eq_ok_iff.mp added
  obtain rfl := pure_eq_ok_iff.mp added
  have start : Tracks (assembly.playlist.segments.flatMap (·.getD name [])) (assembly, ∅) name _ 0 :=
    ⟨by simpa [Table.getD] using built.follows, rfl⟩
  obtain ⟨segments, tracks⟩ := start.addChannels stationed real entered
  have same : last.playlist.segments = assembly.playlist.segments := segments
  refine ⟨?_, ?_⟩
  · simp only [same, flatMap_append, foldl_append]
    simpa [played] using ⟨tracks.follows.known, tracks.follows.plays⟩
  · have length : (opened.getD name []).length = _ := tracks.length
    simp [same, built.lengths, length, played]

/-- Adding schedules one after the other. -/
theorem Built.addAll {schedules more : List Schedule} (built : assembly.Built name schedules)
    (stationed : stations.get? name = some station) (real : station.isVirtual = false)
    (added : more.foldlM (fun assembly schedule => assembly.addSchedule stations true schedule) assembly = .ok after) :
    after.Built name (schedules ++ more) := by
  induction more generalizing assembly schedules with
  | nil => simpa [← pure_eq_ok_iff.mp added] using built
  | cons schedule rest ih =>
    rw [foldlM_cons] at added
    obtain ⟨middle, first, added⟩ := bind_eq_ok_iff.mp added
    simpa using ih (built.addSchedule stationed real first) added

theorem Built.start : ({} : Assembly).Built name [] := ⟨⟨.nil, .nil⟩, rfl⟩

end Assembly

variable (given : List Instruction)

/-- What stands in for an instruction is itself or an earlier one that was given and has its fingerprint. -/
def StandsFor (standIn instruction : Instruction) : Prop :=
  standIn = instruction ∨ standIn ∈ given ∧ ∃ held f, Fingerprint.ofInstruction standIn = .ok held ∧
    Fingerprint.ofInstruction instruction = .ok f ∧ (f == held) = true

theorem standsFor_standIns : List.Forall₂ (StandsFor given) (standIns given) given := by
  have run (rest done : List Instruction) (subset : rest ⊆ given) (memory : Memory)
      (known : ∀ e ∈ memory.known, Fingerprint.ofInstruction e.2 = .ok e.1 ∧ e.2 ∈ given)
      (stands : List.Forall₂ (StandsFor given) memory.played done) :
      List.Forall₂ (StandsFor given) (rest.foldl Memory.next memory).played (done ++ rest) := by
    induction rest generalizing done memory with
    | nil => simpa using stands
    | cons instr rest ih =>
      obtain ⟨mem, others⟩ := cons_subset.mp subset
      rw [foldl_cons, append_cons]
      cases printed : Fingerprint.ofInstruction instr with
      | error fault =>
        simp only [Memory.next, printed, Except.toOption, bind_none, elim_none]
        exact ih _ others _ known (rel_append stands (.cons (.inl rfl) .nil))
      | ok f =>
        simp only [Memory.next, printed, Except.toOption, bind_some, elim_some]
        split
        · next earlier found =>
          rw [lookup_eq_findSome?] at found
          obtain ⟨e, held, same⟩ := exists_of_findSome?_eq_some found
          obtain ⟨equal, same⟩ := ite_none_right_eq_some.mp same
          obtain rfl := some.inj same
          refine ih _ others _ known (rel_append stands (.cons (.inr ?_) .nil))
          exact ⟨(known e held).2, e.1, f, (known e held).1, printed, equal⟩
        · exact ih _ others _ (forall_mem_cons.mpr ⟨⟨printed, mem⟩, known⟩)
            (rel_append stands (.cons (.inl rfl) .nil))
  exact run given [] (List.Subset.refl _) {} (by simp) .nil

theorem expands_of_standIns {given part stand : List Instruction} {table : List Command} {numbers : List Nat}
    (nodup : ∀ first ∈ given, ∀ second ∈ given, StandsFor given first second → commandOf first = commandOf second)
    (subset : part ⊆ given) (stands : List.Forall₂ (StandsFor given) stand part)
    (plays : List.Forall₂ (Expands table) stand numbers) : List.Forall₂ (Expands table) part numbers := by
  induction stands generalizing numbers with
  | nil => cases plays; exact .nil
  | @cons first second _ _ standing _ ih =>
    obtain ⟨mem, others⟩ := cons_subset.mp subset
    cases plays with
    | cons expands rest =>
      have means : commandOf first = commandOf second := by
        rcases standing with rfl | earlier
        · rfl
        · exact nodup first earlier.1 second mem (.inr earlier)
      refine .cons ?_ (ih others rest)
      unfold Expands at expands ⊢
      rwa [means] at expands

/-- The instructions that leave a channel idle. -/
def Idle (instruction : Instruction) : Prop :=
  instruction.kind = .wait ∨ instruction.kind = .moveMarker ∨ instruction.kind = .block ∨ instruction.kind = .nothing

instance (instruction : Instruction) : Decidable (Idle instruction) := by unfold Idle; infer_instance

variable (run : List Instruction)

/-- The time that a run of instructions takes, if it takes any. -/
def total : Option Number :=
  match (run.map Instruction.duration).filter ((0 : Number) < ·) with
  | [] => none
  | first :: rest => some (rest.foldl (· + ·) first)

/-- Instructions in which every run of idle ones is replaced by one wait, if it takes any time. -/
inductive Joined : List Instruction → List Instruction → Prop where
  | last {run : List Instruction} (idle : ∀ instruction ∈ run, Idle instruction) :
      Joined run ((total run).toList.map .wait)
  | next {run rest joined : List Instruction} {instruction : Instruction} (idle : ∀ instruction ∈ run, Idle instruction)
      (busy : ¬Idle instruction) (later : Joined rest joined) :
      Joined (run ++ instruction :: rest) ((total run).toList.map .wait ++ instruction :: joined)

theorem total_concat (instr : Instruction) : total (run ++ [instr]) =
    if (0 : Number) < instr.duration then some ((total run).elim instr.duration (· + instr.duration))
    else total run := by
  unfold total
  rw [map_append, filter_append]
  generalize (run.map Instruction.duration).filter ((0 : Number) < ·) = times
  by_cases positive : (0 : Number) < instr.duration
  · cases times <;> simp [positive]
  · simp [positive]

theorem idle_iff {instr : Instruction} : (instr.kind.isA .wait || instr.kind == .block ||
    instr.kind == .nothing) = true ↔ Idle instr := by
  unfold Idle
  cases instr.kind <;> decide

theorem joinIdle_cons (gathered : Option Number) (instr : Instruction) (rest : List Instruction) :
    Assembly.joinIdle gathered (instr :: rest) =
      if (instr.kind.isA .wait || instr.kind == .block || instr.kind == .nothing) = true then
        if (0 : Number) < instr.duration then
          Assembly.joinIdle (some (gathered.elim instr.duration (· + instr.duration))) rest
        else Assembly.joinIdle gathered rest
      else gathered.toList.map .wait ++ instr :: Assembly.joinIdle none rest := by
  cases gathered <;> rfl

/-- Joining idle instructions, behind a run of them. -/
theorem joined_joinIdle {run : List Instruction} (idle : ∀ instr ∈ run, Idle instr)
    (instructions : List Instruction) : Joined (run ++ instructions) (Assembly.joinIdle (total run) instructions) := by
  induction instructions generalizing run with
  | nil =>
    have ended := Joined.last idle
    rw [append_nil]
    cases taken : total run with
    | none => rwa [taken] at ended
    | some time => rwa [taken] at ended
  | cons instr rest ih =>
    rw [joinIdle_cons]
    simp only [idle_iff]
    by_cases busy : Idle instr
    · have longer := ih (forall_mem_append.mpr ⟨idle, forall_mem_singleton.mpr busy⟩)
      rw [append_assoc, singleton_append, total_concat] at longer
      rw [if_pos busy]
      split
      · next positive => rwa [if_pos positive] at longer
      · next zero => rwa [if_neg zero] at longer
    · rw [if_neg busy]
      exact .next idle busy (ih (forall_mem_nil _))

end Transmon.Playlist

namespace Transmon.Build

open Outcome Work List Table Option

variable {builder b finish : Builder} {timeline : Timeline} {schedule : Schedule} {α : Type} {value : α}

/-- Reading a schedule leaves the builder as it is. -/
theorem eq_of_returns_contents (returned : Returns (contents timeline) b schedule finish) :
    b = finish := by
  obtain ⟨_, _, got, returned⟩ := returns_bind_iff.mp returned
  obtain ⟨rfl, rfl⟩ := returns_get_iff.mp got
  cases timeline <;> exact (returns_lift_iff.mp returned).2

/-- Finishing a schedule leaves the station as it is. -/
theorem station_of_returns_finish {finished : Timeline}
    (returned : Returns (Build.finish timeline) b finished finish) : finish.station = b.station := by
  obtain ⟨schedule, _, read, returned⟩ := returns_bind_iff.mp returned
  obtain rfl := eq_of_returns_contents read
  obtain ⟨result, _, lifted, returned⟩ := returns_bind_iff.mp returned
  obtain ⟨-, rfl⟩ := returns_lift_iff.mp lifted
  split at returned
  · obtain ⟨_, _, got, returned⟩ := returns_bind_iff.mp returned
    obtain ⟨rfl, rfl⟩ := returns_get_iff.mp got
    obtain ⟨_, _, put, returned⟩ := returns_bind_iff.mp returned
    obtain rfl := returns_set_iff.mp put
    rw [← (returns_pure_iff.mp returned).2]
  · obtain ⟨_, _, written, returned⟩ := returns_bind_iff.mp returned
    rw [← (returns_pure_iff.mp returned).2]
    cases timeline <;> exact (Prod.mk.inj written).2 ▸ rfl

/-- The schedules of timelines, each once it is finished. -/
def finishedContents (timelines : List Timeline) : Build (List Schedule) :=
  timelines.mapM fun timeline => do contents (← Build.finish timeline)

/-- A playlist is assembled from the finished schedules. -/
theorem returns_addTo {timelines : List Timeline} {assembly last : Playlist.Assembly}
    (returned : Returns (timelines.foldlM (fun assembly timeline => addTo assembly true timeline) assembly) b
      last finish) :
    ∃ schedules, Returns (finishedContents timelines) b schedules finish ∧
      schedules.foldlM (fun assembly schedule => assembly.addSchedule b.station.channels true schedule) assembly =
        .ok last := by
  induction timelines generalizing b assembly with
  | nil =>
    obtain ⟨rfl, rfl⟩ := returns_pure_iff.mp returned
    exact ⟨[], by simp [finishedContents], rfl⟩
  | cons timeline rest ih =>
    rw [foldlM_cons] at returned
    obtain ⟨middle, later, added, returned⟩ := returns_bind_iff.mp returned
    obtain ⟨finished, _, ended, added⟩ := returns_bind_iff.mp added
    obtain ⟨station, _, stationed, added⟩ := returns_bind_iff.mp added
    obtain ⟨_, _, got, stationed⟩ := returns_bind_iff.mp stationed
    obtain ⟨rfl, rfl⟩ := returns_get_iff.mp got
    obtain ⟨rfl, rfl⟩ := returns_pure_iff.mp stationed
    obtain ⟨schedule, _, read, added⟩ := returns_bind_iff.mp added
    obtain rfl := eq_of_returns_contents read
    obtain ⟨entered, rfl⟩ := returns_lift_iff.mp added
    obtain ⟨schedules, finishes, assembled⟩ := ih returned
    rw [station_of_returns_finish ended] at entered assembled
    refine ⟨schedule :: schedules, ?_, ?_⟩
    · rw [finishedContents, mapM_cons]
      exact returns_bind_iff.mpr ⟨schedule, _, returns_bind_iff.mpr ⟨finished, _, ended, read⟩,
        returns_bind_iff.mpr ⟨schedules, _, finishes, returns_pure_iff.mpr ⟨rfl, rfl⟩⟩⟩
    · rw [foldlM_cons, entered, ok_bind, assembled]

open Playlist (Expands StandsFor Joined commandOf standIns)
open Playlist.Assembly (joinIdle played)

/-- A playlist has a segment for every finished schedule, with as many numbers for a channel as the schedule has
instructions there once idle ones are joined. Each number stands for the command of the first instruction on the channel
with the same fingerprint. So the segments expand to what the schedules have to play if no two instructions on a channel
have the same fingerprint and different commands. -/
theorem playlist_plays_standIns {timelines : List Timeline} {playlist : Playlist}
    (returned : Work.Returns (playlistOf timelines true) builder playlist finish) :
    ∃ schedules, Work.Returns (finishedContents timelines) builder schedules finish ∧
      (∀ schedule ∈ schedules, ∀ entry ∈ schedule.channels.entries,
        Joined entry.2.instructions (joinIdle none entry.2.instructions)) ∧
      ∀ name channel, builder.station.channels.get? name = some channel → channel.isVirtual = false →
        let given := schedules.flatMap (played name)
        let numbers := playlist.segments.flatMap (·.getD name [])
        playlist.segments.map (fun segment => (segment.getD name []).length) =
            schedules.map (fun schedule => (played name schedule).length) ∧
          List.Forall₂ (Expands (playlist.table name)) (standIns given) numbers ∧
          List.Forall₂ (StandsFor given) (standIns given) given ∧
          ((∀ first ∈ given, ∀ second ∈ given, StandsFor given first second → commandOf first = commandOf second) →
            List.Forall₂ (Expands (playlist.table name)) given numbers) := by
  obtain ⟨assembly, last, added, returned⟩ := Work.returns_bind_iff.mp returned
  obtain ⟨rfl, rfl⟩ := Work.returns_pure_iff.mp returned
  obtain ⟨schedules, finishes, assembled⟩ := returns_addTo added
  refine ⟨schedules, finishes, fun _ _ entry _ => Playlist.joined_joinIdle (List.forall_mem_nil _) _,
    fun name channel stationed real => ?_⟩
  have built := Playlist.Assembly.Built.start.addAll stationed real assembled
  rw [List.nil_append] at built
  have stands := Playlist.standsFor_standIns (schedules.flatMap (played name))
  exact ⟨built.lengths, built.follows.plays, stands, fun distinct =>
    Playlist.expands_of_standIns distinct (List.Subset.refl _) stands built.follows.plays⟩

/-- A readout that is recorded from some samples on. -/
def delayed (delay : Int) : Instruction := .readout ⟨.int 64, ⟨.int 32, []⟩, [.timeTrace "m" delay 16]⟩

def probeBuilder : Builder where
  station :=
    { chip := ⟨[], [], [], [], ∅, ∅, ∅, ∅, ∅⟩
      channels := ⟨[("PL", ⟨.ofBits 0, 1, 0, [], true, false, true, some ⟨.ofBits 0, 0, 64⟩⟩)]⟩
      lines := ∅ }
  operations := ∅
  calibration := ∅
  schedules := #[.ofChannels [("PL", [delayed (-1), delayed (-2)])] none]

/-- Two readouts that differ in their delays are both played with the delay of the first. -/
theorem probeBuilder_plays_first : ∃ playlist finish,
    Work.Returns (playlistOf [.free 0] true) probeBuilder playlist finish ∧
      playlist.segments.map Table.entries = [[("PL", [1, 1])]] ∧
      List.Forall₂ (Expands (playlist.table "PL")) [delayed (-1), delayed (-1)] [1, 1] ∧
      commandOf (delayed (-2)) ≠ commandOf (delayed (-1)) := by
  have ran : (Work.runFrom (playlistOf [.free 0] true) probeBuilder).1.toOption.map (fun playlist =>
      (playlist.segments.map Table.entries, playlist.segments.flatMap (·.getD "PL" []))) =
        some ([[("PL", [1, 1])]], [1, 1]) := by cbv
  have finished : (Work.runFrom (finishedContents [.free 0]) probeBuilder).1.toOption.map (fun schedules =>
      standIns (schedules.flatMap (played "PL"))) = some [delayed (-1), delayed (-1)] := by cbv
  have means (delay : Int) : commandOf (delayed delay) =
      .ok (.readout 64 (.multiplexed 32 false [] []) [some (.timeTrace "m" delay 16)]) := rfl
  have different : commandOf (delayed (-2)) ≠ commandOf (delayed (-1)) := by
    rw [means, means]
    simp
  rcases run : Work.runFrom (playlistOf [.free 0] true) probeBuilder with ⟨outcome, finish⟩
  rw [run] at ran
  cases outcome with
  | error fault => cases ran
  | ok playlist =>
    obtain ⟨entries, numbers⟩ := Prod.mk.inj (Option.some.inj ran)
    obtain ⟨schedules, finishes, -, plays⟩ := playlist_plays_standIns run
    rw [show Work.runFrom _ _ = _ from finishes] at finished
    obtain ⟨-, expands, -⟩ := plays "PL" _ rfl rfl
    rw [numbers, show standIns _ = _ from Option.some.inj finished] at expands
    exact ⟨playlist, finish, run, entries, expands, different⟩

end Transmon.Build
