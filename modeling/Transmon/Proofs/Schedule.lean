import Mathlib.Algebra.BigOperators.Group.List.Basic
import Mathlib.Algebra.Order.Ring.Int
import Mathlib.Tactic.Linarith
import Transmon.Proofs.Basic
import Transmon.Schedule.Basic

/-!
# Blocks of content in time

Blocks that are placed in samples start at the latest end of the earlier blocks with a common component, and at the
same time on all their channels. Between them the channels wait. This is said here of a list of blocks with their
starting times, which the loop that fills a schedule keeps in step with. A schedule that is filled backwards is the
mirror image, in which it is the ends of a block that coincide.
-/

namespace Transmon

open List Table

/-- The samples that an instruction takes. -/
def Instruction.samples (instruction : Instruction) : Int :=
  match instruction.duration with
  | .int count => count
  | .float _ => 0

variable (instructions : List Instruction)

/-- Instructions that take whole numbers of samples. -/
def Whole : Prop :=
  ∀ instruction ∈ instructions, instruction.duration = .int instruction.samples

/-- The samples that instructions take one after the other. -/
def span : Int := (instructions.map Instruction.samples).sum

@[simp] theorem span_nil : span [] = 0 := rfl

@[simp] theorem span_append (first second : List Instruction) : span (first ++ second) = span first + span second := by
  simp [span]

@[simp] theorem span_reverse : span instructions.reverse = span instructions := by
  simp [span, sum_reverse]

/-- Instructions in their order, or the other way round. -/
def oriented (backwards : Bool) (instructions : List Instruction) : List Instruction :=
  if backwards then instructions.reverse else instructions

@[simp] theorem span_oriented (backwards : Bool) (instructions : List Instruction) :
    span (oriented backwards instructions) = span instructions := by
  cases backwards <;> simp [oriented]

theorem Whole.oriented {instructions : List Instruction} (whole : Whole instructions) (backwards : Bool) :
    Whole (oriented backwards instructions) := by
  cases backwards with
  | false => exact whole
  | true => exact fun instr mem => whole instr (mem_reverse.mp mem)

@[simp] theorem span_wait (count : Int) (rest : List Instruction) :
    span (.wait (.int count) :: rest) = count + span rest := by
  simp [span, Instruction.samples, Instruction.duration]

/-- Instructions to be played one after the other, from some times on. -/
abbrev Blocks := List (Int × List Instruction)

/-- A channel that plays blocks of instructions, each from its time on, and waits otherwise, from one time to
another. -/
inductive Plays : Int → Blocks → List Instruction → Int → Prop where
  | done (time : Int) : Plays time [] [] time
  | wait {time count stop : Int} {blocks : Blocks} {rest : List Instruction} (positive : 0 < count)
      (later : Plays (time + count) blocks rest stop) : Plays time blocks (.wait (.int count) :: rest) stop
  | block {time stop : Int} {content rest : List Instruction} {blocks : Blocks}
      (whole : Whole content) (later : Plays (time + span content) blocks rest stop) :
      Plays time ((time, content) :: blocks) (content ++ rest) stop

/-- Blocks as they are seen backwards from a time. -/
def Blocks.mirrored (total : Int) (blocks : Blocks) : Blocks :=
  (blocks.map fun block => (total - block.1 - span block.2, block.2.reverse)).reverse

namespace Plays

variable {time middle stop : Int} {blocks others : Blocks} {played rest : List Instruction}

theorem append (first : Plays time blocks played middle) (second : Plays middle others rest stop) :
    Plays time (blocks ++ others) (played ++ rest) stop := by
  induction first with
  | done => exact second
  | wait positive _ ih => exact .wait positive (ih second)
  | block whole _ ih =>
    rw [append_assoc]
    exact .block whole (ih second)

/-- A wait fills the time up to a later one. -/
theorem extend (plays : Plays time blocks played middle) (before : middle < stop) :
    Plays time blocks (played ++ [.wait (.int (stop - middle))]) stop := by
  have waits : Plays middle [] [.wait (.int (stop - middle))] stop := by
    refine .wait (by omega) ?_
    rw [add_sub_cancel]
    exact .done stop
  simpa using plays.append waits

variable (plays : Plays time blocks played stop)

include plays

theorem span_eq : span played = stop - time := by
  induction plays with
  | done => simp
  | wait _ _ ih =>
    rw [span_wait]
    omega
  | block _ _ ih =>
    rw [span_append]
    omega

theorem whole : Whole played := by
  induction plays with
  | done => simp [Whole]
  | wait _ _ ih => simpa [Whole, Instruction.duration, Instruction.samples] using ih
  | block whole _ ih => exact fun instr mem => (mem_append.mp mem).elim (whole _) (ih _)

theorem reverse (total : Int) : Plays (total - stop) (Blocks.mirrored total blocks) played.reverse (total - time) := by
  induction plays with
  | done => exact .done _
  | @wait time count _ _ _ positive _ ih =>
    rw [reverse_cons]
    have waits : total - (time + count) < total - time := by omega
    simpa using ih.extend waits
  | @block time _ content _ _ whole _ ih =>
    have last : Plays (total - (time + span content)) [(total - time - span content, content.reverse)]
        (content.reverse ++ []) (total - time) := by
      rw [show total - time - span content = total - (time + span content) by omega]
      refine .block (whole.oriented true) ?_
      rw [span_reverse, show total - (time + span content) + span content = total - time by omega]
      exact .done _
    simpa [Blocks.mirrored] using ih.append last

end Plays

/-- The greatest of some times, none of which lies before the beginning. -/
def peak (times : List Int) : Int := times.foldl max 0

theorem peak_le_iff {times : List Int} {bound : Int} :
    peak times ≤ bound ↔ 0 ≤ bound ∧ ∀ time ∈ times, time ≤ bound := by
  have folded (start : Int) : times.foldl max start ≤ bound ↔ start ≤ bound ∧ ∀ time ∈ times, time ≤ bound := by
    induction times generalizing start with
    | nil => simp
    | cons time rest ih => simp [ih, and_assoc]
  exact folded 0

theorem peak_nonneg (times : List Int) : 0 ≤ peak times := (peak_le_iff.mp le_rfl).1

theorem le_peak {times : List Int} {time : Int} (mem : time ∈ times) : time ≤ peak times :=
  (peak_le_iff.mp le_rfl).2 time mem

namespace Schedule

theorem greatest_eq_peak {α : Type} (items : List α) (time : α → Int) (nonneg : ∀ item ∈ items, 0 ≤ time item) :
    greatest 0 (items.map fun item => .int (time item)) = .int (peak (items.map time)) := by
  have folded (start : Int) (rest : List α) :
      (rest.map fun item => Number.int (time item)).foldl Number.greater (.int start) =
        .int ((rest.map time).foldl max start) := by
    induction rest generalizing start with
    | nil => rfl
    | cons item rest ih => simp only [map_cons, foldl_cons, Number.greater_int, ih]
  cases items with
  | nil => rfl
  | cons item rest =>
    have first : max 0 (time item) = time item := max_eq_right (nonneg item mem_cons_self)
    simp only [greatest, map_cons, folded, peak, foldl_cons, first]

end Schedule

/-- A segment whose instructions take whole numbers of samples, as many as it says. -/
structure Segment.Sound (segment : Segment) : Prop where
  whole : Whole segment.instructions
  nonneg : 0 ≤ span segment.instructions
  duration : segment.duration = .int (span segment.instructions)

/-- A schedule with one sound segment for each of its channels. -/
structure Schedule.Sound (schedule : Schedule) : Prop where
  distinct : schedule.channels.keys.Nodup
  sound : ∀ channel segment, schedule.channels.get? channel = some segment → segment.Sound

/-- The samples of the longest segment. -/
def Schedule.samples (schedule : Schedule) : Int :=
  peak (schedule.channels.values.map fun segment => span segment.instructions)

namespace Schedule.Sound

variable {schedule : Schedule} {ch : String} {segment : Segment} (sound : schedule.Sound)

include sound

theorem of_mem_values (mem : segment ∈ schedule.channels.values) : segment.Sound := by
  obtain ⟨ch, found⟩ := (mem_values_iff sound.distinct).mp mem
  exact sound.sound ch segment found

theorem span_le_samples (found : schedule.channels.get? ch = some segment) :
    span segment.instructions ≤ schedule.samples :=
  le_peak (mem_map_of_mem ((mem_values_iff sound.distinct).mpr ⟨ch, found⟩))

/-- The length that the loop over the segments finds. -/
theorem longest_eq :
    schedule.channels.values.foldl (fun most segment => segment.duration.greater most) 0 = .int schedule.samples := by
  have folded (segments : List Segment) (each : ∀ segment ∈ segments, segment.Sound) (start : Int) :
      segments.foldl (fun most segment => segment.duration.greater most) (.int start) =
        .int ((segments.map fun segment => span segment.instructions).foldl max start) := by
    induction segments generalizing start with
    | nil => rfl
    | cons segment rest ih =>
      obtain ⟨first, others⟩ := forall_mem_cons.mp each
      simp only [foldl_cons, map_cons, first.duration, Number.greater_int, ih others, max_comm]
  exact folded _ (fun _ => sound.of_mem_values) 0

end Schedule.Sound

variable {instructions : List Instruction}

theorem Segment.duration_ofInstructions (whole : Whole instructions) :
    (Segment.ofInstructions instructions).duration = .int (span instructions) := by
  have folded (start : Int) : instructions.foldl (fun total instr => total + instr.duration)
      (Number.int start) = .int (start + span instructions) := by
    induction instructions generalizing start with
    | nil => simp
    | cons instr rest ih =>
      obtain ⟨first, others⟩ := forall_mem_cons.mp whole
      simp [first, ih others, span, add_assoc]
  refine (folded 0).trans ?_
  rw [zero_add]

/-- Segments that are made of instructions in whole samples are sound. -/
theorem Segment.sound_ofInstructions (whole : Whole instructions)
    (nonneg : 0 ≤ span instructions) : (Segment.ofInstructions instructions).Sound :=
  ⟨whole, nonneg, duration_ofInstructions whole⟩

theorem Schedule.sound_ofChannels {contents : List (String × List Instruction)} (duration : Option Number)
    (nodup : (contents.map Prod.fst).Nodup) (whole : ∀ e ∈ contents, Whole e.2 ∧ 0 ≤ span e.2) :
    (Schedule.ofChannels contents duration).Sound := by
  refine ⟨by simpa [Schedule.ofChannels, Table.keys, Function.comp_def] using nodup, fun ch segment found => ?_⟩
  obtain ⟨e, mem, same⟩ := mem_map.mp (mem_entries_of_get? found)
  cases same
  exact Segment.sound_ofInstructions (whole e mem).1 (whole e mem).2

/-- A block of content with the components that it uses and the time at which it starts. -/
structure Placed where
  start : Int
  own : Names
  content : Schedule

def Placed.stop (block : Placed) : Int := block.start + block.content.samples

variable (placed : List Placed)

/-- The latest end of the blocks that use one of some components. -/
def earliest (own : Names) : Int :=
  peak ((placed.filter fun block => block.own.meets own).map Placed.stop)

/-- One more block, as early as the others allow. -/
def placeNext (item : Names × Schedule) : List Placed :=
  placed ++ [⟨earliest placed item.1, item.1, item.2⟩]

variable (items : List (Names × Schedule))

/-- Blocks in order, each as early as the ones before allow. -/
def asap : List Placed := items.foldl placeNext []

/-- The blocks are those that were given, in their order. -/
theorem asap_items : (asap items).map (fun block => (block.own, block.content)) = items := by
  have folded (placed : List Placed) : (items.foldl placeNext placed).map (fun block => (block.own, block.content)) =
      placed.map (fun block => (block.own, block.content)) ++ items := by
    induction items generalizing placed with
    | nil => simp
    | cons item rest ih => simp [ih, placeNext]
  exact folded []

/-- What blocks put on a channel, played backwards or not. -/
def blocksOn (backwards : Bool) (channel : String) (placed : List Placed) : Blocks :=
  placed.filterMap fun block => (block.content.channels.get? channel).map fun segment =>
    (block.start, oriented backwards segment.instructions)

section Earliest

variable {placed : List Placed} {own : Names} {bound : Int} {c : String}

theorem earliest_le_iff : earliest placed own ≤ bound ↔
    0 ≤ bound ∧ ∀ block ∈ placed, (∃ name ∈ block.own, name ∈ own) → block.stop ≤ bound := by
  rw [earliest, peak_le_iff, forall_mem_map]
  simp only [mem_filter, Names.meets_iff, and_imp]

theorem stop_le_earliest {block : Placed} (mem : block ∈ placed) (used : c ∈ block.own)
    (shared : c ∈ own) : block.stop ≤ earliest placed own :=
  (earliest_le_iff.mp le_rfl).2 block mem ⟨c, used, shared⟩

theorem earliest_nonneg : 0 ≤ earliest placed own := peak_nonneg _

theorem earliest_mono (mem : c ∈ own) : earliest placed [c] ≤ earliest placed own := by
  refine earliest_le_iff.mpr ⟨earliest_nonneg, fun block present ⟨name, used, same⟩ => ?_⟩
  obtain rfl := mem_singleton.mp same
  exact stop_le_earliest present used mem

theorem earliest_append_le (block : Placed) : earliest placed own ≤ earliest (placed ++ [block]) own :=
  earliest_le_iff.mpr ⟨earliest_nonneg, fun _ present ⟨_, used, shared⟩ =>
    stop_le_earliest (mem_append_left _ present) used shared⟩

theorem earliest_append_of_mem {child : Schedule} (mem : c ∈ own) :
    earliest (placed ++ [⟨earliest placed own, own, child⟩]) [c] = earliest placed own + child.samples := by
  refine le_antisymm (earliest_le_iff.mpr ⟨add_nonneg earliest_nonneg (peak_nonneg _), fun block present shared => ?_⟩)
    (stop_le_earliest mem_concat_self mem mem_cons_self)
  obtain ⟨name, used, same⟩ := shared
  obtain rfl := mem_singleton.mp same
  rcases mem_append.mp present with before | last
  · exact (stop_le_earliest before used mem).trans (le_add_of_nonneg_right (peak_nonneg _))
  · obtain rfl := mem_singleton.mp last
    exact le_rfl

theorem earliest_append_of_not_mem {block : Placed} (absent : c ∉ block.own) :
    earliest (placed ++ [block]) [c] = earliest placed [c] := by
  refine le_antisymm (earliest_le_iff.mpr ⟨earliest_nonneg, fun other present shared => ?_⟩) (earliest_append_le block)
  obtain ⟨name, used, same⟩ := shared
  rcases mem_append.mp present with before | last
  · exact stop_le_earliest before used same
  · obtain rfl := mem_singleton.mp last
    exact (absent (mem_singleton.mp same ▸ used)).elim

end Earliest

open Schedule (Busy latestEnd occupy place)

/-- A segment with what blocks put on its channel. It does not go on after the last of them that uses a component. -/
structure Segment.Filled (segment : Segment) (blocks : Blocks) (placed : List Placed) (component : String) : Prop where
  sound : segment.Sound
  plays : Plays 0 blocks segment.instructions (span segment.instructions)
  within : span segment.instructions ≤ earliest placed [component]

/-- Blocks that were placed one after the other, and what the loop keeps: the segments so far, which are filled up to
the owners of their channels, and the times until which components are busy. -/
structure Placing (owner : String → String) (backwards : Bool) (placed : List Placed) (schedule : Schedule)
    (busy : Busy) : Prop where
  distinct : schedule.channels.keys.Nodup
  fresh : schedule.remembered = none
  channels : ∀ channel, channel ∈ schedule.channels.keys ↔ ∃ block ∈ placed, channel ∈ block.content.channels.keys
  filled : ∀ channel segment, schedule.channels.get? channel = some segment →
    segment.Filled (blocksOn backwards channel placed) placed (owner channel)
  once : busy.keys.Nodup
  busy : ∀ component time, busy.get? component = some time ↔
    (∃ block ∈ placed, component ∈ block.own) ∧ time = .int (earliest placed [component])

namespace Placing

variable {owner : String → String} {backwards : Bool} {placed : List Placed} {schedule child : Schedule} {busy : Busy}
  {own : Names} {ch c : String} {segment : Segment}

theorem start : Placing owner backwards [] {} ∅ := by
  refine ⟨by simp, rfl, by simp, fun _ _ found => ?_, by simp, by simp⟩
  simp at found

/-- A block goes behind what is on a channel, after a wait if its time has not come. -/
theorem plays_place {content : Segment} {blocks : Blocks} {time : Int} (filled : segment.Filled blocks placed c)
    (before : earliest placed [c] ≤ time) (given : content.Sound) :
    (place segment content (.int time) backwards).duration = .int (time + span content.instructions) ∧
      Plays 0 (blocks ++ [(time, oriented backwards content.instructions)])
        (place segment content (.int time) backwards).instructions (time + span content.instructions) := by
  have block : Plays time [(time, oriented backwards content.instructions)]
      (oriented backwards content.instructions) (time + span content.instructions) := by
    simpa using Plays.block (given.whole.oriented backwards) (.done _)
  have within := filled.within.trans before
  unfold place
  rw [filled.sound.duration, given.duration]
  by_cases waits : span segment.instructions < time
  · simp only [Number.int_lt, waits, if_true, Number.int_sub, Segment.append, filled.sound.duration,
      Instruction.duration, Number.int_add]
    exact ⟨by rw [add_sub_cancel], (filled.plays.extend waits).append block⟩
  · obtain rfl : span segment.instructions = time := by omega
    simp only [Number.int_lt, waits, if_false, filled.sound.duration, Number.int_add]
    exact ⟨trivial, filled.plays.append block⟩

theorem blocksOn_append (block : Placed) : blocksOn backwards ch (placed ++ [block]) =
    blocksOn backwards ch placed ++ blocksOn backwards ch [block] := by
  simp [blocksOn, filterMap_append]

/-- What the channels hold after content was placed on some of them. -/
def placedOn (schedule child : Schedule) (start : Number) (backwards : Bool) : Table String Segment :=
  child.channels.entries.foldl (fun table e => table.modify e.1 fun segment => place segment e.2 start backwards)
    (schedule.addChannels child.channels.keys).channels

theorem get?_placedOn (nodup : child.channels.keys.Nodup) (start : Number) :
    (placedOn schedule child start backwards).get? ch =
      match child.channels.get? ch with
      | some content => some (place (schedule.channels.getD ch ⟨[], 0⟩) content start backwards)
      | none => schedule.channels.get? ch := by
  unfold placedOn Schedule.addChannels
  rw [get?_foldl_modify (fun content segment => place segment content start backwards) nodup,
    get?_foldl_insertNew]
  change Option.map (fun segment => (child.channels.get? ch).elim segment _) _ = _
  cases found : child.channels.get? ch with
  | some content => rw [if_pos (mem_keys_of_get? found)]; rfl
  | none => simp [get?_eq_none_iff.mp found]

theorem nodup_keys_placedOn (nodup : schedule.channels.keys.Nodup) (start : Number) :
    (placedOn schedule child start backwards).keys.Nodup := by
  unfold placedOn
  rw [keys_foldl_modify fun content segment => place segment content start backwards]
  exact nodup_keys_foldl_insertNew _ nodup

variable (placing : Placing owner backwards placed schedule busy)

include placing

/-- The next block starts at the latest end of the blocks before that use a component of it. -/
theorem latestEnd_eq (own : Names) : latestEnd busy own 0 = .int (earliest placed own) := by
  have times : ∀ e ∈ busy.entries.filter fun e => own.contains e.1,
      e.2 = .int (earliest placed [e.1]) := fun e mem =>
    ((placing.busy _ _).mp (get?_of_mem_entries placing.once (mem_of_mem_filter mem))).2
  rw [latestEnd, map_congr_left times, Schedule.greatest_eq_peak _ _ fun _ _ => earliest_nonneg]
  refine congrArg Number.int (le_antisymm ?_ ?_)
  · refine peak_le_iff.mpr ⟨earliest_nonneg, forall_mem_map.mpr fun e kept => ?_⟩
    exact earliest_mono (contains_iff_mem.mp (mem_filter.mp kept).2)
  · refine earliest_le_iff.mpr ⟨peak_nonneg _, ?_⟩
    rintro block present ⟨c, used, shared⟩
    have found := (placing.busy c _).mpr ⟨⟨block, present, used⟩, rfl⟩
    have kept : own.contains c = true := contains_iff_mem.mpr shared
    have e : (c, Number.int (earliest placed [c])) ∈
        busy.entries.filter fun e => own.contains e.1 :=
      mem_filter.mpr ⟨mem_entries_of_get? found, kept⟩
    exact (stop_le_earliest present used mem_cons_self).trans (le_peak (mem_map.mpr ⟨_, e, rfl⟩))

theorem sound : schedule.Sound :=
  ⟨placing.distinct, fun ch segment found => (placing.filled ch segment found).sound⟩

/-- What is on a channel so far, which is nothing if no block put anything there. -/
theorem filled_getD :
    (schedule.channels.getD ch ⟨[], 0⟩).Filled (blocksOn backwards ch placed) placed (owner ch) := by
  unfold Table.getD
  cases found : schedule.channels.get? ch with
  | some segment => exact placing.filled ch segment found
  | none =>
    have absent : blocksOn backwards ch placed = [] := by
      refine filterMap_eq_nil_iff.mpr fun block mem => ?_
      have unused : ch ∉ block.content.channels.keys := fun used =>
        get?_eq_none_iff.mp found ((placing.channels ch).mpr ⟨block, mem, used⟩)
      rw [get?_eq_none_iff.mpr unused, Option.map_none]
    rw [absent]
    exact ⟨⟨by simp [Whole], le_rfl, rfl⟩, .done 0, earliest_nonneg⟩

/-- Placing one more block keeps in step with the list of blocks. -/
theorem extend (sound : child.Sound) (owned : ∀ ch ∈ child.channels.keys, owner ch ∈ own) :
    ∃ next later, schedule.extendHardBoundary child own own busy backwards = .ok (next, later) ∧
      Placing owner backwards (placeNext placed (own, child)) next later := by
  refine ⟨_, _, rfl, ?_⟩
  rw [placing.latestEnd_eq, sound.longest_eq, Number.int_add]
  change Placing _ _ (placed ++ [⟨earliest placed own, own, child⟩]) ⟨placedOn schedule child _ backwards, none⟩ _
  refine ⟨nodup_keys_placedOn placing.distinct _, rfl, fun ch => ?_, fun ch segment found => ?_,
    nodup_keys_foldl_insert _ _ placing.once, fun c time => ?_⟩
  · rw [← isSome_get?_iff, get?_placedOn sound.distinct]
    simp only [mem_append, mem_singleton, or_and_right, exists_or, exists_eq_left, ← placing.channels]
    cases found : child.channels.get? ch with
    | some content => simp [mem_keys_of_get? found]
    | none => simp [isSome_get?_iff, get?_eq_none_iff.mp found]
  · -- A channel of the block lasts no longer than the block, whose end is the new time of the owner; others stay.
    rw [get?_placedOn sound.distinct] at found
    rw [blocksOn_append]
    cases given : child.channels.get? ch with
    | some content =>
      rw [given] at found
      obtain rfl := Option.some.inj found
      have mem : owner ch ∈ own := owned ch (mem_keys_of_get? given)
      have content := sound.sound ch _ given
      obtain ⟨lasts, played⟩ := plays_place placing.filled_getD (earliest_mono mem) content
      have total : span _ = _ - 0 := played.span_eq
      rw [sub_zero] at total
      refine ⟨⟨played.whole, ?_, by rw [lasts, total]⟩, ?_, ?_⟩
      · exact total ▸ add_nonneg earliest_nonneg content.nonneg
      · simpa [blocksOn, given, total] using played
      · rw [total, earliest_append_of_mem mem]
        exact add_le_add_right (sound.span_le_samples given) _
    | none =>
      rw [given] at found
      have filled := placing.filled ch segment found
      exact ⟨filled.sound, by simpa [blocksOn, given] using filled.plays, filled.within.trans (earliest_append_le _)⟩
  · rw [occupy, get?_foldl_insert]
    by_cases mem : c ∈ own
    · rw [if_pos mem, earliest_append_of_mem mem, Option.some_inj, eq_comm]
      exact (and_iff_right ⟨_, mem_concat_self, mem⟩).symm
    · rw [if_neg mem, placing.busy, earliest_append_of_not_mem mem]
      simp [or_and_right, exists_or, mem]

end Placing

/-- A schedule in which all channels last the same time, which is remembered, and play blocks meanwhile. -/
structure Boxed (blocks : String → Blocks) (total : Int) (schedule : Schedule) : Prop where
  distinct : schedule.channels.keys.Nodup
  nonneg : 0 ≤ total
  remembered : schedule.remembered = some (.int total)
  plays : ∀ channel segment, schedule.channels.get? channel = some segment →
    segment.duration = .int total ∧ Plays 0 (blocks channel) segment.instructions total

namespace Boxed

variable {blocks : String → Blocks} {total : Int} {schedule : Schedule}

theorem sound (boxed : Boxed blocks total schedule) : schedule.Sound := by
  refine ⟨boxed.distinct, fun ch segment found => ?_⟩
  obtain ⟨duration, plays⟩ := boxed.plays ch segment found
  have lasts := plays.span_eq
  rw [sub_zero] at lasts
  exact ⟨plays.whole, lasts ▸ boxed.nonneg, lasts ▸ duration⟩

/-- Backwards, the blocks are seen from the end. -/
theorem reverseHardBox (boxed : Boxed blocks total schedule) :
    Boxed (fun ch => Blocks.mirrored total (blocks ch)) total schedule.reverseHardBox where
  distinct := by rw [Schedule.reverseHardBox, keys_map]; exact boxed.distinct
  nonneg := boxed.nonneg
  remembered := by rw [Schedule.reverseHardBox, Schedule.duration, boxed.remembered]
  plays ch segment found := by
    rw [Schedule.reverseHardBox, get?_map, Option.map_eq_some_iff] at found
    obtain ⟨forwards, present, rfl⟩ := found
    obtain ⟨duration, plays⟩ := boxed.plays ch forwards present
    exact ⟨duration, by simpa using plays.reverse total⟩

end Boxed

/-- Filling up the segments makes a box of what was placed. -/
theorem Placing.padToHardBox {owner : String → String} {backwards : Bool} {placed : List Placed} {schedule : Schedule}
    {busy : Busy} (placing : Placing owner backwards placed schedule busy) :
    Boxed (fun ch => blocksOn backwards ch placed) schedule.samples schedule.padToHardBox := by
  have longest : schedule.duration = .int schedule.samples := by
    rw [Schedule.duration, placing.fresh]
    have durations : ∀ segment ∈ schedule.channels.values, segment.duration = .int (span segment.instructions) :=
      fun segment mem => (placing.sound.of_mem_values mem).duration
    rw [map_congr_left durations, Schedule.samples]
    exact Schedule.greatest_eq_peak _ _ fun segment mem => (placing.sound.of_mem_values mem).nonneg
  refine ⟨?_, peak_nonneg _, congrArg some longest, fun ch segment found => ?_⟩
  · rw [Schedule.padToHardBox, keys_map]
    exact placing.distinct
  · rw [Schedule.padToHardBox, get?_map, Option.map_eq_some_iff] at found
    obtain ⟨given, present, rfl⟩ := found
    obtain ⟨sound, plays, -⟩ := placing.filled ch given present
    have within := placing.sound.span_le_samples present
    dsimp only
    rw [longest, sound.duration]
    by_cases shorter : span given.instructions < schedule.samples
    · simp only [Number.int_lt, shorter, if_true, Number.int_sub, Segment.append, sound.duration, Instruction.duration,
        Number.int_add]
      exact ⟨by rw [add_sub_cancel], plays.extend shorter⟩
    · have same : span given.instructions = schedule.samples := by omega
      simp only [Number.int_lt, shorter, if_false]
      exact ⟨same ▸ sound.duration, same ▸ plays⟩

/-- What blocks put on a channel if all segments of a block end with it. -/
def endBlocksOn (channel : String) (placed : List Placed) : Blocks :=
  placed.filterMap fun block => (block.content.channels.get? channel).map fun segment =>
    (block.stop - span segment.instructions, segment.instructions)

/-- The earliest start of the blocks that use one of some components, or the end. -/
def deadline (total : Int) (later : List Placed) (own : Names) : Int :=
  ((later.filter fun block => block.own.meets own).map Placed.start).foldl min total

/-- Blocks in order, each as late as the ones behind it allow. -/
def alap (total : Int) : List (Names × Schedule) → List Placed
  | [] => []
  | item :: rest =>
    ⟨deadline total (alap total rest) item.1 - item.2.samples, item.1, item.2⟩ :: alap total rest

/-- A block as it is seen backwards from a time. -/
def Placed.mirrored (total : Int) (block : Placed) : Placed := { block with start := total - block.stop }

section Late

variable {total bound : Int} {later placed : List Placed} {own : Names} {items : List (Names × Schedule)}
  {ch : String}

theorem le_deadline_iff : bound ≤ deadline total later own ↔
    bound ≤ total ∧ ∀ block ∈ later, (∃ name ∈ block.own, name ∈ own) → bound ≤ block.start := by
  have folded (times : List Int) (start : Int) :
      bound ≤ times.foldl min start ↔ bound ≤ start ∧ ∀ time ∈ times, bound ≤ time := by
    induction times generalizing start with
    | nil => simp
    | cons time rest ih => simp [ih, and_assoc]
  rw [deadline, folded, forall_mem_map]
  simp only [mem_filter, Names.meets_iff, and_imp]

theorem deadline_mirrored :
    deadline total (placed.reverse.map (Placed.mirrored total)) own = total - earliest placed own := by
  refine eq_of_forall_le_iff fun bound => ?_
  rw [le_deadline_iff, le_sub_comm, earliest_le_iff, forall_mem_map]
  simp only [mem_reverse, Placed.mirrored, sub_zero, le_sub_comm]

/-- Blocks that are placed early in reverse order are placed late in their own order, as seen backwards. -/
theorem asap_reverse_mirrored : (asap items.reverse).reverse.map (Placed.mirrored total) = alap total items := by
  induction items with
  | nil => rfl
  | cons item rest ih =>
    have last : asap (item :: rest).reverse =
        asap rest.reverse ++ [⟨earliest (asap rest.reverse) item.1, item.1, item.2⟩] := by
      simp [asap, foldl_append, placeNext]
    rw [last, reverse_append, map_append, ih, alap, ← ih, deadline_mirrored]
    simp [Placed.mirrored, Placed.stop, sub_sub]

theorem mirrored_blocksOn : Blocks.mirrored total (blocksOn true ch placed) =
    endBlocksOn ch (placed.reverse.map (Placed.mirrored total)) := by
  simp only [Blocks.mirrored, blocksOn, endBlocksOn, map_filterMap, filterMap_map, filterMap_reverse,
    Option.map_map]
  refine congrArg reverse (filterMap_congr fun block _ => ?_)
  refine congrArg (Option.map · _) (funext fun segment => ?_)
  simp [Placed.mirrored, Placed.stop, oriented, ← sub_sub]

/-- Blocks with a common component stay in order. -/
theorem pairwise_alap : (alap total items).Pairwise fun first second =>
    first.own.meets second.own = true → first.stop ≤ second.start := by
  induction items with
  | nil => exact .nil
  | cons item rest ih =>
    refine pairwise_cons.mpr ⟨fun block mem meeting => ?_, ih⟩
    obtain ⟨name, used, shared⟩ := Names.meets_iff.mp meeting
    rw [Placed.stop, sub_add_cancel]
    exact (le_deadline_iff.mp le_rfl).2 block mem ⟨name, shared, used⟩

end Late

/-- All segments of a block that end with it also start together. -/
def Placed.StartsTogether (block : Placed) : Prop :=
  ∃ offset, ∀ channel segment, block.content.channels.get? channel = some segment → segment.instructions ≠ [] →
    block.stop - span segment.instructions = offset

/-- All segments that play something last the same time. -/
def Schedule.EquallyLong (schedule : Schedule) : Prop :=
  ∀ channel segment other another, schedule.channels.get? channel = some segment → segment.instructions ≠ [] →
    schedule.channels.get? other = some another → another.instructions ≠ [] →
      span segment.instructions = span another.instructions

/-- Segments that end together start together exactly if they are equally long. -/
theorem Placed.startsTogether_iff {block : Placed} : block.StartsTogether ↔ block.content.EquallyLong := by
  constructor
  · rintro ⟨offset, starts⟩ ch segment other another found plays present playing
    have first := starts ch segment found plays
    have second := starts other another present playing
    omega
  · intro equal
    by_cases active : ∃ ch segment, block.content.channels.get? ch = some segment ∧ segment.instructions ≠ []
    · obtain ⟨other, another, present, playing⟩ := active
      refine ⟨block.stop - span another.instructions, fun ch segment found plays => ?_⟩
      rw [equal ch segment other another found plays present playing]
    · exact ⟨0, fun ch segment found plays => (active ⟨ch, segment, found, plays⟩).elim⟩

end Transmon
