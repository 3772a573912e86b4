import Transmon.Proofs.Schedule
import Transmon.Timebox.Resolution

/-!
# Boxes in boxes

The schedule of a box is put together from those of its children, which are found first. For a tree of boxes whose
leaves last whole numbers of samples this succeeds, and says at every box where its children are: either each starts
as early as the ones before it allow, at the same time on all its channels, or each ends as late as the ones behind it
allow, at the same time on all its channels. In the second case a child also starts at the same time on all of them
only if its segments are equally long.
-/

namespace Transmon.Timebox

open List Table

/-- The components that a box uses, once they are known. -/
def own (box : Timebox) : Names := box.blocked.getD 0 []

/-- The schedule of a box, once it is known. -/
def content (box : Timebox) : Schedule := box.timeline.getD {}

def items (boxes : List Timebox) : List (Names × Schedule) := boxes.map fun box => (box.own, box.content)

variable (s : Surroundings)

/-- The component that a channel belongs to, or the channel itself. -/
def Surroundings.ownerOf (channel : String) : String := s.owner.getD channel channel

/-- Trees of boxes to be placed as blocks. Their leaves last whole numbers of samples; if it was said which components
a leaf uses, these are at least those that its channels belong to. -/
inductive Ready (s : Surroundings) : Timebox → Prop where
  | atomic {box : Timebox} {schedule : Schedule} (algorithm : box.algorithm = .hardBoundary)
      (timed : box.timeline = some schedule) (sound : schedule.Sound)
      (covers : ∀ names, box.blocked.get? 0 = some names →
        ∀ channel ∈ schedule.channels.keys, s.ownerOf channel ∈ names) : Ready s box
  | composite {box : Timebox} (algorithm : box.algorithm = .hardBoundary) (untimed : box.timeline = none)
      (children : ∀ child ∈ box.children, Ready s child) : Ready s box

variable (given found : Timebox)

/-- What the components of a box are: those that were said to be, else its locus and the owners of its channels. A
composite box also uses what its children use. -/
def Uses (component : String) : Prop :=
  match given.timeline, given.blocked.get? 0 with
  | some _, some names => component ∈ names
  | some schedule, none => component ∈ given.locus ∨ ∃ channel ∈ schedule.channels.keys, s.ownerOf channel = component
  | none, names => component ∈ names.getD [] ∨ ∃ child ∈ found.children, component ∈ child.own

/-- A composite box and what was found for it: its channels are those of its children, they play blocks, and all last
the same time. -/
structure Composed (s : Surroundings) (blocks : String → Blocks) (total : Int) (given found : Timebox) : Prop where
  boxed : Boxed blocks total found.content
  channels : ∀ channel, channel ∈ found.content.channels.keys ↔
    ∃ child ∈ found.children, channel ∈ child.content.channels.keys
  uses : ∀ pair ∈ given.children.zip found.children, ∀ component,
    component ∈ pair.2.own ↔ Uses s pair.1 pair.2 component

/-- The children of a box start early: each where the ones before it leave off that use a component of it. -/
def StartsEarly : Prop :=
  ∃ total, Composed s (fun channel => blocksOn false channel (asap (items found.children))) total given found

/-- The children of a box end late: each where the ones behind it begin that use a component of it. -/
def EndsLate : Prop :=
  ∃ total, Composed s (fun channel => endBlocksOn channel (alap total (items found.children))) total given found

def Arranged : Prop :=
  match given.strategy with
  | .asap => StartsEarly s given found
  | .alap => EndsLate s given found

/-- A property of all composite boxes in a tree and of what was found for them. The schedules of the leaves stay. -/
inductive Everywhere (P : Timebox → Timebox → Prop) : Timebox → Timebox → Prop where
  | atomic {given found : Timebox} (timed : given.timeline.isSome = true) (same : found.timeline = given.timeline) :
      Everywhere P given found
  | composite {given found : Timebox} (untimed : given.timeline = none) (holds : P given found)
      (many : given.children.length = found.children.length)
      (children : ∀ pair ∈ given.children.zip found.children, Everywhere P pair.1 pair.2) : Everywhere P given found

theorem Everywhere.mono {P Q : Timebox → Timebox → Prop} {given found : Timebox} (everywhere : Everywhere P given found)
    (weaker : ∀ given found, P given found → Q given found) : Everywhere Q given found := by
  induction everywhere with
  | atomic timed same => exact .atomic timed same
  | composite untimed holds many _ ih => exact .composite untimed (weaker _ _ holds) many ih

/-- A box as it stands among its siblings after it was placed. -/
structure Settled (s : Surroundings) (given settled : Timebox) : Prop where
  sound : settled.content.Sound
  known : settled.blocked.get? 0 = some settled.own
  covers : ∀ channel ∈ settled.content.channels.keys, s.ownerOf channel ∈ settled.own
  uses : ∀ component, component ∈ settled.own ↔ Uses s given settled component
  everywhere : Everywhere (Arranged s) given settled

/-- A schedule is found for a box, and then the components that it uses. -/
def Resolves (given : Timebox) : Prop :=
  ∃ found settled, resolve s 0 true given = (found, .ok settled.content) ∧
    surrounding s found 0 = .ok (settled.own, settled) ∧ Settled s given settled

/-- Children that are being placed, in samples and so far without a fault. If asked, the components that they use are
noted besides those that the box uses anyway. -/
structure Underway (s : Surroundings) (fill backwards : Bool) (held : Names) (placed : List Placed) (p : Placement) :
    Prop where
  faultless : p.fault = none
  inSamples : p.inSeconds = false
  placing : Placing s.ownerOf backwards placed p.schedule p.busy
  noted : fill = true → ∃ names, p.blocked.get? 0 = some names ∧
    ∀ component, component ∈ names ↔ component ∈ held ∨ ∃ block ∈ placed, component ∈ block.own

variable {s : Surroundings} {fill backwards : Bool} {held : Names} {placed : List Placed} {p : Placement}
  {given settled : Timebox} {children : List Timebox}

theorem Settled.surrounding_eq (settles : Settled s given settled) :
    surrounding s settled 0 = .ok (settled.own, settled) := by
  simp [surrounding, settles.known, pure, Except.pure]

variable {schedule : Schedule}

theorem resolve_atomic (algorithm : given.algorithm = .hardBoundary)
    (timed : given.timeline = some schedule) : resolve s 0 fill given = (given, .ok given.content) := by
  obtain ⟨number, isProbe, label, locus, timeline, children, strategy, _, blocked⟩ := given
  obtain rfl : timeline = some schedule := timed
  cases algorithm
  rw [resolve]
  rfl

/-- A leaf stays as it is, apart from the components that it uses. -/
theorem resolves_atomic (algorithm : given.algorithm = .hardBoundary)
    (timed : given.timeline = some schedule) (sound : schedule.Sound)
    (covers : ∀ names, given.blocked.get? 0 = some names →
      ∀ ch ∈ schedule.channels.keys, s.ownerOf ch ∈ names) : Resolves s given := by
  cases found : given.blocked.get? 0 with
  | some names =>
    have known : given.own = names := by simp [own, Table.getD, found]
    refine ⟨given, given, resolve_atomic algorithm timed, ?_, ?_⟩
    · simp [surrounding, found, known, pure, Except.pure]
    · refine ⟨by rwa [content, timed], by rw [found, known], ?_, fun c => ?_, .atomic (by simp [timed]) rfl⟩
      · rw [content, timed, known]
        exact covers names found
      · simp [Uses, timed, found, known]
  | none =>
    let names : Names := given.locus.union (schedule.channels.keys.map s.ownerOf)
    have mine : ownComponents s given = .ok names := by
      simp [ownComponents, found, timed, require, names, Names.union, foldl_map, Surroundings.ownerOf, pure,
        Except.pure]
    have surrounded : surrounding s given 0 = .ok (names, { given with blocked := given.blocked.insert 0 names }) := by
      simp [surrounding, found, mine, widenFrom, pure, Except.pure]
    have known : own { given with blocked := given.blocked.insert 0 names } = names := by simp [own, Table.getD]
    refine ⟨given, { given with blocked := given.blocked.insert 0 names }, resolve_atomic algorithm timed,
      by rw [surrounded, known], by simpa [content, timed] using sound, by simp [known], ?_, fun c => ?_,
      .atomic (by simp [timed]) rfl⟩
    · rw [known]
      intro ch mem
      refine Names.mem_union.mpr (.inr (mem_map_of_mem ?_))
      simpa [content, timed] using mem
    · rw [known]
      simp [names, Uses, timed, found]

/-- Before the first child, only what the box uses anyway is noted. -/
theorem Underway.start (blocked : Table Int Names) : Underway s fill backwards (blocked.getD 0 []) []
    { blocked := if fill then withDistances blocked 0 else blocked } := by
  refine ⟨rfl, rfl, .start, ?_⟩
  rintro rfl
  have noted : ([(0 : Int)].foldl (fun table distance => table.insertNew distance []) blocked).get? 0 =
      some (blocked.getD 0 []) := by
    rw [get?_foldl_insertNew, if_pos mem_cons_self]
  exact ⟨_, noted, by simp⟩

/-- Placing one child. -/
theorem resolveChild_settles (samples : s.inSeconds = false) (resolves : Resolves s given)
    (underway : Underway s fill backwards held placed p) :
    ∃ settled after, resolveChild s 0 fill backwards given p = (settled, after) ∧ Settled s given settled ∧
      Underway s fill backwards held (placeNext placed (settled.own, settled.content)) after := by
  obtain ⟨found, settled, resolved, surrounded, settles⟩ := resolves
  obtain ⟨schedule, busy, extended, placing⟩ := underway.placing.extend settles.sound settles.covers
  have added : p.extend s settled.content settled.own settled.own backwards = .ok { p with schedule, busy } := by
    simp [Placement.extend, underway.inSamples, extended, pure, Except.pure]
  have switched : p.switch s settled.content = .ok p := by
    simp [Placement.switch, samples, pure, Except.pure]
  rw [resolveChild, resolved, Placement.take.eq_def, underway.faultless, Option.isSome_none, if_neg Bool.false_ne_true]
  dsimp only [Placement.add]
  rw [switched]
  dsimp only
  rw [surrounded]
  dsimp only
  rw [settles.surrounding_eq]
  dsimp only
  rw [added, Outcome.ok_bind]
  cases fill with
  | false => exact ⟨settled, _, rfl, settles, underway.faultless, underway.inSamples, placing, by simp⟩
  | true =>
    obtain ⟨names, noted, members⟩ := underway.noted rfl
    have note : ({ p with schedule, busy } : Placement).note 0 settled.own settled.own =
        .ok { p with schedule, busy, blocked := p.blocked.insert 0 (names.union settled.own) } := by
      simp [Placement.note, noted, need, require, pure, Except.pure]
    rw [if_pos rfl, note]
    refine ⟨settled, _, rfl, settles, underway.faultless, underway.inSamples, placing, fun _ =>
      ⟨_, get?_insert_self .., ?_⟩⟩
    simp [members, placeNext, or_and_right, exists_or, or_assoc]

/-- Children in the order in which they are placed. -/
def ordered (backwards : Bool) (boxes : List Timebox) : List (Names × Schedule) :=
  if backwards then (items boxes).reverse else items boxes

/-- Placing all children, from the first to the last or the other way round. -/
theorem resolveAll_settles (samples : s.inSeconds = false) (resolves : ∀ child ∈ children, Resolves s child)
    (underway : Underway s fill backwards held placed p) :
    ∃ boxes after, resolveAll s 0 fill backwards children p = (boxes, after) ∧ List.Forall₂ (Settled s) children boxes ∧
      Underway s fill backwards held ((ordered backwards boxes).foldl placeNext placed) after := by
  induction children generalizing placed p with
  | nil => exact ⟨[], p, by rw [resolveAll], .nil, by cases backwards <;> exact underway⟩
  | cons child rest ih =>
    obtain ⟨first, others⟩ := forall_mem_cons.mp resolves
    cases backwards with
    | false =>
      obtain ⟨settled, next, placedFirst, settles, underway⟩ := resolveChild_settles samples first underway
      obtain ⟨boxes, after, placedRest, rests, underway⟩ := ih others underway
      rw [resolveChild] at placedFirst
      refine ⟨settled :: boxes, after, by simp [resolveAll, placedFirst, placedRest], .cons settles rests, ?_⟩
      simpa [ordered, items] using underway
    | true =>
      -- The rest is placed before this child, so what it leaves is what the child finds.
      obtain ⟨boxes, next, placedRest, rests, underway⟩ := ih others underway
      obtain ⟨settled, after, placedFirst, settles, underway⟩ := resolveChild_settles samples first underway
      rw [resolveChild] at placedFirst
      refine ⟨settled :: boxes, after, by simp [resolveAll, placedFirst, placedRest], .cons settles rests, ?_⟩
      simpa [ordered, items] using underway

/-- The blocks that were placed are the children, in either order. -/
theorem exists_block_iff (boxes : List Timebox) (Q : Names → Schedule → Prop) :
    (∃ block ∈ asap (ordered backwards boxes), Q block.own block.content) ↔ ∃ box ∈ boxes, Q box.own box.content := by
  have given (items : List (Names × Schedule)) :
      (∃ block ∈ asap items, Q block.own block.content) ↔ ∃ item ∈ items, Q item.1 item.2 := by
    conv_rhs => rw [← asap_items items]
    simp
  rw [given]
  cases backwards <;> simp [ordered, items]

/-- Once all children are placed, they make up a box: early in it, or late if they were placed backwards. -/
theorem Underway.finish {boxes : List Timebox}
    (underway : Underway s fill backwards held (asap (ordered backwards boxes)) p) :
    ∃ schedule total, p.finish s backwards = .ok schedule ∧
      Boxed (fun ch => if backwards then endBlocksOn ch (alap total (items boxes)) else
        blocksOn false ch (asap (items boxes))) total schedule ∧
      ∀ ch, ch ∈ schedule.channels.keys ↔ ∃ child ∈ boxes, ch ∈ child.content.channels.keys := by
  have boxed := underway.placing.padToHardBox
  have channels (ch : String) := (underway.placing.channels ch).trans
    (exists_block_iff boxes fun _ content => ch ∈ content.channels.keys)
  have keys : p.schedule.padToHardBox.channels.keys = p.schedule.channels.keys := keys_map _
  cases backwards with
  | false =>
    refine ⟨p.schedule.padToHardBox, _, ?_, boxed, fun ch => keys ▸ channels ch⟩
    simp [Placement.finish, underway.inSamples, pure, Except.pure]
  | true =>
    refine ⟨p.schedule.padToHardBox.reverseHardBox, p.schedule.samples, ?_, ?_, fun ch => ?_⟩
    · simp [Placement.finish, underway.inSamples, pure, Except.pure]
    · have late := boxed.reverseHardBox
      simp only [mirrored_blocksOn, ordered, if_true, asap_reverse_mirrored] at late
      exact late
    · rw [Schedule.reverseHardBox, keys_map, keys, channels]

/-- A composite box is resolved if its children are, and arranges them. -/
theorem resolve_composite (samples : s.inSeconds = false) (algorithm : given.algorithm = .hardBoundary)
    (untimed : given.timeline = none) (resolves : ∀ child ∈ given.children, Resolves s child) (fill : Bool) :
    ∃ found, resolve s 0 fill given = (found, .ok found.content) ∧ Everywhere (Arranged s) given found ∧
      (fill = true → Settled s given found) := by
  obtain ⟨number, isProbe, label, locus, timeline, children, strategy, _, blocked⟩ := given
  obtain rfl : timeline = none := untimed
  cases algorithm
  have underway : Underway s fill (strategy == .alap) _ [] _ := .start blocked
  obtain ⟨boxes, after, run, settles, underway⟩ := resolveAll_settles samples resolves underway
  obtain ⟨schedule, total, finished, boxed, channels⟩ := underway.finish
  obtain ⟨many, pairs⟩ := forall₂_iff_zip.mp settles
  have uses : ∀ pair ∈ children.zip boxes, ∀ c, c ∈ pair.2.own ↔ Uses s pair.1 pair.2 c :=
    fun pair mem => (pairs mem).uses
  let found : Timebox :=
    ⟨number, isProbe, label, locus, some schedule, boxes, strategy, .hardBoundary, after.blocked⟩
  have everywhere : Everywhere (Arranged s)
      ⟨number, isProbe, label, locus, none, children, strategy, .hardBoundary, blocked⟩ found := by
    refine .composite rfl ?_ many fun pair mem => (pairs mem).everywhere
    cases strategy with
    | asap => exact ⟨total, boxed, channels, uses⟩
    | alap => exact ⟨total, boxed, channels, uses⟩
  refine ⟨found, ?_, everywhere, ?_⟩
  · rw [resolve]
    dsimp only
    rw [run]
    dsimp only
    rw [underway.faultless]
    dsimp only
    rw [finished]
    rfl
  · rintro rfl
    obtain ⟨names, noted, members⟩ := underway.noted rfl
    have members (c : String) : c ∈ names ↔
        c ∈ blocked.getD 0 [] ∨ ∃ child ∈ boxes, c ∈ child.own :=
      (members c).trans (or_congr_right (exists_block_iff boxes fun own _ => c ∈ own))
    have known : found.own = names := by simp [found, own, Table.getD, noted]
    refine ⟨boxed.sound, by rw [known, noted], fun ch mem => ?_, fun c => ?_, everywhere⟩
    · obtain ⟨child, present, used⟩ := (channels ch).mp mem
      obtain ⟨index, within, rfl⟩ := getElem_of_mem present
      have covered := (settles.get (many ▸ within) within).covers ch used
      rw [known, members]
      exact .inr ⟨_, present, covered⟩
    · rw [known, members]
      rfl

/-- Trees of boxes are resolved. -/
theorem Ready.resolves {box : Timebox} (samples : s.inSeconds = false) (ready : Ready s box) : Resolves s box := by
  induction ready with
  | atomic algorithm timed sound covers => exact resolves_atomic algorithm timed sound covers
  | composite algorithm untimed _ ih =>
    obtain ⟨found, resolved, -, settles⟩ := resolve_composite samples algorithm untimed ih true
    have settled := settles rfl
    exact ⟨found, found, resolved, settled.surrounding_eq, settled⟩

/-- Resolving a tree of boxes succeeds and arranges the children of all of them. -/
theorem Ready.exists_resolve_eq {box : Timebox} (samples : s.inSeconds = false) (ready : Ready s box) (fill : Bool) :
    ∃ found, resolve s 0 fill box = (found, .ok found.content) ∧ Everywhere (Arranged s) box found := by
  cases ready with
  | atomic algorithm timed => exact ⟨box, resolve_atomic algorithm timed, .atomic (by simp [timed]) rfl⟩
  | composite algorithm untimed children =>
    obtain ⟨found, resolved, everywhere, -⟩ :=
      resolve_composite samples algorithm untimed (fun child mem => (children child mem).resolves samples) fill
    exact ⟨found, resolved, everywhere⟩

/-- In a tree of boxes that is resolved in samples, the children of every box that is filled from the front start in
step on all their channels, each at the latest end of the ones before it that use a component of it; otherwise the
channels wait, and all of them last as long as is remembered. -/
theorem children_start_early {box : Timebox} (samples : s.inSeconds = false) (ready : Ready s box) (fill : Bool) :
    ∃ found, resolve s 0 fill box = (found, .ok found.content) ∧
      Everywhere (fun given found => given.strategy = .asap → StartsEarly s given found) box found := by
  obtain ⟨found, resolved, everywhere⟩ := ready.exists_resolve_eq samples fill
  refine ⟨found, resolved, everywhere.mono fun given found arranged early => ?_⟩
  rwa [Arranged, early] at arranged

/-- A place without channels of its own, where all is timed in samples. -/
def bareSurroundings : Surroundings where
  station := ⟨⟨[], [], [], [], ∅, ∅, ∅, ∅, ∅⟩, ∅, ∅⟩
  owner := ∅
  probes := []
  inSeconds := false
  template := none

/-- A box with two segments of different lengths. -/
def raggedBox : Timebox :=
  atomic (.ofChannels [("drive", [.plain (.int 8)]), ("flux", [.plain (.int 16)])] none) ["QB1"] "ragged"

variable (strategy : Strategy)

/-- A box that comes after the other one on one of its channels. -/
def followedBox : Timebox :=
  composite [raggedBox, atomic (.ofChannels [("drive", [.plain (.int 4)])] none) ["QB1"] "last"] "both" strategy
    .hardBoundary

theorem ready_followedBox : Ready bareSurroundings (followedBox strategy) := by
  have leaf (contents : List (String × List Instruction)) (label : String) (nodup : (contents.map Prod.fst).Nodup)
      (whole : ∀ e ∈ contents, Whole e.2 ∧ 0 ≤ span e.2) :
      Ready bareSurroundings (atomic (.ofChannels contents none) ["QB1"] label) :=
    .atomic rfl rfl (Schedule.sound_ofChannels none nodup whole) (by simp [atomic])
  refine .composite rfl rfl fun child mem => ?_
  rcases mem_cons.mp mem with rfl | last
  · exact leaf _ _ (by decide) (by simp [Whole, span, Instruction.samples, Instruction.duration])
  · obtain rfl := mem_singleton.mp last
    exact leaf _ _ (by decide) (by simp [Whole, span, Instruction.samples, Instruction.duration])

/-- Two boxes on one component start early, although the segments of the first are not equally long. -/
theorem followedBox_starts_early : Ready bareSurroundings (followedBox .asap) ∧
    ∃ found, resolve bareSurroundings 0 false (followedBox .asap) = (found, .ok found.content) ∧
      Everywhere (fun given found => given.strategy = .asap → StartsEarly bareSurroundings given found)
        (followedBox .asap) found :=
  ⟨ready_followedBox .asap, children_start_early rfl (ready_followedBox .asap) false⟩

/-- In a tree of boxes that is resolved in samples, the children of every box that is filled from the back end in step
on all their channels, each where the ones behind it start that use a component of it, so that these stay in order
without overlap. A child also starts in step exactly if its segments are equally long. -/
theorem children_end_late {box : Timebox} (samples : s.inSeconds = false) (ready : Ready s box) (fill : Bool) :
    ∃ found, resolve s 0 fill box = (found, .ok found.content) ∧
      Everywhere (fun given found => given.strategy = .alap → ∃ total,
        Composed s (fun channel => endBlocksOn channel (alap total (items found.children))) total given found ∧
        (alap total (items found.children)).Pairwise (fun first second =>
          first.own.meets second.own = true → first.stop ≤ second.start) ∧
        ∀ block ∈ alap total (items found.children), block.StartsTogether ↔ block.content.EquallyLong) box found := by
  obtain ⟨found, resolved, everywhere⟩ := ready.exists_resolve_eq samples fill
  refine ⟨found, resolved, everywhere.mono fun given found arranged late => ?_⟩
  rw [Arranged, late] at arranged
  obtain ⟨total, composed⟩ := arranged
  exact ⟨total, composed, pairwise_alap, fun block _ => block.startsTogether_iff⟩

theorem not_equallyLong_raggedBox : ¬raggedBox.content.EquallyLong := by
  intro equal
  have same := equal "drive" ⟨[.plain (.int 8)], 8⟩ "flux" ⟨[.plain (.int 16)], 16⟩ rfl (by simp) rfl (by simp)
  simp [span, Instruction.samples, Instruction.duration] at same

/-- A box whose segments are not equally long is out of step in one that is filled from the back. -/
theorem raggedBox_out_of_step : Ready bareSurroundings (followedBox .alap) ∧
    ∃ found, resolve bareSurroundings 0 false (followedBox .alap) = (found, .ok found.content) ∧
      ∃ total, Boxed (fun channel => endBlocksOn channel (alap total (items found.children))) total found.content ∧
        ∃ block ∈ alap total (items found.children), ¬block.StartsTogether := by
  refine ⟨ready_followedBox .alap, ?_⟩
  obtain ⟨found, resolved, everywhere⟩ := children_end_late rfl (ready_followedBox .alap) false
  refine ⟨found, resolved, ?_⟩
  cases everywhere with
  | atomic timed => cases timed
  | composite _ holds many children =>
    obtain ⟨total, composed, -, together⟩ := holds rfl
    refine ⟨total, composed.boxed, ?_⟩
    match boxes : found.children, many with
    | first :: rest, _ =>
      rw [boxes] at together
      refine ⟨_, List.mem_cons_self, fun starts => not_equallyLong_raggedBox ?_⟩
      have kept : first.timeline = raggedBox.timeline := by
        cases children (raggedBox, first) (by rw [boxes]; exact List.mem_cons_self) with
        | atomic _ same => exact same
        | composite untimed => cases untimed
      have equal := (together _ List.mem_cons_self).mp starts
      rwa [show raggedBox.content = first.content by rw [content, content, kept]]

end Transmon.Timebox
