import Mathlib.Data.List.TakeWhile
import Transmon.Compiler.Circuits
import Transmon.Proofs.Basic

/-!
# Labels of measurements

The measurements of a circuit get the keys `m1`, `m2`, … in order, though they are labelled from the last one on, and
the labels of a measurement are those of its components under its new key. Where the keys of the circuit are distinct
and not empty, no label occurs twice. A measurement that is added at the end leaves all others last that were last
before.
-/

namespace Transmon.Compiler

open Outcome List Table
open Circuit (Step)

/-- The digits at the end of a label, last first. -/
def endDigits (label : String) : List Char := label.toList.reverse.takeWhile Char.isDigit

theorem readoutLabel_inj {key c other : String} (same : readoutLabel c key = readoutLabel other key) :
    c = other := by
  have written c : readoutLabel c key = c ++ "__" ++ key := rfl
  simpa [written] using same

theorem endDigits_readoutLabel (c : String) (number : Nat) :
    endDigits (readoutLabel c s!"m{number}") = (Nat.toDigits 10 number).reverse := by
  have written : readoutLabel c s!"m{number}" = c ++ "__" ++ ("m" ++ number.repr) := rfl
  have digits : ∀ digit ∈ (Nat.toDigits 10 number).reverse, digit.isDigit = true := fun digit mem =>
    Nat.isDigit_of_mem_toDigits (by decide) (by decide) (mem_reverse.mp mem)
  rw [endDigits, written]
  simp [Nat.repr_eq_ofList_toDigits, takeWhile_append_of_pos digits]

theorem endDigits_heraldKey (c : String) : endDigits (readoutLabel c heraldKey) = [] := by
  have written : readoutLabel c heraldKey = c ++ "__" ++ "__HERALD" := rfl
  simp [endDigits, written]

theorem number_inj {c other : String} {first second : Nat}
    (same : readoutLabel c s!"m{first}" = readoutLabel other s!"m{second}") : first = second := by
  have digits := congrArg endDigits same
  rw [endDigits_readoutLabel, endDigits_readoutLabel, reverse_inj] at digits
  simpa [Nat.ofDigitChars_ten_toDigits] using congrArg (Nat.ofDigitChars 10 · 0) digits

variable (step : Step)

def keyOf : String := ((step.arguments.lookup "key").map Value.plain).getD ""

theorem measures_cons (s : Step) (rest : List Step) :
    measures (s :: rest) = if s.name = "measure" then s :: measures rest else measures rest := by
  simp [measures, filter_cons]

/-- The steps with measurements under the keys of their numbers. -/
def numbered : Nat → List Step → List Step
  | _, [] => []
  | start, step :: rest =>
    if step.name = "measure" then
      { step with arguments := Table.put "key" (.text s!"m{start}") step.arguments } :: numbered (start + 1) rest
    else step :: numbered start rest

/-- The keys of measurements, each with the labels of the components it measures. -/
def keyed : Nat → List Step → ReadoutLabels
  | _, [] => []
  | start, step :: rest =>
    if step.name = "measure" then
      (keyOf step, step.locus.map fun component => readoutLabel component s!"m{start}") :: keyed (start + 1) rest
    else keyed start rest

/-- A component is measured together with none but others of some components, and nothing is done to them later. -/
def Closes (steps : List Step) (others : Names) (component : String) : Prop :=
  ∃ before step after, steps = before ++ step :: after ∧ step.name = "measure" ∧ component ∈ step.locus ∧
    ∀ other ∈ step.locus, other ∈ others ∧ ∀ later ∈ after, other ∉ later.locus

/-- What is known once the last steps of a circuit are labelled. -/
structure Progress (start : Nat) (steps : List Step) (state : Labelling) : Prop where
  listed : state.steps = numbered start steps
  labelled : state.labels = (keyed start steps).reverse
  used : ∀ component, component ∈ state.used ↔ ∃ step ∈ state.steps, component ∈ step.locus
  measured : ∀ component ∈ state.measured, Closes state.steps state.measured component

theorem length_keyed (start : Nat) (ss : List Step) : (keyed start ss).length = (measures ss).length := by
  induction ss generalizing start with
  | nil => rfl
  | cons s rest ih =>
    rw [keyed, measures_cons]
    split <;> simp [ih]

theorem keys_keyed (start : Nat) (ss : List Step) : (keyed start ss).map Prod.fst = (measures ss).map keyOf := by
  induction ss generalizing start with
  | nil => rfl
  | cons s rest ih =>
    rw [keyed, measures_cons]
    split <;> simp [ih]

theorem Closes.cons {ss : List Step} {others more : Names} {c : String} (closes : Closes ss others c)
    (s : Step) (wider : ∀ other ∈ others, other ∈ more) : Closes (s :: ss) more c := by
  obtain ⟨before, last, after, rfl, measure, mem, free⟩ := closes
  exact ⟨s :: before, last, after, rfl, measure, mem,
    fun other inside => ⟨wider _ (free other inside).1, (free other inside).2⟩⟩

/-- A measurement is asked for under a key that is not reserved. -/
def HasKey : Prop :=
  ∃ key, step.arguments.lookup "key" = some (.text key) ∧ key ≠ "" ∧ key ≠ finalKey ∧ key ≠ heraldKey

/-- A step that is not a measurement, or one under a new key that is not reserved, is labelled. -/
theorem add_progress {total start : Nat} {s : Step} {rest : List Step} {state : Labelling}
    (counted : total + 1 = start + (measures (s :: rest)).length)
    (named : s.name = "measure" → HasKey s ∧ keyOf s ∉ (measures rest).map keyOf)
    (progress : Progress (if s.name = "measure" then start + 1 else start) rest state) :
    ∃ next, Labelling.add total s state = .ok next ∧ Progress start (s :: rest) next := by
  by_cases measure : s.name = "measure"
  · obtain ⟨⟨key, held, -, notFinal, notHerald⟩, fresh⟩ := named measure
    rw [if_pos measure] at progress
    have same : keyOf s = key := by simp [keyOf, held, Value.plain]
    rw [same] at fresh
    have number : total - state.labels.length = start := by
      rw [progress.labelled, length_reverse, length_keyed]
      rw [measures_cons, if_pos measure, length_cons] at counted
      omega
    have absent : key ∉ state.labels.map Prod.fst := by
      rwa [progress.labelled, map_reverse, mem_reverse, keys_keyed]
    unfold Labelling.add
    simp only [measure, ne_eq, not_true_eq_false, if_false, held, Value.plain, notFinal, notHerald, decide_false,
      Bool.or_false, Bool.false_eq_true, number]
    refine ⟨_, rfl, ?_, ?_, fun c => ?_, fun c mem => ?_⟩
    · simp [numbered, measure, progress.listed]
    · rw [put_of_not_mem _ absent]
      simp [keyed, measure, same, progress.labelled]
    · simp [progress.used, or_comm]
    · dsimp only at mem ⊢
      split at mem
      · rw [if_pos ‹_›]
        exact (progress.measured c mem).cons _ fun _ => id
      · rw [if_neg ‹_›]
        rcases Names.mem_union.mp mem with earlier | new
        · exact (progress.measured c earlier).cons _ fun _ => Names.mem_union.mpr ∘ .inl
        · refine ⟨[], _, state.steps, rfl, rfl, Names.mem_ofList.mp new, fun other inside => ⟨?_, ?_⟩⟩
          · exact Names.mem_union.mpr (.inr (Names.mem_ofList.mpr inside))
          · intro later listed touched
            exact ‹¬_› (Names.meets_iff.mpr ⟨other, inside, (progress.used other).mpr ⟨later, listed, touched⟩⟩)
  · rw [if_neg measure] at progress
    refine ⟨_, if_pos measure, ?_, ?_, fun c => ?_, fun c mem => ?_⟩
    · simp [numbered, measure, progress.listed]
    · simp [keyed, measure, progress.labelled]
    · simp [progress.used, or_comm]
    · exact (progress.measured c mem).cons _ fun _ => id

/-- All steps are labelled. -/
theorem foldrM_progress {total start : Nat} {ss : List Step} (counted : total + 1 = start + (measures ss).length)
    (named : ∀ s ∈ measures ss, HasKey s) (nodup : ((measures ss).map keyOf).Nodup) :
    ∃ state, ss.foldrM (Labelling.add total) {} = .ok state ∧ Progress start ss state := by
  induction ss generalizing start with
  | nil => exact ⟨_, rfl, rfl, rfl, by simp, by simp⟩
  | cons s rest ih =>
    have ⟨counted', named', distinct', fresh⟩ : total + 1 = (if s.name = "measure" then start + 1 else start) +
        (measures rest).length ∧ (∀ other ∈ measures rest, HasKey other) ∧ ((measures rest).map keyOf).Nodup ∧
        (s.name = "measure" → HasKey s ∧ keyOf s ∉ (measures rest).map keyOf) := by
      rw [measures_cons] at counted named nodup
      split at nodup <;> simp_all
      omega
    obtain ⟨state, made, progress⟩ := ih counted' named' distinct'
    obtain ⟨next, added, progress⟩ := add_progress counted fresh progress
    exact ⟨next, by rw [foldrM_cons, made]; exact added, progress⟩

variable {ops : OperationTable} {isRequired isMeasured : Bool}

/-- A step that passed has a key that was not there before, if it has one. -/
theorem checkFrom_cons {held : List Value} {s : Step}
    {rest : List Step} (passed : Circuit.checkFrom ops isRequired held isMeasured (s :: rest) = .ok ()) :
    ∃ next isMeasured, Circuit.checkFrom ops isRequired next isMeasured rest = .ok () ∧ (∀ value ∈ held, value ∈ next) ∧
      ∀ key, s.key? = some key → key ∈ next ∧ ∀ other ∈ held, Value.equal other key = false := by
  rw [Circuit.checkFrom] at passed
  obtain ⟨_, -, passed⟩ := bind_eq_ok_iff.mp passed
  cases found : s.key? with
  | none => exact ⟨held, isMeasured, by simpa [found] using passed, fun _ => id, by simp⟩
  | some key =>
    simp only [found] at passed
    have ⟨_, passed⟩ := (unless_eq_ok_iff (by simp)).mp passed
    have ⟨fresh, passed⟩ := (unless_eq_ok_iff (by simp)).mp passed
    refine ⟨key :: held, _, passed, fun _ => mem_cons_of_mem _, ?_⟩
    rintro _ ⟨⟩
    exact ⟨mem_cons_self, by simpa using fresh⟩

/-- The keys of a circuit that passed are distinct. -/
theorem nodup_keys_of_checkFrom {held : List Value}
    {ss : List Step} (passed : Circuit.checkFrom ops isRequired held isMeasured ss = .ok ())
    (named : ∀ s ∈ measures ss, HasKey s) :
    ((measures ss).map keyOf).Nodup ∧ ∀ key ∈ (measures ss).map keyOf, .text key ∉ held := by
  induction ss generalizing held isMeasured with
  | nil => simp [measures]
  | cons s rest ih =>
    obtain ⟨next, _, passed, wider, fresh⟩ := checkFrom_cons passed
    by_cases measure : s.name = "measure"
    · rw [measures_cons, if_pos measure] at *
      obtain ⟨⟨key, stored, filled, -⟩, named⟩ := forall_mem_cons.mp named
      obtain ⟨nodup, others⟩ := ih passed named
      have found : s.key? = some (.text key) := by simp [Circuit.Step.key?, stored, Value.isFilled, filled]
      have same : keyOf s = key := by simp [keyOf, stored, Value.plain]
      obtain ⟨now, new⟩ := fresh _ found
      rw [map_cons, same]
      refine ⟨nodup_cons.mpr ⟨fun again => others key again now, nodup⟩, forall_mem_cons.mpr ⟨fun before => ?_,
        fun other mem before => others other mem (wider _ before)⟩⟩
      simpa [Value.equal] using new _ before
    · rw [measures_cons, if_neg measure] at *
      obtain ⟨nodup, others⟩ := ih passed named
      exact ⟨nodup, fun key mem before => others key mem (wider _ before)⟩

/-- No label occurs twice, if no component is measured twice at once. -/
theorem nodup_keyed (start : Nat) {ss : List Step} (apart : ∀ s ∈ measures ss, s.locus.Nodup) :
    ((keyed start ss).flatMap Prod.snd).Nodup ∧ ∀ label ∈ (keyed start ss).flatMap Prod.snd,
      ∃ c number, start ≤ number ∧ label = readoutLabel c s!"m{number}" := by
  induction ss generalizing start with
  | nil => simp [keyed]
  | cons s rest ih =>
    rw [keyed]
    rw [measures_cons] at apart
    split at apart
    · obtain ⟨own, apart⟩ := forall_mem_cons.mp apart
      obtain ⟨nodup, later⟩ := ih (start + 1) apart
      rw [if_pos ‹_›, flatMap_cons]
      constructor
      · refine nodup_append.mpr ⟨own.map fun _ _ => readoutLabel_inj, nodup, ?_⟩
        rintro _ first _ second rfl
        obtain ⟨c, -, rfl⟩ := mem_map.mp first
        obtain ⟨other, number, above, same⟩ := later _ second
        have := number_inj same
        omega
      · intro label mem
        rcases mem_append.mp mem with first | second
        · obtain ⟨c, -, rfl⟩ := mem_map.mp first
          exact ⟨c, start, le_rfl, rfl⟩
        · obtain ⟨other, number, above, same⟩ := later _ second
          exact ⟨other, number, by omega, same⟩
    · rw [if_neg ‹_›]
      exact ih start apart

theorem keys_numbered (start : Nat) (ss : List Step) : (measures (numbered start ss)).map keyOf =
    (range' start (measures ss).length).map fun number => s!"m{number}" := by
  induction ss generalizing start with
  | nil => rfl
  | cons s rest ih =>
    rw [numbered, measures_cons]
    split
    · rw [measures_cons, if_pos ‹_›]
      simp [keyOf, lookup_put_self, Value.plain, range'_succ, ih]
    · rw [measures_cons, if_neg ‹_›, ih]

theorem Closes.append {ss : List Step} {others : Names} {c : String} (closes : Closes ss others c)
    {s : Step} (free : ∀ other ∈ others, other ∉ s.locus) : Closes (ss ++ [s]) others c := by
  obtain ⟨before, last, after, rfl, measure, mem, alone⟩ := closes
  refine ⟨before, last, after ++ [s], by simp, measure, mem, fun other inside => ⟨(alone other inside).1, ?_⟩⟩
  intro later listed
  rcases mem_append.mp listed with earlier | added
  · exact (alone other inside).2 later earlier
  · exact mem_singleton.mp added ▸ free other (alone other inside).1

/-- All components that shall be measured last are. -/
theorem closes_closed {final : Names} {state : Labelling} (measured : ∀ c ∈ state.measured,
      Closes state.steps state.measured c) {c : String} (mem : c ∈ final) :
    ∃ others, Closes (state.closed final) others c := by
  have listed c : c ∈ Text.sorted (Names.diff final state.measured) ↔
      c ∈ final ∧ c ∉ state.measured := by
    simp [Text.sorted]
  unfold Labelling.closed
  by_cases earlier : c ∈ state.measured
  · refine ⟨state.measured, ?_⟩
    dsimp only
    split
    · exact measured c earlier
    · exact (measured c earlier).append fun other inside added => ((listed other).mp added).2 inside
  · have added := (listed c).mpr ⟨mem, earlier⟩
    rw [if_neg (by simpa using ne_nil_of_mem added)]
    exact ⟨_, state.steps, _, [], rfl, rfl, added, fun other inside => ⟨inside, by simp⟩⟩

theorem closed_eq_append (final : Names) (state : Labelling) :
    ∃ added, state.closed final = state.steps ++ added ∧ (final = [] → added = []) := by
  unfold Labelling.closed
  dsimp only
  split
  · exact ⟨[], by simp⟩
  · refine ⟨_, rfl, ?_⟩
    rintro rfl
    simp_all [Names.diff, Text.sorted]

/-- A circuit with labelled measurements, their labels and the components that are measured first. -/
structure IsLabelled (measurable final : Names) (heralding : HeraldingMode) (components : Names) (circuit : Circuit)
    (made : Circuit × ReadoutLabels × List String) : Prop where
  steps : ∃ added, made.1 = { circuit with steps := numbered 1 circuit.steps ++ added } ∧ (final = [] → added = [])
  keys : ((measures (numbered 1 circuit.steps)).map keyOf).Nodup
  closed : ∀ component ∈ final, ∃ others, Closes made.1.steps others component
  heralded : ∀ component, component ∈ made.2.2 ↔ heralding ≠ .none ∧ component ∈ components ∧ component ∈ measurable
  labels : made.2.1 = (keyed 1 circuit.steps).reverse ++ if heralding = .none then []
    else [(heraldKey, made.2.2.map fun component => readoutLabel component heraldKey)]
  reads : ∀ entry ∈ keyed 1 circuit.steps, made.2.1.lookup entry.1 = some entry.2
  distinct : (made.2.1.flatMap Prod.snd).Nodup

theorem labelled_isLabelled {ops : OperationTable} {circuit : Circuit} (measurable final : Names)
    (heralding : HeraldingMode) {metrics : Metrics} (passed : Circuit.check ops true circuit.steps = .ok ())
    (named : ∀ s ∈ measures circuit.steps, HasKey s) (apart : ∀ s ∈ measures circuit.steps, s.locus.Nodup)
    (once : metrics.components.Nodup) : ∃ made, labelled measurable final heralding circuit metrics = .ok made ∧
      IsLabelled measurable final heralding metrics.components circuit made := by
  obtain ⟨unique, -⟩ := nodup_keys_of_checkFrom passed named
  obtain ⟨state, made, progress⟩ := foldrM_progress (Nat.add_comm ..) named unique
  have keys : ((measures (numbered 1 circuit.steps)).map keyOf).Nodup := by
    rw [keys_numbered]
    exact List.Nodup.map (fun _ _ same => number_inj (congrArg (readoutLabel "") same)) nodup_range'
  have entries : (state.labels.map Prod.fst).Nodup := by
    rw [progress.labelled, map_reverse, nodup_reverse, keys_keyed]
    exact unique
  have reads e (mem : e ∈ keyed 1 circuit.steps) : state.labels.lookup e.1 = some e.2 :=
    get?_of_mem_entries (t := ⟨state.labels⟩) entries (progress.labelled ▸ mem_reverse.mpr mem)
  have nodup : (state.labels.flatMap Prod.snd).Nodup := by
    rw [progress.labelled]
    exact ((reverse_perm _).flatMap_right _).nodup_iff.mpr (nodup_keyed 1 apart).1
  have heraldAbsent : heraldKey ∉ state.labels.map Prod.fst := by
    rw [progress.labelled, map_reverse, mem_reverse, keys_keyed]
    intro mem
    obtain ⟨s, listed, same⟩ := mem_map.mp mem
    obtain ⟨key, stored, -, -, notHerald⟩ := named s listed
    exact notHerald (by simpa [keyOf, stored, Value.plain] using same)
  obtain ⟨added, same, absent⟩ := closed_eq_append final state
  rw [progress.listed] at same
  have closed c (mem : c ∈ final) := closes_closed progress.measured mem
  unfold labelled
  rw [made, ok_bind, same] at *
  by_cases plain : heralding = .none
  · refine ⟨_, if_pos plain, ⟨added, rfl, absent⟩, keys, closed, ?_, ?_, reads, nodup⟩
    · simp [plain]
    · simp [plain, progress.labelled]
  · refine ⟨_, if_neg plain, ⟨added, rfl, absent⟩, keys, closed, ?_, ?_, ?_, ?_⟩
    · simp [plain, Text.sorted, Names.inter]
    · rw [if_neg plain, ← progress.labelled]
      exact put_of_not_mem _ heraldAbsent
    · intro e mem
      have read := reads e mem
      refine (lookup_put_of_ne _ _ fun herald => heraldAbsent ?_).trans read
      exact herald ▸ mem_keys_of_get? (t := ⟨state.labels⟩) read
    · change ((put heraldKey _ state.labels).flatMap Prod.snd).Nodup
      rw [put_of_not_mem _ heraldAbsent, flatMap_append]
      refine nodup_append.mpr ⟨nodup, ?_, ?_⟩
      · have sorted : (Text.sorted (Names.inter metrics.components measurable)).Nodup :=
          (mergeSort_perm ..).nodup_iff.mpr (once.filter _)
        simpa using sorted.map fun _ _ => readoutLabel_inj
      · rintro _ first _ second rfl
        obtain ⟨e, listed, inside⟩ := mem_flatMap.mp first
        rw [progress.labelled, mem_reverse] at listed
        obtain ⟨c, number, -, rfl⟩ := (nodup_keyed 1 apart).2 _ (mem_flatMap.mpr ⟨e, listed, inside⟩)
        obtain ⟨other, -, same⟩ := mem_map.mp (by simpa only [flatMap_singleton] using second)
        have digits := congrArg endDigits same
        rw [endDigits_heraldKey, endDigits_readoutLabel] at digits
        simp at digits

/-- In a batch of circuits that passed, whose measurements have keys that are not empty and name no component twice,
every circuit is labelled. -/
theorem labelAll_isLabelled {ops : OperationTable} {calibration : CalibrationTree} {opts : Options}
    {circuits : List Circuit} {metrics : List Metrics} {names final : Names}
    (calibrated : measurable calibration = .ok names) (known : measuredAtEnd opts.measurement names = .ok final)
    (metered : opts.heralding ≠ .none → metrics.length = circuits.length ∧ ∀ own ∈ metrics, own.components.Nodup)
    (passed : ∀ circuit ∈ circuits, Circuit.check ops true circuit.steps = .ok () ∧ ∀ step ∈ measures circuit.steps,
      HasKey step ∧ step.locus.Nodup) :
    ∃ made, labelAll calibration opts circuits metrics = .ok made ∧ List.Forall₂ (fun entry result => ∃ own : Metrics,
      (opts.heralding ≠ .none → metrics[entry.2]? = some own) ∧
        IsLabelled names final opts.heralding own.components entry.1 result)
      (circuits.zip (List.range circuits.length)) made := by
  unfold labelAll
  rw [calibrated, Outcome.ok_bind, known, Outcome.ok_bind]
  refine Outcome.exists_forall₂_mapM fun (circuit, index) member => ?_
  obtain ⟨passed, named⟩ := passed circuit (List.of_mem_zip member).1
  have short : index < circuits.length := List.mem_range.mp (List.of_mem_zip member).2
  have each (own : Metrics) (once : own.components.Nodup) := labelled_isLabelled names final opts.heralding passed
    (fun step listed => (named step listed).1) (fun step listed => (named step listed).2) once
  by_cases plain : opts.heralding = .none
  · obtain ⟨result, made, labelled⟩ := each {} List.nodup_nil
    refine ⟨result, ?_, {}, fun other => absurd plain other, labelled⟩
    rw [plain] at made
    simp [plain, made]
  · obtain ⟨long, once⟩ := metered plain
    obtain ⟨result, made, labelled⟩ := each (metrics[index]) (once _ (List.getElem_mem _))
    have own : metrics[index]? = some metrics[index] := List.getElem?_eq_getElem (by omega)
    refine ⟨result, ?_, metrics[index], fun _ => own, labelled⟩
    simp [plain, own, made]

def measurement (key : String) (locus : List String) : Step :=
  { name := "measure", locus, arguments := [("key", .text key)] }

/-- Measurements under distinct keys get distinct labels. Those under an empty key pass too, and share a number. -/
theorem labelAll_isLabelled_pair :
    (∃ result, labelAll ⟨[("measure", ⟨[("c", ⟨[(["QB1"], []), (["QB2"], [])]⟩)]⟩)]⟩ {}
      [{ name := "", steps := [measurement "a" ["QB1"], measurement "b" ["QB1"]] }] [] = .ok [result] ∧
        (result.2.1.flatMap Prod.snd).Nodup) ∧
    let steps := [measurement "a" ["QB1"], measurement "" ["QB2"], measurement "" ["QB3"]]
    Circuit.check Operation.library true steps = .ok () ∧
      (steps.foldrM (Labelling.add 3) {}).map (fun state => state.steps.map keyOf) = .ok ["m2", "m2", "m3"] := by
  refine ⟨?_, rfl, rfl⟩
  obtain ⟨made, done, each⟩ := @labelAll_isLabelled Operation.library
    ⟨[("measure", ⟨[("c", ⟨[(["QB1"], []), (["QB2"], [])]⟩)]⟩)]⟩ {}
    [{ name := "", steps := [measurement "a" ["QB1"], measurement "b" ["QB1"]] }] [] _ _ rfl rfl (by simp) (by
      simp [measures, measurement, HasKey, finalKey, heraldKey]
      rfl)
  obtain ⟨result, _, ⟨own, -, labelled⟩, others, rfl⟩ := List.forall₂_cons_left_iff.mp each
  cases others
  exact ⟨result, done, labelled.distinct⟩

end Transmon.Compiler
