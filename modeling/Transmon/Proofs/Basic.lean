import Mathlib.Data.List.Forall2
import Mathlib.Data.List.Nodup
import Transmon.Fault
import Transmon.Table

/-!
# Reading tables by their keys

A table is a list of entries in which a key counts where it stands first. Every operation of a table is pinned
here by what can be read afterwards and by the keys it leaves. Entries and readings say the same of a table whose
keys are distinct; writing and removing keep them distinct, so a table that was filled from an empty one has this
property throughout.
-/

namespace Transmon

open List

namespace Table

variable {κ α β : Type}

@[simp] theorem entries_empty : (∅ : Table κ α).entries = [] := rfl

@[simp] theorem keys_empty : (∅ : Table κ α).keys = [] := rfl

theorem keys_map {t : Table κ α} (change : κ → α → β) : (t.map change).keys = t.keys := by
  simp [map, keys]

theorem mem_keys_of_mem {t : Table κ α} {key : κ} {value : α} (e : (key, value) ∈ t.entries) : key ∈ t.keys :=
  mem_map_of_mem e

section Keyed

variable [BEq κ] {t : Table κ α} {key other : κ} {value : α} {entries : List (κ × α)}

@[simp] theorem get?_empty (key : κ) : (∅ : Table κ α).get? key = none := rfl

theorem nodup_keys_erase (nodup : t.keys.Nodup) : (t.erase key).keys.Nodup :=
  nodup.sublist (filter_sublist.map Prod.fst)

variable [LawfulBEq κ]

theorem lookup_cons_of_ne {rest : List (κ × α)} (ne : other ≠ key) :
    ((key, value) :: rest).lookup other = rest.lookup other := by
  have apart : (other == key) = false := by simpa using ne
  rw [lookup_cons, apart]

/-- A key has no value exactly if it is not among the keys. -/
theorem get?_eq_none_iff : t.get? key = none ↔ key ∉ t.keys := by
  unfold get? keys
  rw [lookup_eq_none_iff]
  constructor
  · intro absent mem
    obtain ⟨e, stored, same⟩ := mem_map.mp mem
    simpa [same] using absent e stored
  · intro absent e stored
    have ne : key ≠ e.1 := fun same => absent (same ▸ mem_map_of_mem stored)
    simpa using ne

theorem isSome_get?_iff : (t.get? key).isSome = true ↔ key ∈ t.keys := by
  rw [Option.isSome_iff_ne_none, ne_eq, get?_eq_none_iff, not_not]

theorem mem_keys_of_get? (found : t.get? key = some value) : key ∈ t.keys :=
  isSome_get?_iff.mp (by simp [found])

/-- A table is empty exactly if no key has a value. -/
theorem isEmpty_iff_get? : t.isEmpty = true ↔ ∀ key, t.get? key = none := by
  simp only [get?_eq_none_iff, ← List.eq_nil_iff_forall_not_mem, keys, List.map_eq_nil_iff, isEmpty, List.isEmpty_iff]

/-- What can be read stands in an entry. -/
theorem mem_entries_of_get? (found : t.get? key = some value) : (key, value) ∈ t.entries := by
  obtain ⟨before, after, split, _⟩ := lookup_eq_some_iff.mp found
  simp [split]

/-- If keys are distinct, every entry can be read. -/
theorem get?_of_mem_entries (nodup : t.keys.Nodup) (e : (key, value) ∈ t.entries) :
    t.get? key = some value := by
  obtain ⟨held, found⟩ := Option.isSome_iff_exists.mp (isSome_get?_iff.mpr (mem_keys_of_mem e))
  have same : (key, held) = (key, value) :=
    inj_on_of_nodup_map nodup (mem_entries_of_get? found) e rfl
  rw [found, (Prod.mk.inj same).2]

theorem mem_values_iff (nodup : t.keys.Nodup) : value ∈ t.values ↔ ∃ key, t.get? key = some value := by
  unfold values
  rw [mem_map]
  constructor
  · rintro ⟨⟨key, held⟩, e, rfl⟩
    exact ⟨key, get?_of_mem_entries nodup e⟩
  · rintro ⟨key, found⟩
    exact ⟨(key, value), mem_entries_of_get? found, rfl⟩

/-- Reading after writing: the key that was written has the new value, and every other key its old one. -/
theorem get?_insert [DecidableEq κ] :
    (t.insert key value).get? other = if other = key then some value else t.get? other := by
  split
  · next same => rw [same, get?_insert_self]
  · next ne => rw [get?_insert_of_ne t value ne]

theorem keys_put_of_mem (present : key ∈ entries.map Prod.fst) :
    (put key value entries).map Prod.fst = entries.map Prod.fst := by
  induction entries with
  | nil => simp at present
  | cons e rest ih =>
    obtain ⟨k, v⟩ := e
    by_cases same : key = k
    · simp [put, same]
    · have later : key ∈ rest.map Prod.fst := by simpa [same] using present
      simp [put, same, ih later]

/-- A new key goes to the end. -/
theorem put_of_not_mem (value : α) (absent : key ∉ entries.map Prod.fst) :
    put key value entries = entries ++ [(key, value)] := by
  induction entries with
  | nil => rfl
  | cons e rest ih =>
    obtain ⟨ne, absent⟩ := not_or.mp (mem_cons.not.mp absent)
    simp [put, ne, ih absent]

/-- Writing at a key that is there keeps the keys and their order. -/
theorem keys_insert_of_mem (present : key ∈ t.keys) : (t.insert key value).keys = t.keys :=
  keys_put_of_mem present

theorem keys_insert_of_not_mem (absent : key ∉ t.keys) : (t.insert key value).keys = t.keys ++ [key] := by
  unfold insert keys
  rw [put_of_not_mem value absent, map_append]
  rfl

@[simp] theorem mem_keys_insert : other ∈ (t.insert key value).keys ↔ other ∈ t.keys ∨ other = key := by
  by_cases present : key ∈ t.keys
  · rw [keys_insert_of_mem present]
    exact ⟨Or.inl, fun cases => cases.elim id fun same => same ▸ present⟩
  · simp [keys_insert_of_not_mem present]

/-- Every entry after writing is the written one or was there before. -/
theorem mem_entries_insert {e : κ × α} (mem : e ∈ (t.insert key value).entries) :
    e = (key, value) ∨ e ∈ t.entries := by
  obtain ⟨entries⟩ := t
  change e ∈ put key value entries at mem
  induction entries with
  | nil => exact .inl (by simpa [put] using mem)
  | cons first rest ih =>
    obtain ⟨k, v⟩ := first
    by_cases same : key = k
    · subst same
      exact (mem_cons.mp (by simpa [put] using mem)).imp_right (mem_cons_of_mem _)
    · rcases mem_cons.mp (by simpa [put, same] using mem) with kept | later
      · exact .inr (kept ▸ mem_cons_self)
      · exact (ih later).imp_right (mem_cons_of_mem _)

theorem nodup_keys_insert (nodup : t.keys.Nodup) : (t.insert key value).keys.Nodup := by
  by_cases present : key ∈ t.keys
  · rwa [keys_insert_of_mem present]
  · rw [keys_insert_of_not_mem present]
    exact nodup.append (nodup_singleton key) (by simpa using present)

/-- Reading after writing to several keys. -/
theorem get?_foldl_insert [DecidableEq κ] (stored : κ → α) (names : List κ) :
    (names.foldl (fun table name => table.insert name (stored name)) t).get? key =
      if key ∈ names then some (stored key) else t.get? key := by
  induction names generalizing t with
  | nil => simp
  | cons first rest ih =>
    rw [foldl_cons, ih, get?_insert]
    by_cases later : key ∈ rest
    · simp [later]
    · by_cases same : key = first
      · simp [same]
      · simp [later, same]

theorem nodup_keys_foldl_insert (stored : κ → α) (names : List κ) (nodup : t.keys.Nodup) :
    (names.foldl (fun table name => table.insert name (stored name)) t).keys.Nodup := by
  induction names generalizing t with
  | nil => exact nodup
  | cons first rest ih => exact ih (nodup_keys_insert nodup)

/-- Reading after keys were entered that were missing. -/
theorem get?_foldl_insertNew [DecidableEq κ] (names : List κ) :
    (names.foldl (fun table name => table.insertNew name value) t).get? key =
      if key ∈ names then some (t.getD key value) else t.get? key := by
  have entered (table : Table κ α) (name : κ) : (table.insertNew name value).get? key =
      if key = name then some (table.getD key value) else table.get? key := by
    unfold insertNew contains getD
    cases found : table.get? name with
    | none =>
      simp only [Option.isSome_none, Bool.false_eq_true, if_false, get?_insert]
      split
      · next same => simp [same, found]
      · rfl
    | some present =>
      simp only [Option.isSome_some, if_true]
      split
      · next same => simp [same, found]
      · rfl
  induction names generalizing t with
  | nil => simp
  | cons first rest ih =>
    rw [foldl_cons, ih, entered, getD, entered]
    by_cases same : key = first
    · simp [same, getD]
    · simp [same, getD]

theorem nodup_keys_foldl_insertNew (names : List κ) (nodup : t.keys.Nodup) :
    (names.foldl (fun table name => table.insertNew name value) t).keys.Nodup := by
  induction names generalizing t with
  | nil => exact nodup
  | cons first rest ih =>
    refine ih ?_
    dsimp only [insertNew]
    split
    · exact nodup
    · exact nodup_keys_insert nodup

theorem get?_map (change : κ → α → β) : (t.map change).get? key = (t.get? key).map (change key) := by
  obtain ⟨entries⟩ := t
  unfold map get?
  induction entries with
  | nil => rfl
  | cons e rest ih =>
    obtain ⟨k, v⟩ := e
    by_cases same : key = k
    · simp [same]
    · simpa [lookup_cons_of_ne same] using ih

theorem get?_modify [DecidableEq κ] (change : α → α) :
    (t.modify key change).get? other = if other = key then (t.get? other).map change else t.get? other := by
  have mapped : t.modify key change = t.map fun name value => if key = name then change value else value := by
    simp only [modify, map, beq_iff_eq, mk.injEq]
    refine map_congr_left fun e _ => ?_
    split <;> rfl
  rw [mapped, get?_map]
  by_cases same : other = key
  · simp [same]
  · simp [same, Ne.symm same]

omit [LawfulBEq κ] in
theorem keys_modify (change : α → α) : (t.modify key change).keys = t.keys := by
  simp only [modify, keys, map_map]
  refine map_congr_left fun e _ => ?_
  dsimp only [Function.comp]
  split <;> rfl

omit [LawfulBEq κ] in
theorem keys_foldl_modify (change : β → α → α) (entries : List (κ × β)) :
    (entries.foldl (fun table e => table.modify e.1 (change e.2)) t).keys = t.keys := by
  induction entries generalizing t with
  | nil => rfl
  | cons e rest ih => rw [foldl_cons, ih, keys_modify]

/-- Reading after the values at distinct keys were changed one after the other. -/
theorem get?_foldl_modify [DecidableEq κ] (change : β → α → α) {entries : List (κ × β)}
    (nodup : (entries.map Prod.fst).Nodup) :
    (entries.foldl (fun table e => table.modify e.1 (change e.2)) t).get? key =
      (t.get? key).map fun value => (entries.lookup key).elim value (change · value) := by
  induction entries generalizing t with
  | nil => simp
  | cons e rest ih =>
    obtain ⟨name, item⟩ := e
    obtain ⟨absent, nodup⟩ := nodup_cons.mp nodup
    rw [foldl_cons, ih nodup, get?_modify]
    by_cases same : key = name
    · subst same
      have missing : (⟨rest⟩ : Table κ β).get? key = none := get?_eq_none_iff.mpr absent
      unfold get? at missing
      simp [missing, Function.comp_def]
    · simp [same, lookup_cons_of_ne same]

/-- Keeping entries by their keys does not change what is read at the keys that are kept. -/
theorem get?_filter_key (keep : κ → Bool) :
    (t.filter fun key _ => keep key).get? other = if keep other then t.get? other else none := by
  obtain ⟨entries⟩ := t
  unfold filter get?
  induction entries with
  | nil => simp
  | cons e rest ih =>
    obtain ⟨k, v⟩ := e
    by_cases same : other = k
    · subst same
      by_cases kept : keep other = true
      · simp [kept]
      · simpa [kept] using ih
    · by_cases kept : keep k = true
      · simpa [kept, lookup_cons_of_ne same] using ih
      · simpa [kept, lookup_cons_of_ne same] using ih

/-- Reading after removing: the key has no value, and every other key its old one. -/
theorem get?_erase [DecidableEq κ] : (t.erase key).get? other = if other = key then none else t.get? other := by
  refine (get?_filter_key fun name => !(key == name)).trans ?_
  by_cases same : other = key
  · simp [same]
  · simp [same, Ne.symm same]

@[simp] theorem mem_keys_insertMany :
    other ∈ (t.insertMany entries).keys ↔ other ∈ t.keys ∨ other ∈ entries.map Prod.fst := by
  unfold insertMany
  induction entries generalizing t with
  | nil => simp
  | cons e rest ih => simp [ih, or_assoc]

/-- What is read after entering a list was there before or is in the list. -/
theorem get?_insertMany_mem [DecidableEq κ]
    (found : (t.insertMany entries).get? key = some value) : t.get? key = some value ∨ (key, value) ∈ entries := by
  unfold insertMany at found
  induction entries generalizing t with
  | nil => exact .inl found
  | cons e rest ih =>
    obtain ⟨k, v⟩ := e
    rcases ih found with before | later
    · rw [get?_insert] at before
      split at before
      · next same =>
        cases same
        cases before
        exact .inr mem_cons_self
      · exact .inl before
    · exact .inr (mem_cons_of_mem _ later)

@[simp] theorem mem_keys_ofList : other ∈ (ofList entries).keys ↔ other ∈ entries.map Prod.fst := by
  simp [ofList]

theorem get?_ofList_mem [DecidableEq κ] (found : (ofList entries).get? key = some value) : (key, value) ∈ entries := by
  rcases get?_insertMany_mem found with impossible | mem
  · simp at impossible
  · exact mem

/-- Reading after entering a list: the list comes first. -/
theorem get?_insertMany [DecidableEq κ] :
    (t.insertMany entries).get? key = ((ofList entries).get? key).or (t.get? key) := by
  induction entries generalizing t with
  | nil => rfl
  | cons e rest ih =>
    change ((t.insert e.1 e.2).insertMany rest).get? key =
      ((((∅ : Table κ α).insert e.1 e.2).insertMany rest).get? key).or _
    rw [ih, ih, get?_insert, get?_insert, Option.or_assoc]
    split <;> simp

end Keyed

end Table

namespace Names

@[simp] theorem mem_ofList {items : List String} {name : String} : name ∈ ofList items ↔ name ∈ items := by
  change name ∈ union [] items ↔ _
  simp

variable {names others : Names}

@[simp] theorem within_iff : names.within others = true ↔ ∀ name ∈ names, name ∈ others := by
  simp [within]

@[simp] theorem meets_iff : names.meets others = true ↔ ∃ name ∈ names, name ∈ others := by
  simp [meets]

end Names

/-!
# Runs that are not refused

An outcome is reached through the outcomes it is put together from, and work on a state is a run that passes from
one state to the next. The laws here take a run that was not refused apart at every `do` step, so that later proofs
follow the program and never open the monad.
-/

namespace Outcome

variable {α β : Type} {kind : Fault.Kind} {value result : α} {change : α → Outcome β} {items : List α}
  {results : List β} {refusal : Outcome Unit}

/-- An outcome of two steps is reached through the value of the first. -/
theorem bind_eq_ok_iff {first : Outcome α} {next : α → Outcome β} {result : β} :
    (first >>= next) = .ok result ↔ ∃ value, first = .ok value ∧ next value = .ok result := by
  cases first with
  | error fault => simp [bind, Except.bind]
  | ok value => simp [bind, Except.bind]

theorem map_eq_ok_iff {first : Outcome α} {change : α → β} {result : β} :
    (change <$> first) = .ok result ↔ ∃ value, first = .ok value ∧ change value = result := by
  cases first with
  | error fault => simp [Functor.map, Except.map]
  | ok value => simp [Functor.map, Except.map]

@[simp] theorem pure_eq_ok_iff : (pure value : Outcome α) = .ok result ↔ value = result := by
  simp [pure, Except.pure]

@[simp] theorem ok_bind (value : α) (next : α → Outcome β) : ((.ok value : Outcome α) >>= next) = next value := rfl

@[simp] theorem error_bind (fault : Fault) (next : α → Outcome β) :
    ((.error fault : Outcome α) >>= next) = .error fault := rfl

@[simp] theorem fail_eq_ok_iff : (fail kind : Outcome α) = .ok result ↔ False := by
  simp [fail]

@[simp] theorem refuse_eq_ok_iff {reason : String} : (refuse reason : Outcome α) = .ok result ↔ False := by
  simp [refuse]

@[simp] theorem failWith_eq_ok_iff {reason : String} : (failWith kind reason : Outcome α) = .ok result ↔ False := by
  simp [failWith]

@[simp] theorem require_eq_ok_iff {option : Option α} : require kind option = .ok value ↔ option = some value := by
  cases option with
  | none => simp [require, fail]
  | some held => simp [require]

@[simp] theorem need_eq_ok_iff {κ : Type} [BEq κ] {t : Table κ α} {key : κ} :
    t.need key = .ok value ↔ t.get? key = some value := require_eq_ok_iff

@[simp] theorem requireName_eq_ok_iff {name : String} {option : Option α} :
    requireName name option = .ok value ↔ option = some value := by
  cases option with
  | none => simp [requireName]
  | some held => simp [requireName]

/-- A check is passed exactly if its condition holds, provided that it refuses otherwise. -/
theorem check_eq_ok_iff {holds : Bool} (refuses : refusal ≠ .ok ()) :
    (if (!holds) = true then refusal else pure ()) = .ok () ↔ holds = true := by
  cases holds with
  | false => simpa using refuses
  | true => simp

/-- What follows a check is reached exactly if the check passes. -/
theorem unless_eq_ok_iff {broken : Prop} [Decidable broken] {rest : Outcome α} (refuses : refusal ≠ .ok ()) :
    (if broken then (do refusal; rest) else rest) = .ok result ↔ ¬broken ∧ rest = .ok result := by
  split
  · next holds => simp [holds, refuses, bind_eq_ok_iff]
  · next holds => simp [holds]

theorem check_eq_error {holds : Bool} {fault : Fault}
    (refused : (if (!holds) = true then refusal else pure ()) = .error fault) : refusal = .error fault := by
  split at refused
  · exact refused
  · cases refused

/-- Steps that reach the same from every state reach the same in succession. -/
theorem foldlM_eq_ok_congr {first second : β → α → Outcome β}
    (same : ∀ state item next, first state item = .ok next ↔ second state item = .ok next)
    {start final : β} : items.foldlM first start = .ok final ↔ items.foldlM second start = .ok final := by
  induction items generalizing start with
  | nil => rfl
  | cons item rest ih => simp only [foldlM_cons, bind_eq_ok_iff, same, ih]

/-- A list of outcomes is reached exactly if each of them is, and holds their values in order. -/
theorem mapM_eq_ok_iff :
    items.mapM change = .ok results ↔ List.Forall₂ (fun item result => change item = .ok result) items results := by
  induction items generalizing results with
  | nil =>
    rw [mapM_nil, pure_eq_ok_iff, forall₂_nil_left_iff]
    exact eq_comm
  | cons item rest ih =>
    simp only [mapM_cons, bind_eq_ok_iff, pure_eq_ok_iff, ih]
    constructor
    · rintro ⟨first, changed, others, rests, rfl⟩
      exact .cons changed rests
    · intro all
      cases all with
      | cons changed rests => exact ⟨_, changed, _, rests, rfl⟩

theorem mapM_eq_ok_map {value : α → β} (each : ∀ item ∈ items, change item = .ok (value item)) :
    items.mapM change = .ok (items.map value) := by
  rw [mapM_eq_ok_iff, forall₂_map_right_iff, forall₂_same]
  exact each

/-- If an outcome is reached exactly under a condition, a list of such outcomes is reached exactly if all items meet
it. -/
theorem mapM_eq_ok_iff_map {condition : α → Prop} (value : α → β)
    (each : ∀ item result, change item = .ok result ↔ condition item ∧ value item = result) :
    items.mapM change = .ok results ↔ (∀ item ∈ items, condition item) ∧ items.map value = results := by
  simp only [mapM_eq_ok_iff, each, forall₂_and_left]
  rw [← forall₂_map_left_iff, forall₂_eq_eq_eq]

/-- Every item of a list has a counterpart in one that is related to it. -/
theorem exists_of_forall₂ {related : α → β → Prop} {others : List β}
    (all : List.Forall₂ related items others) {item : α} (mem : item ∈ items) : ∃ other ∈ others, related item other := by
  induction all with
  | nil => simp at mem
  | cons first _ ih =>
    rcases mem_cons.mp mem with rfl | later
    · exact ⟨_, mem_cons_self, first⟩
    · obtain ⟨other, listed, found⟩ := ih later
      exact ⟨other, mem_cons_of_mem _ listed, found⟩

/-- Every value of a list of outcomes comes from one of them. -/
theorem exists_of_mem_mapM {result : β}
    (reached : items.mapM change = .ok results) (mem : result ∈ results) : ∃ item ∈ items, change item = .ok result :=
  exists_of_forall₂ (mapM_eq_ok_iff.mp reached).flip mem

theorem exists_forall₂_mapM {meets : α → β → Prop}
    (each : ∀ item ∈ items, ∃ result, change item = .ok result ∧ meets item result) :
    ∃ results, items.mapM change = .ok results ∧ List.Forall₂ meets items results := by
  induction items with
  | nil => exact ⟨[], rfl, .nil⟩
  | cons item rest ih =>
    obtain ⟨⟨result, changed, met⟩, each⟩ := forall_mem_cons.mp each
    obtain ⟨results, made, others⟩ := ih each
    exact ⟨result :: results, by rw [mapM_cons, changed, ok_bind, made]; rfl, .cons met others⟩

theorem mapM_ok (each : ∀ item ∈ items, ∃ result, change item = .ok result) :
    ∃ results, items.mapM change = .ok results := by
  obtain ⟨results, reached, -⟩ : ∃ results, items.mapM change = .ok results ∧
    List.Forall₂ (fun _ _ => True) items results :=
    exists_forall₂_mapM (by simpa using each)
  exact ⟨results, reached⟩

theorem forIn_ok {body : α → PUnit → Outcome (ForInStep PUnit)}
    (each : ∀ item ∈ items, body item ⟨⟩ = .ok (.yield ⟨⟩)) :
    forIn items ⟨⟩ body = .ok ⟨⟩ := by
  induction items with
  | nil => rfl
  | cons item rest ih =>
    obtain ⟨first, others⟩ := forall_mem_cons.mp each
    rw [forIn_cons, first]
    exact ih others

end Outcome

namespace Table

variable {κ α β : Type} {t : Table κ α} {result : Table κ β} {change : κ → α → Outcome β}

/-- Changing all values of a table is reached exactly if each change is, and keeps the keys in their order. -/
theorem mapM_eq_ok_iff : t.mapM change = .ok result ↔
    List.Forall₂ (fun e made => made.1 = e.1 ∧ change e.1 e.2 = .ok made.2) t.entries result.entries := by
  obtain ⟨entries⟩ := result
  simp only [mapM, Outcome.bind_eq_ok_iff, Outcome.pure_eq_ok_iff, mk.injEq, exists_eq_right, Outcome.mapM_eq_ok_iff]
  refine iff_of_eq (congrArg (fun relation => List.Forall₂ relation t.entries entries) ?_)
  funext e made
  obtain ⟨key, value⟩ := made
  simp only [Prod.mk.injEq, exists_eq_right_right, eq_iff_iff]
  exact ⟨fun ⟨changed, same⟩ => ⟨same.symm, changed⟩, fun ⟨same, changed⟩ => ⟨changed, same.symm⟩⟩

theorem mapM_ok (each : ∀ e ∈ t.entries, ∃ made, change e.1 e.2 = .ok made) :
    ∃ result, t.mapM change = .ok result := by
  have lifted : ∀ e ∈ t.entries, ∃ made,
      (do return (e.1, ← change e.1 e.2) : Outcome (κ × β)) = .ok made := by
    intro e mem
    obtain ⟨made, changed⟩ := each e mem
    exact ⟨(e.1, made), by rw [changed]; rfl⟩
  obtain ⟨entries, reached⟩ := Outcome.mapM_ok lifted
  exact ⟨⟨entries⟩, by rw [mapM, reached]; rfl⟩

/-- Every value that was changed comes from one that was there, under the same key. -/
theorem exists_of_mem_mapM {key : κ} {value : β} (mapped : t.mapM change = .ok result)
    (mem : (key, value) ∈ result.entries) : ∃ old, (key, old) ∈ t.entries ∧ change key old = .ok value := by
  obtain ⟨⟨_, old⟩, stored, rfl, reached⟩ := Outcome.exists_of_forall₂ (mapM_eq_ok_iff.mp mapped).flip mem
  exact ⟨old, stored, reached⟩

/-- Changing all values keeps the keys. -/
theorem keys_mapM (mapped : t.mapM change = .ok result) : result.keys = t.keys := by
  have same : List.Forall₂ (· = ·) result.keys t.keys := forall₂_map_left_iff.mpr (forall₂_map_right_iff.mpr
    ((mapM_eq_ok_iff.mp mapped).imp fun _ _ changed => changed.1).flip)
  rwa [forall₂_eq_eq_eq] at same

/-- What is read from a changed table is the change of what is read from the table. -/
theorem get?_of_mapM [BEq κ] [LawfulBEq κ] {key : κ} {value : β} (mapped : t.mapM change = .ok result)
    (found : result.get? key = some value) : ∃ old, t.get? key = some old ∧ change key old = .ok value := by
  have all := mapM_eq_ok_iff.mp mapped
  unfold get? at found ⊢
  clear mapped
  generalize t.entries = before at all ⊢
  generalize result.entries = after at all found
  induction all with
  | nil => simp at found
  | @cons e made _ _ changed _ ih =>
    obtain ⟨first, old⟩ := e
    obtain ⟨second, new⟩ := made
    obtain ⟨rfl, reached⟩ : second = first ∧ change first old = .ok new := changed
    by_cases same : key = second
    · subst same
      obtain rfl : new = value := by simpa using found
      exact ⟨old, by simp, reached⟩
    · rw [lookup_cons_of_ne same] at found ⊢
      exact ih found

end Table

namespace Work

variable {σ α β : Type} (work : Work σ α)

/-- What work gives, and the state it leaves, from a state. -/
def runFrom (start : σ) : Outcome α × σ := work.run.run start

/-- Work that is not refused: it gives a value and leaves a state. -/
def Returns (start : σ) (value : α) (finish : σ) : Prop :=
  work.runFrom start = (.ok value, finish)

variable {start finish : σ} {value : α} {work : Work σ α}

/-- The second of two steps starts from the state that the first one leaves, unless the first is refused. -/
theorem runFrom_bind (next : α → Work σ β) (start : σ) : runFrom (work >>= next) start =
      match work.runFrom start with
      | (.ok value, middle) => (next value).runFrom middle
      | (.error fault, middle) => (.error fault, middle) := by
  change (match work.runFrom start with
    | (outcome, middle) => (ExceptT.bindCont next outcome).run middle : Outcome β × σ) = _
  rcases work.runFrom start with ⟨outcome, middle⟩
  cases outcome with
  | error fault => rfl
  | ok value => rfl

/-- Work gives at most one value and leaves at most one state. -/
theorem Returns.unique {other : α} {last : σ} (first : work.Returns start value finish)
    (second : work.Returns start other last) : value = other ∧ finish = last := by
  have same : ((.ok value : Outcome α), finish) = (.ok other, last) := first.symm.trans second
  simpa using same

theorem runFrom_fst_eq_ok_iff : (work.runFrom start).1 = .ok value ↔ ∃ last, work.Returns start value last := by
  unfold Returns
  rcases work.runFrom start with ⟨outcome, last⟩
  simp

@[simp] theorem returns_pure_iff {given : α} :
    Returns (pure given) start value finish ↔ given = value ∧ start = finish := by
  change ((.ok given : Outcome α), start) = (.ok value, finish) ↔ _
  simp

/-- Work in two steps passes through the state that the first step leaves. -/
theorem returns_bind_iff {next : α → Work σ β} {result : β} : Returns (work >>= next) start result finish ↔
      ∃ value middle, Returns work start value middle ∧ Returns (next value) middle result finish := by
  unfold Returns
  rw [runFrom_bind]
  rcases work.runFrom start with ⟨outcome, middle⟩
  cases outcome with
  | error fault => simp
  | ok value => simp

theorem returns_map_iff {change : α → β} {result : β} :
    Returns (change <$> work) start result finish ↔ ∃ value, Returns work start value finish ∧ change value = result := by
  rw [← bind_pure_comp, returns_bind_iff]
  constructor
  · rintro ⟨value, middle, returned, changed⟩
    obtain ⟨same, rfl⟩ := returns_pure_iff.mp changed
    exact ⟨value, returned, same⟩
  · rintro ⟨value, returned, same⟩
    exact ⟨value, finish, returned, returns_pure_iff.mpr ⟨same, rfl⟩⟩

theorem lift_ok (value : α) : liftM (.ok value : Outcome α) = (pure value : Work σ α) := rfl

@[simp] theorem returns_lift_iff {outcome : Outcome α} :
    Returns (liftM outcome) start value finish ↔ outcome = .ok value ∧ start = finish := by
  change (outcome, start) = (.ok value, finish) ↔ _
  simp

@[simp] theorem returns_get_iff {given : σ} :
    Returns (get : Work σ σ) start given finish ↔ start = given ∧ start = finish := by
  change ((.ok start : Outcome σ), start) = (.ok given, finish) ↔ _
  simp

@[simp] theorem returns_set_iff {given : σ} {done : PUnit} :
    Returns (set given : Work σ PUnit) start done finish ↔ given = finish := by
  change ((.ok ⟨⟩ : Outcome PUnit), given) = (.ok done, finish) ↔ _
  simp

@[simp] theorem returns_throw_iff {fault : Fault} :
    Returns (throw fault : Work σ α) start value finish ↔ False := by
  change ((.error fault : Outcome α), start) = (.ok value, finish) ↔ _
  simp

end Work

end Transmon
