import Transmon.Fault

/-!
Tables that keep the order in which keys were first entered.

Writing to a key that is there replaces its value in place; a new key goes to the end. Reading,
removing and renaming never change the order of the other keys.
-/

namespace Transmon

/-- What is listed by name. -/
abbrev Named (α : Type) := List (String × α)

attribute [grind →] List.sizeOf_lt_of_mem

@[grind →] theorem sizeOf_snd_lt {α β : Type} [SizeOf α] [SizeOf β] {e : α × β} {l : List (α × β)} (h : e ∈ l) :
    sizeOf e.2 < sizeOf l := by
  have := List.sizeOf_lt_of_mem h
  cases e
  simp at this ⊢
  omega

/-- A finite map whose keys are kept in the order of their first entry. -/
structure Table (κ : Type) (α : Type) where
  entries : List (κ × α)

namespace Table

variable {κ α β : Type}

instance : EmptyCollection (Table κ α) := ⟨⟨[]⟩⟩

instance : Inhabited (Table κ α) := ⟨⟨[]⟩⟩

variable (t : Table κ α)

def size := t.entries.length

def isEmpty := t.entries.isEmpty

def keys := t.entries.map Prod.fst

def values := t.entries.map Prod.snd

def toList := t.entries

def map (change : κ → α → β) : Table κ β := ⟨t.entries.map fun e => (e.1, change e.1 e.2)⟩

def filter (keep : κ → α → Bool) : Table κ α := ⟨t.entries.filter fun e => keep e.1 e.2⟩

def mapM {m : Type → Type} [Monad m] (t : Table κ α) (change : κ → α → m β) : m (Table κ β) :=
  return ⟨← t.entries.mapM fun e => do pure (e.1, ← change e.1 e.2)⟩

section Keyed

variable [BEq κ] (t : Table κ α) (key : κ)

def get? := t.entries.lookup key

def need := require .missing (t.get? key)

abbrev named (t : Table String α) (n : String) : Outcome α := requireName n (t.get? n)

def getD (k : κ) (default : α) := (t.get? k).getD default

def contains := (t.get? key).isSome

def put (key : κ) (x : α) : List (κ × α) → List (κ × α)
  | [] => [(key, x)]
  | (k, v) :: xs => if key == k then (k, x) :: xs else (k, v) :: put key x xs

def insert (v : α) : Table κ α := ⟨put key v t.entries⟩

def insertNew (v : α) : Table κ α := if t.contains key then t else t.insert key v

def erase : Table κ α := ⟨t.entries.filter fun e => !(key == e.1)⟩

def modify (change : α → α) : Table κ α := ⟨t.entries.map fun e => if key == e.1 then (e.1, change e.2) else e⟩

def update (start : α) (change : α → α) := t.insert key (change (t.getD key start))

variable (entries : List (κ × α))

def insertMany := entries.foldl (fun table e => table.insert e.1 e.2) t

def ofList := (∅ : Table κ α).insertMany entries

theorem lookup_put_self [LawfulBEq κ] (key : κ) (x : α) (es : List (κ × α)) :
    (put key x es).lookup key = some x := by
  induction es with
  | nil => simp [put]
  | cons e xs ih =>
    obtain ⟨k, v⟩ := e
    by_cases same : (key == k) = true
    · simp [put, same, List.lookup_cons]
    · simp [put, same, List.lookup_cons, ih]

/-- Reading back what was written at a key gives it. -/
@[simp] theorem get?_insert_self [LawfulBEq κ] (t : Table κ α) (k : κ) (v : α) :
    (t.insert k v).get? k = some v :=
  lookup_put_self k v t.entries

theorem lookup_put_of_ne [LawfulBEq κ] {key other : κ} (x : α) (es : List (κ × α))
    (different : other ≠ key) : (put key x es).lookup other = es.lookup other := by
  have apart : (other == key) = false := by simp [different]
  induction es with
  | nil => simp [put, List.lookup_cons, apart]
  | cons e xs ih =>
    obtain ⟨k, v⟩ := e
    by_cases same : (key == k) = true
    · have equal : key = k := eq_of_beq same
      subst equal
      simp [put, List.lookup_cons, apart]
    · simp [put, same, List.lookup_cons, ih]

/-- Writing at one key leaves every other key alone. -/
theorem get?_insert_of_ne [LawfulBEq κ] {k other : κ} (t : Table κ α) (v : α)
    (different : other ≠ k) : (t.insert k v).get? other = t.get? other :=
  lookup_put_of_ne v t.entries different

end Keyed

end Table

/-!
Finite sets of names.

A set is a list without repetition. Answers show it sorted, so the order inside is free; it is the order in
which the names were added.
-/

/-- A set of names. -/
abbrev Names := List String

def checkFields {α : Type} (fs : Named α) (required opt : Names) : Check := do
  if fs.any fun e => !(required.contains e.1 || opt.contains e.1) then fail .type
  if required.any fun n => (fs.lookup n).isNone then fail .type

namespace Names

def add (ns : Names) (n : String) := if ns.contains n then ns else ns ++ [n]

def ofList (xs : List String) := xs.foldl add []

def picks : Names → List (String × Names)
  | [] => []
  | x :: xs => (x, xs) :: (picks xs).map fun e => (e.1, x :: e.2)

def ordersWithin : Nat → Names → List Names
  | 0, _ => [[]]
  | n + 1, xs => (picks xs).flatMap fun e => (ordersWithin n e.2).map (e.1 :: ·)

def orders (xs : Names) := ordersWithin xs.length xs

variable (a b : Names)

def union := b.foldl add a

def diff : Names := a.filter (!b.contains ·)

def inter : Names := a.filter b.contains

def meets := a.any b.contains

def within := a.all b.contains

def same := a.within b && b.within a

def shown (ns : Names) := Text.quotedSet ns

@[simp] theorem mem_add {names : Names} {name x : String} :
    x ∈ names.add name ↔ x ∈ names ∨ x = name := by
  unfold add
  split <;> rename_i held
  · have present : name ∈ names := List.contains_iff_mem.mp held
    constructor
    · exact .inl
    · rintro (kept | rfl)
      · exact kept
      · exact present
  · simp

@[simp] theorem mem_union {a b : Names} {name : String} : name ∈ a.union b ↔ name ∈ a ∨ name ∈ b := by
  unfold union
  induction b generalizing a with
  | nil => simp
  | cons x xs ih => simp [ih, or_assoc]

@[simp] theorem mem_diff {a b : Names} {n : String} : n ∈ a.diff b ↔ n ∈ a ∧ n ∉ b := by simp [diff]

end Names

/-!
Sets of numbers in a table of slots.
-/

structure Slots where
  width : Nat
  filled : List (Nat × Nat)

namespace Slots

def empty : Slots := ⟨8, []⟩

variable (s : Slots)

def isTaken (slot : Nat) := s.filled.any (·.1 == slot)

def toList := (s.filled.mergeSort fun a b => a.1 ≤ b.1).map Prod.snd

def reach := 9

def near (slot : Nat) := if slot + reach < s.width then (List.range (reach + 1)).map (slot + ·) else [slot]

def slotFor (s : Slots) : Nat → Nat → Nat → Nat
  | 0, slot, _ => slot
  | tries + 1, slot, bits =>
    if let some x := (s.near slot).find? (!s.isTaken ·) then x
    else s.slotFor tries ((slot * 5 + 1 + bits / 32) % s.width) (bits / 32)

def put (n : Nat) := { s with filled := s.filled ++ [(s.slotFor (2 * s.width + n) (n % s.width) n, n)] }

def widthAbove (n : Nat) := (List.range (n.log2 + 4)).foldl (fun w _ => if w ≤ n then 2 * w else w) 8

def grown := s.toList.foldl put ⟨widthAbove (4 * s.filled.length), []⟩

def insert (n : Nat) :=
  if s.filled.any (·.2 == n) then s
  else
    let more := s.put n
    if more.filled.length * 5 < (s.width - 1) * 3 then more else more.grown

def ofList (ns : List Nat) := ns.foldl insert empty

def listed (ns : List Nat) := (ofList ns).toList

/-- The same numbers in a table that has room for twice as many, or in a small one if they are few. -/
def copied :=
  let w := if s.filled.length < 5 then 8 else widthAbove (2 * s.filled.length)
  if w = s.width then s else s.toList.foldl put ⟨w, []⟩

/-- The numbers of a set that are not in another. Of a set that is much greater than the other a copy is thinned out. -/
def without (s other : Slots) :=
  let isKept (n : Nat) := !other.filled.any (·.2 == n)
  if other.filled.length < s.filled.length / 4 then s.copied.toList.filter isKept else listed (s.toList.filter isKept)

end Slots

/-!
Parts of a list by positions that may count from the end.
-/

namespace Slice

def place? (n : Nat) (i : Int) :=
  let moved := if i < 0 then i + n else i
  if 0 ≤ moved && moved < n then some moved.toNat else none

def at? {α : Type} (xs : List α) (i : Int) := (place? xs.length i).bind (xs[·]?)

def bound (n : Nat) (backward : Bool) (i : Int) :=
  let moved := if i < 0 then i + n else i
  if backward then max (-1) (min moved (n - 1)) else max 0 (min moved n)

def places (start stop step : Int) :=
  let count := if 0 < step then (stop - start + step - 1) / step else (start - stop - step - 1) / (-step)
  (List.range count.toNat).map fun (k : Nat) => (start + step * k).toNat

def take? {α : Type} (xs : List α) (start stop : Option Int) (step : Int) : Option (List α) :=
  if step = 0 then none
  else
    let backward := step < 0
    let x := match start with
      | some i => bound xs.length backward i
      | none => if backward then xs.length - 1 else 0
    let last := match stop with
      | some i => bound xs.length backward i
      | none => if backward then -1 else xs.length
    some ((places x last step).filterMap (xs[·]?))

end Slice

end Transmon
