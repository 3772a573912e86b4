import Transmon.Circuit
import Transmon.Proofs.Basic

/-!
Shortcuts of drafts.

All drafts share their shortcuts, and each draft that is made sets those of its operations anew. How the inputs of a
shortcut are read is therefore decided by the draft that was made last of those that have the operation: if that draft
takes as much for it as the draft that is asked, the shortcut adds the step that the latter's own operation is for, and
if not, it reads the inputs in another way.
-/

namespace Transmon.Circuit.Drafts

open Outcome

/-- What drafts can come to, with those that were made so far: one is made, anew or from another one, or a shortcut adds
a step to one. A call that fails changes nothing. -/
inductive Reached : List Draft → Drafts → Prop
  | start : Reached [] {}
  | make {made x} (n : String) (d : Draft) : Reached made x → Reached (d :: made) (x.make n d)
  | call {made x n op inputs i d} : Reached made x → x.call n op inputs i = .ok d → Reached made (x.keep n d)

variable {n op : String} {inputs : Values} {i : Option String} {s : Shortcut} {d : Draft} {made : List Draft}
  {x : Drafts}

theorem shortcuts_of_add {ps : List Int} {e : Draft} (added : d.add op ps inputs i = .ok e) :
    e.shortcuts = d.shortcuts := by
  simp only [Draft.add] at added
  split at added
  · rw [unless_eq_ok_iff (by simp), unless_eq_ok_iff (by simp)] at added
    split at added
    · rw [unless_eq_ok_iff (by simp), bind_eq_ok_iff] at added
      obtain ⟨-, -, -, -, -, same⟩ := added
      rw [← pure_eq_ok_iff.mp same]
      rfl
    · simp at added
  · simp at added

theorem shortcuts_of_call {e : Draft} (called : x.call n op inputs i = .ok e) :
    ∃ d, x.drafts.get? n = some d ∧ e.shortcuts = d.shortcuts := by
  simp only [call, Draft.apply, bind_eq_ok_iff, need_eq_ok_iff] at called
  obtain ⟨d, held, called⟩ := called
  rw [unless_eq_ok_iff (by simp), bind_eq_ok_iff] at called
  obtain ⟨-, s, -, added⟩ := called
  rw [unless_eq_ok_iff (by simp), bind_eq_ok_iff] at added
  obtain ⟨-, ps, -, added⟩ := added
  exact ⟨d, held, shortcuts_of_add added⟩

/-- The shortcut of an operation as the last draft sets it of those that have the operation. -/
def lastSet (op : String) (made : List Draft) : Option Shortcut :=
  made.findSome? fun d => (Table.ofList d.shortcuts).get? op

theorem mem_of_lastSet (set : lastSet op made = some s) : ∃ d ∈ made, (op, s) ∈ d.shortcuts := by
  obtain ⟨d, member, found⟩ := List.exists_of_findSome?_eq_some set
  exact ⟨d, member, Table.get?_ofList_mem found⟩

theorem Reached.get?_shortcuts (reached : Reached made x) : x.shortcuts.get? op = lastSet op made := by
  induction reached with
  | start => rfl
  | @make made x n d _ ih =>
    simp only [Drafts.make, keep, Table.get?_insertMany, ih, lastSet, List.findSome?_cons]
    cases (Table.ofList d.shortcuts).get? op <;> rfl
  | call _ _ ih => exact ih

/-- The shortcuts of a draft's own operations are set. -/
theorem Reached.known (reached : Reached made x) (held : x.drafts.get? n = some d) (own : (op, s) ∈ d.shortcuts) :
    op ∈ x.shortcuts.keys := by
  induction reached generalizing n d with
  | start => simp at held
  | make _ _ _ ih =>
    simp only [Drafts.make, keep, Table.get?_insert] at held ⊢
    rw [Table.mem_keys_insertMany]
    split at held
    · obtain rfl := Option.some.inj held
      exact .inr (List.mem_map_of_mem own)
    · exact .inl (ih held own)
  | call _ called ih =>
    simp only [keep, Table.get?_insert] at held
    split at held
    · obtain rfl := Option.some.inj held
      obtain ⟨d, before, same⟩ := shortcuts_of_call called
      exact ih before (same ▸ own)
    · exact ih held own

/-- The step that inputs stand for: the first `count` of them are the arguments of the operation, the others
positions. -/
def asAdded (d : Draft) (op : String) (count : Nat) (inputs : Values) (i : Option String) : Outcome Draft := do
  d.add op (← (inputs.drop count).mapM Draft.position) (inputs.take count) i

/-- A shortcut of a draft's own operation is set, and by the draft `last` that was made last of those that have the
operation, whatever was done before. If there are as many inputs as it takes, it adds the step that they stand for with
as many leading arguments as the operation has in `last`, and not in the draft itself, and it refuses any other number
of inputs. No operation may be called like something that drafts themselves use. -/
theorem call_eq_add (made : List Draft) (x : Drafts) (n op : String) (d : Draft) (o : Operation) (inputs : Values)
    (i : Option String) (reached : Reached made x) (held : x.drafts.get? n = some d)
    (own : d.operations.get? op = some o) (fixed : o.arity ≠ 0)
    (plain : ∀ e ∈ made, ∀ s ∈ e.shortcuts, Draft.isPart s.1 = false) :
    ∃ s, lastSet op made = some s ∧ x.call n op inputs i =
      if inputs.length = s.arguments + s.positions then asAdded d op s.arguments inputs i
      else failWith .type (s!"The operation {op} requires {s.positions} locus/qubit indices and {s.arguments} " ++
        s!"additional arguments. A total of {inputs.length} were provided.") := by
  have set : (op, ⟨o.params.length, o.arity⟩) ∈ d.shortcuts := List.mem_map.mpr
    ⟨(op, o), List.mem_filter.mpr ⟨Table.mem_entries_of_get? own, by simpa using fixed⟩, rfl⟩
  obtain ⟨s, found⟩ := Option.isSome_iff_exists.mp (Table.isSome_get?_iff.mpr (reached.known held set))
  have last := reached.get?_shortcuts.symm.trans found
  obtain ⟨e, member, set⟩ := mem_of_lastSet last
  refine ⟨s, last, ?_⟩
  simp only [call, Table.need, held, found, require, ok_bind, Draft.apply, plain e member _ set, bne_iff_ne, ne_eq,
    ite_not]
  rfl

/-- The draft that is made last takes an argument for an operation that takes none in the draft that is asked: its
shortcut refuses the one input that the latter's operation is for. -/
theorem call_follows_last :
    let g (ps : Names) : Operation := { name := "g", arity := 1, params := ps }
    let a : Draft := { qubits := ["QB1"], operations := ⟨[("g", g [])]⟩ }
    let b : Draft := { a with operations := ⟨[("g", g ["angle"])]⟩ }
    lastSet "g" [b, a] = some ⟨1, 1⟩ ∧
      ((({} : Drafts).make "a" a).make "b" b).call "a" "g" [.int 0] none =
        failWith .type ("The operation g requires 1 locus/qubit indices and 1 additional arguments. " ++
          "A total of 1 were provided.") ∧
      ∃ e, asAdded a "g" 0 [.int 0] none = .ok e := by
  intro g a b
  have reached := (Reached.start.make "a" a).make "b" b
  obtain ⟨s, last, called⟩ := call_eq_add _ _ "a" "g" a (g []) [.int 0] none reached rfl rfl (by decide)
    (by simp [Draft.shortcuts, a, b, g, Draft.isPart])
  obtain rfl : ⟨1, 1⟩ = s := Option.some.inj last
  exact ⟨rfl, called.trans (if_neg (by decide)), _, rfl⟩

end Transmon.Circuit.Drafts
