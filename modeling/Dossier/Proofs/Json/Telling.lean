import Dossier.Proofs.Json.Grammar
import Dossier.Proofs.Json.Tagged

/-! # What trees tell

A tree tells a value if it has the parts of one, and nothing if it cannot be read for what one of its strings or
numbers is. Main statements: `Items.Tells.array` and `Fields.Tells.object`.
-/

namespace Dossier.Json

open Grammar

/-- Whether a tree cannot be read, however much room there is. -/
def Node.Spoilt (node : Node) : Prop :=
  ∀ room json, node.read room ≠ .ok json

/-- Whether a tree has the parts of a value, or cannot be read if there is none. -/
def Node.Tells (node : Node) : Option Json → Prop
  | some json => node.Spells json
  | none => node.Spoilt

inductive Items.Tells : Items → List (Option Json) → Prop
  | nil {stop} : Items.Tells (.stop (.closed stop)) []
  | cons {node rest told others} (item : node.Tells told) (behind : Items.Tells rest others) :
      Items.Tells (.item node rest) (told :: others)

inductive Fields.Tells : Fields → List (Option String × Option Json) → Prop
  | nil {stop} : Fields.Tells (.stop (.closed stop)) []
  | cons {key node rest name told others} (known : key.read.toOption = name) (value : node.Tells told)
      (behind : Fields.Tells rest others) : Fields.Tells (.field key node rest) ((name, told) :: others)

theorem toOption_eq_some {α ε : Type} {x : Except ε α} {a : α} : x.toOption = some a ↔ x = .ok a := by
  cases x with
  | error e => exact ⟨nofun, nofun⟩
  | ok b => exact ⟨fun same => congrArg Except.ok (Option.some.inj same), fun same => by rw [same]; rfl⟩

theorem Items.Tells.spells {items : Items} {told : List (Option Json)} {values : List Json}
    (tells : items.Tells told) (all : items? told = some values) : items.Spells values := by
  induction tells generalizing values with
  | nil =>
      cases all
      exact .nil
  | cons item _ ih =>
      rw [items?, List.mapM_cons] at all
      simp only [id, Option.bind_eq_bind, Option.bind_eq_some_iff] at all
      obtain ⟨value, rfl, values, others, same⟩ := all
      cases same
      exact .cons item (ih others)

/-- If items are read then all of them tell something. -/
theorem Items.Tells.of_read {items : Items} {told : List (Option Json)} {room : Nat} {values : List Json}
    (tells : items.Tells told) (read : items.read room = .ok values) : ∃ all, items? told = some all := by
  induction tells generalizing values with
  | nil => exact ⟨[], rfl⟩
  | @cons node rest told others item _ ih =>
      simp only [Items.read, bind_eq_ok] at read
      obtain ⟨value, first, values, later, -⟩ := read
      obtain ⟨all, known⟩ := ih later
      cases told with
      | none => exact absurd first (item room value)
      | some json =>
          refine ⟨json :: all, ?_⟩
          rw [items?] at known
          rw [items?, List.mapM_cons, known]
          rfl

theorem Items.Tells.array {items : Items} {told : List (Option Json)} (tells : items.Tells told)
    (start : Position) : (Node.array start items).Tells ((items? told).map .array) := by
  cases known : items? told with
  | some values => exact .array (tells.spells known)
  | none =>
      intro room json read
      simp only [Node.read, bind_eq_ok] at read
      obtain ⟨less, -, values, read, -⟩ := read
      obtain ⟨all, same⟩ := tells.of_read read
      rw [known] at same
      cases same

theorem Fields.Tells.spells {fields : Fields} {told : List (Option String × Option Json)}
    {members : List (String × Json)} (tells : fields.Tells told) (all : members? told = some members) :
    fields.Spells members := by
  induction tells generalizing members with
  | nil =>
      cases all
      exact .nil
  | @cons key node rest name told others known value _ ih =>
      rw [members?, List.mapM_cons] at all
      simp only [Option.bind_eq_bind, Option.bind_eq_some_iff] at all
      obtain ⟨_, ⟨text, rfl, json, rfl, same⟩, members, later, whole⟩ := all
      cases same
      cases whole
      obtain ⟨start, read, next, closes⟩ := key
      obtain rfl : read = .ok text := toOption_eq_some.mp known
      exact .cons value (ih later)

/-- If members are read then all of them tell something. -/
theorem Fields.Tells.of_read {fields : Fields} {told : List (Option String × Option Json)} {room : Nat}
    {earlier members : Json.Members} (tells : fields.Tells told) (read : fields.read room earlier = .ok members) :
    ∃ all, members? told = some all := by
  induction tells generalizing earlier with
  | nil => exact ⟨[], rfl⟩
  | @cons key node rest name told others known value _ ih =>
      simp only [Fields.read, bind_eq_ok] at read
      obtain ⟨text, same, json, first, later⟩ := read
      obtain ⟨all, more⟩ := ih later
      rw [same] at known
      subst known
      cases told with
      | none => exact absurd first (value room json)
      | some json =>
          refine ⟨(text, json) :: all, ?_⟩
          rw [members?] at more
          rw [members?, List.mapM_cons, more]
          rfl

theorem Fields.Tells.object {fields : Fields} {told : List (Option String × Option Json)}
    (tells : fields.Tells told) (start : Position) :
    (Node.object start fields).Tells ((members? told).map .object) := by
  cases known : members? told with
  | some members => exact .object (tells.spells known)
  | none =>
      intro room json read
      simp only [Node.read, bind_eq_ok] at read
      obtain ⟨less, -, members, read, -⟩ := read
      obtain ⟨all, same⟩ := tells.of_read read
      rw [known] at same
      cases same

end Dossier.Json
