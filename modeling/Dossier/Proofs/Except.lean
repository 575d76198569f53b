import Mathlib.Data.List.Forall2

/-! # Results and faults

A computation that can fail succeeds when each of its steps does, with the value that the last one gives.
-/

namespace Dossier

variable {ε α β : Type}

theorem bind_eq_ok {x : Except ε α} {f : α → Except ε β} {b : β} :
    (x >>= f) = .ok b ↔ ∃ a, x = .ok a ∧ f a = .ok b := by
  cases x with
  | error e =>
      constructor
      · intro h
        cases h
      · rintro ⟨a, h, -⟩
        cases h
  | ok a =>
      constructor
      · intro h
        exact ⟨a, rfl, h⟩
      · rintro ⟨a, same, h⟩
        cases same
        exact h

theorem map_eq_ok {x : Except ε α} {f : α → β} {b : β} :
    x.map f = .ok b ↔ ∃ a, x = .ok a ∧ f a = b := by
  cases x with
  | error e => simp [Except.map]
  | ok a => simp [Except.map]

theorem mapError_ok {φ : Type} (f : ε → φ) (a : α) :
    (Except.ok a : Except ε α).mapError f = .ok a := rfl

theorem mapError_error {φ : Type} (f : ε → φ) (e : ε) :
    (Except.error e : Except ε α).mapError f = .error (f e) := rfl

theorem mapError_eq_ok {φ : Type} {x : Except ε α} {f : ε → φ} {a : α} :
    x.mapError f = .ok a ↔ x = .ok a := by
  cases x with
  | error e => simp [mapError_error]
  | ok b => simp [mapError_ok]

/-- All steps over a list succeed just if each of them does. -/
theorem mapM_eq_ok {f : α → Except ε β} {as : List α} {bs : List β} :
    as.mapM f = .ok bs ↔ List.Forall₂ (fun a b => f a = .ok b) as bs := by
  induction as generalizing bs with
  | nil =>
      rw [List.forall₂_nil_left_iff]
      exact ⟨fun h => (Except.ok.inj h).symm, fun h => h ▸ rfl⟩
  | cons a as ih =>
      simp only [List.mapM_cons, bind_eq_ok, ih, List.forall₂_cons_left_iff]
      constructor
      · rintro ⟨b, first, bs, others, same⟩
        exact ⟨b, bs, first, others, (Except.ok.inj same).symm⟩
      · rintro ⟨b, bs, first, others, rfl⟩
        exact ⟨b, first, bs, others, rfl⟩

theorem mapM_append_eq_ok {f : α → Except ε β} {as : List α} {a : α} {bs : List β} :
    (as ++ [a]).mapM f = .ok bs ↔ ∃ front b, as.mapM f = .ok front ∧ f a = .ok b ∧ bs = front ++ [b] := by
  simp only [List.mapM_append, List.mapM_cons, List.mapM_nil, bind_eq_ok, pure, Except.pure,
    Except.ok.injEq]
  grind

/-- What comes of steps over a list comes of its elements. -/
theorem mem_of_mapM_eq_ok {f : α → Except ε β} {as : List α} {bs : List β} (h : as.mapM f = .ok bs) :
    (∀ a ∈ as, ∃ b ∈ bs, f a = .ok b) ∧ ∀ b ∈ bs, ∃ a ∈ as, f a = .ok b := by
  have related := mapM_eq_ok.mp h
  clear h
  induction related with
  | nil => simp
  | @cons a b as bs first others ih =>
      obtain ⟨left, right⟩ := ih
      constructor
      · intro a' member
        rcases List.mem_cons.mp member with rfl | member
        · exact ⟨b, List.mem_cons_self, first⟩
        · obtain ⟨b', found, same⟩ := left a' member
          exact ⟨b', List.mem_cons_of_mem b found, same⟩
      · intro b' member
        rcases List.mem_cons.mp member with rfl | member
        · exact ⟨a, List.mem_cons_self, first⟩
        · obtain ⟨a', found, same⟩ := right b' member
          exact ⟨a', List.mem_cons_of_mem a found, same⟩

theorem exists_mapM_eq_ok {f : α → Except ε β} {as : List α} :
    (∃ bs, as.mapM f = .ok bs) ↔ ∀ a ∈ as, ∃ b, f a = .ok b := by
  induction as with
  | nil => exact ⟨fun _ a member => (List.not_mem_nil member).elim, fun _ => ⟨[], rfl⟩⟩
  | cons a as ih =>
      rw [List.forall_mem_cons, ← ih]
      simp only [mapM_eq_ok, List.forall₂_cons_left_iff]
      grind

end Dossier
