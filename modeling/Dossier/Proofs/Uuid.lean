import Dossier.Proofs.Json.Decoding
import Dossier.Uuid

/-! # Reading identifiers back

The one spelling in which identifiers are written is read as the identifier, so no two identifiers have the
same text. Main statement: `read_text`.
-/

namespace Dossier.Uuid

open Number

/-- Whether a character can stand in an identifier between the hyphens. -/
def IsFigure (c : Char) : Prop :=
  ∃ d < 16, c = digitChar d

theorem utf8Size_digitChar : ∀ d, d < 16 → (digitChar d).utf8Size = 1 := by
  decide

theorem digitChar_ne_hyphen : ∀ d, d < 16 → digitChar d ≠ '-' := by
  decide

theorem digitChar_ne_brace : ∀ d, d < 16 → digitChar d ≠ '{' := by
  decide

theorem toLower_digitChar : ∀ d, d < 16 → (digitChar d).toLower ≠ 'u' := by
  decide

theorem utf8ByteSize_ofList {s : List Char} (single : ∀ c ∈ s, c.utf8Size = 1) :
    (String.ofList s).utf8ByteSize = s.length := by
  induction s with
  | nil => rfl
  | cons c s ih =>
      obtain ⟨first, rest⟩ := List.forall_mem_cons.mp single
      rw [String.ofList_cons, String.utf8ByteSize_append, String.utf8ByteSize_singleton, first,
        ih rest, List.length_cons, Nat.add_comm]

theorem strayCharacter?_eq_none {s : List Char} (index : Nat)
    (known : ∀ c ∈ s, c = '-' ∨ IsFigure c) : strayCharacter? index s = none := by
  induction s generalizing index with
  | nil => rfl
  | cons c s ih =>
      obtain ⟨first, rest⟩ := List.forall_mem_cons.mp known
      have belongs : (c = '-' || (hexValue? c).isSome) = true := by
        rcases first with rfl | ⟨d, less, rfl⟩
        · rfl
        · rw [hexValue?_digitChar d less, Option.isSome_some, Bool.or_true]
      rw [strayCharacter?, if_pos belongs]
      exact ih _ rest

theorem hyphens_figures {s : List Char} (figures : ∀ c ∈ s, IsFigure c) (index : Nat)
    (rest : List Char) : hyphens index (s ++ rest) = hyphens (index + s.length) rest := by
  induction s generalizing index with
  | nil => rfl
  | cons c s ih =>
      obtain ⟨⟨d, less, rfl⟩, others⟩ := List.forall_mem_cons.mp figures
      rw [List.cons_append, hyphens, if_neg (digitChar_ne_hyphen d less), ih others,
        List.length_cons, Nat.add_assoc, Nat.add_comm 1]

variable (id : Uuid)

/-- The hexadecimal digits of an identifier. -/
def figures : List Char := hexDigits 32 id.bits.toNat

theorem length_figures : id.figures.length = 32 :=
  length_hexDigits (Nat.lt_of_lt_of_eq id.bits.isLt (by decide)) (by decide)

theorem isFigure_figures {c : Char} (h : c ∈ id.figures) : IsFigure c :=
  hexValue?_hexDigits h

/-- Whether the digits of an identifier fall into the five groups of its text. -/
structure Groups (a b c d e : List Char) : Prop where
  digits : id.figures = a ++ b ++ c ++ d ++ e
  text : id.characters = a ++ '-' :: (b ++ '-' :: (c ++ '-' :: (d ++ '-' :: e)))
  lengths : a.length = 8 ∧ b.length = 4 ∧ c.length = 4 ∧ d.length = 4 ∧ e.length = 12

theorem exists_groups : ∃ a b c d e, id.Groups a b c d e := by
  have length := length_figures id
  have second : (id.figures.drop 8).take 4 ++ id.figures.drop 12 = id.figures.drop 8 := by
    simpa only [List.drop_drop] using List.take_append_drop 4 (id.figures.drop 8)
  have third : (id.figures.drop 12).take 4 ++ id.figures.drop 16 = id.figures.drop 12 := by
    simpa only [List.drop_drop] using List.take_append_drop 4 (id.figures.drop 12)
  have fourth : (id.figures.drop 16).take 4 ++ id.figures.drop 20 = id.figures.drop 16 := by
    simpa only [List.drop_drop] using List.take_append_drop 4 (id.figures.drop 16)
  refine ⟨id.figures.take 8, (id.figures.drop 8).take 4, (id.figures.drop 12).take 4,
    (id.figures.drop 16).take 4, id.figures.drop 20, ?_, ?_, ?_⟩
  · simp only [List.append_assoc, second, third, fourth, List.take_append_drop]
  · simp [characters, figures]
  · simp only [List.length_take, List.length_drop, length]
    decide

variable {id} {a b c d e : List Char}

theorem Groups.figures (groups : id.Groups a b c d e) :
    (∀ x ∈ a, IsFigure x) ∧ (∀ x ∈ b, IsFigure x) ∧ (∀ x ∈ c, IsFigure x) ∧
      (∀ x ∈ d, IsFigure x) ∧ ∀ x ∈ e, IsFigure x := by
  have all : ∀ x ∈ id.figures, IsFigure x := fun x => isFigure_figures id
  simpa only [groups.digits, List.forall_mem_append, and_assoc] using all

theorem Groups.known (groups : id.Groups a b c d e) : ∀ x ∈ id.characters, x = '-' ∨ IsFigure x := by
  obtain ⟨ha, hb, hc, hd, he⟩ := groups.figures
  intro x member
  simp only [groups.text, List.mem_append, List.mem_cons] at member
  rcases member with h | hyphen | h | hyphen | h | hyphen | h | hyphen | h
  · exact .inr (ha x h)
  · exact .inl hyphen
  · exact .inr (hb x h)
  · exact .inl hyphen
  · exact .inr (hc x h)
  · exact .inl hyphen
  · exact .inr (hd x h)
  · exact .inl hyphen
  · exact .inr (he x h)

theorem Groups.places (groups : id.Groups a b c d e) : hyphens 0 id.characters = [8, 13, 18, 23] := by
  obtain ⟨ha, hb, hc, hd, he⟩ := groups.figures
  obtain ⟨la, lb, lc, ld, le⟩ := groups.lengths
  have last : hyphens 24 e = [] := by
    have none := hyphens_figures he 24 []
    rwa [List.append_nil] at none
  simp only [groups.text, hyphens_figures ha, hyphens_figures hb, hyphens_figures hc,
    hyphens_figures hd, hyphens, if_true, la, lb, lc, ld, Nat.reduceAdd, last]

theorem Groups.unframe (groups : id.Groups a b c d e) :
    unframe id.characters = (id.characters, none) := by
  obtain ⟨ha, -⟩ := groups.figures
  cases a with
  | nil => cases groups.lengths.1
  | cons x a =>
      obtain ⟨n, less, rfl⟩ := ha x List.mem_cons_self
      rw [groups.text, List.cons_append, Uuid.unframe.eq_def]
      split
      · rename_i same
        exact absurd (List.cons.inj same).1 (digitChar_ne_brace n less)
      · rw [if_neg]
        intro same
        exact absurd (List.cons.inj same).1 (toLower_digitChar n less)

theorem Groups.ofDigits (groups : id.Groups a b c d e) : ofDigits id.characters = id := by
  have hyphen (n : Nat) : withDigit n '-' = n := rfl
  have value : id.figures.foldl withDigit 0 = id.bits.toNat :=
    foldl_hexDigits (fun n d less => by simp only [withDigit, hexValue?_digitChar d less]) 32 _
  have same : id.characters.foldl withDigit 0 = id.figures.foldl withDigit 0 := by
    simp only [groups.text, groups.digits, List.foldl_append, List.foldl_cons, hyphen]
  have bits : BitVec.ofNat 128 (id.characters.foldl withDigit 0) = id.bits := by
    rw [same, value, BitVec.ofNat_toNat, BitVec.setWidth_eq]
  exact congrArg Uuid.mk bits

variable (id)

/-- The text of an identifier is read as that identifier. -/
theorem read_text : read id.text = .ok id := by
  obtain ⟨a, b, c, d, e, groups⟩ := exists_groups id
  have length : id.characters.length = 36 := by
    obtain ⟨la, lb, lc, ld, le⟩ := groups.lengths
    simp only [groups.text, List.length_append, List.length_cons, la, lb, lc, ld, le]
  have size : id.text.utf8ByteSize = 36 := by
    rw [text, utf8ByteSize_ofList, length]
    intro x member
    rcases groups.known x member with rfl | ⟨n, less, rfl⟩
    · rfl
    · exact utf8Size_digitChar n less
  have chars : id.text.toList = id.characters := String.toList_ofList
  rw [read]
  simp only [size, chars, groups.unframe, strayCharacter?_eq_none _ groups.known, groups.places, length,
    groups.ofDigits]
  rfl

theorem text_injective : Function.Injective text := by
  intro a b same
  have both : read a.text = .ok b := by rw [same, read_text]
  rw [read_text] at both
  exact Except.ok.inj both

end Dossier.Uuid
