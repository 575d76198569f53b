import Dossier.Proofs.Json.Numeral

/-! # Reading numbers back

A number that its own text parses back to is read from that text as well where more text follows. The whole
numbers of 64 bits are such numbers. Main statement: `readNode_number`.
-/

namespace Dossier.Json

open Dossier.Number Reader

/-- Whether the text of a number is read as that number. -/
def Number.ReadsBack (n : Number) : Prop :=
  Json.read (Json.number n).text = .ok (.number n)

theorem isSpace_of_isDigit {c : Char} (digit : isDigit c = true) : isSpace c = false := by
  simp only [isDigit, Bool.and_eq_true, decide_eq_true_eq] at digit
  simp only [isSpace, Bool.or_eq_false_iff, beq_eq_false_iff_ne, ne_eq]
  refine ⟨⟨⟨?_, ?_⟩, ?_⟩, ?_⟩
  all_goals
    rintro rfl
    exact absurd digit.1 (by decide)

theorem isSpace_decimalDigits {n : Nat} : ∀ c ∈ decimalDigits n, isSpace c = false :=
  fun _ member => isSpace_of_isDigit (isDigit_decimalDigits member)

theorem isSpace_zeros {count : Nat} : ∀ c ∈ List.replicate count '0', isSpace c = false := by
  intro c member
  rw [(List.mem_replicate.mp member).2]
  rfl

variable {l : Layout} {d : Decimal}

theorem isSpace_plain (digits : ∀ c ∈ d.digits, isSpace c = false) :
    ∀ c ∈ l.plain d, isSpace c = false := by
  intro c member
  unfold Layout.plain at member
  split at member
  · simp only [List.cons_append, List.mem_cons, List.mem_append] at member
    rcases member with rfl | rfl | zero | digit
    · rfl
    · rfl
    · exact isSpace_zeros c zero
    · exact digits c digit
  · simp only [List.mem_append] at member
    rcases member with (whole | zero) | fraction
    · exact digits c (List.mem_of_mem_take whole)
    · exact isSpace_zeros c zero
    · split at fraction
      · rcases List.mem_cons.mp fraction with rfl | digit
        · rfl
        · exact digits c (List.mem_of_mem_drop digit)
      · split at fraction
        · simp only [List.mem_cons, List.not_mem_nil, or_false] at fraction
          rcases fraction with rfl | rfl
          · rfl
          · rfl
        · cases fraction

theorem isSpace_scientific (digits : ∀ c ∈ d.digits, isSpace c = false) :
    ∀ c ∈ Layout.scientific d, isSpace c = false := by
  intro c member
  simp only [Layout.scientific, List.mem_append] at member
  rcases member with ((first | fraction) | letter) | exponent
  · exact digits c (List.mem_of_mem_take first)
  · split at fraction
    · cases fraction
    · rcases List.mem_cons.mp fraction with rfl | digit
      · rfl
      · exact digits c (List.mem_of_mem_drop digit)
  · simp only [List.mem_cons, List.not_mem_nil, or_false] at letter
    rcases letter with rfl | rfl
    · rfl
    · split
      · rfl
      · rfl
  · exact isSpace_decimalDigits c exponent

theorem isSpace_decimalText (digits : ∀ c ∈ d.digits, isSpace c = false) :
    ∀ c ∈ l.decimalText d, isSpace c = false := by
  unfold Layout.decimalText
  split
  · exact isSpace_plain digits
  · split
    · exact isSpace_plain digits
    · exact isSpace_scientific digits

theorem isSpace_shortest (significand : Nat) (exponent : Int) :
    ∀ c ∈ (Decimal.shortest significand exponent).digits, isSpace c = false := by
  intro c member
  simp only [Decimal.shortest, Decimal.stripZeros, List.mem_reverse] at member
  have digit := (List.dropWhile_suffix _).subset member
  exact isSpace_decimalDigits c (List.mem_reverse.mp digit)

theorem isSpace_text (x : Binary64) : ∀ c ∈ (l.text x).toList, isSpace c = false := by
  cases x with
  | nan =>
      change ∀ c ∈ "NaN".toList, isSpace c = false
      simp [isSpace]
  | infinite negative =>
      cases negative with
      | false =>
          change ∀ c ∈ "inf".toList, isSpace c = false
          simp [isSpace]
      | true =>
          change ∀ c ∈ "-inf".toList, isSpace c = false
          simp [isSpace]
  | finite negative significand exponent =>
      intro c member
      have sign : ∀ c ∈ (if negative then ['-'] else []), isSpace c = false := by
        cases negative <;> simp [isSpace]
      simp only [Layout.text] at member
      split at member
      · rw [String.toList_ofList, List.mem_append] at member
        rcases member with minus | zero
        · exact sign c minus
        · rcases List.mem_cons.mp zero with rfl | point
          · rfl
          · split at point
            · have plain : ∀ c ∈ ['.', '0'], isSpace c = false := by simp [isSpace]
              exact plain c point
            · cases point
      · rw [String.toList_ofList, List.mem_append] at member
        rcases member with minus | digits
        · exact sign c minus
        · exact isSpace_decimalText (isSpace_shortest significand exponent) c digits

/-- The text of a number has no blanks. -/
theorem isSpace_print (n : Number) : ∀ c ∈ n.print, isSpace c = false := by
  intro c member
  cases n with
  | real x => exact isSpace_text x c member
  | whole n =>
      cases n with
      | ofNat n =>
          rw [Number.print, decimalInt, decimal, String.toList_ofList] at member
          exact isSpace_decimalDigits c member
      | negSucc n =>
          rw [Number.print, decimalInt, decimal, String.toList_append, List.mem_append] at member
          rcases member with minus | digit
          · have plain : ∀ c ∈ "-".toList, isSpace c = false := by simp [isSpace]
            exact plain c minus
          · rw [String.toList_ofList] at digit
            exact isSpace_decimalDigits c digit

theorem skipSpace_of_visible {s : List Char} (visible : ∀ c ∈ s, isSpace c = false) (p : Position) :
    skipSpace p s = ⟨p, s⟩ := by
  cases s with
  | nil => rfl
  | cons c s =>
      rw [skipSpace, if_neg (by rw [visible c List.mem_cons_self]; exact Bool.false_ne_true)]

theorem readName_ne_number {p start : Position} {letters rest : List Char} {value : Position → Node}
    (other : ∀ stop start read skip, value stop ≠ .number start read skip)
    {read : Except Fault Number} {skip : Except Fault Position} :
    (readName p letters rest value).1 ≠ .number start read skip := by
  unfold readName
  split
  · exact other _ _ _ _
  · exact Node.noConfusion

/-- A text behind its sign. -/
def signedText (negative : Bool) (body : List Char) : List Char :=
  if negative then '-' :: body else body

/-- Whether a text is taken for a numeral: without a sign it must begin with a digit. -/
def Numeric (negative : Bool) (body : List Char) : Prop :=
  negative = false → ∃ c ∈ body.head?, isDigit c = true

/-- Where a number is read, a numeral stands. -/
theorem readNode_eq_number {fuel : Nat} {p start : Position} {s : List Char}
    {read : Except Fault Number} {skip : Except Fault Position}
    (h : (readNode (fuel + 1) ⟨p, s⟩).1 = .number start read skip) :
    ∃ negative body, s = signedText negative body ∧ Numeric negative body ∧
      readNode (fuel + 1) ⟨p, s⟩ = readNumber p negative body := by
  rw [readNode] at h ⊢
  split at h
  · cases h
  · exact absurd h (readName_ne_number (fun _ _ _ _ => Node.noConfusion))
  · exact absurd h (readName_ne_number (fun _ _ _ _ => Node.noConfusion))
  · exact absurd h (readName_ne_number (fun _ _ _ _ => Node.noConfusion))
  · rename_i body same
    exact ⟨true, body, same, Bool.noConfusion, rfl⟩
  · cases h
  · cases h
  · cases h
  · rename_i c body _ _ _ _ _ _ _ same
    split at h
    · rename_i digit
      refine ⟨false, s, rfl, fun _ => ⟨c, ?_, digit⟩, ?_⟩
      · simp only at same
        rw [same]
        rfl
      · exact if_pos digit
    · cases h

theorem readNode_signedText {fuel : Nat} {p : Position} {negative : Bool} {body : List Char}
    (numeric : Numeric negative body) :
    readNode (fuel + 1) ⟨p, signedText negative body⟩ = readNumber p negative body := by
  cases negative with
  | true => rfl
  | false =>
      obtain ⟨c, first, digit⟩ := numeric rfl
      cases body with
      | nil => cases first
      | cons d body =>
          cases first
          simp only [signedText, Bool.false_eq_true, if_false]
          rw [readNode]
          split
          case h_9 same =>
            cases same
            exact if_pos digit
          all_goals
            rename_i same
            cases same
          all_goals
            exact absurd digit (by decide)

theorem Document.decode_ok {α : Type} {d : Document} {read : Node → Except Fault α} {a : α} :
    d.decode read = .ok a ↔ read d.root = .ok a ∧ d.trailing = none := by
  simp only [Document.decode, bind_eq_ok]
  constructor
  · rintro ⟨b, root, whole⟩
    split at whole
    · rename_i nothing
      cases whole
      exact ⟨root, nothing⟩
    · cases whole
  · rintro ⟨root, nothing⟩
    rw [nothing]
    exact ⟨a, root, rfl⟩

theorem Node.read_eq_number {node : Node} {room : Nat} {n : Number}
    (h : node.read room = .ok (.number n)) : ∃ start skip, node = .number start (.ok n) skip := by
  cases node with
  | number start read skip =>
      obtain ⟨found, some, same⟩ := map_eq_ok.mp h
      cases same
      exact ⟨start, skip, by rw [some]⟩
  | string start read skip =>
      obtain ⟨found, some, same⟩ := map_eq_ok.mp h
      cases same
  | array start items =>
      simp only [Node.read, bind_eq_ok] at h
      obtain ⟨_, _, _, _, same⟩ := h
      cases same
  | object start members =>
      simp only [Node.read, bind_eq_ok] at h
      obtain ⟨_, _, _, _, same⟩ := h
      cases same
  | broken | null | bool => cases h

/-- The text of a number that it parses back to is one numeral, which has the number for its value. -/
theorem Number.ReadsBack.numeral {n : Number} (h : n.ReadsBack) :
    ∃ negative body numeral, n.print = signedText negative body ∧ Numeric negative body ∧
      Numeral.scan negative body = .ok (numeral, []) ∧ numeral.value = .ok n := by
  have visible := isSpace_print n
  simp only [ReadsBack, Json.read, Document.decode_ok, Document.ofText, Json.text, Json.print,
    String.toList_ofList, skipSpace_of_visible visible] at h
  obtain ⟨root, whole⟩ := h
  obtain ⟨start, skip, node⟩ := Node.read_eq_number root
  obtain ⟨negative, body, text, numeric, same⟩ := readNode_eq_number node
  rw [same, readNumber] at node whole
  split at node
  · cases node
  · rename_i numeral rest scanned
    rw [scanned] at whole
    have blank : skipSpace (Position.start.skip numeral.bytes) rest =
        ⟨Position.start.skip numeral.bytes, rest⟩ := by
      refine skipSpace_of_visible (fun c member => visible c ?_) _
      have inBody := (Numeral.scan_suffix scanned).subset member
      rw [text, signedText]
      split
      · exact List.mem_cons_of_mem _ inBody
      · exact inBody
    simp only [Option.bind_some, blank, Option.map_eq_none_iff, List.head?_eq_none_iff] at whole
    subst whole
    refine ⟨negative, body, numeral, text, numeric, scanned, ?_⟩
    simp only [Node.number.injEq] at node
    cases value : numeral.value with
    | ok m =>
        rw [value] at node
        cases node.2.1
        rfl
    | error bytes =>
        rw [value] at node
        cases node.2.1

/-- A number that its text parses back to is read where that text stands, up to its end. -/
theorem readNode_number {n : Number} (h : n.ReadsBack) {rest : List Char} (ends : Numeral.Ends rest)
    (fuel : Nat) (p : Position) :
    ∃ stop, readNode (fuel + 1) ⟨p, n.print ++ rest⟩ =
      (.number p (.ok n) (.ok stop), some ⟨stop, rest⟩) := by
  obtain ⟨negative, body, numeral, text, numeric, scanned, value⟩ := h.numeral
  have longer : n.print ++ rest = signedText negative (body ++ rest) := by
    rw [text]
    cases negative <;> rfl
  have begins : Numeric negative (body ++ rest) := by
    intro positive
    obtain ⟨c, first, digit⟩ := numeric positive
    cases body with
    | nil => cases first
    | cons d body => exact ⟨c, first, digit⟩
  refine ⟨p.skip numeral.bytes, ?_⟩
  rw [longer, readNode_signedText begins, readNumber, Numeral.scan_append ends scanned]
  simp only [value, List.nil_append]

/-- The first character of a number that its text parses back to is no bracket. -/
theorem Number.ReadsBack.first {n : Number} (h : n.ReadsBack) :
    ∃ c s, n.print = c :: s ∧ c ≠ ']' ∧ isSpace c = false := by
  have visible := isSpace_print n
  obtain ⟨negative, body, -, text, numeric, -⟩ := h.numeral
  cases negative with
  | true => exact ⟨'-', body, text, by decide, by decide⟩
  | false =>
      obtain ⟨c, first, digit⟩ := numeric rfl
      cases body with
      | nil => cases first
      | cons d body =>
          cases first
          refine ⟨c, body, text, ?_, isSpace_of_isDigit digit⟩
          rintro rfl
          exact absurd digit (by decide)

theorem Number.readsBack_of_numeral {n : Number} {negative : Bool} {body : List Char}
    {numeral : Numeral} (text : n.print = signedText negative body)
    (numeric : Numeric negative body) (scanned : Numeral.scan negative body = .ok (numeral, []))
    (value : numeral.value = .ok n) : n.ReadsBack := by
  simp only [ReadsBack, Json.read, Document.decode_ok, Document.ofText, Json.text, Json.print,
    String.toList_ofList, skipSpace_of_visible (isSpace_print n)]
  simp only [text, readNode_signedText numeric, readNumber, scanned, value]
  exact ⟨rfl, rfl⟩

/-- The whole numbers of 64 bits, with sign or without, are read back. -/
theorem readsBack_whole {n : Int} (least : -0x8000000000000000 ≤ n)
    (most : n ≤ 0xFFFFFFFFFFFFFFFF) :
    (Number.whole n).ReadsBack := by
  cases n with
  | ofNat n =>
      have numeric : Numeric false (decimalDigits n) := by
        intro _
        rcases Nat.eq_zero_or_pos n with rfl | pos
        · exact ⟨'0', rfl, rfl⟩
        · obtain ⟨c, rest, -, digits⟩ := decimalDigits_head pos
          rw [digits]
          exact ⟨c, rfl, isDigit_decimalDigits (n := n) (by simp [digits])⟩
      refine Number.readsBack_of_numeral ?_ numeric (Numeral.scan_decimalDigits false n)
        (Numeral.value_whole (by simp at most; omega))
      rw [Number.print, decimalInt, decimal, String.toList_ofList, signedText]
      rfl
  | negSucc n =>
      refine Number.readsBack_of_numeral ?_ Bool.noConfusion (Numeral.scan_decimalDigits true (n + 1))
        (Numeral.value_negative (by omega) (by omega))
      simp only [Number.print, decimalInt, decimal, String.toList_append, String.toList_ofList]
      rfl

end Dossier.Json
