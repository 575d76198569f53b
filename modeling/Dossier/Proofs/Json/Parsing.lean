import Dossier.Proofs.Json.Telling

/-! # Reading texts of the grammar

A text of the grammar is read up to its end, wherever it stands and whatever follows it, into a tree that tells what
the text tells. Main statements: `readNode_value` and `readNode_members`.
-/

namespace Dossier.Json

open Grammar Reader Dossier.Number

variable {s rest : List Char} {symbols : List (Char ⊕ Nat)} {p : Position} {o : Option Json}

namespace Quotation

/-- What a unit stands for. -/
def symbol : StringUnit → Char ⊕ Nat
  | .plain c _ | .escaped c _ => .inl c
  | .code n _ => .inr n

theorem toOption_map {α β ε : Type} (f : α → β) (x : Except ε α) : (x.map f).toOption = x.toOption.map f := by
  cases x <;> rfl

/-- The characters of units are those of what they stand for. -/
theorem toOption_characters (found : List StringUnit) {stop : Position} :
    (characters (.closed stop rest) found).toOption = spelt? (found.map symbol) := by
  fun_induction characters (.closed stop rest) found with
  | case1 => rfl
  | case2 fault flawed => cases flawed
  | case3 c _ more ih | case4 c _ more ih =>
      rw [toOption_map, ih, List.map_cons, symbol, spelt?]
  | case5 n _ more low =>
      rw [List.map_cons, symbol, spelt?.eq_def]
      simp only [low, if_true]
      rfl
  | case6 n _ low high | case7 n _ low high | case8 n _ low high =>
      rw [List.map_cons, symbol, spelt?.eq_def]
      simp only [low, high, if_true]
      rfl
  | case9 n _ low high m _ more pair ih =>
      rw [List.map_cons, List.map_cons, symbol, symbol, spelt?.eq_def]
      simp only [low, high, pair, if_true, toOption_map, ih]
      rfl
  | case10 n _ low high m _ more pair =>
      rw [List.map_cons, List.map_cons, symbol, symbol, spelt?.eq_def]
      simp only [low, high, pair, if_true]
      rfl
  | case11 n _ more low high ih =>
      rw [List.map_cons, symbol, spelt?.eq_def]
      simp only [low, high, toOption_map, ih]
      rfl

theorem units_inside (inside : Inside s symbols) (p : Position) (rest : List Char) :
    ∃ found stop, units p (s ++ '"' :: rest) = (found, .closed stop rest) ∧ found.map symbol = symbols := by
  induction inside generalizing p with
  | nil => exact ⟨[], p.skip 1, rfl, rfl⟩
  | plain quote backslash visible _ ih =>
      obtain ⟨found, stop, read, same⟩ := ih (p.past _)
      exact ⟨_, stop, by rw [List.cons_append, units_plain quote backslash visible, read],
        by rw [List.map_cons, same]; rfl⟩
  | @letter letter c s symbols stands _ ih =>
      obtain ⟨found, stop, read, same⟩ := ih (p.skip 2)
      refine ⟨.escaped c (p.skip 2) :: found, stop, ?_, by rw [List.map_cons, same]; rfl⟩
      have other : letter ≠ 'u' := by
        rintro rfl
        cases stands
      rw [List.cons_append, List.cons_append, units.eq_def]
      simp only [stands, read]
  | @code a b c d n s symbols spelt _ ih =>
      obtain ⟨found, stop, read, same⟩ := ih (p.skip 6)
      refine ⟨.code n (p.skip 6) :: found, stop, ?_, by rw [List.map_cons, same]; rfl⟩
      simp only [List.cons_append, units_code spelt, read]

end Quotation

/-- A string is read up to the quote behind it, and its text is the one that it spells. -/
theorem readQuotation_inside (inside : Inside s symbols) (p : Position) (rest : List Char) :
    ∃ read stop, readQuotation p (s ++ '"' :: rest) = (read, .ok (stop, rest)) ∧
      read.toOption = text? symbols := by
  obtain ⟨found, stop, split, same⟩ := Quotation.units_inside inside (p.skip 1) rest
  refine ⟨_, stop, by rw [readQuotation, split]; rfl, ?_⟩
  rw [Quotation.toOption_map, Quotation.toOption_characters, same]
  rfl

namespace Numeral

variable {bytes : Nat} {letter : Char} {n : Numeral}

theorem someDigits_digits {digits : List Char} (all : Digits digits)
    (stops : ∀ c ∈ rest.head?, isDigit c = false) :
    someDigits bytes (digits ++ rest) = .ok (digits, rest) := by
  obtain ⟨some, digit⟩ := all
  obtain ⟨c, digits, rfl⟩ := List.exists_cons_of_ne_nil some
  obtain ⟨take, drop⟩ := span_append stops (c :: digits)
  rw [List.takeWhile_eq_self_iff.mpr digit] at take
  rw [List.dropWhile_eq_nil_iff.mpr digit, List.nil_append] at drop
  rw [List.cons_append] at take drop ⊢
  rw [someDigits, if_pos (digit c List.mem_cons_self), take, drop]

theorem scanWhole_whole (parts : Parts n) (stops : ∀ c ∈ rest.head?, isDigit c = false) :
    scanWhole bytes (n.whole ++ rest) = .ok (n.whole, rest) := by
  have digits : someDigits bytes (n.whole ++ rest) = _ := someDigits_digits parts.whole stops
  unfold scanWhole
  split
  · rename_i c more same
    obtain ⟨d, whole, first⟩ := List.exists_cons_of_ne_nil parts.whole.1
    rw [first, List.cons_append] at same
    obtain ⟨rfl, behind⟩ := List.cons.inj same
    obtain rfl := parts.zero whole first
    obtain rfl : rest = c :: more := behind
    have stop : isDigit c = false := stops c rfl
    rw [if_neg (by rw [stop]; decide), first]
  · exact digits

theorem scanFraction_fraction (parts : Parts n) (stops : ∀ c ∈ rest.head?, isDigit c = false ∧ c ≠ '.') :
    scanFraction bytes (fractionText n.fraction ++ rest) = .ok (n.fraction, rest) := by
  cases known : n.fraction with
  | none =>
      unfold scanFraction
      split
      · rename_i same
        rw [fractionText, List.nil_append] at same
        exact absurd rfl (stops '.' (by rw [same]; rfl)).2
      · rfl
  | some digits =>
      have read : someDigits (bytes + 1) (digits ++ rest) = _ :=
        someDigits_digits (parts.fraction digits known) fun c first => (stops c first).1
      rw [fractionText, List.cons_append, scanFraction, read]
      rfl

theorem scanExponent_exponent (parts : Parts n) (marks : letter = 'e' ∨ letter = 'E')
    (stops : ∀ c ∈ rest.head?, isDigit c = false ∧ c ≠ 'e' ∧ c ≠ 'E') :
    scanExponent bytes (exponentText letter n.exponent ++ rest) = .ok (n.exponent, rest) := by
  cases known : n.exponent with
  | none =>
      rw [exponentText, List.nil_append]
      cases rest with
      | nil => rfl
      | cons c rest =>
          have other : ¬(c = 'e' ∨ c = 'E') := not_or.mpr (stops c rfl).2
          simp only [scanExponent, if_neg other]
  | some exponent =>
      obtain ⟨sign, digits⟩ := exponent
      obtain ⟨all, signed⟩ := parts.exponent _ known
      have read (bytes : Nat) : someDigits bytes (digits ++ rest) = .ok (digits, rest) :=
        someDigits_digits all fun c first => (stops c first).1
      simp only [exponentText, List.cons_append, scanExponent, if_pos marks]
      rcases signed with rfl | rfl | rfl
      · obtain ⟨d, digits, rfl⟩ := List.exists_cons_of_ne_nil all.1
        have digit : isDigit d = true := all.2 d List.mem_cons_self
        simp only [Option.toList_none, List.nil_append, List.cons_append] at read ⊢
        split
        · rename_i same
          rw [(List.cons.inj same).1] at digit
          cases digit
        · rename_i same
          rw [(List.cons.inj same).1] at digit
          cases digit
        · rw [read]
          rfl
      · simp only [Option.toList_some, List.cons_append, List.nil_append, read]
        rfl
      · simp only [Option.toList_some, List.cons_append, List.nil_append, read]
        rfl

theorem scan_unsigned (parts : Parts n) (marks : letter = 'e' ∨ letter = 'E') (ends : Ends rest) :
    scan n.negative (unsigned letter n ++ rest) = .ok (n, rest) := by
  have behind : ∀ c ∈ (exponentText letter n.exponent ++ rest).head?, isDigit c = false ∧ c ≠ '.' := by
    intro c first
    cases known : n.exponent with
    | none =>
        rw [known] at first
        exact ⟨(ends c first).1, (ends c first).2.1⟩
    | some exponent =>
        rw [known] at first
        obtain rfl : letter = c := Option.some.inj first
        rcases marks with rfl | rfl
        · decide
        · decide
  have point : ∀ c ∈ (fractionText n.fraction ++ (exponentText letter n.exponent ++ rest)).head?,
      isDigit c = false := by
    intro c first
    cases known : n.fraction with
    | none =>
        rw [known] at first
        exact (behind c first).1
    | some digits =>
        rw [known] at first
        obtain rfl : '.' = c := Option.some.inj first
        rfl
  rw [unsigned, List.append_assoc, List.append_assoc]
  simp only [scan, bind_eq_ok]
  exact ⟨_, scanWhole_whole parts point, _, scanFraction_fraction parts behind, _,
    scanExponent_exponent parts marks fun c first => ⟨(ends c first).1, (ends c first).2.2⟩, rfl⟩

end Numeral

theorem skipSpace_blank (blank : Blank s) (p : Position) (rest : List Char) :
    ∃ q, skipSpace p (s ++ rest) = skipSpace q rest := by
  induction s generalizing p with
  | nil => exact ⟨p, rfl⟩
  | cons c s ih =>
      obtain ⟨space, blank⟩ := List.forall_mem_cons.mp blank
      obtain ⟨q, skipped⟩ := ih blank (p.past c)
      exact ⟨q, by rw [List.cons_append, skipSpace, if_pos space, skipped]⟩

theorem skipSpace_blank_cons (blank : Blank s) {c : Char} (visible : isSpace c = false) (p : Position)
    (rest : List Char) : ∃ q, skipSpace p (s ++ c :: rest) = ⟨q, c :: rest⟩ := by
  obtain ⟨q, skipped⟩ := skipSpace_blank blank p (c :: rest)
  exact ⟨q, by rw [skipped, skipSpace_cons visible]⟩

theorem skipSpace_blank_begins {t : List Char} (blank : Blank s) (begins : BeginsValue t) (p : Position) :
    ∃ q, skipSpace p (s ++ t) = ⟨q, t⟩ := by
  obtain ⟨c, rest, rfl, -, visible⟩ := begins
  exact skipSpace_blank_cons blank visible p rest

theorem ends_blank (blank : Blank s) (ends : Numeral.Ends rest) : Numeral.Ends (s ++ rest) := by
  cases s with
  | nil => exact ends
  | cons c s =>
      intro d first
      obtain rfl : c = d := Option.some.inj first
      have space := blank c List.mem_cons_self
      simp only [isSpace, Bool.or_eq_true, beq_iff_eq] at space
      rcases space with ((rfl | rfl) | rfl) | rfl <;> decide

variable {fuel : Nat} {q : Position} {node : Node} {cursor next : Cursor} {t : List Char}

theorem readItem_closes (read : readNode (fuel + 1) cursor = (node, some next))
    (closes : skipSpace next.position next.rest = ⟨q, ']' :: rest⟩) :
    readItem (fuel + 2) cursor = (.item node (.stop (.closed (q.skip 1))), some ⟨q.skip 1, rest⟩) := by
  rw [readItem, read]
  simp only [closes]
  rfl

theorem readItem_continues (read : readNode (fuel + 1) cursor = (node, some next))
    (comma : skipSpace next.position next.rest = ⟨q, ',' :: t⟩) {further : Cursor}
    (further_eq : skipSpace (q.skip 1) t = further) (begins : BeginsValue further.rest) :
    readItem (fuel + 2) cursor = (.item node (readItem fuel further).1, (readItem fuel further).2) := by
  have behind : readItemsBehind (fuel + 1) ⟨q, ',' :: t⟩ = readItem fuel further := by
    rw [readItemsBehind]
    simp only [further_eq]
    obtain ⟨c, u, first, bracket, -⟩ := begins
    split
    · rename_i none
      rw [first] at none
      cases none
    · rename_i same
      rw [first] at same
      exact absurd (List.cons.inj same).1 bracket
    · rfl
  rw [readItem, read]
  simp only [comma, behind]

theorem beginsValue_value {o : Option Json} (value : Value s o) : BeginsValue s := by
  cases value with
  | @number n letter parts =>
      split
      · exact ⟨_, _, rfl, by decide, by decide⟩
      · obtain ⟨c, whole, first⟩ := List.exists_cons_of_ne_nil parts.whole.1
        have digit : isDigit c = true := parts.whole.2 c (by rw [first]; exact List.mem_cons_self)
        refine ⟨c, _, by rw [unsigned, first, List.cons_append], ?_, isSpace_of_isDigit digit⟩
        rintro rfl
        cases digit
  | _ => exact ⟨_, _, rfl, by decide, by decide⟩

theorem length_pos (value : Value s o) : 0 < s.length := by
  obtain ⟨c, t, rfl, -⟩ := beginsValue_value value
  exact Nat.succ_pos _

mutual
/-- The text of a value is read up to its end, into a tree that tells what the text does. -/
theorem readNode_value {s : List Char} {o : Option Json} (value : Value s o) {rest : List Char}
    (ends : Numeral.Ends rest) (fuel : Nat) (enough : 4 * s.length ≤ fuel) (p : Position) :
    ∃ node stop, readNode fuel ⟨p, s ++ rest⟩ = (node, some ⟨stop, rest⟩) ∧ node.Tells o := by
  obtain ⟨fuel, rfl⟩ := exists_succ_succ (n := fuel) (by have := length_pos value; omega)
  cases value with
  | null => exact ⟨_, _, rfl, .null⟩
  | true => exact ⟨_, _, rfl, .bool⟩
  | false => exact ⟨_, _, rfl, .bool⟩
  | @number n letter parts marks =>
      have scanned := Numeral.scan_unsigned (n := n) parts marks ends
      have numeric : Numeric n.negative (unsigned letter n ++ rest) := by
        intro _
        obtain ⟨c, whole, first⟩ := List.exists_cons_of_ne_nil parts.whole.1
        exact ⟨c, by rw [unsigned, first]; rfl, parts.whole.2 c (by rw [first]; exact List.mem_cons_self)⟩
      have text : (if n.negative then '-' :: unsigned letter n else unsigned letter n) ++ rest =
          signedText n.negative (unsigned letter n ++ rest) := by
        cases n.negative <;> rfl
      rw [text, readNode_signedText numeric, readNumber, scanned]
      refine ⟨_, _, rfl, ?_⟩
      cases n.value with
      | ok m => exact .number
      | error bytes => exact fun room json read => by cases read
  | @string s symbols inside =>
      obtain ⟨read, stop, quoted, same⟩ := readQuotation_inside inside p rest
      refine ⟨.string p read (.ok stop), stop, ?_, ?_⟩
      · simp only [List.cons_append, List.append_assoc, List.nil_append, readNode, readString, quoted,
          Except.map]
      · rw [← same]
        cases read with
        | ok text => exact .string
        | error fault => exact fun room json read => by cases read
  | @emptyArray s blank =>
      obtain ⟨q, skipped⟩ := skipSpace_blank_cons blank (c := ']') rfl (p.skip 1) rest
      refine ⟨.array p (.stop (.closed (q.skip 1))), q.skip 1, ?_, .array .nil⟩
      simp only [List.cons_append, List.append_assoc, List.nil_append, readNode, skipped, readFirstItem]
  | @emptyObject s blank =>
      obtain ⟨q, skipped⟩ := skipSpace_blank_cons blank (c := '}') rfl (p.skip 1) rest
      refine ⟨.object p (.stop (.closed (q.skip 1))), q.skip 1, ?_, .object .nil⟩
      simp only [List.cons_append, List.append_assoc, List.nil_append, readNode, skipped, readFirstField]
  | @array s told items =>
      simp only [List.length_append, List.length_cons, List.length_nil] at enough
      obtain ⟨q, u, skipped, begins, found, stop, read, tells⟩ :=
        readItem_items items rest fuel (by omega) (p.skip 1)
      refine ⟨.array p found, stop, ?_, tells.array p⟩
      simp only [List.cons_append, List.append_assoc, List.nil_append, readNode, skipped,
        readFirstItem_begins begins, read]
  | @object s told members =>
      simp only [List.length_append, List.length_cons, List.length_nil] at enough
      obtain ⟨q, u, skipped, found, stop, read, tells⟩ :=
        readField_members members rest fuel (by omega) (p.skip 1)
      refine ⟨.object p found, stop, ?_, tells.object p⟩
      simp only [List.cons_append, List.append_assoc, List.nil_append, readNode, skipped,
        readFirstField, read]
termination_by 2 * s.length
decreasing_by all_goals subst_vars; simp only [List.length_append, List.length_cons]; omega

theorem readItem_items {s : List Char} {told : List (Option Json)} (items : Grammar.Items s told)
    (rest : List Char) (fuel : Nat) (enough : 4 * s.length + 2 ≤ fuel) (p : Position) :
    ∃ q u, skipSpace p (s ++ ']' :: rest) = ⟨q, u⟩ ∧ BeginsValue u ∧
      ∃ found stop, readItem fuel ⟨q, u⟩ = (found, some ⟨stop, rest⟩) ∧ found.Tells told := by
  cases items with
  | @last a v b o before value behind =>
      have pos := length_pos value
      simp only [List.length_append] at enough
      obtain ⟨fuel, rfl⟩ := exists_succ_succ (n := fuel) (by omega)
      have begins := (beginsValue_value value).append (b ++ ']' :: rest)
      obtain ⟨q, skipped⟩ := skipSpace_blank_begins before begins p
      obtain ⟨node, stop, read, tells⟩ := readNode_value value (ends_blank behind (ends_bracket rest))
        (fuel + 1) (by omega) q
      obtain ⟨end', closes⟩ := skipSpace_blank_cons behind (c := ']') rfl stop rest
      refine ⟨q, _, ?_, begins, _, _, readItem_closes read closes, .cons tells .nil⟩
      simpa only [List.append_assoc] using skipped
  | @more a v b s o told before value behind others =>
      have pos := length_pos value
      simp only [List.length_append, List.length_cons] at enough
      obtain ⟨fuel, rfl⟩ := exists_succ_succ (n := fuel) (by omega)
      have begins := (beginsValue_value value).append (b ++ ',' :: (s ++ ']' :: rest))
      obtain ⟨q, skipped⟩ := skipSpace_blank_begins before begins p
      obtain ⟨node, stop, read, tells⟩ := readNode_value value (ends_blank behind (ends_comma _))
        (fuel + 1) (by omega) q
      obtain ⟨comma, separated⟩ := skipSpace_blank_cons behind (c := ',') rfl stop (s ++ ']' :: rest)
      obtain ⟨r, u, next, visible, found, last, more, tell⟩ :=
        readItem_items others rest fuel (by omega) (comma.skip 1)
      refine ⟨q, _, ?_, begins, .item node found, last, ?_, .cons tells tell⟩
      · simpa only [List.append_assoc, List.cons_append] using skipped
      · rw [readItem_continues read separated next visible, more]
termination_by 2 * s.length + 1
decreasing_by all_goals subst_vars; simp only [List.length_append, List.length_cons]; omega

/-- A member is read up to the comma or the brace behind it. -/
theorem readField_member {s : List Char} {m : Option String × Option Json} (member : Member s m)
    {mark : Char} (marks : mark = ',' ∨ mark = '}') (rest : List Char) (fuel : Nat)
    (enough : 4 * s.length ≤ fuel) (p : Position) :
    ∃ q u, skipSpace p (s ++ mark :: rest) = ⟨q, '"' :: u⟩ ∧
      ∃ key node stop, readField (fuel + 1) q u =
          (.field key node (readFieldsBehind fuel ⟨stop, mark :: rest⟩).1,
            (readFieldsBehind fuel ⟨stop, mark :: rest⟩).2) ∧
        key.read.toOption = m.1 ∧ node.Tells m.2 := by
  cases member with
  | @mk a k b c v d symbols o before inside behind between value after =>
      have visible : isSpace mark = false := by rcases marks with rfl | rfl <;> rfl
      have ends : Numeral.Ends (mark :: rest) := by
        rcases marks with rfl | rfl
        · exact ends_comma rest
        · exact ends_brace rest
      simp only [List.length_append, List.length_cons] at enough
      obtain ⟨q, skipped⟩ := skipSpace_blank_cons before (c := '"') rfl p
        (k ++ '"' :: (b ++ ':' :: (c ++ (v ++ (d ++ mark :: rest)))))
      obtain ⟨read, stop, quoted, same⟩ :=
        readQuotation_inside inside q (b ++ ':' :: (c ++ (v ++ (d ++ mark :: rest))))
      obtain ⟨r, colon⟩ := skipSpace_blank_cons behind (c := ':') rfl stop (c ++ (v ++ (d ++ mark :: rest)))
      obtain ⟨t, begins⟩ := skipSpace_blank_begins between
        ((beginsValue_value value).append (d ++ mark :: rest)) (r.skip 1)
      obtain ⟨node, last, found, tells⟩ :=
        readNode_value value (ends_blank after ends) fuel (by omega) t
      obtain ⟨stop', marked⟩ := skipSpace_blank_cons after visible last rest
      refine ⟨q, k ++ '"' :: (b ++ ':' :: (c ++ (v ++ (d ++ mark :: rest)))), ?_, ⟨q, read, r, false⟩, node, stop',
        ?_, same, tells⟩
      · simpa only [List.append_assoc, List.cons_append] using skipped
      · rw [readField, quoted]
        cases read <;> simp only [colon, begins, found, marked] <;> rfl
termination_by 2 * s.length
decreasing_by subst_vars; simp only [List.length_append, List.length_cons]; omega

theorem readField_members {s : List Char} {told : List (Option String × Option Json)}
    (members : Grammar.Members s told) (rest : List Char) (fuel : Nat) (enough : 4 * s.length + 2 ≤ fuel)
    (p : Position) :
    ∃ q u, skipSpace p (s ++ '}' :: rest) = ⟨q, '"' :: u⟩ ∧
      ∃ found stop, readField fuel q u = (found, some ⟨stop, rest⟩) ∧ found.Tells told := by
  cases members with
  | @last s m member =>
      obtain ⟨fuel, rfl⟩ := exists_succ_succ (n := fuel) (by omega)
      obtain ⟨q, u, skipped, key, node, stop, read, known, tells⟩ :=
        readField_member member (.inr rfl) rest (fuel + 1) (by omega) p
      exact ⟨q, u, skipped, _, stop.skip 1, read, .cons known tells .nil⟩
  | @more s t m told member others =>
      simp only [List.length_append, List.length_cons] at enough
      obtain ⟨fuel, rfl⟩ := exists_succ_succ (n := fuel) (by omega)
      obtain ⟨q, u, skipped, key, node, stop, read, known, tells⟩ :=
        readField_member member (.inl rfl) (t ++ '}' :: rest) (fuel + 1) (by omega) p
      obtain ⟨r, w, next, found, last, more, tell⟩ := readField_members others rest fuel (by omega) (stop.skip 1)
      have behind : readFieldsBehind (fuel + 1) ⟨stop, ',' :: (t ++ '}' :: rest)⟩ = readField fuel r w := by
        simp only [readFieldsBehind, next]
      rw [behind, more] at read
      refine ⟨q, u, ?_, .field key node found, last, read, .cons known tells tell⟩
      simpa only [List.append_assoc, List.cons_append] using skipped
termination_by 2 * s.length + 1
decreasing_by
  · subst_vars
    omega
  · subst_vars
    simp only [List.length_append, List.length_cons]
    omega
  · subst_vars
    simp only [List.length_append, List.length_cons]
    omega
end

variable {inner lead trail : List Char} {members : List (List Char)}
  {told : List (Option String × Option Json)}

theorem exists_members {s : List Char} {told : List (Option String × Option Json)} (inner : List Char)
    (all : Grammar.Members s told) :
    ∃ members, members ≠ [] ∧ s = between inner members ∧ List.Forall₂ Member members told := by
  cases all with
  | last member => exact ⟨[_], List.cons_ne_nil _ _, rfl, .cons member .nil⟩
  | more member rest =>
      obtain ⟨members, some, rfl, each⟩ := exists_members inner rest
      cases each with
      | nil => exact absurd rfl some
      | cons second others => exact ⟨_, List.cons_ne_nil _ _, rfl, .cons member (.cons second others)⟩

/-- The members of an object, if it has any, are just what stands between its braces. -/
theorem members_iff {s : List Char} :
    Grammar.Members s told ↔ ∃ members, members ≠ [] ∧ s = between inner members ∧
      List.Forall₂ Member members told := by
  constructor
  · exact exists_members inner
  · rintro ⟨members, some, rfl, each⟩
    induction each with
    | nil => exact absurd rfl some
    | cons first others ih =>
        cases others with
        | nil => exact .last first
        | cons second others => exact .more first (ih (List.cons_ne_nil _ _))

/-- An object is read into a tree whose members tell what the texts of the members do. -/
theorem readNode_objectText (each : List.Forall₂ Member members told) (blank : Blank inner)
    (rest : List Char) (fuel : Nat) (enough : 4 * (objectText inner members).length ≤ fuel) (p : Position) :
    ∃ fields stop, readNode fuel ⟨p, objectText inner members ++ rest⟩ =
      (.object p fields, some ⟨stop, rest⟩) ∧ fields.Tells told := by
  simp only [objectText, List.length_append, List.length_cons, List.length_nil] at enough
  obtain ⟨fuel, rfl⟩ := exists_succ_succ (n := fuel) (by omega)
  have text : objectText inner members ++ rest = '{' :: (between inner members ++ '}' :: rest) := by
    simp only [objectText, List.cons_append, List.append_assoc, List.nil_append]
  rw [text]
  by_cases none : members = []
  · subst none
    cases each
    obtain ⟨q, skipped⟩ := skipSpace_blank_cons blank (c := '}') rfl (p.skip 1) rest
    refine ⟨.stop (.closed (q.skip 1)), q.skip 1, ?_, .nil⟩
    simp only [between, readNode, skipped, readFirstField]
  · have whole : Grammar.Members (between inner members) told := members_iff.mpr ⟨members, none, rfl, each⟩
    obtain ⟨q, u, skipped, found, stop, read, tells⟩ :=
      readField_members whole rest fuel (by omega) (p.skip 1)
    refine ⟨found, stop, ?_, tells⟩
    simp only [readNode, skipped, readFirstField, read]

/-- The text of an object, with blanks around it, is a document with a tree whose members tell what the texts of the
members do. -/
theorem ofText_objectText (each : List.Forall₂ Member members told) (blank : Blank inner)
    (leads : Blank lead) (trails : Blank trail) :
    ∃ start fields, Document.ofText (String.ofList (lead ++ objectText inner members ++ trail)) =
      ⟨.object start fields, none⟩ ∧ fields.Tells told := by
  have begins : BeginsValue (objectText inner members ++ trail) := ⟨'{', _, rfl, by decide, by decide⟩
  obtain ⟨start, skipped⟩ := skipSpace_blank_begins leads begins .start
  obtain ⟨fields, stop, read, tells⟩ := readNode_objectText each blank trail
    (4 * (lead ++ objectText inner members ++ trail).length + 4)
    (by simp only [List.length_append]; omega) start
  obtain ⟨last, ended⟩ := skipSpace_blank trails stop []
  rw [List.append_nil] at ended
  refine ⟨start, fields, ?_, tells⟩
  rw [Document.ofText]
  simp only [String.toList_ofList]
  rw [List.append_assoc, skipped]
  rw [List.append_assoc] at read
  simp only [read, Option.bind_some, ended]
  rfl

end Dossier.Json
