import Concordance.Proofs.NumberTexts

/-!
# JSON is read as it is written

The tree of a value is what it is written as: every text with its escapes, every number with its digits.
Reading a value that was written gives its tree, whatever value it is (`ofText?_write`).
-/

namespace Concordance.Json

/-! ### Trees of values -/

/-- The control is escaped by its number. -/
def isNumbered (c : Char) : Bool :=
  c.toNat < 0x20 && c != '\n' && c != '\r' && c != '\t' && c.toNat != 8 && c.toNat != 12

def unitOf (c : Char) : Unit16 :=
  if isNumbered c then .unit c.toNat else .char c

def unitsOf (s : String) : List Unit16 :=
  s.toList.map unitOf

def Number.tree (n : Number) : Tree :=
  match n.text? with
  | some text => .number text
  | none => .null

mutual

def tree : Json → Tree
  | .null => .null
  | .bool b => .bool b
  | .number n => n.tree
  | .string s => .text (unitsOf s)
  | .array items => .array (treesOf items)
  | .fields pairs => .object (pairsOf pairs)

def treesOf : List Json → List Tree
  | [] => []
  | item :: items => item.tree :: treesOf items

def pairsOf : List (String × Json) → List (List Unit16 × Tree)
  | [] => []
  | (key, value) :: pairs => (unitsOf key, value.tree) :: pairsOf pairs

end

/-! ### Texts -/

theorem hexValue?_hexDigit : ∀ d < 16, hexValue? (hexDigit d) = some d := by
  decide

/-- A number of one byte is read from its two digits. -/
theorem hexUnit?_hexDigits {n : Nat} (hn : n < 0x100) (rest : List Char) :
    hexUnit? (['0', '0', hexDigit (n / 16), hexDigit (n % 16)] ++ rest) = some (n, rest) := by
  have hzero : hexValue? '0' = some 0 := by decide
  simp only [List.cons_append, List.nil_append, hexUnit?, hzero, hexValue?_hexDigit (n / 16) (by omega),
    hexValue?_hexDigit (n % 16) (by omega)]
  simp
  omega

theorem readText?_plain {c : Char} (hquote : c ≠ '"') (hbackslash : c ≠ '\\') (hcontrol : ¬c.toNat < 0x20)
    (fuel : Nat) (rest : List Char) :
    readText? (fuel + 1) (c :: rest) =
      (readText? fuel rest).map fun (units, rest) => (.char c :: units, rest) := by
  cases hrest : readText? fuel rest <;>
    (unfold readText?; simp only [if_neg hquote, if_neg hbackslash, if_neg hcontrol, hrest]; rfl)

theorem readText?_escaped {c e : Char} (he : escaped? e = some c) (hunit : e ≠ 'u') (fuel : Nat)
    (rest : List Char) :
    readText? (fuel + 1) ('\\' :: e :: rest) =
      (readText? fuel rest).map fun (units, rest) => (.char c :: units, rest) := by
  rw [readText?, if_neg (by decide), if_pos rfl, he]
  · cases readText? fuel rest <;> rfl
  · exact hunit

theorem readText?_unit {n : Nat} {digits : List Char} (rest : List Char)
    (hdigits : hexUnit? (digits ++ rest) = some (n, rest)) (fuel : Nat) :
    readText? (fuel + 1) ('\\' :: 'u' :: digits ++ rest) =
      (readText? fuel rest).map fun (units, rest) => (.unit n :: units, rest) := by
  rw [List.cons_append, List.cons_append, readText?, if_neg (by decide), if_pos rfl]
  simp only [hdigits, Option.bind_eq_bind, Option.bind_some]
  cases readText? fuel rest <;> rfl

/-- Whatever spelling a character gets, the reader takes it for that character. -/
theorem readText?_escape (c : Char) (fuel : Nat) (rest : List Char) :
    readText? (fuel + 1) (escape c ++ rest) =
      (readText? fuel rest).map fun (units, rest) => (unitOf c :: units, rest) := by
  unfold escape
  -- a quotation mark, a backslash, a control that has a letter, another control, or any other character
  split
  · next hc =>
    subst hc
    exact readText?_escaped rfl (by decide) fuel rest
  split
  · next hc =>
    subst hc
    exact readText?_escaped rfl (by decide) fuel rest
  split
  · split
    · next hc =>
      subst hc
      exact readText?_escaped rfl (by decide) fuel rest
    split
    · next hc =>
      subst hc
      exact readText?_escaped rfl (by decide) fuel rest
    split
    · next hc =>
      subst hc
      exact readText?_escaped rfl (by decide) fuel rest
    split
    · next hc =>
      obtain rfl : c = Char.ofNat 8 := by rw [← hc, Char.ofNat_toNat]
      exact readText?_escaped rfl (by decide) fuel rest
    split
    · next hc =>
      obtain rfl : c = Char.ofNat 12 := by rw [← hc, Char.ofNat_toNat]
      exact readText?_escaped rfl (by decide) fuel rest
    · next hcontrol hnewLine hreturn htab hbackspace hfeed =>
      have hunit : unitOf c = .unit c.toNat := by
        rw [unitOf, isNumbered]
        simp [hcontrol, hnewLine, hreturn, htab, hbackspace, hfeed]
      rw [hunit]
      exact readText?_unit rest (hexUnit?_hexDigits (Nat.lt_trans hcontrol (by decide)) rest) fuel
  · next hquote hbackslash hcontrol =>
    have hunit : unitOf c = .char c := by
      rw [unitOf, isNumbered]
      simp [hcontrol]
    rw [hunit]
    exact readText?_plain hquote hbackslash hcontrol fuel rest

/-- A text that was written is read up to its closing quotation mark. -/
theorem readText?_quote (cs : List Char) {fuel : Nat} (rest : List Char) (h : cs.length < fuel) :
    readText? fuel (cs.flatMap escape ++ '"' :: rest) = some (cs.map unitOf, rest) := by
  induction cs generalizing fuel with
  | nil =>
    obtain ⟨fuel, rfl⟩ := Nat.exists_eq_succ_of_ne_zero (Nat.ne_of_gt h)
    rfl
  | cons c cs ih =>
    obtain ⟨fuel, rfl⟩ := Nat.exists_eq_succ_of_ne_zero (Nat.ne_of_gt (Nat.lt_of_le_of_lt (Nat.zero_le _) h))
    rw [List.flatMap_cons, List.append_assoc, readText?_escape, ih (by simpa using h)]
    rfl

/-! ### Values -/

theorem skipSpace_cons {c : Char} (h : isSpace c = false) (rest : List Char) :
    skipSpace (c :: rest) = c :: rest := by
  rw [skipSpace, List.dropWhile_cons, h]
  rfl

/-- A digit begins nothing but a number. -/
theorem ne_of_isDigit {d : Char} (h : isDigit d = true) :
    d ≠ 'n' ∧ d ≠ 't' ∧ d ≠ 'f' ∧ d ≠ '"' ∧ d ≠ '[' ∧ d ≠ '\x7b' ∧ d ≠ '-' ∧ isSpace d = false := by
  refine ⟨?_, ?_, ?_, ?_, ?_, ?_, ?_, ?_⟩
  iterate 7
    rintro rfl
    revert h
    decide
  · simp only [isSpace, Bool.or_eq_false_iff, beq_eq_false_iff_ne]
    refine ⟨⟨⟨?_, ?_⟩, ?_⟩, ?_⟩
    iterate 4
      rintro rfl
      revert h
      decide

/-- A number that was written is read as it is written. -/
theorem readTree?_number {text : NumberText} (h : text.WellFormed) (fuel : Nat) {rest : List Char}
    (hrest : Ends rest) : readTree? (fuel + 1) (text.write ++ rest) = some (.number text, rest) := by
  have hread := h.readNumber?_unsigned hrest
  cases hsign : text.negative with
  | true =>
    rw [hsign] at hread
    rw [NumberText.write, hsign, if_pos rfl, List.append_assoc, List.singleton_append, readTree?,
      skipSpace_cons (by decide)]
    simp [hread]
  | false =>
    rw [hsign] at hread
    obtain ⟨d, digits, hwhole⟩ := List.exists_cons_of_ne_nil h.nonempty
    obtain ⟨hn, ht, hf, hquote, hbracket, hbrace, hminus, hspace⟩ :=
      ne_of_isDigit (h.whole d (hwhole ▸ List.mem_cons_self))
    rw [NumberText.write, hsign, if_neg (by decide), List.nil_append]
    rw [NumberText.unsigned, hwhole, List.cons_append, List.cons_append] at hread ⊢
    rw [readTree?, skipSpace_cons hspace]
    simp only [hn, ht, hf, hquote, hbracket, hbrace, hminus, if_false, hread, Option.map_some]

/-- What a value is written as begins neither with white space nor with a closing bracket. -/
theorem exists_write_eq (v : Json) : ∃ c rest, v.write = c :: rest ∧ isSpace c = false ∧ c ≠ ']' := by
  cases v with
  | null => exact ⟨'n', _, rfl, by decide, by decide⟩
  | bool b =>
    cases b with
    | true => exact ⟨'t', _, rfl, by decide, by decide⟩
    | false => exact ⟨'f', _, rfl, by decide, by decide⟩
  | number n =>
    rw [write]
    cases htext : n.text? with
    | none => exact ⟨'n', _, Number.write_of_text?_eq_none htext, by decide, by decide⟩
    | some text =>
      obtain ⟨hwrite, hformed⟩ := Number.write_of_text? htext
      -- a number begins with its sign or with a digit, neither of which closes an array
      obtain ⟨d, digits, hwhole⟩ := List.exists_cons_of_ne_nil hformed.nonempty
      have hdigit := hformed.whole d (hwhole ▸ List.mem_cons_self)
      rw [hwrite, NumberText.write, NumberText.unsigned, hwhole]
      cases text.negative with
      | true => exact ⟨'-', _, rfl, by decide, by decide⟩
      | false =>
        refine ⟨d, _, rfl, (ne_of_isDigit hdigit).2.2.2.2.2.2.2, ?_⟩
        rintro rfl
        revert hdigit
        decide
  | string s => exact ⟨'"', _, by rw [write, quote]; rfl, by decide, by decide⟩
  | array items => exact ⟨'[', _, by rw [write]; rfl, by decide, by decide⟩
  | fields pairs => exact ⟨'\x7b', _, by rw [write]; rfl, by decide, by decide⟩

theorem writeItems_cons_cons (item next : Json) (items : List Json) :
    writeItems (item :: next :: items) = item.write ++ ',' :: writeItems (next :: items) := by
  rw [writeItems]
  simp

theorem writePairs_cons_cons (key : String) (value : Json) (next : String × Json)
    (pairs : List (String × Json)) :
    writePairs ((key, value) :: next :: pairs) =
      quote key ++ ':' :: value.write ++ ',' :: writePairs (next :: pairs) := by
  rw [writePairs]
  simp

theorem exists_writeItems_eq (item : Json) (items : List Json) :
    ∃ c rest, writeItems (item :: items) = c :: rest ∧ isSpace c = false ∧ c ≠ ']' := by
  obtain ⟨c, rest, hwrite, hspace, hbracket⟩ := exists_write_eq item
  cases items with
  | nil => exact ⟨c, rest, by rw [writeItems, hwrite], hspace, hbracket⟩
  | cons next items => exact ⟨c, _, by rw [writeItems_cons_cons, hwrite]; rfl, hspace, hbracket⟩

theorem exists_writePairs_eq (pair : String × Json) (pairs : List (String × Json)) :
    ∃ rest, writePairs (pair :: pairs) = '"' :: rest := by
  obtain ⟨key, value⟩ := pair
  cases pairs with
  | nil => exact ⟨_, by rw [writePairs, quote]; rfl⟩
  | cons next pairs => exact ⟨_, by rw [writePairs_cons_cons, quote]; rfl⟩

/-- A text is written with at least as many characters as it has. -/
theorem length_le_flatMap_escape (cs : List Char) : cs.length ≤ (cs.flatMap escape).length := by
  induction cs with
  | nil => exact Nat.le_refl _
  | cons c cs ih =>
    have hescape : 0 < (escape c).length := by
      unfold escape
      split_ifs <;> exact Nat.succ_pos _
    rw [List.flatMap_cons, List.length_append, List.length_cons]
    omega

/-- A text that was written is read with all its characters. -/
theorem readText?_flatMap_escape (s : String) (rest : List Char) :
    readText? (s.toList.flatMap escape ++ '"' :: rest).length (s.toList.flatMap escape ++ '"' :: rest) =
      some (unitsOf s, rest) := by
  refine readText?_quote s.toList rest ?_
  have hlength := length_le_flatMap_escape s.toList
  rw [List.length_append, List.length_cons]
  omega

-- Every step takes a character off the text, so as many steps as characters are enough. Items and fields need
-- two more: one for the last of them and one for the bracket behind it.
mutual

/-- A value that was written is read with its tree. -/
theorem readTree?_write : ∀ (v : Json) (fuel : Nat) {rest : List Char}, v.write.length < fuel → Ends rest →
    readTree? fuel (v.write ++ rest) = some (v.tree, rest)
  | v, 0, _, h, _ => absurd h (Nat.not_lt_zero _)
  | .null, fuel + 1, rest, _, _ => by
    simp [write, tree, readTree?, skipSpace, isSpace, readWord?]
  | .bool b, fuel + 1, rest, _, _ => by
    cases b <;> simp [write, tree, readTree?, skipSpace, isSpace, readWord?]
  | .number n, fuel + 1, rest, _, hrest => by
    rw [write, tree, Number.tree]
    cases htext : n.text? with
    | none =>
      rw [Number.write_of_text?_eq_none htext]
      simp [readTree?, skipSpace, isSpace, readWord?]
    | some text =>
      obtain ⟨hwrite, hformed⟩ := Number.write_of_text? htext
      rw [hwrite]
      exact readTree?_number hformed fuel hrest
  | .string s, fuel + 1, rest, _, _ => by
    rw [write, quote, tree, List.cons_append, List.cons_append, List.append_assoc, List.singleton_append,
      readTree?, skipSpace_cons (by decide)]
    simp only [readText?_flatMap_escape]
    rfl
  | .array [], fuel + 1, rest, _, _ => by
    simp [write, writeItems, tree, treesOf, readTree?, skipSpace, isSpace]
  | .array (item :: items), fuel + 1, rest, h, _ => by
    -- the first character of an item says that the array is not empty
    obtain ⟨c, more, hwrite, hspace, hbracket⟩ := exists_writeItems_eq item items
    have hlength : (writeItems (item :: items)).length + 1 < fuel := by
      simpa [write] using h
    have hread := readItems?_writeItems (item :: items) fuel rest (List.cons_ne_nil _ _) hlength
    rw [hwrite, List.cons_append] at hread
    rw [write, tree, List.cons_append, List.cons_append, List.append_assoc, List.singleton_append,
      hwrite, List.cons_append, readTree?, skipSpace_cons (by decide)]
    simp only [skipSpace_cons hspace]
    simp [hread, hbracket]
  | .fields [], fuel + 1, rest, _, _ => by
    simp [write, writePairs, tree, pairsOf, readTree?, skipSpace, isSpace]
  | .fields (pair :: pairs), fuel + 1, rest, h, _ => by
    obtain ⟨more, hwrite⟩ := exists_writePairs_eq pair pairs
    have hlength : (writePairs (pair :: pairs)).length + 1 < fuel := by
      simpa [write] using h
    have hread := readPairs?_writePairs (pair :: pairs) fuel rest (List.cons_ne_nil _ _) hlength
    rw [hwrite, List.cons_append] at hread
    rw [write, tree, List.cons_append, List.cons_append, List.append_assoc, List.singleton_append,
      hwrite, List.cons_append, readTree?, skipSpace_cons (by decide)]
    simp only [skipSpace_cons (show isSpace '"' = false by decide)]
    simp [hread]

/-- Items that were written are read up to the closing bracket. -/
theorem readItems?_writeItems : ∀ (items : List Json) (fuel : Nat) (rest : List Char), items ≠ [] →
    (writeItems items).length + 1 < fuel →
    readItems? fuel (writeItems items ++ ']' :: rest) = some (treesOf items, rest)
  | [], _, _, h, _ => absurd rfl h
  | _, 0, _, _, h => absurd h (Nat.not_lt_zero _)
  | [item], fuel + 1, rest, _, h => by
    have hlength : item.write.length < fuel := by
      rw [writeItems] at h
      omega
    have hread := readTree?_write item fuel hlength (ends_bracket rest)
    rw [writeItems, readItems?, hread]
    simp [skipSpace_cons, isSpace, treesOf]
  | item :: next :: items, fuel + 1, rest, _, h => by
    rw [writeItems_cons_cons, List.length_append, List.length_cons] at h
    have hread := readTree?_write item fuel (by omega)
      (ends_comma (writeItems (next :: items) ++ ']' :: rest))
    have hitems := readItems?_writeItems (next :: items) fuel rest (List.cons_ne_nil _ _) (by omega)
    rw [writeItems_cons_cons, List.append_assoc, List.cons_append, readItems?, hread]
    simp [skipSpace_cons, isSpace, treesOf, hitems]

/-- Fields that were written are read up to the closing brace. -/
theorem readPairs?_writePairs : ∀ (pairs : List (String × Json)) (fuel : Nat) (rest : List Char), pairs ≠ [] →
    (writePairs pairs).length + 1 < fuel →
    readPairs? fuel (writePairs pairs ++ '\x7d' :: rest) = some (pairsOf pairs, rest)
  | [], _, _, h, _ => absurd rfl h
  | _, 0, _, _, h => absurd h (Nat.not_lt_zero _)
  | [(key, value)], fuel + 1, rest, _, h => by
    rw [writePairs, List.length_append, List.length_cons] at h
    have hread := readTree?_write value fuel (by omega) (ends_brace rest)
    rw [writePairs, quote, List.append_assoc, List.cons_append, List.cons_append, List.append_assoc,
      List.singleton_append, readPairs?, skipSpace_cons (by decide)]
    simp only [readText?_flatMap_escape]
    simp [skipSpace_cons, isSpace, hread, pairsOf]
  | (key, value) :: next :: pairs, fuel + 1, rest, _, h => by
    rw [writePairs_cons_cons, List.length_append, List.length_append, List.length_cons,
      List.length_cons] at h
    have hread := readTree?_write value fuel (by omega)
      (ends_comma (writePairs (next :: pairs) ++ '\x7d' :: rest))
    have hpairs := readPairs?_writePairs (next :: pairs) fuel rest (List.cons_ne_nil _ _) (by omega)
    rw [writePairs_cons_cons, quote, List.append_assoc, List.append_assoc, List.cons_append, List.cons_append,
      List.append_assoc, List.singleton_append, readPairs?, skipSpace_cons (by decide)]
    simp only [readText?_flatMap_escape]
    simp [skipSpace_cons, isSpace, hread, hpairs, pairsOf]

end

/-- A value that was written spells its tree. -/
theorem ofText?_write (v : Json) : Tree.ofText? v.write = some v.tree := by
  have hread := readTree?_write v _ (Nat.lt_succ_self _) ends_nil
  rw [List.append_nil] at hread
  rw [Tree.ofText?, hread]
  rfl

end Concordance.Json
