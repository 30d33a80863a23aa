import Concordance.Json.Printer
import Concordance.Proofs.ShortestDecimals

/-!
# Numbers as they are written

Every number that is written follows the syntax of JSON: its digits do not begin with a zero too much, and
its fraction and its exponent are not empty. For a floating-point number this rests on its shortest decimal
not being zero.
-/

namespace Concordance

/-! ### The syntax of numbers -/

namespace Json

/-- What may follow a value: the end, a comma or a closing bracket. -/
def Ends (rest : List Char) : Prop :=
  ∀ c ∈ rest.head?, c = ',' ∨ c = ']' ∨ c = '\x7d'

theorem ends_nil : Ends [] := by
  simp [Ends]

theorem ends_comma (rest : List Char) : Ends (',' :: rest) := by
  simp [Ends]

theorem ends_bracket (rest : List Char) : Ends (']' :: rest) := by
  simp [Ends]

theorem ends_brace (rest : List Char) : Ends ('\x7d' :: rest) := by
  simp [Ends]

/-- What may follow a value goes on with none of these characters. -/
theorem Ends.not_head {rest : List Char} (h : Ends rest) {p : Char → Bool} (hcomma : p ',' = false)
    (hbracket : p ']' = false) (hbrace : p '\x7d' = false) : ∀ c ∈ rest.head?, p c = false := by
  intro c hc
  rcases h c hc with rfl | rfl | rfl
  · exact hcomma
  · exact hbracket
  · exact hbrace

/-- A run of characters ends where the next one is of another kind. -/
theorem takeWhile_append_of_head {p : Char → Bool} {run rest : List Char} (hrun : ∀ c ∈ run, p c = true)
    (hrest : ∀ c ∈ rest.head?, p c = false) :
    (run ++ rest).takeWhile p = run ∧ (run ++ rest).dropWhile p = rest := by
  have hend : rest.takeWhile p = [] ∧ rest.dropWhile p = rest := by
    cases rest with
    | nil => exact ⟨rfl, rfl⟩
    | cons c rest =>
      have hc := hrest c rfl
      exact ⟨by rw [List.takeWhile_cons, hc]; rfl, by rw [List.dropWhile_cons, hc]; rfl⟩
  rw [List.takeWhile_append_of_pos hrun, List.dropWhile_append_of_pos hrun, hend.1, hend.2]
  exact ⟨List.append_nil run, rfl⟩

namespace NumberText

def writeFraction : List Char → List Char
  | [] => []
  | c :: rest => '.' :: c :: rest

def writePower : Option (Bool × List Char) → List Char
  | none => []
  | some (negative, digits) => 'e' :: (if negative then '-' else '+') :: digits

def unsigned (n : NumberText) : List Char :=
  n.whole ++ (writeFraction n.fraction ++ writePower n.power)

def write (n : NumberText) : List Char :=
  (if n.negative then ['-'] else []) ++ n.unsigned

/-- The digits of a number are digits, there is one before the point and in an exponent, and only zero
itself begins with zero. -/
structure WellFormed (n : NumberText) : Prop where
  whole : ∀ c ∈ n.whole, isDigit c = true
  nonempty : n.whole ≠ []
  leading : n.whole.head? = some '0' → n.whole.length = 1
  fraction : ∀ c ∈ n.fraction, isDigit c = true
  power : ∀ p ∈ n.power, p.2 ≠ [] ∧ ∀ c ∈ p.2, isDigit c = true

variable {n : NumberText} {rest : List Char}

/-- An exponent is read as it was written, if what follows it is the end of a value. -/
theorem readPower?_writePower {power : Option (Bool × List Char)}
    (hpower : ∀ p ∈ power, p.2 ≠ [] ∧ ∀ c ∈ p.2, isDigit c = true) (hrest : Ends rest) :
    readPower? (writePower power ++ rest) = some (power, rest) := by
  cases power with
  | none =>
    rw [writePower, List.nil_append]
    cases rest with
    | nil => rfl
    | cons c rest =>
      -- without an exponent, what follows must not look like one
      have hc : ¬(c = 'e' ∨ c = 'E') := by
        rcases hrest c rfl with rfl | rfl | rfl <;> decide
      unfold readPower?
      exact if_neg hc
  | some p =>
    obtain ⟨negative, digits⟩ := p
    obtain ⟨hne, hdigits⟩ : digits ≠ [] ∧ ∀ c ∈ digits, isDigit c = true := hpower _ rfl
    obtain ⟨htake, hdrop⟩ := takeWhile_append_of_head hdigits
      (hrest.not_head (p := isDigit) (by decide) (by decide) (by decide))
    unfold readPower?
    cases negative with
    | true => simp [writePower, htake, hdrop, hne]
    | false => simp [writePower, htake, hdrop, hne]

/-- A fraction is read as it was written, if neither a digit nor a point follows it. -/
theorem readFraction?_writeFraction {fraction : List Char} (hfraction : ∀ c ∈ fraction, isDigit c = true)
    (hrest : ∀ c ∈ rest.head?, isDigit c = false ∧ c ≠ '.') :
    readFraction? (writeFraction fraction ++ rest) = some (fraction, rest) := by
  cases fraction with
  | nil =>
    rw [writeFraction, List.nil_append]
    cases rest with
    | nil => rfl
    | cons c rest =>
      unfold readFraction?
      split
      · next heq => exact absurd (List.cons.inj heq).1 (hrest c rfl).2
      · rfl
  | cons d digits =>
    obtain ⟨htake, hdrop⟩ := takeWhile_append_of_head hfraction fun c hc => (hrest c hc).1
    rw [writeFraction, List.cons_append, readFraction?, htake, hdrop, if_neg (by simp)]

/-- A well-formed number is read as it is written. -/
theorem WellFormed.readNumber?_unsigned (h : n.WellFormed) (hrest : Ends rest) :
    readNumber? n.negative (n.unsigned ++ rest) = some (n, rest) := by
  -- behind the whole part comes a point, an exponent or the end
  have hpower : ∀ c ∈ (writePower n.power ++ rest).head?, isDigit c = false ∧ c ≠ '.' := by
    intro c hc
    cases hp : n.power with
    | none =>
      rw [hp] at hc
      rcases hrest c hc with rfl | rfl | rfl <;> decide
    | some p =>
      rw [hp] at hc
      cases hc
      decide
  have htail : ∀ c ∈ (writeFraction n.fraction ++ (writePower n.power ++ rest)).head?,
      isDigit c = false := by
    intro c hc
    cases hf : n.fraction with
    | nil =>
      rw [hf] at hc
      exact (hpower c hc).1
    | cons d digits =>
      rw [hf] at hc
      cases hc
      decide
  obtain ⟨htake, hdrop⟩ := takeWhile_append_of_head h.whole htail
  have hleading : ¬(n.whole.isEmpty || n.whole.head? == some '0' && decide (1 < n.whole.length)) = true := by
    have hlength := h.leading
    have hne := h.nonempty
    simp only [Bool.or_eq_true, List.isEmpty_iff, Bool.and_eq_true, beq_iff_eq, decide_eq_true_eq]
    rintro (hnil | ⟨hzero, hlong⟩)
    · exact hne hnil
    · have := hlength hzero
      omega
  rw [unsigned, List.append_assoc, List.append_assoc, readNumber?]
  simp only [htake, hdrop]
  rw [if_neg hleading, readFraction?_writeFraction h.fraction hpower]
  simp only [Option.bind_eq_bind, Option.bind_some]
  rw [readPower?_writePower h.power hrest]
  rfl

end NumberText

end Json

/-! ### Floating-point numbers -/

namespace Decimal

open Json (NumberText)

def Scientific.text (negative : Bool) (s : Scientific) : NumberText :=
  if -5 ≤ s.exponent ∧ s.exponent < 16 then
    if s.exponent < 0 then
      ⟨negative, ['0'], List.replicate (-s.exponent - 1).toNat '0' ++ s.digits, none⟩
    else
      let places := s.exponent.toNat + 1
      let fraction := s.digits.drop places
      ⟨negative, s.digits.take places ++ List.replicate (places - s.digits.length) '0',
        if fraction.isEmpty then ['0'] else fraction, none⟩
  else
    ⟨negative, s.digits.take 1, s.digits.drop 1,
      some (decide (s.exponent < 0),
        if s.exponent < 0 then Nat.toDigits 10 (-s.exponent).toNat else Nat.toDigits 10 s.exponent.toNat)⟩

theorem writeFraction_of_ne_nil {fraction : List Char} (h : fraction ≠ []) :
    NumberText.writeFraction fraction = '.' :: fraction := by
  cases fraction with
  | nil => exact absurd rfl h
  | cons c rest => rfl

theorem writeFraction_eq (fraction : List Char) :
    NumberText.writeFraction fraction = if fraction.isEmpty then [] else '.' :: fraction := by
  cases fraction <;> rfl

/-- A scientific form is written as a number without its sign. -/
theorem Scientific.write_eq {s : Scientific} (h : s.digits ≠ []) (negative : Bool) :
    s.write = (s.text negative).unsigned := by
  rw [Scientific.write, Scientific.text]
  split
  · split
    · rw [NumberText.unsigned, writeFraction_of_ne_nil (by simp [h]), NumberText.writePower]
      simp
    · -- the fraction has a digit even where there is nothing behind the point
      have hfraction : (if (s.digits.drop (s.exponent.toNat + 1)).isEmpty then ['0']
          else s.digits.drop (s.exponent.toNat + 1)) ≠ [] := by
        split
        · simp
        · next hne => simpa using hne
      rw [NumberText.unsigned, writeFraction_of_ne_nil hfraction, NumberText.writePower]
      simp
  · rw [NumberText.unsigned, writeFraction_eq, NumberText.writePower]
    split <;> simp [*]

/-- A scientific form is written as a number that JSON allows. -/
theorem Scientific.wellFormed_text {s : Scientific} (h : Leading s.digits) (negative : Bool) :
    (s.text negative).WellFormed := by
  have hzero : Json.isDigit '0' = true := by decide
  rw [Scientific.text]
  split
  · split
    · -- below one, the number begins with a zero and a point
      refine ⟨by simpa using hzero, by simp, by simp, ?_, by simp⟩
      intro c hc
      rcases List.mem_append.1 hc with hc | hc
      · rw [List.eq_of_mem_replicate hc]
        exact hzero
      · exact h.isDigit c hc
    · -- the first digit is not zero and stands before the point, so the number has no leading zero
      obtain ⟨d, digits, hdigits⟩ := List.exists_cons_of_ne_nil h.nonempty
      have hhead := h.head
      rw [hdigits] at hhead ⊢
      refine ⟨?_, by simp, fun hlead => absurd hlead hhead, ?_, by simp⟩
      · intro c hc
        rcases List.mem_append.1 hc with hc | hc
        · exact h.isDigit c (hdigits ▸ List.mem_of_mem_take hc)
        · rw [List.eq_of_mem_replicate hc]
          exact hzero
      · intro c hc
        simp only at hc
        split at hc
        · rw [List.mem_singleton.1 hc]
          exact hzero
        · exact h.isDigit c (hdigits ▸ List.mem_of_mem_drop hc)
  · obtain ⟨d, digits, hdigits⟩ := List.exists_cons_of_ne_nil h.nonempty
    have hhead := h.head
    rw [hdigits] at hhead ⊢
    refine ⟨?_, by simp, fun hlead => absurd hlead hhead, ?_, ?_⟩
    · exact fun c hc => h.isDigit c (hdigits ▸ List.mem_of_mem_take hc)
    · exact fun c hc => h.isDigit c (hdigits ▸ List.mem_of_mem_drop hc)
    · rintro _ ⟨⟩
      split
      · exact ⟨Nat.toDigits_ne_nil, fun c hc => isDigit_of_mem_toDigits hc⟩
      · exact ⟨Nat.toDigits_ne_nil, fun c hc => isDigit_of_mem_toDigits hc⟩

/-- The number that the magnitude of a finite number is written as. -/
def Dyadic.text (negative : Bool) (x : Dyadic) : NumberText :=
  if x.significand = 0 then ⟨negative, ['0'], ['0'], none⟩ else x.shortest.scientific.text negative

/-- The sign of a number is that of its text. -/
theorem Dyadic.negative_text (negative : Bool) (x : Dyadic) : (x.text negative).negative = negative := by
  rw [Dyadic.text, Scientific.text]
  split
  · rfl
  · split
    · split <;> rfl
    · rfl

/-- A magnitude that a floating-point number can have is written as a well-formed number. -/
theorem Dyadic.write_eq {x : Dyadic} (hexponent : -1074 ≤ x.exponent) (negative : Bool) :
    x.write = (x.text negative).unsigned ∧ (x.text negative).WellFormed := by
  rw [Dyadic.write, Dyadic.text]
  split
  · have hzero : Json.isDigit '0' = true := by decide
    exact ⟨rfl, by simp [hzero], by simp, by simp, by simp [hzero], by simp⟩
  · next hsignificand =>
    have hleading := Scaled.leading_scientific (digits_pos_shortest (Nat.pos_of_ne_zero hsignificand) hexponent)
    exact ⟨Scientific.write_eq hleading.nonempty negative, Scientific.wellFormed_text hleading negative⟩

/-- The exponents of floating-point numbers are not too small. -/
theorem Reading.exponent_ge {bits : UInt64} {negative : Bool} {magnitude : Dyadic}
    (h : Reading.ofBits bits = .finite negative magnitude) : -1074 ≤ magnitude.exponent := by
  rw [Reading.ofBits] at h
  split at h
  · split at h <;> cases h
  · split at h
    · cases h
      exact Int.le_refl _
    · next hfield =>
      cases h
      show (-1074 : Int) ≤ ((bits.toNat / 0x10000000000000 % 2048 : Nat) : Int) - 1075
      omega

end Decimal

/-! ### Numbers of JSON -/

namespace Json

/-- The number that a number of JSON is written as; an infinite one is written in another way. -/
def Number.text? : Number → Option NumberText
  | .natural n => some ⟨false, Nat.toDigits 10 n.toNat, [], none⟩
  | .negative n => some ⟨true, Nat.toDigits 10 n.natAbs, [], none⟩
  | .float x =>
    match Decimal.Reading.ofFloat x with
    | .finite sign magnitude => some (magnitude.text sign)
    | _ => none

/-- The digits of a natural number are a number. -/
theorem NumberText.wellFormed_toDigits (negative : Bool) (n : Nat) :
    NumberText.WellFormed ⟨negative, Nat.toDigits 10 n, [], none⟩ where
  whole c hc := Decimal.isDigit_of_mem_toDigits hc
  nonempty := Nat.toDigits_ne_nil
  leading hzero := by
    rcases Nat.eq_zero_or_pos n with rfl | hpositive
    · rfl
    · exact absurd hzero (Decimal.head?_toDigits_ne_zero hpositive)
  fraction := by simp
  power := by simp

/-- A number that is not infinite is written as a well-formed number. -/
theorem Number.write_of_text? {n : Number} {text : NumberText} (h : n.text? = some text) :
    n.write = text.write ∧ text.WellFormed := by
  cases n with
  | natural n =>
    cases h
    exact ⟨by simp [Number.write, NumberText.write, NumberText.unsigned, NumberText.writeFraction,
      NumberText.writePower], NumberText.wellFormed_toDigits _ _⟩
  | negative n =>
    cases h
    exact ⟨by simp [Number.write, NumberText.write, NumberText.unsigned, NumberText.writeFraction,
      NumberText.writePower], NumberText.wellFormed_toDigits _ _⟩
  | float x =>
    rw [Number.text?] at h
    split at h
    · next sign magnitude hreading =>
      cases h
      obtain ⟨hwrite, hformed⟩ := Decimal.Dyadic.write_eq (Decimal.Reading.exponent_ge hreading) sign
      refine ⟨?_, hformed⟩
      rw [Number.write, Decimal.write?, hreading, NumberText.write, ← hwrite,
        Decimal.Dyadic.negative_text]
      simp
    · cases h

/-- Any other number is written as null. -/
theorem Number.write_of_text?_eq_none {n : Number} (h : n.text? = none) : n.write = "null".toList := by
  cases n with
  | natural n => cases h
  | negative n => cases h
  | float x =>
    rw [Number.text?] at h
    split at h
    · cases h
    · next hreading =>
      rw [Number.write, Decimal.write?]
      split
      · next sign magnitude hfinite => exact absurd hfinite (hreading sign magnitude)
      · rfl

end Json

end Concordance
