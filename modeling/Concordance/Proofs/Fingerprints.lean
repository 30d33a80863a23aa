import Concordance.Corpus
import Concordance.Proofs.Outcomes
import Concordance.Proofs.Utf8
import Concordance.Unicode.Database

/-!
# What a fingerprint tells apart

The records of a corpus are written one behind the other, with neither lengths nor quoting. But a path holds
no NUL, and the digits of a number hold neither NUL nor a line feed, so every part ends at the first separator
behind it: a record is taken off the front in one way only (`Record.bytes_append_inj`), whatever else stands in
its path. So views with one fingerprint have the same records, or else the hash of different bytes is the same
(`same_records_or_collision`).
-/

namespace Concordance

open Text

/-! ### Parts that a separator ends -/

/-- The first separator ends what stands before it. -/
theorem eq_of_append_separator {α : Type} {separator : α} {front other rest behind : List α}
    (hfront : separator ∉ front) (hother : separator ∉ other)
    (h : front ++ separator :: rest = other ++ separator :: behind) : front = other ∧ rest = behind := by
  rcases List.append_eq_append_iff.1 h with ⟨middle, rfl, hmiddle⟩ | ⟨middle, rfl, hmiddle⟩
  · cases middle with
    | nil => simpa using hmiddle
    | cons c middle =>
        obtain ⟨rfl, -⟩ := List.cons.inj hmiddle
        exact absurd (by simp) hother
  · cases middle with
    | nil => simpa [eq_comm] using hmiddle
    | cons c middle =>
        obtain ⟨rfl, -⟩ := List.cons.inj hmiddle
        exact absurd (by simp) hfront

/-- A number is written in digits alone. -/
theorem not_mem_encode_toString {b : UInt8} (hb : b.toNat < '0'.toNat) (n : Nat) :
    b ∉ encode (toString n) := by
  intro hmem
  have hzero : '0'.toNat = 48 := rfl
  obtain ⟨c, hc, hbyte⟩ := exists_of_mem_encode (by omega) hmem
  rw [Nat.toString_eq_ofList_toDigits, String.toList_ofList] at hc
  have hdigit := Nat.isDigit_of_mem_toDigits (by decide) (by decide) hc
  rw [Char.isDigit_iff_toNat] at hdigit
  omega

theorem toString_injective : Function.Injective (toString : Nat → String) := by
  intro m n h
  rw [Nat.toString_eq_ofList_toDigits, Nat.toString_eq_ofList_toDigits] at h
  have hdigits : Nat.toDigits 10 m = Nat.toDigits 10 n := by
    simpa using congrArg String.toList h
  calc m = Nat.ofDigitChars 10 (Nat.toDigits 10 m) 0 := (Nat.ofDigitChars_toDigits (by decide) (by decide)).symm
    _ = Nat.ofDigitChars 10 (Nat.toDigits 10 n) 0 := by rw [hdigits]
    _ = n := Nat.ofDigitChars_toDigits (by decide) (by decide)

namespace DirectoryCorpus

/-! ### Records -/

/-- The path of the record holds no NUL, as no path does that a file can have. -/
def Record.Plain (record : Record) : Prop :=
  '\x00' ∉ record.path.toList

instance (record : Record) : Decidable record.Plain :=
  inferInstanceAs (Decidable (_ ∉ _))

variable {one other : Record} {ones others : List Record}

theorem Record.Plain.zero_not_mem (h : one.Plain) : 0 ∉ encode one.path := by
  intro hmem
  obtain ⟨c, hc, hzero⟩ := exists_of_mem_encode (by decide) hmem
  obtain rfl : c = '\x00' := Char.toNat_inj.1 hzero
  exact h hc

/-- A record is taken off the front of bytes in one way only. -/
theorem Record.bytes_append_inj (hone : one.Plain) (hother : other.Plain) {rest behind : List UInt8}
    (h : one.bytes ++ rest = other.bytes ++ behind) : one = other ∧ rest = behind := by
  simp only [Record.bytes, List.append_assoc, List.cons_append, List.nil_append] at h
  have hzero (n : Nat) : 0 ∉ encode (toString n) := not_mem_encode_toString (by decide) n
  have hfeed (n : Nat) : 0x0A ∉ encode (toString n) := not_mem_encode_toString (by decide) n
  obtain ⟨hpath, h⟩ := eq_of_append_separator hone.zero_not_mem hother.zero_not_mem h
  obtain ⟨hsize, h⟩ := eq_of_append_separator (hzero _) (hzero _) h
  obtain ⟨htime, h⟩ := eq_of_append_separator (hfeed _) (hfeed _) h
  refine ⟨?_, h⟩
  obtain ⟨path, size, modified⟩ := one
  obtain rfl := encode_injective hpath
  obtain rfl := toString_injective (encode_injective hsize)
  obtain rfl := toString_injective (encode_injective htime)
  rfl

theorem Record.bytes_ne_nil (record : Record) : record.bytes ≠ [] := by
  simp [Record.bytes]

/-- No two lists of records are written alike. -/
theorem fingerprintBytes_inj (hones : ∀ record ∈ ones, record.Plain)
    (hothers : ∀ record ∈ others, record.Plain)
    (h : fingerprintBytes ones = fingerprintBytes others) : ones = others := by
  induction ones generalizing others with
  | nil =>
      cases others with
      | nil => rfl
      | cons other others =>
          rw [fingerprintBytes, fingerprintBytes, List.flatMap_nil, List.flatMap_cons] at h
          simp [other.bytes_ne_nil] at h
  | cons one ones ih =>
      cases others with
      | nil =>
          rw [fingerprintBytes, fingerprintBytes, List.flatMap_nil, List.flatMap_cons] at h
          simp [one.bytes_ne_nil] at h
      | cons other others =>
          rw [fingerprintBytes, fingerprintBytes, List.flatMap_cons, List.flatMap_cons] at h
          -- a record tells where its bytes end, so both lists begin with the same one
          obtain ⟨rfl, hrest⟩ := Record.bytes_append_inj (hones _ List.mem_cons_self)
            (hothers _ List.mem_cons_self) h
          rw [ih (fun r hr => hones r (List.mem_cons_of_mem _ hr))
            (fun r hr => hothers r (List.mem_cons_of_mem _ hr)) hrest]

variable [CharacterTable]

/-! ### Views -/

def records (corpus : DirectoryCorpus) (tree : FileTree) : Except LoadError (List Record) := do
  (← corpus.articles tree).mapM record

/-- The fingerprint of a view is the hash of its records. -/
theorem fingerprint_view {corpus : DirectoryCorpus} {tree : FileTree} (h : corpus.records tree = .ok ones) :
    (corpus.view tree).fingerprint = .ok (some (stableHash (fingerprintBytes ones))) := by
  obtain ⟨found, hfound, hrecords⟩ := bind_eq_ok.1 h
  simp only [view, hfound, hrecords, ok_bind]
  rfl

/-- Lists of records whose bytes are the same are the same. So two views of corpora that have the same
fingerprint have the same records, or else there are different bytes of which the hash is the same. -/
theorem same_records_or_collision (hones : ∀ record ∈ ones, record.Plain)
    (hothers : ∀ record ∈ others, record.Plain) :
    (fingerprintBytes ones = fingerprintBytes others → ones = others) ∧
      ∀ (a b : DirectoryCorpus) (s t : FileTree), a.records s = .ok ones → b.records t = .ok others →
        (a.view s).fingerprint = (b.view t).fingerprint →
          ones = others ∨ fingerprintBytes ones ≠ fingerprintBytes others ∧
            stableHash (fingerprintBytes ones) = stableHash (fingerprintBytes others) := by
  refine ⟨fingerprintBytes_inj hones hothers, ?_⟩
  intro a b s t ha hb h
  rw [fingerprint_view ha, fingerprint_view hb, Except.ok.injEq, Option.some.injEq] at h
  by_cases hbytes : fingerprintBytes ones = fingerprintBytes others
  · exact .inl (fingerprintBytes_inj hones hothers hbytes)
  · exact .inr ⟨hbytes, h⟩

end DirectoryCorpus

end Concordance

namespace Concordance.Unicode

open DirectoryCorpus

/-- A path that goes on as a record would, with a line feed and digits, is not taken for the record of another
file. -/
theorem same_records_or_collision_lines :
    (∀ record ∈ [Record.mk "a" 1 2, ⟨"3", 4, 5⟩], record.Plain) ∧
      (∀ record ∈ [Record.mk "a1\n" 1 2, ⟨"\n3", 4, 5⟩, ⟨"", 0, 0⟩], record.Plain) ∧
      fingerprintBytes [⟨"a", 1, 2⟩, ⟨"3", 4, 5⟩] ≠
        fingerprintBytes [⟨"a1\n", 1, 2⟩, ⟨"\n3", 4, 5⟩, ⟨"", 0, 0⟩] := by
  have hones : ∀ record ∈ [Record.mk "a" 1 2, ⟨"3", 4, 5⟩], record.Plain := by decide
  have hothers : ∀ record ∈ [Record.mk "a1\n" 1 2, ⟨"\n3", 4, 5⟩, ⟨"", 0, 0⟩], record.Plain := by
    decide
  refine ⟨hones, hothers, fun h => ?_⟩
  exact absurd ((same_records_or_collision hones hothers).1 h) (by decide)

end Concordance.Unicode
