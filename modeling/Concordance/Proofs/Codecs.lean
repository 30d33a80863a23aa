import Concordance.Binary.Codec
import Concordance.Proofs.Outcomes
import Concordance.Proofs.SortedMaps
import Concordance.Proofs.Utf8

/-!
# What was written is read again

A codec is lawful if it reads what it has written and leaves what comes behind it. Lengths take eight
bytes, so this holds of values that take fewer than `2 ^ 64` bytes (`lengthBound`); each way to combine
codecs keeps the law. Numbers of a fixed width and texts have one form each, so they are read off the front
of bytes only where they were written (`readNumber?_eq_some_iff`, `read_text_eq_ok_iff`).

Whatever the bytes are, a lawful codec reads on from where it stands, and it runs out of room only where they
announce more than is there and more than can be had (`Announces`). Nothing that was written does that.
-/

namespace Concordance

open Text

/-! ### Bytes at the front -/

@[simp] theorem takeBytes?_append (taken rest : List UInt8) :
    takeBytes? taken.length (taken ++ rest) = some (taken, rest) := by
  induction taken with
  | nil => rfl
  | cons b bytes ih => rw [List.length_cons, List.cons_append, takeBytes?, ih, Option.map_some]

@[simp] theorem length_littleEndian (width n : Nat) : (littleEndian width n).length = width := by
  induction width generalizing n with
  | zero => rfl
  | succ width ih => rw [littleEndian, List.length_cons, ih]

/-- A number that fits its width is its bytes. -/
theorem ofLittleEndian_littleEndian {width n : Nat} (h : n < 256 ^ width) :
    ofLittleEndian (littleEndian width n) = n := by
  induction width generalizing n with
  | zero =>
    rw [Nat.pow_zero] at h
    show 0 = n
    omega
  | succ width ih =>
    have hdiv : n / 256 < 256 ^ width := by
      rw [Nat.div_lt_iff_lt_mul (by omega), ← Nat.pow_succ]
      exact h
    rw [littleEndian, ofLittleEndian, ih hdiv, UInt8.toNat_ofNat']
    omega

/-- A number that was written is read again. -/
theorem readNumber?_littleEndian {width n : Nat} (h : n < 256 ^ width) (rest : List UInt8) :
    readNumber? width (littleEndian width n ++ rest) = some (n, rest) := by
  have htake := takeBytes?_append (littleEndian width n) rest
  rw [length_littleEndian] at htake
  rw [readNumber?, htake, Option.map_some]
  simp only [ofLittleEndian_littleEndian h]

/-- What is taken stands at the front. -/
theorem takeBytes?_eq_some_iff {count : Nat} {bytes taken rest : List UInt8} :
    takeBytes? count bytes = some (taken, rest) ↔ bytes = taken ++ rest ∧ taken.length = count := by
  constructor
  · intro h
    induction count generalizing bytes taken with
    | zero =>
        cases h
        exact ⟨rfl, rfl⟩
    | succ count ih =>
        cases bytes with
        | nil => cases h
        | cons b bytes =>
            obtain ⟨⟨more, behind⟩, htake, heq⟩ := Option.map_eq_some_iff.1 h
            cases heq
            obtain ⟨rfl, rfl⟩ := ih htake
            exact ⟨rfl, rfl⟩
  · rintro ⟨rfl, rfl⟩
    exact takeBytes?_append taken rest

/-- Bytes are there, or there are too few of them. -/
theorem takeBytes?_eq_none_iff {count : Nat} {bytes : List UInt8} :
    takeBytes? count bytes = none ↔ bytes.length < count := by
  constructor
  · intro h
    by_contra hle
    have htake := takeBytes?_eq_some_iff.2 ⟨(List.take_append_drop count bytes).symm,
      List.length_take_of_le (Nat.not_lt.1 hle)⟩
    rw [h] at htake
    cases htake
  · intro hlt
    by_contra h
    obtain ⟨⟨taken, rest⟩, htake⟩ := Option.ne_none_iff_exists'.1 h
    obtain ⟨rfl, rfl⟩ := takeBytes?_eq_some_iff.1 htake
    rw [List.length_append] at hlt
    omega

/-- So many bytes hold a number below that power of 256. -/
theorem ofLittleEndian_lt (bytes : List UInt8) : ofLittleEndian bytes < 256 ^ bytes.length := by
  induction bytes with
  | nil => exact Nat.one_pos
  | cons b bytes ih =>
      have hb := b.toNat_lt
      rw [ofLittleEndian, List.length_cons, Nat.pow_succ]
      omega

/-- Bytes are those of their number in their width. -/
theorem littleEndian_ofLittleEndian (bytes : List UInt8) :
    littleEndian bytes.length (ofLittleEndian bytes) = bytes := by
  induction bytes with
  | nil => rfl
  | cons b bytes ih =>
      have hb := b.toNat_lt
      have hlow : UInt8.ofNat (b.toNat + 256 * ofLittleEndian bytes) = b := by
        apply UInt8.toNat_inj.1
        rw [UInt8.toNat_ofNat']
        omega
      have hhigh : (b.toNat + 256 * ofLittleEndian bytes) / 256 = ofLittleEndian bytes := by
        omega
      rw [List.length_cons, ofLittleEndian, littleEndian, hlow, hhigh, ih]

/-- A number is read where its bytes stand at the front. -/
theorem readNumber?_eq_some_iff {width n : Nat} {bytes rest : List UInt8} :
    readNumber? width bytes = some (n, rest) ↔ bytes = littleEndian width n ++ rest ∧ n < 256 ^ width := by
  constructor
  · intro h
    obtain ⟨⟨taken, behind⟩, htake, heq⟩ := Option.map_eq_some_iff.1 h
    cases heq
    obtain ⟨rfl, rfl⟩ := takeBytes?_eq_some_iff.1 htake
    rw [littleEndian_ofLittleEndian]
    exact ⟨rfl, ofLittleEndian_lt taken⟩
  · rintro ⟨rfl, hn⟩
    exact readNumber?_littleEndian hn rest

namespace Codec

variable {α β : Type} {codec : Codec α} {first : Codec α} {second : Codec β} {room : Nat}
  {read : List UInt8 → Except DecodeFault (α × List UInt8)} {bytes : List UInt8}

/-- What takes this many bytes does not fit a length of eight bytes. -/
def lengthBound : Nat := 2 ^ 64

theorem lengthBound_eq : lengthBound = 256 ^ 8 := by
  decide

/-! ### Reading on -/

/-- Somewhere in the bytes stands a length for which there is no room, before fewer bytes than that. -/
def Announces (room : Nat) (bytes : List UInt8) (length : Nat) : Prop :=
  ∃ before behind, bytes = before ++ littleEndian 8 length ++ behind ∧ behind.length < length ∧ room < length

theorem Announces.of_suffix {rest : List UInt8} {length : Nat} (hrest : rest <:+ bytes)
    (h : Announces room rest length) : Announces room bytes length := by
  obtain ⟨front, rfl⟩ := hrest
  obtain ⟨before, behind, rfl, hbehind, hroom⟩ := h
  exact ⟨front ++ before, behind, by simp only [List.append_assoc], hbehind, hroom⟩

/-- A reader leaves an end of the bytes, and it runs out of room only where they announce too much. -/
structure Sequential (room : Nat) (read : List UInt8 → Except DecodeFault (α × List UInt8)) : Prop where
  suffix {bytes rest : List UInt8} {a : α} : read bytes = .ok (a, rest) → rest <:+ bytes
  announces {bytes : List UInt8} {length : Nat} :
    read bytes = .error (.exhausted length) → Announces room bytes length

/-- What is read of nothing leaves everything. -/
theorem Sequential.pure (a : α) : Sequential room fun bytes => .ok (a, bytes) where
  suffix h := by
    cases h
    exact List.suffix_rfl
  announces h := by cases h

/-- Two readers, one after the other. -/
theorem Sequential.bind {next : α → List UInt8 → Except DecodeFault (β × List UInt8)}
    (h : Sequential room read) (hnext : ∀ a, Sequential room (next a)) :
    Sequential room fun bytes => read bytes >>= fun got => next got.1 got.2 where
  suffix hread := by
    obtain ⟨⟨a, rest⟩, hfirst, hsecond⟩ := bind_eq_ok.1 hread
    exact ((hnext a).suffix hsecond).trans (h.suffix hfirst)
  announces hread := by
    rcases bind_eq_error.1 hread with hfirst | ⟨⟨a, rest⟩, hfirst, hsecond⟩
    · exact h.announces hfirst
    · exact ((hnext a).announces hsecond).of_suffix (h.suffix hfirst)

theorem orInvalid_eq_ok {o : Option α} {a : α} : orInvalid o = .ok a ↔ o = some a := by
  cases o <;> simp [orInvalid]

theorem orInvalid_ne_exhausted {o : Option α} {length : Nat} : orInvalid o ≠ .error (.exhausted length) := by
  cases o <;> simp [orInvalid]

/-- A number is read where its bytes stand at the front. -/
theorem read_number_eq_ok_iff {width n : Nat} {rest : List UInt8} :
    (number width).read room bytes = .ok (n, rest) ↔
      bytes = littleEndian width n ++ rest ∧ n < 256 ^ width :=
  orInvalid_eq_ok.trans readNumber?_eq_some_iff

theorem sequential_number (width room : Nat) : Sequential room ((number width).read room) where
  suffix h := by
    obtain ⟨rfl, -⟩ := read_number_eq_ok_iff.1 h
    exact List.suffix_append _ _
  announces h := absurd h orInvalid_ne_exhausted

/-! ### Lawful codecs -/

/-- A codec reads what it has written, whatever comes behind, and other bytes from the front on. -/
structure Lawful (codec : Codec α) : Prop where
  /-- Every value takes a byte, so a list is no longer than its bytes. -/
  write_ne_nil : ∀ value, codec.write value ≠ []
  read_write : ∀ room value rest, (codec.write value).length < lengthBound →
    codec.read room (codec.write value ++ rest) = .ok (value, rest)
  sequential : ∀ room, Sequential room (codec.read room)

/-- A reader whose values are renamed reads on as before. -/
theorem Sequential.map (h : Sequential room (codec.read room)) (build : α → β) (take : β → α) :
    Sequential room ((codec.map build take).read room) where
  suffix hread := by
    obtain ⟨_, hvalue, heq⟩ := map_eq_ok.1 hread
    cases heq
    exact h.suffix hvalue
  announces hread := h.announces (map_eq_error.1 hread)

/-- Values that correspond to those of a lawful codec have a lawful codec. -/
theorem Lawful.map (h : codec.Lawful) {build : α → β} {take : β → α}
    (hbuild : ∀ b, build (take b) = b) : (codec.map build take).Lawful where
  write_ne_nil b := h.write_ne_nil (take b)
  read_write room b rest hlength :=
    map_eq_ok.2 ⟨_, h.read_write room (take b) rest hlength, by simp only [hbuild]⟩
  sequential room := (h.sequential room).map build take

theorem read_map_eq_error_iff {build : α → β} {take : β → α} {fault : DecodeFault} :
    (codec.map build take).read room bytes = .error fault ↔ codec.read room bytes = .error fault :=
  map_eq_error

/-- Values that are numbers of so many bytes have a lawful codec. -/
theorem Lawful.of_number {width : Nat} {build : Nat → α} {take : α → Nat} (hwidth : 0 < width)
    (hfits : ∀ a, take a < 256 ^ width) (hbuild : ∀ a, build (take a) = a) :
    ((number width).map build take).Lawful where
  write_ne_nil a := by
    apply List.ne_nil_of_length_pos
    exact (length_littleEndian width (take a)).symm ▸ hwidth
  read_write room a rest _ := by
    have hread : (number width).read room (littleEndian width (take a) ++ rest) = .ok (take a, rest) :=
      read_number_eq_ok_iff.2 ⟨rfl, hfits a⟩
    exact map_eq_ok.2 ⟨_, hread, by simp only [hbuild]⟩
  sequential room := (sequential_number width room).map build take

theorem lawful_word32 : word32.Lawful :=
  .of_number (by decide) (fun n => n.toNat_lt) fun _ => UInt32.ofNat_toNat

theorem lawful_word64 : word64.Lawful :=
  .of_number (by decide) (fun n => n.toNat_lt) fun _ => UInt64.ofNat_toNat

/-- A truth value announces nothing, and a third byte is a plain fault. -/
theorem lawful_bool : bool.Lawful where
  write_ne_nil _ := List.cons_ne_nil _ _
  read_write _ b _ _ := by cases b <;> rfl
  sequential room :=
    { suffix := by
        intro bytes rest b h
        unfold bool at h
        dsimp only at h
        split at h <;> cases h <;> exact List.suffix_cons _ _
      announces := by
        intro bytes length h
        unfold bool at h
        dsimp only at h
        split at h <;> cases h }

/-! ### Combinations -/

/-- Two values that can be read can be read one after the other. -/
theorem Lawful.pair (hfirst : first.Lawful) (hsecond : second.Lawful) :
    (Codec.pair first second).Lawful where
  write_ne_nil value hnil := hfirst.write_ne_nil value.1 (List.append_eq_nil_iff.1 hnil).1
  read_write := by
    rintro room ⟨a, b⟩ rest hlength
    have hwrite : (Codec.pair first second).write (a, b) = first.write a ++ second.write b := rfl
    rw [hwrite, List.length_append] at hlength
    rw [hwrite, List.append_assoc]
    refine bind_eq_ok.2 ⟨_, hfirst.read_write room a _ (by omega), ?_⟩
    exact bind_eq_ok.2 ⟨_, hsecond.read_write room b _ (by omega), rfl⟩
  sequential room :=
    (hfirst.sequential room).bind fun a => (hsecond.sequential room).bind fun b => .pure (a, b)

theorem read_pair_eq_error {fault : DecodeFault} (h : first.read room bytes = .error fault) :
    (Codec.pair first second).read room bytes = .error fault :=
  bind_eq_error.2 (.inl h)

/-- A value that may be missing is told by the byte before it. -/
theorem Lawful.option (h : codec.Lawful) : (Codec.option codec).Lawful where
  write_ne_nil value := by
    -- the byte in front tells whether a value follows
    cases value with
    | none => exact List.cons_ne_nil _ _
    | some a => exact List.cons_ne_nil _ _
  read_write room value rest hlength := by
    cases value with
    | none => rfl
    | some a =>
      have hwrite : (Codec.option codec).write (some a) = 1 :: codec.write a := rfl
      rw [hwrite, List.length_cons] at hlength
      exact map_eq_ok.2 ⟨_, h.read_write room a rest (by omega), rfl⟩
  sequential room :=
    { suffix := by
        intro bytes rest value hread
        unfold Codec.option at hread
        dsimp only at hread
        split at hread
        · cases hread
          exact List.suffix_cons _ _
        · obtain ⟨_, hvalue, heq⟩ := map_eq_ok.1 hread
          cases heq
          exact ((h.sequential room).suffix hvalue).trans (List.suffix_cons _ _)
        · cases hread
      announces := by
        intro bytes length hread
        unfold Codec.option at hread
        dsimp only at hread
        split at hread
        · cases hread
        · exact ((h.sequential room).announces (map_eq_error.1 hread)).of_suffix (List.suffix_cons _ _)
        · cases hread }

/-! ### What stands behind its length -/

theorem length_write_text (s : String) : (text.write s).length = 8 + (encode s).length := by
  have hwrite : text.write s = littleEndian 8 (encode s).length ++ encode s := rfl
  rw [hwrite, List.length_append, length_littleEndian]

theorem readBytes_eq_ok_iff {length : Nat} {taken rest : List UInt8} :
    readBytes room length bytes = .ok (taken, rest) ↔ bytes = taken ++ rest ∧ taken.length = length := by
  rw [← takeBytes?_eq_some_iff, readBytes]
  cases takeBytes? length bytes <;> simp

/-- There is no room for more bytes than can be had, where so many are not there. -/
theorem readBytes_eq_exhausted_iff {length n : Nat} :
    readBytes room length bytes = .error (.exhausted n) ↔
      n = length ∧ bytes.length < length ∧ room < length := by
  rw [readBytes, ← takeBytes?_eq_none_iff]
  cases takeBytes? length bytes with
  | some taken => simp
  | none =>
    by_cases hroom : room < length
    · simp [hroom, eq_comm]
    · simp [hroom]

/-- A text is read where it stands at the front with its length before it. -/
theorem read_text_eq_ok_iff {s : String} {rest : List UInt8} :
    text.read room bytes = .ok (s, rest) ↔
      bytes = text.write s ++ rest ∧ (encode s).length < lengthBound := by
  have hwrite : text.write s ++ rest = littleEndian 8 (encode s).length ++ (encode s ++ rest) :=
    List.append_assoc _ _ _
  rw [hwrite]
  constructor
  · intro h
    -- what is read is taken apart from the front: the length, that many bytes, their text
    obtain ⟨⟨length, behind⟩, hlength, h⟩ := bind_eq_ok.1 h
    obtain ⟨⟨taken, left⟩, htake, h⟩ := bind_eq_ok.1 h
    obtain ⟨spelled, hdecode, heq⟩ := bind_eq_ok.1 h
    cases heq
    obtain ⟨rfl, hbound⟩ := read_number_eq_ok_iff.1 hlength
    obtain ⟨rfl, rfl⟩ := readBytes_eq_ok_iff.1 htake
    obtain rfl := encode_of_decode? (orInvalid_eq_ok.1 hdecode)
    exact ⟨rfl, lengthBound_eq ▸ hbound⟩
  · rintro ⟨rfl, hbound⟩
    refine bind_eq_ok.2 ⟨_, read_number_eq_ok_iff.2 ⟨rfl, lengthBound_eq ▸ hbound⟩, ?_⟩
    refine bind_eq_ok.2 ⟨_, readBytes_eq_ok_iff.2 ⟨rfl, rfl⟩, ?_⟩
    exact bind_eq_ok.2 ⟨s, orInvalid_eq_ok.2 (decode?_encode s), rfl⟩

/-- There is no room for a text whose length stands at the front before fewer bytes, if the length is more
than can be had. -/
theorem read_text_eq_exhausted_iff {length : Nat} :
    text.read room bytes = .error (.exhausted length) ↔
      ∃ behind, bytes = littleEndian 8 length ++ behind ∧ length < lengthBound ∧
        behind.length < length ∧ room < length := by
  constructor
  · intro h
    rcases bind_eq_error.1 h with hlength | ⟨⟨n, behind⟩, hlength, hread⟩
    · exact absurd hlength orInvalid_ne_exhausted
    obtain ⟨rfl, hbound⟩ := read_number_eq_ok_iff.1 hlength
    rcases bind_eq_error.1 hread with htake | ⟨_, -, hspell⟩
    · obtain ⟨rfl, hbehind, hroom⟩ := readBytes_eq_exhausted_iff.1 htake
      exact ⟨behind, rfl, lengthBound_eq ▸ hbound, hbehind, hroom⟩
    · rcases bind_eq_error.1 hspell with hdecode | ⟨_, -, hdone⟩
      · exact absurd hdecode orInvalid_ne_exhausted
      · cases hdone
  · rintro ⟨behind, rfl, hbound, hbehind, hroom⟩
    refine bind_eq_error.2 (.inr ⟨_, read_number_eq_ok_iff.2 ⟨rfl, lengthBound_eq ▸ hbound⟩, ?_⟩)
    exact bind_eq_error.2 (.inl (readBytes_eq_exhausted_iff.2 ⟨rfl, hbehind, hroom⟩))

/-- A text is lawful, and the only codec that asks for room. -/
theorem lawful_text : text.Lawful where
  write_ne_nil _ := List.cons_ne_nil _ _
  read_write room s rest hlength := by
    rw [length_write_text] at hlength
    exact read_text_eq_ok_iff.2 ⟨rfl, by omega⟩
  sequential room :=
    { suffix := by
        intro bytes rest s h
        obtain ⟨rfl, -⟩ := read_text_eq_ok_iff.1 h
        exact List.suffix_append _ _
      announces := by
        intro bytes length h
        -- the length that is announced stands at the front
        obtain ⟨behind, rfl, -, hbehind, hroom⟩ := read_text_eq_exhausted_iff.1 h
        exact ⟨[], behind, rfl, hbehind, hroom⟩ }

/-- Items that were written one after the other are read one after the other. -/
theorem Lawful.readMany_write (h : codec.Lawful) (room : Nat) {items : List α} (rest : List UInt8)
    (hlength : (items.flatMap codec.write).length < lengthBound) :
    readMany codec room items.length (items.flatMap codec.write ++ rest) = .ok (items, rest) := by
  induction items with
  | nil => rfl
  | cons item items ih =>
      rw [List.flatMap_cons, List.length_append] at hlength
      rw [List.length_cons, List.flatMap_cons, List.append_assoc]
      refine bind_eq_ok.2 ⟨_, h.read_write room item _ (by omega), ?_⟩
      exact bind_eq_ok.2 ⟨_, ih (by omega), rfl⟩

theorem Lawful.sequential_readMany (h : codec.Lawful) (room count : Nat) :
    Sequential room (readMany codec room count) := by
  induction count with
  | zero => exact .pure []
  | succ count ih => exact (h.sequential room).bind fun a => ih.bind fun as => .pure (a :: as)

/-- No item takes less than a byte. -/
theorem Lawful.length_le (h : codec.Lawful) (items : List α) :
    items.length ≤ (items.flatMap codec.write).length := by
  induction items with
  | nil => exact Nat.zero_le _
  | cons item items ih =>
      have hpos := List.length_pos_iff.2 (h.write_ne_nil item)
      rw [List.flatMap_cons, List.length_append, List.length_cons]
      omega

/-- Values that can be read can be read as a list, behind their number. -/
theorem Lawful.list (h : codec.Lawful) : (Codec.list codec).Lawful where
  write_ne_nil _ := List.cons_ne_nil _ _
  read_write room items rest hlength := by
    have hwrite : (Codec.list codec).write items =
        littleEndian 8 items.length ++ items.flatMap codec.write := rfl
    rw [hwrite, List.length_append] at hlength
    -- every item takes at least one byte, so the number of items fits its eight bytes
    have hcount : items.length < 256 ^ 8 := by
      have := h.length_le items
      rw [← lengthBound_eq]
      omega
    rw [hwrite, List.append_assoc]
    refine bind_eq_ok.2 ⟨_, read_number_eq_ok_iff.2 ⟨rfl, hcount⟩, ?_⟩
    exact h.readMany_write room rest (by omega)
  sequential room := (sequential_number 8 room).bind fun count => h.sequential_readMany room count

theorem Lawful.sortedMap (h : codec.Lawful) : (Codec.sortedMap codec).Lawful :=
  (lawful_text.pair h).list.map SortedMap.ofList_entries

end Codec

end Concordance
