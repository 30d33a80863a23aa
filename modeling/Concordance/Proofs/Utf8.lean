import Concordance.Text.Utf8

/-!
# Reading text that was written

The bytes of a text hold no flaw, and they spell the text. Each of the four lengths of a character is
a case of its own: the first byte tells the length and the highest bits, and every further byte adds
six bits (`readTail_cons`). The other way round, bytes without a flaw are those of the text that they
spell (`encode_of_decode?`), as the bounds of the second byte leave one form for each character.
-/

namespace Concordance.Text

/-! ### One character -/

/-- A further byte within its bounds adds six bits. -/
theorem readTail_cons {value n more : Nat} {low high : UInt8} {rest : List UInt8}
    (hlow : low.toNat ≤ n % 64 + 128) (hhigh : n % 64 + 128 ≤ high.toNat) :
    readTail value low high (more + 1) (UInt8.ofNat (n % 64 + 128) :: rest) =
      readTail (64 * value + n % 64) 0x80 0xBF more rest := by
  have hbyte : (UInt8.ofNat (n % 64 + 128)).toNat = n % 64 + 128 :=
    UInt8.toNat_ofNat_of_lt' (by show _ < 256; omega)
  rw [readTail, if_pos, hbyte, Nat.add_sub_cancel]
  rw [UInt8.le_iff_toNat_le, UInt8.le_iff_toNat_le, hbyte]
  exact ⟨hlow, hhigh⟩

/-- What the first byte of a character tells, as a number. -/
theorem lead?_ofNat {n : Nat} (h : n < 256) :
    lead? (UInt8.ofNat n) =
      if n < 0x80 then some ⟨n, 0, 0x80, 0xBF⟩
      else if n < 0xC2 then none
      else if n < 0xE0 then some ⟨n - 0xC0, 1, 0x80, 0xBF⟩
      else if n < 0xF0 then
        some ⟨n - 0xE0, 2, if n = 0xE0 then 0xA0 else 0x80, if n = 0xED then 0x9F else 0xBF⟩
      else if n < 0xF5 then
        some ⟨n - 0xF0, 3, if n = 0xF0 then 0x90 else 0x80, if n = 0xF4 then 0x8F else 0xBF⟩
      else none := by
  rw [lead?, UInt8.toNat_ofNat_of_lt' h]

variable {n : Nat} (rest : List UInt8)

theorem readChar_one (h : n < 0x80) : readChar (UInt8.ofNat n) rest = (some (Char.ofNat n), rest) := by
  rw [readChar, lead?_ofNat (by omega), if_pos (by omega)]
  simp only [readTail]

theorem readChar_two (hlow : 0x80 ≤ n) (hhigh : n < 0x800) :
    readChar (UInt8.ofNat (n / 64 % 32 + 192)) (UInt8.ofNat (n % 64 + 128) :: rest) =
      (some (Char.ofNat n), rest) := by
  have hn : 64 * (n / 64 % 32 + 192 - 192) + n % 64 = n := by omega
  rw [readChar, lead?_ofNat (by omega), if_neg (by omega), if_neg (by omega), if_pos (by omega)]
  simp only
  rw [readTail_cons (by show 128 ≤ _; omega) (by show _ ≤ 191; omega), readTail, hn]

/-- The second byte rules out shorter forms and surrogates. -/
theorem readChar_three (hlow : 0x800 ≤ n) (hhigh : n < 0x10000)
    (hvalid : n < 0xD800 ∨ 0xDFFF < n) :
    readChar (UInt8.ofNat (n / 4096 % 16 + 224))
        (UInt8.ofNat (n / 64 % 64 + 128) :: UInt8.ofNat (n % 64 + 128) :: rest) =
      (some (Char.ofNat n), rest) := by
  -- the six-bit groups put together are n again
  have hn : 64 * (64 * (n / 4096 % 16 + 224 - 224) + n / 64 % 64) + n % 64 = n := by omega
  rw [readChar, lead?_ofNat (by omega), if_neg (by omega), if_neg (by omega), if_neg (by omega),
    if_pos (by omega)]
  simp only
  rw [readTail_cons, readTail_cons (by show 128 ≤ _; omega) (by show _ ≤ 191; omega), readTail, hn]
  · split
    · show 160 ≤ _
      omega
    · show 128 ≤ _
      omega
  · split
    · show _ ≤ 159
      omega
    · show _ ≤ 191
      omega

/-- The second byte rules out shorter forms and numbers above the last character. -/
theorem readChar_four (hlow : 0x10000 ≤ n) (hhigh : n < 0x110000) :
    readChar (UInt8.ofNat (n / 262144 % 8 + 240))
        (UInt8.ofNat (n / 4096 % 64 + 128) :: UInt8.ofNat (n / 64 % 64 + 128) ::
          UInt8.ofNat (n % 64 + 128) :: rest) =
      (some (Char.ofNat n), rest) := by
  have hn : 64 * (64 * (64 * (n / 262144 % 8 + 240 - 240) + n / 4096 % 64) + n / 64 % 64) + n % 64 =
      n := by omega
  rw [readChar, lead?_ofNat (by omega), if_neg (by omega), if_neg (by omega), if_neg (by omega),
    if_neg (by omega), if_pos (by omega)]
  simp only
  rw [readTail_cons, readTail_cons (by show 128 ≤ _; omega) (by show _ ≤ 191; omega),
    readTail_cons (by show 128 ≤ _; omega) (by show _ ≤ 191; omega), readTail, hn]
  · split
    · show 144 ≤ _
      omega
    · show 128 ≤ _
      omega
  · split
    · show _ ≤ 143
      omega
    · show _ ≤ 191
      omega

/-- The first byte that was written and the bytes behind it spell the character. -/
theorem readChar_utf8EncodeChar (c : Char) :
    ∃ b bytes, String.utf8EncodeChar c = b :: bytes ∧ readChar b (bytes ++ rest) = (some c, rest) := by
  -- No character has the number of a surrogate or one above `U+10FFFF`.
  have hvalid : c.val.toNat < 0xD800 ∨ 0xDFFF < c.val.toNat ∧ c.val.toNat < 0x110000 := c.valid
  have hchar : Char.ofNat c.val.toNat = c := Char.ofNat_toNat c
  unfold String.utf8EncodeChar
  simp only
  generalize c.val.toNat = n at hvalid hchar ⊢
  subst hchar
  split
  · next h1 => exact ⟨_, _, rfl, readChar_one rest (by omega)⟩
  · split
    · next h2 => exact ⟨_, _, rfl, readChar_two rest (by omega) (by omega)⟩
    · split
      · next h3 => exact ⟨_, _, rfl, readChar_three rest (by omega) (by omega) (by omega)⟩
      · next h3 => exact ⟨_, _, rfl, readChar_four rest (by omega) (by omega)⟩

/-- A byte of ASCII is written for the character with its number alone. -/
theorem toNat_of_mem_utf8EncodeChar {b : UInt8} {c : Char} (hb : b.toNat < 0x80)
    (h : b ∈ String.utf8EncodeChar c) : c.toNat = b.toNat := by
  -- every byte of a longer character is marked
  have hmarked {m : Nat} (hlow : 0x80 ≤ m) (hhigh : m < 256) : b ≠ UInt8.ofNat m := by
    rintro rfl
    rw [UInt8.toNat_ofNat_of_lt' hhigh] at hb
    omega
  unfold String.utf8EncodeChar at h
  simp only at h
  rw [Char.toNat]
  generalize c.val.toNat = n at h
  split at h
  · rw [List.mem_singleton.1 h, UInt8.toNat_ofNat_of_lt' (by show _ < 256; omega)]
  · exfalso
    split at h
    · simp only [List.mem_cons, List.not_mem_nil, or_false] at h
      rcases h with h | h <;> exact hmarked (by omega) (by omega) h
    · split at h
      · simp only [List.mem_cons, List.not_mem_nil, or_false] at h
        rcases h with h | h | h <;> exact hmarked (by omega) (by omega) h
      · simp only [List.mem_cons, List.not_mem_nil, or_false] at h
        rcases h with h | h | h | h <;> exact hmarked (by omega) (by omega) h

/-! ### Texts -/

@[simp] theorem decodeChars_encodeChars (cs : List Char) : decodeChars (encodeChars cs) = cs.map some := by
  induction cs with
  | nil => rw [encodeChars, List.flatMap_nil, decodeChars, List.map_nil]
  | cons c rest ih =>
      obtain ⟨b, bytes, hbytes, hread⟩ := readChar_utf8EncodeChar (encodeChars rest) c
      rw [encodeChars, List.flatMap_cons, ← encodeChars, hbytes, List.cons_append, decodeChars, hread,
        ih, List.map_cons]

/-- The bytes of a text spell the text. -/
@[simp] theorem decode?_encode (text : String) : decode? (encode text) = some text := by
  have hall : (text.toList.map some).mapM id = some text.toList := by
    rw [List.mapM_map]
    exact List.mapM_pure (m := Option) (f := id) |>.trans (by simp)
  rw [decode?, encode, decodeChars_encodeChars, hall, Option.map_some, String.ofList_toList]

theorem length_encode (text : String) : (encode text).length = text.utf8ByteSize := by
  have hbytes : text.toList.utf8Encode = text.toByteArray := String.utf8Encode_toList
  rw [encode, encodeChars, String.utf8ByteSize, ← hbytes, List.utf8Encode, List.size_toByteArray]

theorem encode_injective : Function.Injective encode := by
  intro s t h
  have hdecoded := congrArg decode? h
  simpa using hdecoded

/-- A byte of ASCII in a text is one of its characters. -/
theorem exists_of_mem_encode {b : UInt8} {text : String} (hb : b.toNat < 0x80) (h : b ∈ encode text) :
    ∃ c ∈ text.toList, c.toNat = b.toNat := by
  obtain ⟨c, hc, hmem⟩ := List.mem_flatMap.1 h
  exact ⟨c, hc, toNat_of_mem_utf8EncodeChar hb hmem⟩

/-! ### What was read -/

section Read

variable {b low high : UInt8} {c : Char} {rest behind : List UInt8}

/-- A further byte that was read lies within its bounds. -/
theorem readTail_succ_eq_some {value more : Nat}
    (h : readTail value low high (more + 1) rest = (some c, behind)) :
    ∃ b tail, rest = b :: tail ∧ low.toNat ≤ b.toNat ∧ b.toNat ≤ high.toNat ∧
      readTail (64 * value + (b.toNat - 0x80)) 0x80 0xBF more tail = (some c, behind) := by
  cases rest with
  | nil => simp [readTail] at h
  | cons b tail =>
      rw [readTail] at h
      split at h
      · next hbounds =>
          rw [UInt8.le_iff_toNat_le, UInt8.le_iff_toNat_le] at hbounds
          exact ⟨b, tail, rfl, hbounds.1, hbounds.2, h⟩
      · simp at h

theorem readTail_zero_eq_some {value : Nat}
    (h : readTail value low high 0 rest = (some c, behind)) : c = Char.ofNat value ∧ rest = behind := by
  simp only [readTail, Prod.mk.injEq, Option.some.injEq] at h
  exact ⟨h.1.symm, h.2⟩

/-- The bytes of the character with a number. -/
theorem utf8EncodeChar_ofNat {n : Nat} (h : n.isValidChar) : String.utf8EncodeChar (Char.ofNat n) =
    if n ≤ 0x7F then [UInt8.ofNat n]
    else if n ≤ 0x7FF then [UInt8.ofNat (n / 64 % 32 + 192), UInt8.ofNat (n % 64 + 128)]
    else if n ≤ 0xFFFF then
      [UInt8.ofNat (n / 4096 % 16 + 224), UInt8.ofNat (n / 64 % 64 + 128), UInt8.ofNat (n % 64 + 128)]
    else
      [UInt8.ofNat (n / 262144 % 8 + 240), UInt8.ofNat (n / 4096 % 64 + 128),
        UInt8.ofNat (n / 64 % 64 + 128), UInt8.ofNat (n % 64 + 128)] := by
  have hval : (Char.ofNat n).val.toNat = n := by
    rw [Char.ofNat, dif_pos h]
    rfl
  simp only [String.utf8EncodeChar, hval]

theorem ofNat_eq_of_toNat {n : Nat} (h : n = b.toNat) : UInt8.ofNat n = b := by
  rw [h, UInt8.ofNat_toNat]

theorem cons_eq_of_readTail_one (hlead : 0xC2 ≤ b.toNat) (hmax : b.toNat < 0xE0)
    (h : readTail (b.toNat - 0xC0) 0x80 0xBF 1 rest = (some c, behind)) :
    b :: rest = String.utf8EncodeChar c ++ behind := by
  obtain ⟨b₁, tail, rfl, hlow, hhigh, h⟩ := readTail_succ_eq_some h
  obtain ⟨hc, rfl⟩ := readTail_zero_eq_some h
  change 0x80 ≤ b₁.toNat at hlow
  change b₁.toNat ≤ 0xBF at hhigh
  rw [hc, utf8EncodeChar_ofNat (.inl (by omega)), if_neg (by omega), if_pos (by omega),
    ofNat_eq_of_toNat (b := b) (by omega), ofNat_eq_of_toNat (b := b₁) (by omega)]
  rfl

/-- The bounds of the second byte rule out shorter forms and surrogates. -/
theorem cons_eq_of_readTail_two (hlead : 0xE0 ≤ b.toNat) (hmax : b.toNat < 0xF0)
    (hleast : b.toNat = 0xE0 → 0xA0 ≤ low.toNat) (hlow : 0x80 ≤ low.toNat)
    (hmost : b.toNat = 0xED → high.toNat ≤ 0x9F) (hhigh : high.toNat ≤ 0xBF)
    (h : readTail (b.toNat - 0xE0) low high 2 rest = (some c, behind)) :
    b :: rest = String.utf8EncodeChar c ++ behind := by
  obtain ⟨b₁, tail, rfl, hlow₁, hhigh₁, h⟩ := readTail_succ_eq_some h
  obtain ⟨b₂, tail, rfl, hlow₂, hhigh₂, h⟩ := readTail_succ_eq_some h
  obtain ⟨hc, rfl⟩ := readTail_zero_eq_some h
  change 0x80 ≤ b₂.toNat at hlow₂
  change b₂.toNat ≤ 0xBF at hhigh₂
  have hvalid : (64 * (64 * (b.toNat - 0xE0) + (b₁.toNat - 0x80)) + (b₂.toNat - 0x80)).isValidChar := by
    unfold Nat.isValidChar
    omega
  rw [hc, utf8EncodeChar_ofNat hvalid, if_neg (by omega), if_neg (by omega), if_pos (by omega),
    ofNat_eq_of_toNat (b := b) (by omega), ofNat_eq_of_toNat (b := b₁) (by omega),
    ofNat_eq_of_toNat (b := b₂) (by omega)]
  rfl

/-- The bounds of the second byte rule out shorter forms and numbers above the last character. -/
theorem cons_eq_of_readTail_three (hlead : 0xF0 ≤ b.toNat) (hmax : b.toNat < 0xF5)
    (hleast : b.toNat = 0xF0 → 0x90 ≤ low.toNat) (hlow : 0x80 ≤ low.toNat)
    (hmost : b.toNat = 0xF4 → high.toNat ≤ 0x8F) (hhigh : high.toNat ≤ 0xBF)
    (h : readTail (b.toNat - 0xF0) low high 3 rest = (some c, behind)) :
    b :: rest = String.utf8EncodeChar c ++ behind := by
  obtain ⟨b₁, tail, rfl, hlow₁, hhigh₁, h⟩ := readTail_succ_eq_some h
  obtain ⟨b₂, tail, rfl, hlow₂, hhigh₂, h⟩ := readTail_succ_eq_some h
  obtain ⟨b₃, tail, rfl, hlow₃, hhigh₃, h⟩ := readTail_succ_eq_some h
  obtain ⟨hc, rfl⟩ := readTail_zero_eq_some h
  change 0x80 ≤ b₂.toNat at hlow₂
  change b₂.toNat ≤ 0xBF at hhigh₂
  change 0x80 ≤ b₃.toNat at hlow₃
  change b₃.toNat ≤ 0xBF at hhigh₃
  -- three bytes behind the first give a code point from 0x10000 to 0x10FFFF
  have hvalid : (64 * (64 * (64 * (b.toNat - 0xF0) + (b₁.toNat - 0x80)) + (b₂.toNat - 0x80)) +
      (b₃.toNat - 0x80)).isValidChar := by
    unfold Nat.isValidChar
    omega
  rw [hc, utf8EncodeChar_ofNat hvalid, if_neg (by omega), if_neg (by omega), if_neg (by omega),
    ofNat_eq_of_toNat (b := b) (by omega), ofNat_eq_of_toNat (b := b₁) (by omega),
    ofNat_eq_of_toNat (b := b₂) (by omega), ofNat_eq_of_toNat (b := b₃) (by omega)]
  rfl

/-- A character that was read is written as the bytes that were read. -/
theorem cons_eq_of_readChar (h : readChar b rest = (some c, behind)) :
    b :: rest = String.utf8EncodeChar c ++ behind := by
  simp only [readChar, lead?] at h
  -- the first byte tells how many follow, and between which bounds the next one lies
  by_cases hone : b.toNat < 0x80
  · rw [if_pos hone] at h
    dsimp only at h
    obtain ⟨hc, rfl⟩ := readTail_zero_eq_some h
    rw [hc, utf8EncodeChar_ofNat (.inl (by omega)), if_pos (by omega), UInt8.ofNat_toNat]
    rfl
  rw [if_neg hone] at h
  by_cases hnone : b.toNat < 0xC2
  · simp [hnone] at h
  rw [if_neg hnone] at h
  by_cases htwo : b.toNat < 0xE0
  · rw [if_pos htwo] at h
    exact cons_eq_of_readTail_one (by omega) htwo h
  rw [if_neg htwo] at h
  by_cases hthree : b.toNat < 0xF0
  · rw [if_pos hthree] at h
    dsimp only at h
    refine cons_eq_of_readTail_two (by omega) hthree ?_ ?_ ?_ ?_ h
    · intro heq
      rw [if_pos heq]
      decide
    · split <;> decide
    · intro heq
      rw [if_pos heq]
      decide
    · split <;> decide
  rw [if_neg hthree] at h
  by_cases hfour : b.toNat < 0xF5
  · rw [if_pos hfour] at h
    dsimp only at h
    refine cons_eq_of_readTail_three (by omega) hfour ?_ ?_ ?_ ?_ h
    · intro heq
      rw [if_pos heq]
      decide
    · split <;> decide
    · intro heq
      rw [if_pos heq]
      decide
    · split <;> decide
  · simp [hfour] at h

end Read

/-- Bytes without a flaw are those of the characters that they spell. -/
theorem encodeChars_of_decodeChars {bytes : List UInt8} {cs : List Char}
    (h : decodeChars bytes = cs.map some) : encodeChars cs = bytes := by
  induction bytes using decodeChars.induct generalizing cs with
  | case1 =>
      rw [decodeChars, List.nil_eq, List.map_eq_nil_iff] at h
      rw [h]
      rfl
  | case2 b rest ih =>
      rw [decodeChars] at h
      cases cs with
      | nil => simp at h
      | cons c cs =>
          rw [List.map_cons, List.cons.injEq] at h
          have hread : readChar b rest = (some c, (readChar b rest).2) := Prod.ext h.1 rfl
          rw [encodeChars, List.flatMap_cons, ← encodeChars, ih h.2, ← cons_eq_of_readChar hread]

theorem eq_map_some_of_mapM {α : Type} {read : List (Option α)} {items : List α}
    (h : read.mapM id = some items) : read = items.map some := by
  induction read generalizing items with
  | nil =>
      obtain rfl : [] = items := by simpa using h
      rfl
  | cons item read ih =>
      simp only [List.mapM_cons, id_eq, Option.bind_eq_bind, Option.bind_eq_some_iff] at h
      obtain ⟨item, rfl, items, hrest, hcons⟩ := h
      obtain rfl := Option.some.inj hcons
      rw [ih hrest, List.map_cons]

/-- Bytes that spell a text are those of the text. -/
theorem encode_of_decode? {bytes : List UInt8} {text : String} (h : decode? bytes = some text) :
    encode text = bytes := by
  obtain ⟨cs, hcs, rfl⟩ := Option.map_eq_some_iff.1 h
  rw [encode, String.toList_ofList, encodeChars_of_decodeChars (eq_map_some_of_mapM hcs)]

end Concordance.Text
