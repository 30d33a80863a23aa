import Concordance.Proofs.LosslessSnapshots

/-!
# The directory of a stored snapshot

The directory of a stored snapshot is read alone from the front of its file, and cache files are removed on
the word of this reader. It knows of the layout no more than that a text comes first, so it is proved here
to find exactly the files that begin with a directory (`root?_eq_some_iff`). As a stored snapshot begins with
its directory, both readers agree on every file (`root?_agrees_unpack`).
-/

namespace Concordance

open Text

namespace CacheFile

variable {file : List UInt8} {root path : String} {room : Nat} {stored : StoredSnapshot}

/-! ### Files that begin with a directory -/

/-- What the file holds begins with this directory. -/
def BeginsWith (file : List UInt8) (root : String) : Prop :=
  ∃ rest, payload file = .ok (Codec.text.write root ++ rest)

/-- A file begins with one directory at most, if it is shorter than the bound of all lengths. -/
theorem BeginsWith.unique {other : String} (hroot : BeginsWith file root) (hother : BeginsWith file other)
    (hlength : (encode root).length < Codec.lengthBound) (hbound : (encode other).length < Codec.lengthBound) :
    root = other := by
  obtain ⟨rest, hrest⟩ := hroot
  obtain ⟨behind, hbehind⟩ := hother
  rw [hrest, Except.ok.injEq] at hbehind
  have hread : Codec.text.read 0 (Codec.text.write root ++ rest) = .ok (root, rest) :=
    Codec.read_text_eq_ok_iff.2 ⟨rfl, hlength⟩
  rw [Codec.read_text_eq_ok_iff.2 ⟨hbehind, hbound⟩] at hread
  cases hread
  rfl

/-- A directory is read alone from the files that begin with it, unless it is too long. -/
theorem root?_eq_some_iff :
    root? file = some root ↔ BeginsWith file root ∧ (encode root).length ≤ 4096 := by
  rw [root?, BeginsWith]
  constructor
  · intro hroot
    split at hroot
    · cases hroot
    next bytes hpayload =>
    obtain ⟨⟨length, behind⟩, hnumber, hroot⟩ := Option.bind_eq_some_iff.1 hroot
    dsimp only at hroot
    split at hroot
    · cases hroot
    next hshort =>
    obtain ⟨⟨taken, rest⟩, htake, hdecode⟩ := Option.bind_eq_some_iff.1 hroot
    obtain ⟨rfl, -⟩ := readNumber?_eq_some_iff.1 hnumber
    obtain ⟨rfl, rfl⟩ := takeBytes?_eq_some_iff.1 htake
    obtain rfl := encode_of_decode? hdecode
    exact ⟨⟨rest, hpayload.trans (congrArg Except.ok (List.append_assoc _ _ _).symm)⟩, Nat.not_lt.1 hshort⟩
  · rintro ⟨⟨rest, hpayload⟩, hlength⟩
    -- a root of at most 4096 bytes has a length that eight bytes can hold
    have hbound : (encode root).length < 256 ^ 8 := Nat.lt_of_le_of_lt hlength (by decide)
    have hwrite : Codec.text.write root ++ rest =
        littleEndian 8 (encode root).length ++ (encode root ++ rest) := List.append_assoc _ _ _
    have hshort : ¬maxRootLength < (encode root).length := Nat.not_lt.2 hlength
    simp only [hpayload, hwrite, readNumber?_littleEndian hbound, Option.bind_eq_bind, Option.bind_some,
      if_neg hshort, takeBytes?_append, decode?_encode]

/-! ### Stored snapshots -/

/-- The bytes of a stored snapshot begin with its directory, and those behind it do not depend on it. -/
theorem exists_write_eq (stored : StoredSnapshot) :
    ∃ rest, ∀ root, StoredSnapshot.codec.write { stored with root := root } =
      Codec.text.write root ++ rest :=
  ⟨(StoredSnapshot.codec.write { stored with root := "" }).drop 8, fun _ => rfl⟩

/-- A stored snapshot is read from a file only if that begins with its directory. -/
theorem beginsWith_of_unpack (h : unpack room StoredSnapshot.codec path file = .ok (.ok stored)) :
    BeginsWith file stored.root ∧ (encode stored.root).length < Codec.lengthBound := by
  unfold unpack at h
  split at h
  · cases h
  next bytes hpayload =>
  split at h
  · next value behind hread =>
    cases h
    obtain ⟨parts, hparts, heq⟩ := map_eq_ok.1 hread
    cases heq
    -- the directory is the first of the parts
    obtain ⟨⟨root, rest⟩, hroot, hparts⟩ := bind_eq_ok.1 hparts
    obtain ⟨more, -, heq⟩ := bind_eq_ok.1 hparts
    cases heq
    obtain ⟨rfl, hbound⟩ := Codec.read_text_eq_ok_iff.1 hroot
    exact ⟨⟨rest, hpayload⟩, hbound⟩
  · cases h
  · cases h

/-- The directory of a stored snapshot is read alone unless it is too long. -/
theorem root?_of_unpack (h : unpack room StoredSnapshot.codec path file = .ok (.ok stored)) :
    root? file = if (encode stored.root).length ≤ 4096 then some stored.root else none := by
  obtain ⟨hbegins, hbound⟩ := beginsWith_of_unpack h
  split
  · next hlength => exact root?_eq_some_iff.2 ⟨hbegins, hlength⟩
  · next hlong =>
    -- any other directory would stand at the front of the same bytes
    apply Option.eq_none_iff_forall_ne_some.2
    intro root hroot
    obtain ⟨hother, hlength⟩ := root?_eq_some_iff.1 hroot
    obtain rfl := hother.unique hbegins (Nat.lt_of_le_of_lt hlength (by decide)) hbound
    exact hlong hlength

/-- The directory of what was written is read alone unless it is too long. -/
theorem root?_of_payload_write (h : payload file = .ok (StoredSnapshot.codec.write stored))
    (hlength : (encode stored.root).length ≤ 4096) : root? file = some stored.root := by
  obtain ⟨rest, hrest⟩ := exists_write_eq stored
  exact root?_eq_some_iff.2 ⟨⟨rest, h.trans (congrArg Except.ok (hrest stored.root))⟩, hlength⟩

/-- On every file the reader of the directory agrees with that of the whole snapshot:

- where a stored snapshot is read, the directory alone is read as its directory if that has at most 4096
  bytes, and not at all if it has more;
- where both read a directory, it is the same one;
- from a file that a stored snapshot was packed into, and from any other file whose frame holds its bytes, its
  directory is read if it has at most 4096 bytes.
-/
theorem root?_agrees_unpack (file : List UInt8) :
    (∀ room path stored, unpack room StoredSnapshot.codec path file = .ok (.ok stored) →
      root? file = if (encode stored.root).length ≤ 4096 then some stored.root else none) ∧
    (∀ room path stored root, unpack room StoredSnapshot.codec path file = .ok (.ok stored) →
      root? file = some root → stored.root = root) ∧
    ∀ stored : StoredSnapshot, (encode stored.root).length ≤ 4096 →
      root? (pack StoredSnapshot.codec stored) = some stored.root ∧
        (payload file = .ok (StoredSnapshot.codec.write stored) → root? file = some stored.root) := by
  refine ⟨fun _ _ _ => root?_of_unpack, ?_, ?_⟩
  · intro room path stored root hunpack hroot
    rw [root?_of_unpack hunpack] at hroot
    split at hroot
    · exact Option.some.inj hroot
    · cases hroot
  · intro stored hlength
    exact ⟨root?_of_payload_write (payload_pack _ stored) hlength,
      fun hpayload => root?_of_payload_write hpayload hlength⟩

theorem length_encode_replicate (n : Nat) : (encode (String.ofList (List.replicate n 'd'))).length = n := by
  have hone : (String.utf8EncodeChar 'd').length = 1 := by decide
  rw [encode, encodeChars, String.toList_ofList, List.length_flatMap, List.map_replicate, hone,
    List.sum_replicate_nat, Nat.mul_one]

/-- The directory of the sample is read alone. A directory of 4097 bytes is read with its snapshot, but not
alone. -/
theorem root?_agrees_unpack_sample :
    unpack 0 StoredSnapshot.codec "" (pack StoredSnapshot.codec (.ofSnapshot "/docs" StoredSnapshot.sample)) =
        .ok (.ok (.ofSnapshot "/docs" StoredSnapshot.sample)) ∧
      root? (pack StoredSnapshot.codec (.ofSnapshot "/docs" StoredSnapshot.sample)) = some "/docs" ∧
      ∃ long, (encode long).length = 4097 ∧
        unpack 0 StoredSnapshot.codec "" (pack StoredSnapshot.codec (.ofSnapshot long StoredSnapshot.sample)) =
          .ok (.ok (.ofSnapshot long StoredSnapshot.sample)) ∧
        root? (pack StoredSnapshot.codec (.ofSnapshot long StoredSnapshot.sample)) = none := by
  have hshort : (StoredSnapshot.codec.write (.ofSnapshot "/docs" StoredSnapshot.sample)).length < 2 ^ 32 := by
    decide +kernel
  have hsample := unpack_pack StoredSnapshot.lawful_codec 0 "" (Nat.lt_trans hshort (by decide))
  refine ⟨hsample, (root?_agrees_unpack _).1 0 "" _ hsample, ?_⟩
  obtain ⟨long, hlong⟩ : ∃ long, (encode long).length = 4097 := ⟨_, length_encode_replicate 4097⟩
  -- a longer directory takes more bytes, and the rest takes as many as before
  obtain ⟨rest, hrest⟩ := exists_write_eq (.ofSnapshot "/docs" StoredSnapshot.sample)
  have hwrite (root : String) : StoredSnapshot.codec.write (.ofSnapshot root StoredSnapshot.sample) =
      Codec.text.write root ++ rest := hrest root
  have hlength : (StoredSnapshot.codec.write (.ofSnapshot long StoredSnapshot.sample)).length <
      Codec.lengthBound := by
    rw [hwrite, List.length_append] at hshort ⊢
    rw [Codec.length_write_text, hlong, Codec.lengthBound]
    omega
  have hunpack := unpack_pack StoredSnapshot.lawful_codec 0 "" hlength
  refine ⟨long, hlong, hunpack, ((root?_agrees_unpack _).1 0 "" _ hunpack).trans (if_neg ?_)⟩
  show ¬(encode long).length ≤ 4096
  omega

end CacheFile

end Concordance
