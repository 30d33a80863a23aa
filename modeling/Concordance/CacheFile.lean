import Concordance.Lz4.Frame
import Concordance.StoredSnapshot

/-!
# Cache files

A cache file is a mark of four bytes and a compressed frame that holds a value. The value is at the
front of what the frame holds, and what comes behind it does not count. A file that announces more than can
be had ends the reading, and no error is told then.
-/

namespace Concordance.CacheFile

def mark : List UInt8 := Text.encode "LZ4S"

def pack {α : Type} (codec : Codec α) (value : α) : List UInt8 :=
  mark ++ Lz4.writeFrame (codec.write value)

/-- What the frame of a file holds, or why the file is none of this kind. -/
def payload (file : List UInt8) : Except FileFault (List UInt8) :=
  match takeBytes? 4 file with
  | none => .error .tooShort
  | some (start, frame) =>
    if start = mark then .ok (Lz4.readFrame frame) else .error .wrongMark

/-- The value in a file; `path` names the file in an error. Where there is no room for what the file
announces, there is no error either. -/
def unpack {α : Type} (room : Nat) (codec : Codec α) (path : String) (file : List UInt8) :
    Except Exhausted (Except CacheError α) :=
  match payload file with
  | .error fault => .ok (.error (.unreadable path fault))
  | .ok bytes =>
    match codec.read room bytes with
    | .ok (value, _) => .ok (.ok value)
    | .error .invalid => .ok (.error (.unreadable path .undecodable))
    | .error (.exhausted length) => .error ⟨length⟩

/-- The greatest number of bytes of a directory that is read alone. -/
def maxRootLength : Nat := 4096

/-- The directory that a stored snapshot begins with, unless it is too long. Nothing behind it is
looked at. -/
def root? (file : List UInt8) : Option String :=
  match payload file with
  | .error _ => none
  | .ok bytes => do
    let (length, rest) ← readNumber? 8 bytes
    if maxRootLength < length then none
    else
      let (taken, _) ← takeBytes? length rest
      Text.decode? taken

end Concordance.CacheFile
