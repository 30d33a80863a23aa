import Concordance.Binary.Codec
import Concordance.Snapshot

/-!
# Stored snapshots

What is kept of a snapshot: all of its parts, with the directory of its articles and the version of this
layout before them. Floating-point numbers are kept as their patterns of bits. A stored snapshot is used
only if version, tokenizer settings and fingerprint are those that are asked for, and its index is well
formed; the other settings come from whoever asks.
-/

namespace Concordance

def layoutVersion : UInt32 := 2

structure StoredSnapshot where
  /-- The directory that the articles were read from. -/
  root : String
  version : UInt32
  builtAt : UInt64
  fingerprint : Option UInt64
  config : Config UInt64
  documents : List Document
  index : Index UInt64

/-- Why no snapshot is read from what lies at a path. -/
inductive FileFault where
  | notOpened (fault : PathFault)
  | isDirectory
  /-- It has fewer bytes than a mark. -/
  | tooShort
  | wrongMark
  /-- What the frame holds does not begin with a stored snapshot. What more a decoder says is left out. -/
  | undecodable
  /-- The documents make up no store. -/
  | refused (error : LoadError)
deriving DecidableEq, Repr

def FileFault.message : FileFault → String
  | .notOpened fault => "cannot open file: " ++ fault.message
  | .isDirectory => "read error (magic bytes): " ++ PathFault.isDirectory.message
  | .tooShort => "read error (magic bytes): failed to fill whole buffer"
  | .wrongMark => "not a snapshot file"
  | .undecodable => "deserialization failed"
  | .refused e => e.message

/-- Why a stored snapshot is not used. -/
inductive CacheError where
  /-- A file cannot be written. -/
  | unavailable (fault : PathFault)
  | missing (path : String)
  | unreadable (path : String) (fault : FileFault)
  | wrongVersion (found : UInt32)
  | stale (reason : String)
  | corrupt (fault : IndexFault)
deriving DecidableEq, Repr

def CacheError.message : CacheError → String
  | .unavailable fault => "I/O error: " ++ fault.message
  | .missing path => "No snapshot at " ++ path
  | .unreadable path fault => "Failed to load snapshot from " ++ path ++ ": " ++ fault.message
  | .wrongVersion found =>
    "Snapshot format version " ++ toString found.toNat ++ " is not supported (expected " ++
      toString layoutVersion.toNat ++ ")"
  | .stale reason => "Snapshot is stale: " ++ reason
  | .corrupt fault => "Snapshot failed verification: " ++ fault.message

namespace StoredSnapshot

def ofSnapshot (root : String) (snapshot : Snapshot Float) : StoredSnapshot where
  root := root
  version := layoutVersion
  builtAt := snapshot.builtAt
  fingerprint := snapshot.fingerprint
  config := snapshot.config.map Float.toBits
  documents := snapshot.store.documents
  index := snapshot.index.map Float.toBits

/-- The fingerprint of the articles, `now`, is the one that was kept. -/
def isCurrent : (saved now : Option UInt64) → Except CacheError Unit
  | some saved, some now => if saved = now then .ok () else .error (.stale "corpus changed")
  | _, _ => .error (.stale "corpus has no fingerprint")

/-- The snapshot that was kept, under the settings `config`, if it fits them and the articles, whose
fingerprint is `now`. -/
def restore (stored : StoredSnapshot) (config : Config Float) (now : Option UInt64) :
    Except CacheError (Snapshot Float) :=
  if stored.version ≠ layoutVersion then .error (.wrongVersion stored.version)
  else if !config.sharesIndex stored.config then .error (.stale "tokenizer settings changed")
  else do
    isCurrent stored.fingerprint now
    let store ← (Store.ofList stored.documents).mapError fun e => .unreadable stored.root (.refused e)
    (Snapshot.ofParts store (stored.index.map Float.ofBits) config stored.builtAt stored.fingerprint).mapError
      .corrupt

/-! ### Layout -/

def tokenizerCodec : Codec TokenizerConfig :=
  (Codec.pair .word64 .bool).map (fun (length, folds) => ⟨length, folds⟩)
    fun c => (c.minTermLength, c.foldsDiacritics)

def weightsCodec : Codec (Weights UInt64) :=
  (Codec.pair .word64 (.pair .word64 .word64)).map (fun (a, b, c) => ⟨a, b, c⟩)
    fun w => (w.saturation, w.lengthNorm, w.titleWeight)

def configCodec : Codec (Config UInt64) :=
  (Codec.pair tokenizerCodec (.pair weightsCodec (.pair .word64 (.pair .word64 .word64)))).map
    (fun (tokenizer, weights, snippet, default, max) => ⟨tokenizer, weights, snippet, default, max⟩)
    fun c => (c.tokenizer, c.weights, c.snippetLength, c.defaultLimit, c.maxLimit)

def documentCodec : Codec Document :=
  (Codec.pair .text (.pair .text (.pair .text .text))).map
    (fun (id, title, body, path) => ⟨id, title, body, path⟩) fun d => (d.id, d.title, d.body, d.path)

def postingCodec : Codec Posting :=
  (Codec.pair .word32 (.pair .word32 (.pair .word32 (.list .word32)))).map
    (fun (n, frequency, title, positions) => ⟨n, frequency, title, positions⟩)
    fun p => (p.document, p.frequency, p.titleFrequency, p.positions)

def indexCodec : Codec (Index UInt64) :=
  (Codec.pair (.sortedMap (.list postingCodec))
    (.pair (.list .word32) (.pair .word32 (.pair .word64 .word64)))).map
    (fun (terms, lengths, count, mean, total) => ⟨terms, lengths, count, mean, total⟩)
    fun i => (i.terms, i.lengths, i.documentCount, i.meanLength, i.totalLength)

/-- The layout of a stored snapshot. The directory comes first, so it can be read alone. -/
def codec : Codec StoredSnapshot :=
  (Codec.pair .text (.pair .word32 (.pair .word64 (.pair (.option .word64)
    (.pair configCodec (.pair (.list documentCodec) indexCodec)))))).map
    (fun (root, version, builtAt, fingerprint, config, documents, index) =>
      ⟨root, version, builtAt, fingerprint, config, documents, index⟩)
    fun s => (s.root, s.version, s.builtAt, s.fingerprint, s.config, s.documents, s.index)

end StoredSnapshot

end Concordance
