import EarlyBreak.Cache.Codec
import EarlyBreak.Prediction.Discovery
import EarlyBreak.Sha256

/-! The entries of the cache and the bytes that they are kept as. -/

namespace EarlyBreak.Cache

/-- The version of the format of entries. -/
def schemaVersion : Nat := 1

/-- The version of the program that writes the entries. -/
def programVersion : String := "0.1.0"

/-- The most bytes that an entry may have. -/
def entryLimit : Nat := 16 * 1024 * 1024

/-- What an entry starts with. -/
structure Header where
  schema : Nat
  version : String
  /-- When the entry was saved, in milliseconds since the epoch. -/
  savedAt : Nat
  key : String
  /-- The fingerprint of the key. -/
  fingerprint : String
  deriving DecidableEq, Repr

/-- An entry: the value of a key at a time. -/
structure Saved (α : Type) where
  header : Header
  /-- The time that the key goes with. -/
  modified : Nat
  value : α
  deriving DecidableEq, Repr

/-- An entry of what was discovered. -/
abbrev Entry := Saved (List Discovery)

/-- The fingerprint of a key. -/
def fingerprintOf (key : String) : String := Sha256.fingerprint (Text.toBytes key)

/-- The name of the file of an entry. -/
def entryName (fingerprint : String) : String := fingerprint ++ ".bin"

/-- Whether an entry was written by this version of the program. -/
def Header.isCurrent (header : Header) : Bool :=
  header.schema == schemaVersion && header.version == programVersion

/-- Whether an entry is older than allowed. -/
def Header.isExpired (header : Header) (now timeToLive : Nat) : Bool :=
  decide (timeToLive < now - header.savedAt)

/-- Why an entry cannot be written. -/
inductive EncodingError where
  /-- It would have too many bytes. -/
  | tooLarge
  /-- A path in it is no text. -/
  | pathNotText
  deriving DecidableEq, Repr

/-- The text of an error. -/
def EncodingError.message : EncodingError → String
  | .tooLarge => "the size limit has been reached"
  | .pathNotText => "path contains invalid UTF-8 characters"

/-- The bytes of a header. -/
def Header.encode (header : Header) : ByteArray :=
  encodeWord32 header.schema ++ encodeText header.version ++ encodeWord64 header.savedAt
    ++ encodeText header.key ++ encodeText header.fingerprint

/-- The bytes of a discovery whose paths are texts. -/
def encodeDiscovery (discovery : Discovery) : ByteArray :=
  encodeText discovery.sourceUrl ++ encodeText discovery.path.text
    ++ encodeText discovery.file.path.text ++ encodeText discovery.file.mapUrl
    ++ encodeWord64 discovery.file.modified

/-- Whether the paths of a discovery are texts. -/
def hasTextPaths (discovery : Discovery) : Bool :=
  discovery.path.text?.isSome && discovery.file.path.text?.isSome

/-- The bytes of an entry with the bytes of its value. -/
def Saved.bytesWith {α : Type} (entry : Saved α) (value : ByteArray) : ByteArray :=
  entry.header.encode ++ encodeWord64 entry.modified ++ value

/-- The bytes of an entry whose paths are texts. -/
def Entry.encode (entry : Entry) : ByteArray :=
  entry.bytesWith (encodeList encodeDiscovery entry.value)

/-- Decodes a header. -/
def Header.decoder : Decoder Header := do
  return {
    schema := ← Decoder.word32
    version := ← Decoder.text
    savedAt := ← Decoder.word64
    key := ← Decoder.text
    fingerprint := ← Decoder.text }

/-- Decodes a path. -/
def pathDecoder : Decoder Path := do return Path.ofString (← Decoder.text)

/-- Decodes a discovery. -/
def discoveryDecoder : Decoder Discovery := do
  return {
    sourceUrl := ← Decoder.text
    path := ← pathDecoder
    file := {
      path := ← pathDecoder
      mapUrl := ← Decoder.text
      modified := ← Decoder.word64 } }

/-- A type of values that entries can hold: how they are written and read. -/
class Storable (α : Type) where
  /-- The bytes of a value, if it can be written. -/
  encode? : α → Except EncodingError ByteArray
  decoder : Decoder α

@[default_instance]
instance : Storable (List Discovery) where
  encode? found :=
    if found.all hasTextPaths then .ok (encodeList encodeDiscovery found) else .error .pathNotText
  decoder := Decoder.list discoveryDecoder

namespace Saved

variable {α : Type} [Storable α]

/-- The bytes of an entry, unless it is too large. -/
def encode? (entry : Saved α) : Except EncodingError ByteArray := do
  let bytes := entry.bytesWith (← Storable.encode? entry.value)
  if bytes.size ≤ entryLimit then return bytes else throw .tooLarge

/-- Decodes an entry. -/
def decoder : Decoder (Saved α) := do
  return {
    header := ← Header.decoder
    modified := ← Decoder.word64
    value := ← Storable.decoder }

/-- The entry that bytes are, from the first to the last.  No more may be decoded than an entry may
have.
-/
def decode? (bytes : ByteArray) : Option (Saved α) :=
  if bytes.size ≤ entryLimit then decoder.runWhole bytes else none

end Saved

/-- The header that bytes start with.  What follows is not looked at, but the header itself may have
no more bytes than an entry.
-/
def Header.decode? (bytes : ByteArray) : Option Header :=
  Header.decoder.runFront (bytes.extract 0 entryLimit)

end EarlyBreak.Cache
