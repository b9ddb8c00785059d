import SpeechProbe.Wave.Bytes

/-!
# The format chunk of a WAVE file

How the samples of a file are stored, and which descriptions of it are accepted:
plain integers, 32-bit floats, and the extensible form of either.
-/

namespace SpeechProbe.Wave

/-- What kind of number a sample is. -/
inductive Encoding where
  | integer
  | float
  deriving DecidableEq, Repr, Inhabited

/-- The encoding's name in messages. -/
def Encoding.name : Encoding → String
  | integer => "Int"
  | float => "Float"

/-- How the samples of a file are stored. -/
structure Format where
  channels : Nat
  /-- Frames per second. -/
  rate : UInt32
  /-- Bits that count in a sample. -/
  bits : Nat
  /-- Bytes a sample takes in the file. -/
  sampleBytes : Nat
  encoding : Encoding
  deriving DecidableEq, Repr, Inhabited

/-- The fields every format chunk begins with. -/
structure FormatFields where
  code : Nat
  channels : Nat
  rate : Nat
  byteRate : Nat
  /-- Bytes of a frame. -/
  blockAlign : Nat
  bits : Nat
  deriving DecidableEq, Repr

namespace FormatFields

def take (bytes : List UInt8) : Except WaveError (FormatFields × List UInt8) := do
  let (code, bytes) ← takeNumber 2 bytes
  let (channels, bytes) ← takeNumber 2 bytes
  let (rate, bytes) ← takeNumber 4 bytes
  let (byteRate, bytes) ← takeNumber 4 bytes
  let (blockAlign, bytes) ← takeNumber 2 bytes
  let (bits, bytes) ← takeNumber 2 bytes
  return (⟨code, channels, rate, byteRate, blockAlign, bits⟩, bytes)

/-- Bytes of one sample of a frame. -/
def sampleBytes (fields : FormatFields) : Nat := fields.blockAlign / fields.channels

/-- Whether the fields agree with each other and leave room for the samples.  Both
products have to fit their words. -/
def consistent (fields : FormatFields) : Bool :=
  fields.channels != 0 &&
  (8 * fields.sampleBytes < 65536 && fields.bits ≤ 8 * fields.sampleBytes) &&
  (fields.blockAlign * fields.rate < 4294967296 &&
    fields.byteRate == fields.blockAlign * fields.rate) &&
  fields.bits % 8 == 0 && fields.bits != 0

/-- The format of samples with these fields. -/
def toFormat (fields : FormatFields) (bits : Nat) (encoding : Encoding) : Format :=
  ⟨fields.channels, UInt32.ofNat fields.rate, bits, fields.sampleBytes, encoding⟩

end FormatFields

/-- Plain integers.  A longer chunk has a size field that is ignored, and then only
the common widths are accepted. -/
def takePlain (size : Nat) (fields : FormatFields) (bytes : List UInt8) :
    Except WaveError (Format × List UInt8) :=
  if size = 16 then .ok (fields.toFormat fields.bits .integer, bytes)
  else if size = 18 ∨ size = 40 then do
    let (_, bytes) ← takeNumber 2 bytes
    if fields.bits = 8 ∨ fields.bits = 16 ∨ fields.bits = 24 then
      let (_, bytes) ← takeBytes (size - 18) bytes
      return (fields.toFormat fields.bits .integer, bytes)
    else .error .illFormed
  else .error .illFormed

/-- Floats of 32 bits; a size field has to be zero. -/
def takeFloat (size : Nat) (fields : FormatFields) (bytes : List UInt8) :
    Except WaveError (Format × List UInt8) := do
  let bytes ←
    if size = 16 then pure bytes
    else if size = 18 then do
      let (extra, bytes) ← takeNumber 2 bytes
      if extra = 0 then pure bytes else .error .illFormed
    else .error .illFormed
  if fields.bits = 32 then return (fields.toFormat 32 .float, bytes) else .error .illFormed

/-- The identifier of an encoding in the extensible form. -/
def encodingId (code : UInt8) : List UInt8 :=
  [code, 0, 0, 0, 0, 0, 0x10, 0, 0x80, 0, 0, 0xaa, 0, 0x38, 0x9b, 0x71]

/-- The extensible form: it may say that fewer bits count, and names the encoding by
an identifier. -/
def takeExtensible (size : Nat) (fields : FormatFields) (bytes : List UInt8) :
    Except WaveError (Format × List UInt8) :=
  if size < 40 then .error .illFormed
  else do
    let (extra, bytes) ← takeNumber 2 bytes
    if extra = 22 then
      let (valid, bytes) ← takeNumber 2 bytes
      let (_, bytes) ← takeNumber 4 bytes
      let (identifier, bytes) ← takeBytes 16 bytes
      let bits := if valid = 0 then fields.bits else valid
      if identifier = encodingId 1 then return (fields.toFormat bits .integer, bytes)
      else if identifier = encodingId 3 then return (fields.toFormat bits .float, bytes)
      else .error .unsupported
    else .error .illFormed

/-- A format chunk of the given size. -/
def takeFormat (size : Nat) (bytes : List UInt8) : Except WaveError (Format × List UInt8) :=
  if size < 16 then .error .illFormed
  else do
    let (fields, bytes) ← FormatFields.take bytes
    if fields.consistent then
      match fields.code with
      | 1 => takePlain size fields bytes
      | 3 => takeFloat size fields bytes
      | 0xfffe => takeExtensible size fields bytes
      | _ => .error .unsupported
    else .error .illFormed

end SpeechProbe.Wave
