/-!
# Reading bytes front to back

Little-endian numbers and runs of bytes from the front of a file.
-/

namespace SpeechProbe.Wave

/-- Why a WAVE file cannot be read. -/
inductive WaveError where
  /-- The file breaks the rules of the format. -/
  | illFormed
  /-- The file ends too early. -/
  | tooShort
  /-- The samples are in an encoding that is not known. -/
  | unsupported
  /-- The samples take more bytes than their number type has. -/
  | tooWide
  deriving DecidableEq, Repr, Inhabited

def WaveError.message : WaveError → String
  | illFormed => "Ill-formed WAVE file"
  | tooShort => "Failed to read enough bytes."
  | unsupported => "The wave format of the file is not supported."
  | tooWide => "The sample has more bits than the destination type."

/-- The first `n` bytes and the rest. -/
def takeBytes : Nat → List UInt8 → Except WaveError (List UInt8 × List UInt8)
  | 0, bytes => .ok ([], bytes)
  | _ + 1, [] => .error .tooShort
  | n + 1, b :: rest =>
    match takeBytes n rest with
    | .error e => .error e
    | .ok (run, left) => .ok (b :: run, left)

/-- The number that bytes make, the least significant first. -/
def littleEndian : List UInt8 → Nat
  | [] => 0
  | b :: rest => b.toNat + 256 * littleEndian rest

/-- A little-endian number of `n` bytes. -/
def takeNumber (n : Nat) (bytes : List UInt8) : Except WaveError (Nat × List UInt8) := do
  let (taken, rest) ← takeBytes n bytes
  return (littleEndian taken, rest)

/-- The four bytes of a tag. -/
def tag (a b c d : Char) : List UInt8 := [a, b, c, d].map fun x => UInt8.ofNat x.toNat

end SpeechProbe.Wave
