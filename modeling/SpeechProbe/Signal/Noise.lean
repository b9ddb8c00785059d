import SpeechProbe.Halt
import SpeechProbe.Sample.Payload

/-!
# Seeded white noise

Noise that is the same for the same seed: a ChaCha keystream of twelve rounds,
keyed from the seed, gives the words, and each word one candidate sample.
-/

namespace SpeechProbe.Noise

/-! ## The keystream -/

/-- The sixteen words of a block. -/
abbrev Block := Array UInt32

/-- One word turned left by `n` bits, `0 < n < 32`. -/
def rotateLeft (x : UInt32) (n : UInt32) : UInt32 :=
  (x <<< n) ||| (x >>> (32 - n))

/-- The quarter round on four words of a block. -/
def quarterRound (block : Block) (a b c d : Nat) : Block :=
  let xa := block.getD a 0
  let xb := block.getD b 0
  let xc := block.getD c 0
  let xd := block.getD d 0
  let xa := xa + xb
  let xd := rotateLeft (xd ^^^ xa) 16
  let xc := xc + xd
  let xb := rotateLeft (xb ^^^ xc) 12
  let xa := xa + xb
  let xd := rotateLeft (xd ^^^ xa) 8
  let xc := xc + xd
  let xb := rotateLeft (xb ^^^ xc) 7
  (((block.setIfInBounds a xa).setIfInBounds b xb).setIfInBounds c xc).setIfInBounds d xd

/-- A round on the columns and one on the diagonals. -/
def doubleRound (block : Block) : Block :=
  let columns :=
    quarterRound (quarterRound (quarterRound (quarterRound block
      0 4 8 12) 1 5 9 13) 2 6 10 14) 3 7 11 15
  quarterRound (quarterRound (quarterRound (quarterRound columns
    0 5 10 15) 1 6 11 12) 2 7 8 13) 3 4 9 14

/-- The key words of a seed: eight steps of a linear congruential generator, each
output folded and turned by its own top bits. -/
def key (seed : UInt64) : List UInt32 :=
  ((List.range 8).foldl
    (fun (state : List UInt32 × UInt64) _ =>
      let next := state.2 * 6364136223846793005 + 11634580027462260723
      let folded := (((next >>> 18) ^^^ next) >>> 27).toUInt32
      let turn := (next >>> 59).toUInt32
      let word := (folded >>> turn) ||| (folded <<< ((32 - turn) &&& 31))
      (state.1 ++ [word], next))
    ([], seed)).1

/-- Block number `index` of the keystream: six double rounds, then the input is
added back. -/
def keystreamBlock (words : List UInt32) (index : Nat) : List UInt32 :=
  let input : Block :=
    (#[0x61707865, 0x3320646e, 0x79622d32, 0x6b206574] ++ words.toArray) ++
      #[index.toUInt32, (index / 4294967296).toUInt32, 0, 0]
  let mixed := (List.range 6).foldl (fun block _ => doubleRound block) input
  (List.zip mixed.toList input.toList).map fun (x, y) => x + y

/-- A place in the keystream. -/
structure Stream where
  words : List UInt32
  /-- The number of the next block. -/
  index : Nat
  /-- What is left of the current block. -/
  pending : List UInt32

namespace Stream

/-- The keystream of a seed, from its start. -/
def ofSeed (seed : UInt64) : Stream := ⟨key seed, 0, []⟩

/-- The next word. -/
def next (stream : Stream) : UInt32 × Stream :=
  match stream.pending with
  | word :: rest => (word, { stream with pending := rest })
  | [] =>
    match keystreamBlock stream.words stream.index with
    | word :: rest => (word, { stream with index := stream.index + 1, pending := rest })
    | [] => (0, stream)

end Stream

/-! ## Samples -/

/-- How often a candidate is drawn for one sample before giving up. -/
def attempts : Nat := 1000

/-- The candidate of a word: its top 23 bits as a fraction of `[0, 1)`, stretched
to the range and moved to its low end, rounding twice. -/
def candidate (amplitude : Float32) (word : UInt32) : Float32 :=
  let fraction := Float32.ofBits ((word >>> 9) ||| 0x3f800000) - 1.0
  fraction * (amplitude - -amplitude) + -amplitude

/-- The first candidate below the amplitude. -/
def draw (amplitude : Float32) : Nat → Stream → Except Halt (Sample × Stream)
  | 0, _ => .error .outOfSteps
  | tries + 1, stream =>
    let (word, after) := stream.next
    let x := candidate amplitude word
    if x < amplitude then .ok (Single.ofFloat32 x, after)
    else draw amplitude tries after

/-- `n` further samples after the ones in `done`. -/
def drawMany (amplitude : Float32) : Nat → Array Sample → Stream → Except Halt (Array Sample)
  | 0, done, _ => .ok done
  | n + 1, done, stream =>
    match draw amplitude attempts stream with
    | .error halt => .error halt
    | .ok (x, after) => drawMany amplitude n (done.push x) after

/-- Whether `-amplitude` to `amplitude` is a finite range with something in it. -/
def hasRange (amplitude : Single) : Bool :=
  amplitude.isFinite && (Single.ofFloat32 (amplitude.toFloat32 - -amplitude.toFloat32)).isFinite

/-- Uniform noise in `[-amplitude, amplitude)`.  An amplitude that is not above
zero gives silence; one that spans no finite range has no samples to draw. -/
def white (n : Nat) (amplitude : Single) (seed : UInt64) : Except Halt (List Sample) :=
  if amplitude.toFloat32 ≤ 0.0 then .ok (List.replicate n Single.zero)
  else if n = 0 then .ok []
  else if hasRange amplitude then
    (·.toList) <$> drawMany amplitude.toFloat32 n #[] (Stream.ofSeed seed)
  else .error .emptyNoiseRange

end SpeechProbe.Noise
