import CloudOps.Text.Quoted

/-!
# A seeded generator of numbers

The xoshiro256++ generator, with its state filled from a 64-bit seed by the PCG32 generator.

* `Generator.ofSeed`: the state for a seed. A state of zeros alone would stay so; it is replaced
  by one that SplitMix64 makes.
* `Generator.next`: the next number and the state after it.
* `littleEndianHex`: the bytes of a number in base sixteen, the lowest byte first.
-/

namespace CloudOps

/-- The state of the generator. -/
structure Generator where
  s0 : UInt64
  s1 : UInt64
  s2 : UInt64
  s3 : UInt64
  deriving DecidableEq, Repr

namespace Generator

/-- The bits of a word moved to the left, those that fall out coming back on the right. -/
def rotateLeft (x : UInt64) (count : UInt64) : UInt64 := (x <<< count) ||| (x >>> (64 - count))

/-- The bits of a half word moved to the right, those that fall out coming back on the left. -/
def rotateRight32 (x count : UInt32) : UInt32 := (x >>> count) ||| (x <<< ((32 - count) % 32))

/-- The next state of the filling generator. -/
def fillStep (state : UInt64) : UInt64 := state * 6364136223846793005 + 11634580027462260723

/-- The half word that the filling generator gives in a state. -/
def fillOutput (state : UInt64) : UInt32 :=
  rotateRight32 (((state >>> 18) ^^^ state) >>> 27).toUInt32 (state >>> 59).toUInt32

/-- A word of two half words, the lower one first, and the state after them. -/
def fillWord (state : UInt64) : UInt64 × UInt64 :=
  let first := fillStep state
  let second := fillStep first
  ((fillOutput first).toUInt64 ||| ((fillOutput second).toUInt64 <<< 32), second)

/-- The next state of the spare generator, and the word that it gives there. -/
def spareStep (state : UInt64) : UInt64 × UInt64 :=
  let z := state + 0x9e3779b97f4a7c15
  let x := (z ^^^ (z >>> 30)) * 0xbf58476d1ce4e5b9
  let y := (x ^^^ (x >>> 27)) * 0x94d049bb133111eb
  (y ^^^ (y >>> 31), z)

/-- The state of four words drawn in a row. -/
def drawn (draw : UInt64 → UInt64 × UInt64) (state : UInt64) : Generator :=
  let first := draw state
  let second := draw first.2
  let third := draw second.2
  let fourth := draw third.2
  ⟨first.1, second.1, third.1, fourth.1⟩

/-- The state for a seed. -/
def ofSeed (seed : UInt64) : Generator :=
  let filled := drawn fillWord seed
  if filled = ⟨0, 0, 0, 0⟩ then drawn spareStep 0 else filled

/-- The next number and the state after it. -/
def next (g : Generator) : UInt64 × Generator :=
  let output := rotateLeft (g.s0 + g.s3) 23 + g.s0
  let t := g.s1 <<< 17
  let s2 := g.s2 ^^^ g.s0
  let s3 := g.s3 ^^^ g.s1
  let s1 := g.s1 ^^^ s2
  let s0 := g.s0 ^^^ s3
  (output, ⟨s0, s1, s2 ^^^ t, rotateLeft s3 45⟩)

end Generator

/-- The two digits of a byte in base sixteen. -/
def byteHex (byte : UInt8) : List Char :=
  [Nat.digitChar (byte.toNat / 16), Nat.digitChar (byte.toNat % 16)]

/-- The bytes of a number, the lowest first. -/
def littleEndianBytes (word : UInt64) : List UInt8 :=
  (List.range 8).map fun i => UInt8.ofNat (word.toNat / Nat.pow 256 i)

/-- The bytes of a number in base sixteen, the lowest byte first. -/
def littleEndianHex (word : UInt64) : String :=
  String.ofList ((littleEndianBytes word).flatMap byteHex)

theorem littleEndianBytes_length (word : UInt64) : (littleEndianBytes word).length = 8 := by
  simp [littleEndianBytes]

/-- Every byte has two digits, so leading zeros are kept. -/
theorem length_flatMap_byteHex (bytes : List UInt8) :
    (bytes.flatMap byteHex).length = 2 * bytes.length := by
  induction bytes with
  | nil => rfl
  | cons b bytes ih => simp [byteHex, ih]; omega

end CloudOps
