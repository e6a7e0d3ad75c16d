import Specimen.Random.Source

/-! The keystream of ChaCha with eight rounds. A draw of 64 bits takes two words, the lower half first. -/

namespace Specimen.ChaCha

structure Quad where
  x : UInt32
  y : UInt32
  z : UInt32
  w : UInt32
  deriving DecidableEq

namespace Quad

def map (f : UInt32 → UInt32) (a : Quad) : Quad := ⟨f a.x, f a.y, f a.z, f a.w⟩

def zip (f : UInt32 → UInt32 → UInt32) (a b : Quad) : Quad := ⟨f a.x b.x, f a.y b.y, f a.z b.z, f a.w b.w⟩

def turn (a : Quad) : Quad := ⟨a.y, a.z, a.w, a.x⟩

def toList (a : Quad) : List UInt32 := [a.x, a.y, a.z, a.w]

end Quad

def rotateLeft (n : UInt32) (x : UInt32) : UInt32 := (x <<< n) ||| (x >>> (32 - n))

structure Block where
  a : Quad
  b : Quad
  c : Quad
  d : Quad
  deriving DecidableEq

namespace Block

def mix (n : UInt32) (a b d : Quad) : Quad × Quad :=
  let a := a.zip (· + ·) b
  (a, (d.zip (· ^^^ ·) a).map (rotateLeft n))

def columns (s : Block) : Block :=
  let (a, d) := mix 16 s.a s.b s.d
  let (c, b) := mix 12 s.c d s.b
  let (a, d) := mix 8 a b d
  let (c, b) := mix 7 c d b
  ⟨a, b, c, d⟩

def doubleRound (s : Block) : Block :=
  let s := s.columns
  let s := columns ⟨s.a, s.b.turn, s.c.turn.turn, s.d.turn.turn.turn⟩
  ⟨s.a, s.b.turn.turn.turn, s.c.turn.turn, s.d.turn⟩

def add (s t : Block) : Block :=
  ⟨s.a.zip (· + ·) t.a, s.b.zip (· + ·) t.b, s.c.zip (· + ·) t.c, s.d.zip (· + ·) t.d⟩

def toList (s : Block) : List UInt32 := s.a.toList ++ s.b.toList ++ s.c.toList ++ s.d.toList

end Block

structure Key where
  low : Quad
  high : Quad
  deriving DecidableEq

namespace Key

def spread (state : UInt64) : UInt32 × UInt64 :=
  let s := state * 6364136223846793005 + 11634580027462260723
  let x := (((s >>> 18) ^^^ s) >>> 27).toUInt32
  let r := (s >>> 59).toUInt32
  (if r = 0 then x else rotateLeft (32 - r) x, s)

def ofSeed (seed : UInt64) : Key :=
  let (a, s) := spread seed
  let (b, s) := spread s
  let (c, s) := spread s
  let (d, s) := spread s
  let (e, s) := spread s
  let (f, s) := spread s
  let (g, s) := spread s
  let (h, _) := spread s
  ⟨⟨a, b, c, d⟩, ⟨e, f, g, h⟩⟩

def block (key : Key) (counter : UInt64) : Block :=
  let start : Block :=
    ⟨⟨0x61707865, 0x3320646e, 0x79622d32, 0x6b206574⟩, key.low, key.high,
      ⟨counter.toUInt32, (counter >>> 32).toUInt32, 0, 0⟩⟩
  start.doubleRound.doubleRound.doubleRound.doubleRound.add start

end Key

structure Stream where
  key : Key
  counter : UInt64
  pending : List UInt32
  deriving DecidableEq

namespace Stream

def ofSeed (seed : UInt64) : Stream := ⟨Key.ofSeed seed, 0, []⟩

def next : StateM Stream UInt32 := fun s =>
  match s.pending with
  | x :: rest => (x, { s with pending := rest })
  | [] =>
    let block := s.key.block s.counter
    (block.a.x, ⟨s.key, s.counter + 1, block.toList.tail⟩)

instance : WordSource Stream where
  word32 := next
  word64 := do
    let low ← next
    let high ← next
    return high.toUInt64 <<< 32 ||| low.toUInt64

end Stream

end Specimen.ChaCha
