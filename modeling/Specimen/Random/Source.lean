namespace Specimen

class WordSource (σ : Type) where
  word32 : StateM σ UInt32
  word64 : StateM σ UInt64

inductive Width where
  | half
  | full
  deriving DecidableEq

namespace Width

def modulus : Width → Nat
  | .half => UInt32.size
  | .full => UInt64.size

theorem modulus_pos : (w : Width) → 0 < w.modulus
  | .half => by decide
  | .full => by decide

def toReach (n : Nat) : Width := if n < UInt32.size then .half else .full

theorem lt_modulus_toReach {n : Nat} (h : n < UInt64.size) : n < (toReach n).modulus := by
  rw [toReach]
  split
  · assumption
  · exact h

variable (w : Width) (span x y : Nat)

/-- Scaling the word `x` down to a number below `span` leaves a remainder. -/
def scaled : Nat := x * span / w.modulus

def remainder : Nat := x * span % w.modulus

/-- Where the remainder is so great that a finer word could carry into the number, one is drawn. -/
def isOpen : Prop := w.modulus < w.remainder span x + span

instance : Decidable (w.isOpen span x) := inferInstanceAs (Decidable (_ < _))

def draw : Nat :=
  if w.isOpen span x ∧ w.modulus ≤ w.remainder span x + w.scaled span y then w.scaled span x + 1
  else w.scaled span x

variable {w span x y}

theorem scaled_lt (hx : x < w.modulus) (hs : 0 < span) : w.scaled span x < span :=
  Nat.div_lt_of_lt_mul (Nat.mul_lt_mul_of_pos_right hx hs)

theorem scaled_add_one_lt (hx : x < w.modulus) (ho : w.isOpen span x) : w.scaled span x + 1 < span := by
  have hd : w.modulus * w.scaled span x + w.remainder span x = x * span := Nat.div_add_mod _ _
  have hr : w.modulus < w.remainder span x + span := ho
  have hx : (x + 1) * span ≤ w.modulus * span := Nat.mul_le_mul_right span hx
  rw [Nat.add_mul] at hx
  refine Nat.lt_of_mul_lt_mul_left (a := w.modulus) ?_
  rw [Nat.mul_add]
  omega

theorem draw_lt (hx : x < w.modulus) (hs : 0 < span) : w.draw span x y < span := by
  rw [draw]
  split
  · rename_i h
    exact scaled_add_one_lt hx h.1
  · exact scaled_lt hx hs

end Width

section

variable {σ : Type} [WordSource σ]

def word : (w : Width) → StateM σ (Fin w.modulus)
  | .half => do
    let x ← WordSource.word32
    return ⟨x.toNat, x.toNat_lt⟩
  | .full => do
    let x ← WordSource.word64
    return ⟨x.toNat, x.toNat_lt⟩

def below (w : Width) (span : Nat) (h : 0 < span) : StateM σ (Fin span) := do
  let x ← word w
  if w.isOpen span x then
    let y ← word w
    return ⟨w.draw span x y, Width.draw_lt x.isLt h⟩
  else return ⟨w.scaled span x, Width.scaled_lt x.isLt h⟩

def between (w : Width) (lo hi : Nat) (_h : lo ≤ hi) : StateM σ Nat := do
  let i ← below w (hi - lo + 1) (by omega)
  return lo + i

def coin : StateM σ Bool := do
  let x ← WordSource.word32
  return decide (0x80000000 ≤ x)

end

structure Counted (σ : Type) where
  source : σ
  words32 : Nat
  words64 : Nat

namespace Counted

variable {σ : Type}

def start (source : σ) : Counted σ := ⟨source, 0, 0⟩

instance [WordSource σ] : WordSource (Counted σ) where
  word32 c :=
    match WordSource.word32 c.source with
    | (x, s) => (x, ⟨s, c.words32 + 1, c.words64⟩)
  word64 c :=
    match WordSource.word64 c.source with
    | (x, s) => (x, ⟨s, c.words32, c.words64 + 1⟩)

end Counted

/-- Words that come again from the first when all have been drawn. A draw of 32 bits takes a whole
word and keeps its lower half. -/
structure WordCycle where
  words : Array UInt64
  drawn : Nat

namespace WordCycle

def next : StateM WordCycle UInt64 := fun c =>
  (c.words.getD (c.drawn % c.words.size) 0, ⟨c.words, c.drawn + 1⟩)

instance : WordSource WordCycle where
  word32 := do
    let x ← next
    return x.toUInt32
  word64 := next

end WordCycle

end Specimen
