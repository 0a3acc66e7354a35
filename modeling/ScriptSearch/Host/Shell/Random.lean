/-! Numbers that look as if they came by chance: each follows from the one before, so that a first one
that is given decides all of them. -/

namespace ScriptSearch.Host.Shell

structure Random where
  seed : Nat := 1
  /-- The number that was drawn last; the next one differs. -/
  last : Nat := 17767
  deriving Repr

namespace Random

/-- The numbers that follow from one that is given. -/
def ofSeed (n : Nat) : Random := { seed := n, last := 0 }

/-- Multiplies by 16807 and divides by the prime that is one less than two to the power of 31. -/
def step (n : Nat) : Nat := (if n = 0 then 123459876 else n) * 16807 % 2147483647

/-- Fifteen bits of a seed. -/
def bits (n : Nat) : Nat := ((n >>> 16) ^^^ (n % 65536)) % 32768

/-- Draws a number. The first argument bounds the draws, as a number like the last one does not count. -/
def draw : Nat → Random → Nat × Random
  | 0, r => (r.last, r)
  | steps + 1, r =>
    let seed := step r.seed
    let n := bits seed
    if n = r.last then draw steps { r with seed } else (n, { seed, last := n })

/-- Draws the next number. -/
def next (r : Random) : Nat × Random := r.draw 64

end Random

end ScriptSearch.Host.Shell
