/-!
Words of 64 bits.
-/

namespace JavaReview

/-- The number of values that a word has. -/
def wordValues : Nat := 0x10000000000000000

/-- The least integer that a word with sign holds. -/
def leastWord : Int := -0x8000000000000000

/-- Whether a number fits into a word with sign. -/
def fitsWord (n : Int) : Bool := leastWord ≤ n && n < -leastWord

end JavaReview
