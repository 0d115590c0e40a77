/-!
# Scores

A score is a binary64 number, kept as its 64 bits. Scores are ranked by the
total order on the bits: the magnitude orders positive scores, the reversed
magnitude orders negative ones, so minus zero ranks just below plus zero. The
rank is a natural number and determines the score.
-/

namespace SharedState

/-- A binary64 number. -/
structure Score where
  /-- Sign, exponent and fraction, from the most significant bit on. -/
  bits : UInt64
deriving DecidableEq, Inhabited

namespace Score

/-- Whether the sign bit is set. -/
def isNegative (score : Score) : Bool := 0x8000000000000000 ≤ score.bits.toNat

/-- The bits below the sign bit. -/
def magnitude (score : Score) : Nat := score.bits.toNat % 0x8000000000000000

/-- The bit above the fraction, which is not written but implied by a positive
exponent. -/
def hiddenBit : Nat := 0x10000000000000

/-- The magnitude of the infinities; greater magnitudes are not numbers. -/
def infinity : Nat := 0x7FF0000000000000

/-- Whether the bits stand for no number. -/
def isNaN (score : Score) : Bool := infinity < score.magnitude

/-- The score of a sign and a magnitude below `2 ^ 63`. -/
def ofMagnitude (negative : Bool) (magnitude : Nat) : Score :=
  ⟨UInt64.ofNat (if negative then 0x8000000000000000 + magnitude else magnitude)⟩

/-- The place of a score in the total order, lowest first. -/
def rank (score : Score) : Nat :=
  if score.isNegative then 0xFFFFFFFFFFFFFFFF - score.bits.toNat
  else 0x8000000000000000 + score.bits.toNat

/-- Two scores with one rank are one score. -/
theorem rank_injective {left right : Score} (same : left.rank = right.rank) : left = right := by
  obtain ⟨left⟩ := left
  obtain ⟨right⟩ := right
  have boundLeft := left.toNat_lt
  have boundRight := right.toNat_lt
  simp only [rank, isNegative, decide_eq_true_eq] at same
  congr 1
  apply UInt64.toNat.inj
  split at same <;> split at same <;> omega

end Score

end SharedState
