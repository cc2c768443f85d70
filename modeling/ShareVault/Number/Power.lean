/-! # Powers of two and of ten

    The two bases of this library: integers are bounded by powers of two, and
    decimals are scaled by powers of ten.
-/

namespace ShareVault

/-- The product of `n` twos. -/
def twoTo (n : Nat) : Nat := Nat.pow 2 n

/-- The product of `n` tens. -/
def tenTo (n : Nat) : Nat := Nat.pow 10 n

theorem twoTo_zero : twoTo 0 = 1 := rfl

theorem twoTo_succ (n : Nat) : twoTo (n + 1) = twoTo n * 2 := rfl

theorem tenTo_zero : tenTo 0 = 1 := rfl

theorem tenTo_succ (n : Nat) : tenTo (n + 1) = tenTo n * 10 := rfl

theorem twoTo_pos (n : Nat) : 0 < twoTo n := Nat.pow_pos (by decide)

theorem tenTo_pos (n : Nat) : 0 < tenTo n := Nat.pow_pos (by decide)

/-- Whether a number fits into a signed word of 64 bits. -/
def isSignedWord (n : Int) : Bool := -(twoTo 63) ≤ n && n < twoTo 63

end ShareVault
