/-!
# Fractional parts of roots

The round constants and starting values of the SHA-2 family are the first bits of the fractional
parts of the cube and square roots of the first primes. This module computes them instead of
listing them: `rootFraction k bits p` is the first `bits` bits after the point of the `k`-th root
of `p`, by exact integer arithmetic.
-/

namespace AuthRealm.Digest

/-- No number from `2` to `n - 1` divides `n`. -/
def isPrime (n : Nat) : Bool :=
  2 ≤ n && (List.range n).all fun d ↦ d < 2 || n % d != 0

/-- The eighty primes up to 409. -/
def smallPrimes : List Nat :=
  (List.range 410).filter isPrime

/-- The largest `r < 2 ^ n + low` of the form `low + …` with `r ^ k ≤ target`, found bit by bit
from the top. -/
def rootBelow (k target : Nat) : Nat → Nat → Nat
  | 0, low => low
  | n + 1, low =>
    let next := low + Nat.pow 2 n
    rootBelow k target n (if Nat.pow next k ≤ target then next else low)

/-- The first `bits` bits after the point of the `k`-th root of `p`, for `p < 2 ^ (8 * k)`. -/
def rootFraction (k bits p : Nat) : Nat :=
  rootBelow k (p * Nat.pow 2 (k * bits)) (bits + 8) 0 % Nat.pow 2 bits

end AuthRealm.Digest
