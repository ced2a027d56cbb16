/-!
# Decimals in double precision

How a number that was sent as a decimal is shown once it has been held in sixty-four bits. The
number becomes the nearest that fits, a tie going to the even one, and is written with the fewest
digits that lead back to it, the nearest of those if there are several. All of it is exact
arithmetic on integers.
-/

namespace AuthRealm.Text

/-- A number `mantissa * 2 ^ exponent`. -/
structure Binary where
  mantissa : Nat
  exponent : Int
  deriving DecidableEq, Repr

namespace Binary

/-- The bits of a mantissa, and the least and the greatest exponent. -/
def precision : Nat := 53
def leastExponent : Int := -1074
def greatestExponent : Int := 971

/-- The ratio `n / d` divided by a power of a base. -/
def scaled (base n d : Nat) (exponent : Int) : Nat × Nat :=
  if 0 ≤ exponent then (n, d * Nat.pow base exponent.toNat)
  else (n * Nat.pow base (-exponent).toNat, d)

/-- The integer nearest to a ratio, the even one of two. -/
def rounded (n d : Nat) : Nat :=
  let quotient := n / d
  let twice := 2 * (n % d)
  if d < twice || (twice = d && quotient % 2 = 1) then quotient + 1 else quotient

/-- The number nearest to a positive ratio, unless that is beyond all of them. -/
def nearest? (n d : Nat) : Option Binary :=
  let guess : Int := n.log2 - d.log2 - precision
  let (a, b) := scaled 2 n d guess
  let exponent := max leastExponent (if a / b < Nat.pow 2 precision then guess else guess + 1)
  let (a, b) := scaled 2 n d exponent
  let mantissa := rounded a b
  let v : Binary :=
    if mantissa = Nat.pow 2 precision then ⟨mantissa / 2, exponent + 1⟩ else ⟨mantissa, exponent⟩
  if greatestExponent < v.exponent then none else some v

/-- The most digits that a number needs, and the most before or behind the point. -/
def maxDigits : Nat := 17
def maxPlaces : Nat := 400

/-- The number as a ratio. -/
def ratio (v : Binary) : Nat × Nat :=
  scaled 2 v.mantissa 1 (-v.exponent)

/-- The integers around a ratio, the nearer one first. -/
def around (n d : Nat) : List Nat :=
  let near := rounded n d
  let low := n / d
  [near, if near = low then low + 1 else low]

/-- The fewest digits that lead back to a number, and the power of ten that they count. -/
def shortest (v : Binary) : Nat × Int :=
  let (n, d) := v.ratio
  let places : Int := (toString (n * Nat.pow 10 maxPlaces / d)).length - maxPlaces
  let found := (List.range maxDigits).findSome? fun (k : Nat) ↦
    let exponent : Int := places - (k + 1)
    let (a, b) := scaled 10 n d exponent
    let leadsBack (digits : Nat) : Bool :=
      let (a, b) := scaled 10 digits 1 (-exponent)
      nearest? a b == some v
    ((around a b).find? leadsBack).map (·, exponent)
  found.getD (0, 0)

/-- So many zeros. -/
def zeros (n : Int) : List Char :=
  List.replicate n.toNat '0'

/-- The text of digits that count a power of ten. Numbers that are very large or very small are
written with an exponent. -/
def digitsText (digits : Nat) (exponent : Int) : List Char :=
  let all := (toString digits).toList
  let written := (all.reverse.dropWhile (· == '0')).reverse
  let point : Int := all.length + exponent
  if point ≤ -4 || 16 < point then
    let power := (toString (point - 1).natAbs).toList
    let fraction := if written.length ≤ 1 then [] else '.' :: written.drop 1
    written.take 1 ++ fraction ++ ['e', if point ≤ 0 then '-' else '+'] ++
      zeros (2 - power.length) ++ power
  else if point ≤ 0 then ['0', '.'] ++ zeros (-point) ++ written
  else if written.length ≤ point then written ++ zeros (point - written.length) ++ ['.', '0']
  else written.take point.toNat ++ '.' :: written.drop point.toNat

end Binary

/-- The text of `mantissa * 10 ^ exponent` as the number in double precision that it becomes. -/
def decimalText (mantissa exponent : Int) : String :=
  let sign := if mantissa < 0 then "-" else ""
  let digits : Int := (toString mantissa.natAbs).length
  if mantissa = 0 || digits + exponent < -Binary.maxPlaces then sign ++ "0.0"
  else if Binary.maxPlaces < digits + exponent then sign ++ "inf"
  else
    let (n, d) := Binary.scaled 10 mantissa.natAbs 1 (-exponent)
    match Binary.nearest? n d with
    | none => sign ++ "inf"
    | some v =>
      if v.mantissa = 0 then sign ++ "0.0"
      else
        let (digits, power) := v.shortest
        sign ++ String.ofList (Binary.digitsText digits power)

end AuthRealm.Text
