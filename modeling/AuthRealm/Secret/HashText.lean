/-!
# The text of a salted hash

Salted hashes write six bits to a character. The alphabet runs from `.` through the digits and the
two cases; this module has the alphabet, the two orders in which bits are dealt out to characters,
and the length and alphabet of what they write (`length_lowFirst`, `isHashChar_of_mem_lowFirst`).
-/

namespace AuthRealm.Secret

/-- The sixty-four characters, by value. -/
def hashAlphabet : List Char :=
  "./0123456789ABCDEFGHIJKLMNOPQRSTUVWXYZabcdefghijklmnopqrstuvwxyz".toList

/-- Whether a character belongs to the alphabet. -/
def isHashChar (c : Char) : Bool :=
  ('.' ≤ c && c ≤ '9') || ('A' ≤ c && c ≤ 'Z') || ('a' ≤ c && c ≤ 'z')

/-- The character of a value below sixty-four. -/
def hashChar (v : Nat) : Char :=
  hashAlphabet.getD (v % 64) '.'

/-- The value of a character of the alphabet, zero for any other. -/
def hashValue (c : Char) : Nat :=
  (hashAlphabet.findIdx? (· == c)).getD 0

/-- The `n` low groups of six bits of a number, the lowest first. -/
def lowFirst : Nat → Nat → List Char
  | 0, _ => []
  | n + 1, v => hashChar v :: lowFirst n (v / 64)

/-- The `n` low groups of six bits of a number, the highest first. -/
def highFirst (n v : Nat) : List Char :=
  (lowFirst n v).reverse

/-! ### Length and alphabet -/

theorem hashAlphabet_all : hashAlphabet.all isHashChar = true := by decide

theorem isHashChar_hashChar (v : Nat) : isHashChar (hashChar v) = true := by
  have h : hashAlphabet.length = 64 := by decide
  have hlt : v % 64 < hashAlphabet.length := by rw [h]; exact Nat.mod_lt _ (by decide)
  have hmem : hashChar v ∈ hashAlphabet := by
    simp only [hashChar, List.getD_eq_getElem?_getD, List.getElem?_eq_getElem hlt, Option.getD_some]
    exact List.getElem_mem hlt
  exact List.all_eq_true.mp hashAlphabet_all _ hmem

@[simp] theorem length_lowFirst (n v : Nat) : (lowFirst n v).length = n := by
  induction n generalizing v with
  | zero => rfl
  | succ n ih => simp [lowFirst, ih]

@[simp] theorem length_highFirst (n v : Nat) : (highFirst n v).length = n := by
  simp [highFirst]

theorem isHashChar_of_mem_lowFirst {c : Char} {n v : Nat} (h : c ∈ lowFirst n v) :
    isHashChar c = true := by
  induction n generalizing v with
  | zero => simp [lowFirst] at h
  | succ n ih =>
    simp only [lowFirst, List.mem_cons] at h
    rcases h with rfl | h
    · exact isHashChar_hashChar v
    · exact ih h

theorem isHashChar_of_mem_highFirst {c : Char} {n v : Nat} (h : c ∈ highFirst n v) :
    isHashChar c = true :=
  isHashChar_of_mem_lowFirst (List.mem_reverse.mp h)

end AuthRealm.Secret
