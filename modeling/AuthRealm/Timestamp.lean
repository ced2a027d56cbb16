/-!
# Time stamps

A moment in universal time, as stamps in the account table write it. A stamp has a fraction of six
digits unless the moment is a whole second.
-/

namespace AuthRealm

/-- A moment in universal time. -/
structure Timestamp where
  year : Nat
  month : Nat
  day : Nat
  hour : Nat := 0
  minute : Nat := 0
  second : Nat := 0
  microsecond : Nat := 0
  deriving DecidableEq, Repr

namespace Timestamp

/-- The `n` low decimal digits of a number. -/
def digits : Nat → Nat → List Char
  | 0, _ => []
  | n + 1, v => digits n (v / 10) ++ [Char.ofNat (48 + v % 10)]

/-- The stamp of a moment. -/
def text (t : Timestamp) : String :=
  String.ofList (digits 4 t.year ++ '-' :: digits 2 t.month ++ '-' :: digits 2 t.day ++
    'T' :: digits 2 t.hour ++ ':' :: digits 2 t.minute ++ ':' :: digits 2 t.second ++
    (if t.microsecond = 0 then [] else '.' :: digits 6 t.microsecond) ++ "+00:00".toList)

/-- The number that exactly `n` leading decimal digits write, and the rest. -/
def number? : Nat → Nat → List Char → Option (Nat × List Char)
  | 0, v, s => some (v, s)
  | n + 1, v, c :: s => if c.isDigit then number? n (10 * v + (c.toNat - 48)) s else none
  | _ + 1, _, [] => none

/-- The microseconds that a fraction writes: six digits, with zeros for those left out. -/
def fraction (s : List Char) : Nat :=
  ((s.takeWhile Char.isDigit ++ List.replicate 6 '0').take 6).foldl
    (fun v c ↦ 10 * v + (c.toNat - 48)) 0

/-- Reads a stamp: a date, a letter, a time of day, a fraction or none, and no more than a zone of
universal time. -/
def ofText? (s : String) : Option Timestamp :=
  match number? 4 0 s.toList with
  | some (year, '-' :: s) =>
    match number? 2 0 s with
    | some (month, '-' :: s) =>
      match number? 2 0 s with
      | some (day, []) => some ⟨year, month, day, 0, 0, 0, 0⟩
      | some (day, _ :: s) =>
        match number? 2 0 s with
        | some (hour, ':' :: s) =>
          match number? 2 0 s with
          | some (minute, ':' :: s) =>
            match number? 2 0 s with
            | some (second, '.' :: s) => some ⟨year, month, day, hour, minute, second, fraction s⟩
            | some (second, _) => some ⟨year, month, day, hour, minute, second, 0⟩
            | none => none
          | some (minute, _) => some ⟨year, month, day, hour, minute, 0, 0⟩
          | none => none
        | _ => none
      | none => none
    | _ => none
  | _ => none

end Timestamp

end AuthRealm
