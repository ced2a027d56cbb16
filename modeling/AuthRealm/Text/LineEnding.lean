/-!
# Line endings

A text file may end its lines with a line feed, a carriage return or both. `lines` cuts a text at
any of the three; no other character ends a line.
-/

namespace AuthRealm.Text

/-- The lines of a text, without their ends. What follows the last end is a line too, perhaps an
empty one. -/
def lines : List Char → List (List Char)
  | [] => [[]]
  | '\r' :: '\n' :: r => [] :: lines r
  | c :: r =>
    if c = '\n' || c = '\r' then [] :: lines r
    else
      match lines r with
      | [] => [[c]]
      | l :: ls => (c :: l) :: ls

end AuthRealm.Text
