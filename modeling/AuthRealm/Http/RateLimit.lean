import AuthRealm.Text.Blank

/-!
# Rate limits

How often a service may be asked. A limit is an amount per window; counting is by fixed windows, of
which a run of the service sees one. Every hit counts, a refused one too, and a hit is refused once
there are more hits than the amount allows.

There is a count for every key and every path, so what one client does on one path costs no other
client and no other path anything. A path counts as it is written: a route that answers to two
spellings of its path has a count for each.
-/

namespace AuthRealm.Http

open Text

/-- The length of a window. -/
inductive Span where
  | second
  | minute
  | hour
  | day
  | month
  | year
  deriving DecidableEq, Repr

/-- The name of a span. -/
def Span.name : Span → String
  | .second => "second"
  | .minute => "minute"
  | .hour => "hour"
  | .day => "day"
  | .month => "month"
  | .year => "year"

/-- All spans. -/
def Span.all : List Span := [.hour, .minute, .second, .day, .month, .year]

/-- At most `amount` hits in so many spans. -/
structure RateLimit where
  amount : Nat
  multiple : Nat := 1
  span : Span
  deriving DecidableEq, Repr

namespace RateLimit

/-- The text of a limit. -/
def text (l : RateLimit) : String :=
  toString l.amount ++ " per " ++ toString l.multiple ++ " " ++ l.span.name

/-! ### Reading -/

/-- The number that digits write. -/
def numberOf (digits : List Char) : Nat :=
  digits.foldl (fun n d ↦ 10 * n + (d.toNat - 48)) 0

/-- What follows a slash or the word for "per", with blanks around it. -/
def afterPer? (s : List Char) : Option (List Char) :=
  match trimStart s with
  | '/' :: r => some (trimStart r)
  | p :: e :: r :: rest =>
    if [p, e, r].map Char.toLower = "per".toList then some (trimStart rest) else none
  | _ => none

/-- The span that a text names, in the singular or the plural and in any letter case. -/
def spanOf? (s : List Char) : Option Span :=
  let word := (trim s).map Char.toLower
  Span.all.find? fun u ↦ word == u.name.toList || word == u.name.toList ++ ['s']

/-- Reads one limit: an amount, a number of spans that may be left out, and a span. -/
def ofPiece? (s : List Char) : Option RateLimit := do
  let s := trimStart s
  let amount := s.takeWhile Char.isDigit
  if amount.isEmpty then none
  let rest ← afterPer? (s.drop amount.length)
  let multiple := rest.takeWhile Char.isDigit
  let span ← spanOf? (rest.drop multiple.length)
  return ⟨numberOf amount, max 1 (numberOf multiple), span⟩

/-- The pieces of a text between separators. A colon before a separator belongs to it. -/
def pieces : List Char → List (List Char)
  | [] => [[]]
  | ':' :: d :: r => if isSeparator d then [] :: pieces r else cons ':' (pieces (d :: r))
  | c :: r => if isSeparator c then [] :: pieces r else cons c (pieces r)
where
  /-- A character between limits. -/
  isSeparator (c : Char) : Bool := c = ',' || c = ';' || c = '|'
  /-- One more character in front of the first piece. -/
  cons (c : Char) : List (List Char) → List (List Char)
    | [] => [[c]]
    | p :: ps => (c :: p) :: ps

/-- Reads the limits of a setting. A text that is not understood as a whole sets no limit. -/
def ofText (s : String) : List RateLimit :=
  ((pieces s.toList).mapM ofPiece?).getD []

end RateLimit

/-! ### Counting -/

/-- What is counted together. -/
structure Bucket where
  path : String
  key : String
  limit : RateLimit
  deriving DecidableEq, Repr

/-- How often each bucket was hit. -/
structure Counters where
  counts : List (Bucket × Nat) := []
  deriving DecidableEq, Repr

namespace Counters

/-- The hits of a bucket. -/
def count (c : Counters) (b : Bucket) : Nat :=
  ((c.counts.find? fun e ↦ e.1 == b).map (·.2)).getD 0

/-- The counters after one more hit of a bucket. -/
def add (c : Counters) (b : Bucket) : Counters :=
  ⟨(b, c.count b + 1) :: c.counts.filter fun e ↦ e.1 != b⟩

/-- Hits a bucket for each limit in turn, until one refuses; gives the limit that did. -/
def hit (c : Counters) (path key : String) : List RateLimit → Counters × Option RateLimit
  | [] => (c, none)
  | l :: ls =>
    let c := c.add ⟨path, key, l⟩
    if l.amount < c.count ⟨path, key, l⟩ then (c, some l) else hit c path key ls

/-! ### The view of each operation -/

@[simp] theorem count_empty (b : Bucket) : ({} : Counters).count b = 0 := rfl

theorem count_add (c : Counters) (b d : Bucket) :
    (c.add b).count d = if d = b then c.count b + 1 else c.count d := by
  by_cases h : d = b
  · subst h
    simp [add, count]
  · have hb : (b == d) = false := by simpa using Ne.symm h
    simp only [count, add, List.find?_cons, hb, h, if_false]
    congr 2
    -- the counts of `b` are dropped and all others kept, so the one of `d` is found as before
    induction c.counts with
    | nil => rfl
    | cons e es ih =>
      by_cases he : e.1 = b
      · have hd : (e.1 == d) = false := by simpa [he] using Ne.symm h
        simpa [List.filter_cons, he, List.find?_cons, hb] using ih
      · by_cases hed : e.1 = d
        · simp [hed, h]
        · have hd : (e.1 == d) = false := by simpa using hed
          simpa [List.filter_cons, he, List.find?_cons, hd] using ih

end Counters

end AuthRealm.Http
