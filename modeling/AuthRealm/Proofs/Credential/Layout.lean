import AuthRealm.Proofs.Credential.Entries
import AuthRealm.Proofs.Credential.Reading

/-!
# Every way to write a credential file

A mapping from names to secrets can be written to a file in many ways: in any order, with blank
lines, comments and lines that say nothing between the entries, with older entries above the ones
that count, and with any of three line ends behind each line (`Layout`). **All of them are read back
as the mapping** (`Store.layout_is_read_back`).

The entries of a text are followed line by line (`pairsOf_lines_append`). Two line ends may become
one, where a carriage return stands before an empty line that ends with a line feed. Then the empty
line is lost, and nothing else, since it had no entry.
-/

namespace AuthRealm.Credential

open Storage Text

/-! ### Line ends -/

/-- What may stand at the end of a line. -/
inductive LineEnd where
  | feed
  | ret
  | both
  deriving DecidableEq, Repr

/-- The characters of a line end. -/
def LineEnd.text : LineEnd → List Char
  | feed => ['\n']
  | ret => ['\r']
  | both => ['\r', '\n']

/-- The lines with something in them. -/
def filled (ls : List (List Char)) : List (List Char) :=
  ls.filter (!·.isEmpty)

/-- An empty line has no entry. -/
theorem pairsOf_filled (ls : List (List Char)) : pairsOf (filled ls) = pairsOf ls := by
  rw [pairsOf, filled, List.filterMap_filter]
  refine List.filterMap_congr fun l _ ↦ ?_
  cases l <;> rfl

/-- A line end cuts a line off, and may take an empty line behind it away. -/
theorem exists_lines_text (e : LineEnd) (r : List Char) :
    ∃ ls, lines (e.text ++ r) = [] :: ls ∧ filled ls = filled (lines r) := by
  cases e with
  | feed => exact ⟨_, lines_feed r, rfl⟩
  | both => exact ⟨_, lines_pair r, rfl⟩
  | ret =>
    by_cases fused : r.head? = some '\n'
    · obtain ⟨r', rfl⟩ := List.head?_eq_some_iff.1 fused
      refine ⟨_, lines_pair r', ?_⟩
      rw [lines_feed]
      rfl
    · exact ⟨_, lines_return fused, rfl⟩

/-- **The entries of a text are those of its first line and those behind it.** -/
theorem pairsOf_lines_append {l : List Char} (line : IsLine l) (e : LineEnd) (r : List Char) :
    pairsOf (lines (l ++ e.text ++ r)) = pairsOf [l] ++ pairsOf (lines r) := by
  obtain ⟨ls, cut, same⟩ := exists_lines_text e r
  rw [List.append_assoc, lines_append line cut, ← pairsOf_filled (lines r), ← same, pairsOf_filled]
  exact pairsOf_append [l] ls

/-! ### Lines -/

/-- What may be written in a line. -/
inductive Item where
  | blank (text : List Char)
  | comment (front text : List Char)
  | bare (text : List Char)
  | entry (front : List Char) (username secret : String) (back : List Char)

namespace Item

/-- The characters of a line. -/
def text : Item → List Char
  | blank text => text
  | comment front text => front ++ '#' :: text
  | bare text => text
  | entry front username secret back => front ++ (username.toList ++ ':' :: secret.toList) ++ back

/-- The entry of a line, if it has one. -/
def pair? : Item → Option (String × String)
  | entry _ username secret _ => some (username, secret)
  | _ => none

/-- A line is what it is called. Blanks may stand around an entry and before a comment. -/
inductive Sound : Item → Prop where
  | blank {text : List Char} (line : IsLine text) (blank : ∀ c ∈ text, isBlank c = true) :
      Sound (.blank text)
  | comment {front text : List Char} (line : IsLine front) (line' : IsLine text)
      (blank : ∀ c ∈ front, isBlank c = true) : Sound (.comment front text)
  | bare {text : List Char} (line : IsLine text) (colon : ':' ∉ text) : Sound (.bare text)
  | entry {front back : List Char} {username secret : String} (line : IsLine front)
      (line' : IsLine back) (blank : ∀ c ∈ front, isBlank c = true)
      (blank' : ∀ c ∈ back, isBlank c = true) (name : IsName username.toList)
      (spelt : IsSecret secret.toList) : Sound (.entry front username secret back)

variable {i : Item}

theorem Sound.isLine (h : i.Sound) : IsLine i.text := by
  have colon : IsLine [':'] := by decide
  have mark : IsLine ['#'] := by decide
  cases h with
  | blank line _ => exact line
  | comment line line' _ => exact line.append (mark.append line')
  | bare line _ => exact line
  | entry line line' _ _ name spelt =>
    exact (line.append (name.isLine.append (colon.append spelt.isLine))).append line'

/-- **A line is read as what it is.** -/
theorem Sound.pair?_ofText (h : i.Sound) : (Line.ofText i.text).pair? = i.pair? := by
  -- one case for each kind of line; only an entry has a pair to read
  cases h with
  | blank line blank =>
    refine pair?_ofText_eq_none fun u s spells ↦ ?_
    rw [text, trim_of_blank blank] at spells
    exact absurd spells.2.1 (by simp)
  | @comment front text line line' blank =>
    refine pair?_ofText_eq_none fun u s spells ↦ spells.1 ?_
    -- the mark is the first character that is not blank
    have mark : isBlank '#' = false := by decide
    rw [Item.text, trim, trimStart_append blank, trimStart_eq_self mark]
    exact congrArg List.head? (trimEnd_append_cons [] text mark)
  | bare line colon =>
    refine pair?_ofText_eq_none fun u s spells ↦ colon (mem_of_mem_trim ?_)
    rw [text] at spells
    rw [spells.2.1]
    simp
  | entry line line' blank blank' name spelt =>
    rw [text, ofText_entry name spelt blank blank', Line.pair?, String.ofList_toList,
      String.ofList_toList]
    rfl

theorem pairsOf_map_text {is : List Item} (sound : ∀ i ∈ is, i.Sound) :
    pairsOf (is.map text) = is.filterMap pair? := by
  rw [pairsOf, List.filterMap_map]
  exact List.filterMap_congr fun i hi ↦ (sound i hi).pair?_ofText

end Item

/-! ### Files -/

/-- How a credential file is written: lines with an end each, and perhaps one more without. -/
structure Layout where
  ended : List (Item × LineEnd)
  open? : Option Item := none

namespace Layout

/-- All lines of a file. -/
def items (layout : Layout) : List Item :=
  layout.ended.map (·.1) ++ layout.open?.toList

/-- The characters of a file. -/
def text (layout : Layout) : List Char :=
  layout.ended.flatMap (fun p ↦ p.1.text ++ p.2.text) ++ (layout.open?.map Item.text).getD []

/-- A file lists a mapping: its lines are sound, and the entries that no other entry of their name
follows are those of the mapping. -/
structure Lists (layout : Layout) (m : List (String × String)) : Prop where
  sound : ∀ i ∈ layout.items, i.Sound
  distinct : (m.map Prod.fst).Nodup
  isFinal_iff : ∀ p, IsFinal (layout.items.filterMap Item.pair?) p ↔ p ∈ m

/-- Cut at its line ends, a file has the entries of its lines. -/
theorem pairsOf_text {layout : Layout} (sound : ∀ i ∈ layout.items, i.Sound) :
    pairsOf (lines layout.text) = pairsOf (layout.items.map Item.text) := by
  obtain ⟨ended, last⟩ := layout
  -- item by item; an item has no line end inside, so its own line end cuts it off
  induction ended with
  | nil =>
    cases last with
    | none => rfl
    | some i =>
      have only : i.Sound := sound i (by simp [items])
      exact congrArg pairsOf (lines_of_isLine only.isLine)
  | cons p ended ih =>
    have first : p.1.Sound := sound p.1 (by simp [items])
    have rest := ih fun i hi ↦ sound i (List.mem_cons_of_mem p.1 hi)
    have split : text ⟨p :: ended, last⟩ = p.1.text ++ p.2.text ++ text ⟨ended, last⟩ := by
      simp [text]
    rw [split, pairsOf_lines_append first.isLine, rest]
    exact (pairsOf_append [p.1.text] _).symm

end Layout

variable {tree : Tree} {s : Store} {layout : Layout} {m : List (String × String)} {time : Int}

/-- **Whatever the layout, a mapping is read back**: if a file lists it in UTF-8 and has another
time than the one recorded, then a refresh reloads it, reports as many entries as it has and leaves
them as the entries of the store. -/
theorem Store.layout_is_read_back (clean : hasNul s.path.text = false)
    (utf8 : Charset.ofName s.charset.name = .ok .utf8)
    (written : tree.findNode s.path = .ok (.file (String.ofList layout.text).toUTF8.toList time))
    (new : s.modifiedAt ≠ some time) (lists : layout.Lists m) :
    (s.refresh tree).result = .ok ⟨.reloaded, m.length⟩ ∧
      (s.refresh tree).store.entries.pairs.Perm m ∧
      (∀ u secret, (s.refresh tree).store.secret? u = some secret ↔ (u, secret) ∈ m) ∧
      (s.refresh tree).store.modifiedAt = some time := by
  have refreshed : s.refresh tree = s.reloaded (some time) (lines layout.text) := by
    rw [refresh_of_utf8 clean utf8 written new, String.toList_ofList]
  -- of the text only the pairs of its items count, in the order of the items
  have made : Entries.ofLines (lines layout.text) =
      Entries.ofPairs (layout.items.filterMap Item.pair?) := by
    rw [Entries.ofLines_eq, Layout.pairsOf_text lists.sound, Item.pairsOf_map_text lists.sound]
  have perm : (Entries.ofLines (lines layout.text)).pairs.Perm m :=
    made ▸ Entries.perm_ofPairs lists.distinct lists.isFinal_iff
  refine ⟨?_, ?_, fun u secret ↦ ?_, ?_⟩
  · rw [refreshed, ← perm.length_eq]
    rfl
  · rw [refreshed]
    exact perm
  · rw [refreshed, ← lists.isFinal_iff, ← Entries.secret?_ofPairs_eq_some_iff, ← made]
    rfl
  · rw [refreshed]
    rfl

/-- A file with an older entry, an empty line lost between the two ends around it, a comment, a line
that says nothing, blanks around an entry, and a last line without an end. -/
def Layout.mixed : Layout where
  ended := [(.entry [] "amy" "old" [], .ret), (.blank [], .feed),
    (.comment [' '] [' ', 's', 't', 'a', 'f', 'f'], .feed),
    (.bare ['n', 'o', 'b', 'o', 'd', 'y'], .both), (.entry [' '] "bo b" "x" [' '], .ret)]
  open? := some (.entry [] "amy" " n:ew" [])

theorem Layout.lists_mixed : Layout.mixed.Lists [("amy", " n:ew"), ("bo b", "x")] where
  sound := by
    intro i hi
    simp only [items, mixed, List.map_cons, List.map_nil, Option.toList_some, List.cons_append,
      List.nil_append, List.mem_cons, List.not_mem_nil, or_false] at hi
    have none : ∀ c ∈ ([] : List Char), isBlank c = true := nofun
    have space : ∀ c ∈ [' '], isBlank c = true := List.all_eq_true.1 rfl
    rcases hi with rfl | rfl | rfl | rfl | rfl | rfl
    · exact .entry (by decide) (by decide) none none (by decide) (by decide)
    · exact .blank (by decide) none
    · exact .comment (by decide) (by decide) space
    · exact .bare (by decide) (by decide)
    · exact .entry (by decide) (by decide) space space (by decide) (by decide)
    · exact .entry (by decide) (by decide) none none (by decide) (by decide)
  distinct := by decide
  isFinal_iff := by
    rintro ⟨u, secret⟩
    -- the pair that counts for a name is the last one, here the second of the two for `amy`
    have entries : mixed.items.filterMap Item.pair? =
        (([] ++ [("amy", "old")]) ++ [("bo b", "x")]) ++ [("amy", " n:ew")] := rfl
    rw [entries, isFinal_concat, isFinal_concat, isFinal_concat]
    simp only [not_isFinal_nil, Prod.mk.injEq, List.mem_cons, List.not_mem_nil]
    grind

/-- That file is read back by a store that has read nothing. -/
theorem Store.mixed_layout_is_read_back :
    let s : Store := { path := ⟨"/", ["htpasswd"]⟩ }
    let tree := lone (String.ofList Layout.mixed.text).toUTF8.toList 7
    Layout.mixed.text =
        "amy:old\r\n # staff\nnobody\r\n bo b:x \ramy: n:ew".toList ∧
      (s.refresh tree).result = .ok ⟨.reloaded, 2⟩ ∧
      (s.refresh tree).store.secret? "amy" = some " n:ew" := by
  intro s tree
  obtain ⟨result, -, secret, -⟩ := Store.layout_is_read_back (s := s) (by decide) (by decide)
    (findNode_lone _ 7) (by decide) Layout.lists_mixed
  exact ⟨by decide, result, (secret "amy" " n:ew").2 (by decide)⟩

end AuthRealm.Credential
