import AuthRealm.Proofs.Credential.Entries

/-!
# What a list of lines says

The mapping that lines give, said without the reader of lines. `IsEntry` is the grammar: a line is
an entry of a name and a secret if its core, what is left of it without the blanks around it, is the
two with a colon between them and is no comment. The reader finds exactly these entries
(`pair?_ofText_eq_some_iff`), at any line, also at one with a line end in it.

**A name has the secret of its last entry, and no other** (`lines_are_read_exactly`). Two things
follow, since the last entries are all that counts. Lines behind others override them, name by name
(`secret?_ofPairs_append`). And what has been read can be written out and read again in any order:
name and secret have no blanks at their outer ends, so the line that is written is its own core
(`IsEntry.written`), and a name that occurs once has but one last entry (`isFinal_iff_mem`).
-/

namespace AuthRealm.Credential

open Text

/-! ### The grammar of a line -/

/-- **A line is an entry** of a user name and a secret: without the blanks around it, it is not
empty, does not start with a `#`, and is the two with a colon between them; the name is not empty
and has no colon, and the secret is not empty and has no line feed. -/
def IsEntry (line : List Char) (username secret : String) : Prop :=
  ∃ core, IsCore line core ∧ core ≠ [] ∧ core.head? ≠ some '#' ∧
    core = username.toList ++ ':' :: secret.toList ∧
    username ≠ "" ∧ ':' ∉ username.toList ∧ secret ≠ "" ∧ '\n' ∉ secret.toList

theorem isEntry_iff_spells {line : List Char} {u s : String} :
    IsEntry line u s ↔ Spells (trim line) u.toList s.toList := by
  constructor
  · rintro ⟨core, left, -, comment, cut, hu, colon, hs, feed⟩
    rw [trim_eq_iff.2 left]
    exact ⟨comment, cut, mt String.toList_eq_nil_iff.1 hu, colon,
      mt String.toList_eq_nil_iff.1 hs, feed⟩
  · rintro ⟨comment, cut, hu, colon, hs, feed⟩
    refine ⟨trim line, trim_eq_iff.1 rfl, ?_, comment, cut, mt String.toList_eq_nil_iff.2 hu, colon,
      mt String.toList_eq_nil_iff.2 hs, feed⟩
    rw [cut]
    exact List.append_ne_nil_of_right_ne_nil _ (List.cons_ne_nil _ _)

/-- **The reader finds the entries of the grammar**, and no others. -/
theorem pair?_ofText_eq_some_iff {line : List Char} {u s : String} :
    (Line.ofText line).pair? = some (u, s) ↔ IsEntry line u s := by
  rw [Line.pair?_eq_some_iff, Line.ofText_eq_entry_iff, isEntry_iff_spells]

/-- The line of a pair. -/
def lineOf (p : String × String) : List Char :=
  p.1.toList ++ ':' :: p.2.toList

/-- An entry that has been read is its own line: nothing more can be trimmed from it. -/
theorem IsEntry.written {line : List Char} {u s : String} (h : IsEntry line u s) :
    IsEntry (lineOf (u, s)) u s := by
  obtain ⟨core, ⟨-, start, final⟩, some, comment, rfl, rest⟩ := h
  have left : IsCore (lineOf (u, s)) (lineOf (u, s)) :=
    ⟨⟨[], [], by rw [List.nil_append, List.append_nil], nofun, nofun⟩, start, final⟩
  exact ⟨_, left, some, comment, rfl, rest⟩

/-- The name of an entry has no line end that its line has not. -/
theorem IsEntry.isLine {line : List Char} {u s : String} (h : IsEntry line u s)
    (whole : IsLine line) :
    IsLine u.toList := by
  obtain ⟨core, ⟨⟨front, back, cut, -⟩, -⟩, -, -, rfl, -⟩ := h
  have inside {c : Char} (mem : c ∈ u.toList) : c ∈ line := by
    rw [cut]
    exact List.mem_append_left _ (List.mem_append_right _ (List.mem_append_left _ mem))
  exact ⟨fun mem ↦ whole.1 (inside mem), fun mem ↦ whole.2 (inside mem)⟩

/-! ### Last entries -/

/-- The last entry of a name among lines is the final one of its pairs. -/
theorem isFinal_pairsOf_iff {xs : List (List Char)} {u s : String} :
    IsFinal (pairsOf xs) (u, s) ↔ ∃ before line after, xs = before ++ line :: after ∧
      IsEntry line u s ∧ ∀ l ∈ after, ∀ other, ¬ IsEntry l u other := by
  constructor
  · rintro ⟨before, after, cut, others⟩
    obtain ⟨front, rest, rfl, -, hrest⟩ := List.filterMap_eq_append_iff.1 cut
    obtain ⟨silent, line, behind, rfl, -, read, rfl⟩ := List.filterMap_eq_cons_iff.1 hrest
    refine ⟨front ++ silent, line, behind, by rw [List.append_assoc],
      pair?_ofText_eq_some_iff.1 read, fun l hl other entry ↦ ?_⟩
    exact others _ (List.mem_filterMap.2 ⟨l, hl, pair?_ofText_eq_some_iff.2 entry⟩) rfl
  · rintro ⟨before, line, after, rfl, entry, others⟩
    refine isFinal_pairsOf (pair?_ofText_eq_some_iff.2 entry) ?_
    rintro l hl ⟨v, other⟩ read rfl
    exact others l hl other (pair?_ofText_eq_some_iff.1 read)

/-- Among names that occur once every pair is the final one. -/
theorem isFinal_iff_mem {ps : List (String × String)} (distinct : (ps.map Prod.fst).Nodup)
    (p : String × String) : IsFinal ps p ↔ p ∈ ps := by
  constructor
  · rintro ⟨before, after, rfl, -⟩
    exact List.mem_append_right _ List.mem_cons_self
  · intro listed
    obtain ⟨before, after, rfl⟩ := List.append_of_mem listed
    rw [List.map_append, List.map_cons, List.nodup_append, List.nodup_cons] at distinct
    exact ⟨before, after, rfl, fun q hq same ↦ distinct.2.1.1 (same ▸ List.mem_map_of_mem hq)⟩

namespace Entries

/-- **Pairs override those before them**, name by name. -/
theorem secret?_ofPairs_append (ps qs : List (String × String)) (u : String) :
    (ofPairs (ps ++ qs)).secret? u =
      ((ofPairs qs).secret? u).or ((ofPairs ps).secret? u) := by
  induction qs using List.reverseRecOn with
  | nil => rw [List.append_nil]; rfl
  | append_singleton qs q ih =>
    rw [← List.append_assoc, ofPairs_concat, ofPairs_concat, secret?_insert, secret?_insert, ih]
    split
    · rfl
    · rfl

theorem nodup_ofLines (xs : List (List Char)) : ((ofLines xs).pairs.map Prod.fst).Nodup := by
  rw [ofLines_eq]
  exact nodup_ofPairs _

theorem secret?_ofLines_eq_some_iff {xs : List (List Char)} {u s : String} :
    (ofLines xs).secret? u = some s ↔ ∃ before line after, xs = before ++ line :: after ∧
      IsEntry line u s ∧ ∀ l ∈ after, ∀ other, ¬ IsEntry l u other := by
  rw [ofLines_eq, secret?_ofPairs_eq_some_iff, isFinal_pairsOf_iff]

/-- What has been read is an entry of its own line. -/
theorem isEntry_lineOf {xs : List (List Char)} {p : String × String}
    (listed : p ∈ (ofLines xs).pairs) : IsEntry (lineOf p) p.1 p.2 := by
  rw [← secret?_eq_some_iff (nodup_ofLines xs), secret?_ofLines_eq_some_iff] at listed
  obtain ⟨-, line, -, -, entry, -⟩ := listed
  exact entry.written

/-- **What has been read is read back** from its lines, in whatever order they are written. -/
theorem ofLines_lineOf {xs : List (List Char)} {ps : List (String × String)}
    (same : ps.Perm (ofLines xs).pairs) : ofLines (ps.map lineOf) = ofPairs ps := by
  have read : ∀ p ∈ ps, (Line.ofText (lineOf p)).pair? = some p := fun p hp ↦
    pair?_ofText_eq_some_iff.2 (isEntry_lineOf (same.mem_iff.1 hp))
  have pairs : pairsOf (ps.map lineOf) = ps := by
    rw [pairsOf, List.filterMap_map]
    exact (List.filterMap_congr read).trans List.filterMap_some
  rw [ofLines_eq, pairs]

/-- **Lines are read exactly.** For all lists of lines, whatever a line has in it:

* a name has a secret exactly when some line is an entry of the name and the last such line is one
  of the name and that secret;
* the pairs that are listed are the names with their secrets, each name once;
* with more lines behind them the mapping is overridden by that of those lines;
* the lines of the listed pairs, in any order, give the same mapping again. -/
theorem lines_are_read_exactly (xs : List (List Char)) :
    (∀ u s, (ofLines xs).secret? u = some s ↔ ∃ before line after, xs = before ++ line :: after ∧
        IsEntry line u s ∧ ∀ l ∈ after, ∀ other, ¬ IsEntry l u other) ∧
      ((∀ u s, (u, s) ∈ (ofLines xs).pairs ↔ (ofLines xs).secret? u = some s) ∧
        ((ofLines xs).pairs.map Prod.fst).Nodup) ∧
      (∀ ys u, (ofLines (xs ++ ys)).secret? u =
        ((ofLines ys).secret? u).or ((ofLines xs).secret? u)) ∧
      ∀ ps : List (String × String), ps.Perm (ofLines xs).pairs →
        ∀ u, (ofLines (ps.map lineOf)).secret? u = (ofLines xs).secret? u := by
  refine ⟨fun u s ↦ secret?_ofLines_eq_some_iff,
    ⟨fun u s ↦ (secret?_eq_some_iff (nodup_ofLines xs)).symm, nodup_ofLines xs⟩,
    fun ys u ↦ ?_, fun ps same u ↦ ?_⟩
  · rw [ofLines_eq, ofLines_eq, ofLines_eq, pairsOf_append, secret?_ofPairs_append]
  · have distinct : (ps.map Prod.fst).Nodup := (same.map _).nodup_iff.2 (nodup_ofLines xs)
    refine Option.ext fun s ↦ ?_
    rw [ofLines_lineOf same, secret?_ofPairs_eq_some_iff, isFinal_iff_mem distinct, same.mem_iff,
      secret?_eq_some_iff (nodup_ofLines xs)]

/-- A name is overridden by a line further down, one of its lines has a line end in it, and what has
been read is written out the other way round. -/
theorem overridden_lines_are_read_exactly :
    let xs := ["amy:old", "#bo:z", " b\no:x:y "].map String.toList
    let ys := [":w", "amy:n\rw", "bo:"].map String.toList
    let ps := [("b\no", "x:y"), ("amy", "n\rw")]
    ps.Perm (ofLines (xs ++ ys)).pairs ∧
      (ofLines (xs ++ ys)).secret? "amy" = some "n\rw" ∧
      (ofLines (ps.map lineOf)).secret? "amy" = some "n\rw" := by
  intro xs ys ps
  have same : ps.Perm (ofLines (xs ++ ys)).pairs := by decide
  obtain ⟨-, ⟨listed, -⟩, -, again⟩ := lines_are_read_exactly (xs ++ ys)
  have found : (ofLines (xs ++ ys)).secret? "amy" = some "n\rw" :=
    (listed "amy" "n\rw").1 (same.mem_iff.1 (by decide))
  exact ⟨same, found, (again ps same "amy").trans found⟩

end Entries

end AuthRealm.Credential
