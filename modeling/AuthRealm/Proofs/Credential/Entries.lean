import Mathlib.Data.List.Induction
import Mathlib.Data.List.Nodup
import Mathlib.Data.List.Perm.Basic
import Mathlib.Data.String.Basic
import AuthRealm.Credential.Entries
import AuthRealm.Proofs.Text.Lines

/-!
# The last entry of a name counts

The entries of a file are those of its lines (`pairsOf`), put in one after the other (`ofPairs`).
What is kept for a name is **the last of its pairs** (`secret?_ofPairs_eq_some_iff`), and each name
is listed once however often it occurs (`nodup_ofPairs`). Together the two say which pairs are
listed, up to their order (`perm_ofPairs`).

Lines that are no entries leave no trace in `pairsOf`, so nothing else about them is needed. A name
and a secret that are written with a colon between them, within blanks, are read back if neither
has a line end, the name has no colon, and the blanks and the mark of a comment are not mistaken for
parts of them or the other way round (`IsName`, `IsSecret`).
-/

namespace AuthRealm.Credential

open Text

/-! ### The line of an entry -/

/-- A user name that can be read back from a line. -/
structure IsName (u : List Char) : Prop where
  ne_nil : u ≠ []
  isLine : IsLine u
  colon_notMem : ':' ∉ u
  head : ∀ c ∈ u.head?, c ≠ '#' ∧ isBlank c = false

/-- A secret that can be read back from a line. -/
structure IsSecret (s : List Char) : Prop where
  ne_nil : s ≠ []
  isLine : IsLine s
  final : ∀ c ∈ s.getLast?, isBlank c = false

instance (u : List Char) : Decidable (IsName u) :=
  decidable_of_iff
    (u ≠ [] ∧ IsLine u ∧ ':' ∉ u ∧ u.head?.all (fun c ↦ c != '#' && !isBlank c) = true)
    ⟨fun ⟨h₁, h₂, h₃, h₄⟩ ↦ ⟨h₁, h₂, h₃, by simpa [Option.all_eq_true] using h₄⟩,
      fun ⟨h₁, h₂, h₃, h₄⟩ ↦ ⟨h₁, h₂, h₃, by simpa [Option.all_eq_true] using h₄⟩⟩

instance (s : List Char) : Decidable (IsSecret s) :=
  decidable_of_iff (s ≠ [] ∧ IsLine s ∧ s.getLast?.all (fun c ↦ !isBlank c) = true)
    ⟨fun ⟨h₁, h₂, h₃⟩ ↦ ⟨h₁, h₂, by simpa [Option.all_eq_true] using h₃⟩,
      fun ⟨h₁, h₂, h₃⟩ ↦ ⟨h₁, h₂, by simpa [Option.all_eq_true] using h₃⟩⟩

section Entry

variable {front back u s : List Char}

/-- **Trimming leaves name and secret**, and takes the blanks around them. -/
theorem trim_entry (hu : IsName u) (hs : IsSecret s) (blank : ∀ c ∈ front, isBlank c = true)
    (blank' : ∀ c ∈ back, isBlank c = true) :
    trim (front ++ (u ++ ':' :: s) ++ back) = u ++ ':' :: s := by
  obtain ⟨c, u, rfl⟩ := List.exists_cons_of_ne_nil hu.ne_nil
  have start : trimStart (front ++ (c :: u ++ ':' :: s) ++ back) = c :: u ++ ':' :: s ++ back := by
    rw [List.append_assoc, trimStart_append blank]
    exact trimStart_eq_self (hu.head c rfl).2
  rw [trim, start, trimEnd_append_blank blank']
  refine trimEnd_eq_self fun d hd ↦ hs.final d ?_
  rwa [List.getLast?_append_of_ne_nil _ (List.cons_ne_nil _ _),
    List.getLast?_cons_of_ne_nil hs.ne_nil] at hd

theorem spells_of_isName (hu : IsName u) (hs : IsSecret s) : Spells (u ++ ':' :: s) u s := by
  obtain ⟨c, u, rfl⟩ := List.exists_cons_of_ne_nil hu.ne_nil
  exact ⟨fun h ↦ (hu.head c rfl).1 (Option.some.inj h), rfl, hu.ne_nil, hu.colon_notMem, hs.ne_nil,
    hs.isLine.1⟩

/-- A name and a secret are read back from their line. -/
theorem ofText_entry (hu : IsName u) (hs : IsSecret s) (blank : ∀ c ∈ front, isBlank c = true)
    (blank' : ∀ c ∈ back, isBlank c = true) :
    Line.ofText (front ++ (u ++ ':' :: s) ++ back) = .entry u s := by
  rw [Line.ofText_eq_entry_iff, trim_entry hu hs blank blank']
  exact spells_of_isName hu hs

end Entry

/-! ### The entries among lines -/

/-- The entry that a line is, if it is one. -/
def Line.pair? : Line → Option (String × String)
  | .entry username secret => some (String.ofList username, String.ofList secret)
  | _ => none

theorem Line.pair?_eq_some_iff {line : Line} {username secret : String} :
    line.pair? = some (username, secret) ↔ line = .entry username.toList secret.toList := by
  cases line with
  | entry u s =>
    simp only [Line.pair?, Option.some.injEq, Prod.mk.injEq, Line.entry.injEq,
      String.ofList_eq]
  | _ => simp [Line.pair?]

/-- The entries among lines, from the first to the last. -/
def pairsOf (ls : List (List Char)) : List (String × String) :=
  ls.filterMap fun l ↦ (Line.ofText l).pair?

theorem pairsOf_append (ls ls' : List (List Char)) :
    pairsOf (ls ++ ls') = pairsOf ls ++ pairsOf ls' :=
  List.filterMap_append ..

/-- A line is no entry if what is trimmed spells none. -/
theorem pair?_ofText_eq_none {l : List Char} (h : ∀ u s, ¬ Spells (trim l) u s) :
    (Line.ofText l).pair? = none := by
  rw [Option.eq_none_iff_forall_ne_some]
  rintro ⟨u, s⟩ read
  exact h _ _ (Line.ofText_eq_entry_iff.1 (Line.pair?_eq_some_iff.1 read))

/-- A pair after which there is no other of its name. -/
def IsFinal (ps : List (String × String)) (p : String × String) : Prop :=
  ∃ before after, ps = before ++ p :: after ∧ ∀ q ∈ after, q.1 ≠ p.1

theorem not_isFinal_nil (p : String × String) : ¬ IsFinal [] p := by
  rintro ⟨before, after, h, -⟩
  exact absurd h (by simp)

/-- One more pair is final, and takes that from the pairs of its name before it. -/
theorem isFinal_concat {ps : List (String × String)} {p q : String × String} :
    IsFinal (ps ++ [q]) p ↔ p = q ∨ (p.1 ≠ q.1 ∧ IsFinal ps p) := by
  constructor
  · rintro ⟨before, after, h, others⟩
    -- what follows the pair either is nothing, and the pair is the last one, or ends with the last
    -- one
    rcases List.eq_nil_or_concat after with rfl | ⟨after, q', rfl⟩
    · exact .inl (List.singleton_inj.1 (List.append_inj' h rfl).2).symm
    · rw [List.concat_eq_append] at h others
      rw [← List.cons_append, ← List.append_assoc] at h
      obtain ⟨rfl, same⟩ := List.append_inj' h rfl
      obtain rfl : q = q' := List.singleton_inj.1 same
      exact .inr ⟨Ne.symm (others q (by simp)), before, after, rfl,
        fun r hr ↦ others r (List.mem_append_left _ hr)⟩
  · rintro (rfl | ⟨other, before, after, rfl, others⟩)
    · exact ⟨ps, [], rfl, by simp⟩
    · refine ⟨before, after ++ [q], by simp, fun r hr ↦ ?_⟩
      -- the last pair must not have the name, as none of the earlier ones has
      rcases List.mem_append.1 hr with hr | hr
      · exact others r hr
      · exact List.mem_singleton.1 hr ▸ Ne.symm other

/-- A line is read as a final pair if no line behind it is read as one of that name. -/
theorem isFinal_pairsOf {before after : List (List Char)} {line : List Char} {p : String × String}
    (read : (Line.ofText line).pair? = some p)
    (others : ∀ l ∈ after, ∀ q, (Line.ofText l).pair? = some q → q.1 ≠ p.1) :
    IsFinal (pairsOf (before ++ line :: after)) p := by
  refine ⟨pairsOf before, pairsOf after, ?_, fun q listed ↦ ?_⟩
  · rw [pairsOf_append]
    exact congrArg (pairsOf before ++ ·) (List.filterMap_cons_some read)
  · obtain ⟨l, hl, read'⟩ := List.mem_filterMap.1 listed
    exact others l hl q read'

/-- **The last entry of a name in a text**: its line has name and secret with a colon between them,
within blanks, and no line behind it is an entry of that name. -/
def IsLastEntry (text : List Char) (username secret : String) : Prop :=
  ∃ before front back after,
    lines text =
      before ++ (front ++ (username.toList ++ ':' :: secret.toList) ++ back) :: after ∧
    (∀ c ∈ front, isBlank c = true) ∧ (∀ c ∈ back, isBlank c = true) ∧
    ∀ l ∈ after, ∀ other, ¬ Spells (trim l) username.toList other

/-- It is the final one among the entries of the lines. -/
theorem isFinal_of_isLastEntry {text : List Char} {u s : String} (name : IsName u.toList)
    (spelt : IsSecret s.toList) (last : IsLastEntry text u s) :
    IsFinal (pairsOf (lines text)) (u, s) := by
  obtain ⟨before, front, back, after, cut, blank, blank', others⟩ := last
  rw [cut]
  refine isFinal_pairsOf (Line.pair?_eq_some_iff.2 (ofText_entry name spelt blank blank')) ?_
  rintro l hl ⟨v, other⟩ read rfl
  exact others l hl _ (Line.ofText_eq_entry_iff.1 (Line.pair?_eq_some_iff.1 read))

namespace Entries

/-- The entries that pairs make, from the first to the last. -/
def ofPairs (ps : List (String × String)) : Entries :=
  ps.foldl (fun e p ↦ e.insert p.1 p.2) {}

theorem ofPairs_concat (ps : List (String × String)) (p : String × String) :
    ofPairs (ps ++ [p]) = (ofPairs ps).insert p.1 p.2 :=
  List.foldl_concat ..

theorem addLine_eq (e : Entries) (line : Line) :
    e.addLine line = line.pair?.toList.foldl (fun e p ↦ e.insert p.1 p.2) e := by
  cases line <;> rfl

/-- Lines make the entries of their pairs. -/
theorem ofLines_eq (ls : List (List Char)) : ofLines ls = ofPairs (pairsOf ls) := by
  unfold ofLines ofPairs pairsOf
  generalize ({} : Entries) = e
  induction ls generalizing e with
  | nil => rfl
  | cons l ls ih =>
    rw [List.map_cons, List.foldl_cons, ih, addLine_eq, List.filterMap_cons]
    cases (Line.ofText l).pair? <;> rfl

/-- **The last pair of a name is its entry.** -/
theorem secret?_ofPairs_eq_some_iff {ps : List (String × String)} {u s : String} :
    (ofPairs ps).secret? u = some s ↔ IsFinal ps (u, s) := by
  induction ps using List.reverseRecOn with
  | nil => simpa [ofPairs] using not_isFinal_nil (u, s)
  | append_singleton ps p ih =>
    rw [ofPairs_concat, secret?_insert, isFinal_concat, ← ih]
    by_cases same : u = p.1
    · simp [same, Prod.ext_iff, eq_comm]
    · simp [same, Prod.ext_iff]

/-! ### Each name once -/

theorem map_fst_insertPair (u s : String) (ps : List (String × String)) :
    (insertPair u s ps).map Prod.fst =
      if u ∈ ps.map Prod.fst then ps.map Prod.fst else ps.map Prod.fst ++ [u] := by
  induction ps with
  | nil => rfl
  | cons p ps ih =>
    by_cases same : p.1 = u
    · simp [insertPair, same]
    · rw [insertPair, if_neg same, List.map_cons, ih]
      by_cases listed : u ∈ ps.map Prod.fst
      · rw [if_pos listed, List.map_cons, if_pos (List.mem_cons_of_mem _ listed)]
      · rw [if_neg listed, List.map_cons, if_neg (by simp_all [Ne.symm same])]
        rfl

/-- Putting in one more pair keeps the names apart. -/
theorem nodup_insert {e : Entries} (u s : String) (h : (e.pairs.map Prod.fst).Nodup) :
    ((e.insert u s).pairs.map Prod.fst).Nodup := by
  rw [insert, map_fst_insertPair]
  split
  · exact h
  · rename_i fresh
    exact List.concat_eq_append ▸ List.Nodup.concat fresh h

theorem nodup_ofPairs (ps : List (String × String)) : ((ofPairs ps).pairs.map Prod.fst).Nodup := by
  induction ps using List.reverseRecOn with
  | nil => exact List.nodup_nil
  | append_singleton ps p ih =>
    rw [ofPairs_concat]
    exact nodup_insert p.1 p.2 ih

/-- Where each name is listed once, what is kept for it is what is listed. -/
theorem secret?_eq_some_iff {e : Entries} (distinct : (e.pairs.map Prod.fst).Nodup)
    {u s : String} : e.secret? u = some s ↔ (u, s) ∈ e.pairs := by
  obtain ⟨ps⟩ := e
  induction ps with
  | nil => simp [secret?]
  | cons p ps ih =>
    rw [List.map_cons, List.nodup_cons] at distinct
    -- the name of the first pair stands nowhere else, so its secret is the one that is found
    by_cases same : p.1 = u
    · subst same
      have apart : (p.1, s) ∉ ps := fun h ↦ distinct.1 (List.mem_map.2 ⟨_, h, rfl⟩)
      simp [secret?, apart, Prod.ext_iff, eq_comm]
    · have other : (u, s) ≠ p := fun h ↦ same (congrArg Prod.fst h).symm
      rw [List.mem_cons, or_iff_right other, ← ih distinct.2]
      simp [secret?, same]

/-- **The pairs that are listed are the final ones**, each once. -/
theorem perm_ofPairs {ps m : List (String × String)} (distinct : (m.map Prod.fst).Nodup)
    (final : ∀ p, IsFinal ps p ↔ p ∈ m) : (ofPairs ps).pairs.Perm m := by
  refine (List.perm_ext_iff_of_nodup (nodup_ofPairs ps).of_map distinct.of_map).2 fun p ↦ ?_
  rw [← final, ← secret?_ofPairs_eq_some_iff, secret?_eq_some_iff (nodup_ofPairs ps)]

end Entries

end AuthRealm.Credential
