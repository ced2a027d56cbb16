import AuthRealm.Proofs.Credential.Layout

/-!
# Line ends do not matter

A text is written anew with other line ends, each chosen by itself (`Replaced`). It may have fewer
lines then: a carriage return that comes to stand in front of a line feed is one line end with it,
and the empty line between the two is gone. Nothing else is lost, since only an empty line stands
between two line ends: **the first line is the same, and so are the lines behind it that have
something in them** (`Replaced.exists_lines`).

An empty line is neither an entry nor malformed. So **a credential file says the same whatever its
line ends are** (`Store.line_ends_do_not_matter`), and a refresh reports and logs the same.
-/

namespace AuthRealm.Credential

open Storage Text

/-! ### Replacing line ends -/

/-- **A text and the same with its line ends replaced**, each by any other. A carriage return with a
line feed behind it is one line end. -/
inductive Replaced : List Char → List Char → Prop
  | nil : Replaced [] []
  | char {c : Char} {r r' : List Char} (feed : c ≠ '\n') (ret : c ≠ '\r') (rest : Replaced r r') :
      Replaced (c :: r) (c :: r')
  | lineEnd (e e' : LineEnd) {r r' : List Char} (whole : e = .ret → r.head? ≠ some '\n')
      (rest : Replaced r r') : Replaced (e.text ++ r) (e'.text ++ r')

/-- A whole line end cuts a line off and takes nothing else away. -/
theorem lines_text {e : LineEnd} {r : List Char} (whole : e = .ret → r.head? ≠ some '\n') :
    lines (e.text ++ r) = [] :: lines r := by
  cases e with
  | feed => exact lines_feed r
  | both => exact lines_pair r
  | ret => exact lines_return (whole rfl)

variable {t t' : List Char}

theorem filled_cons (l : List Char) (ls : List (List Char)) :
    filled (l :: ls) = filled [l] ++ filled ls :=
  List.filter_append [l] ls

/-- **The lines of the two texts are the same but for empty ones**, and so are their first lines. By
induction along the text: the line end that is put in may take the first line behind it away, which
is empty on both sides then. -/
theorem Replaced.exists_lines (h : Replaced t t') :
    ∃ l ls ls', lines t = l :: ls ∧ lines t' = l :: ls' ∧ filled ls = filled ls' := by
  induction h with
  | nil => exact ⟨_, _, _, rfl, rfl, rfl⟩
  | char feed ret rest ih =>
    obtain ⟨l, ls, ls', cut, cut', same⟩ := ih
    exact ⟨_, ls, ls', lines_cons feed ret cut, lines_cons feed ret cut', same⟩
  | lineEnd e e' whole rest ih =>
    obtain ⟨l, ls, ls', cut, cut', same⟩ := ih
    obtain ⟨behind, putIn, kept⟩ := exists_lines_text e' _
    refine ⟨_, _, behind, lines_text whole, putIn, ?_⟩
    rw [kept, cut, cut', filled_cons l ls, same, ← filled_cons]

theorem Replaced.filled_lines (h : Replaced t t') : filled (lines t) = filled (lines t') := by
  obtain ⟨l, ls, ls', cut, cut', same⟩ := h.exists_lines
  rw [cut, cut', filled_cons l ls, same, ← filled_cons]

/-! ### Reading -/

namespace Entries

theorem ofLines_filled (ls : List (List Char)) : ofLines (filled ls) = ofLines ls := by
  rw [ofLines_eq, pairsOf_filled, ofLines_eq]

/-- An empty line is not malformed. -/
theorem malformedCount_filled (ls : List (List Char)) :
    malformedCount (filled ls) = malformedCount ls := by
  induction ls with
  | nil => rfl
  | cons l ls ih =>
    cases l with
    | nil => exact ih
    | cons c r =>
      rw [malformedCount, malformedCount] at ih ⊢
      rw [filled_cons, List.map_append, List.count_append, ih]
      exact List.count_append.symm

end Entries

variable {tree tree' : Tree} {s : Store} {text text' : String} {time time' : Int}

/-- **Line ends do not matter**: of a text and the same with its line ends replaced, written in
UTF-8 and at whatever times, a refresh reloads the same entries, those of the text, and reports and
logs the same. -/
theorem Store.line_ends_do_not_matter (replaced : Replaced text.toList text'.toList)
    (clean : hasNul s.path.text = false) (utf8 : Charset.ofName s.charset.name = .ok .utf8)
    (written : tree.findNode s.path = .ok (.file text.toUTF8.toList time))
    (written' : tree'.findNode s.path = .ok (.file text'.toUTF8.toList time'))
    (new : s.modifiedAt ≠ some time) (new' : s.modifiedAt ≠ some time') :
    let entries := Entries.ofText text.toList
    (s.refresh tree).result = .ok ⟨.reloaded, entries.size⟩ ∧
      (s.refresh tree).store.entries = entries ∧
      (s.refresh tree').result = (s.refresh tree).result ∧
      (s.refresh tree').store.entries = (s.refresh tree).store.entries ∧
      (s.refresh tree').log = (s.refresh tree).log := by
  intro entries
  have same : Entries.ofLines (lines text'.toList) = entries := by
    rw [← Entries.ofLines_filled, ← replaced.filled_lines, Entries.ofLines_filled]
    rfl
  have skipped : Entries.malformedCount (lines text'.toList) =
      Entries.malformedCount (lines text.toList) := by
    rw [← Entries.malformedCount_filled, ← replaced.filled_lines, Entries.malformedCount_filled]
  rw [refresh_of_utf8 clean utf8 written new, refresh_of_utf8 clean utf8 written' new', reloaded,
    reloaded]
  simp only [same, skipped]
  exact ⟨rfl, rfl, rfl, rfl, rfl⟩

/-- Of the two line feeds around an empty line the first becomes a carriage return, so that they are
one line end, and the last one becomes both. -/
theorem Store.line_ends_do_not_matter_where_two_become_one :
    let s : Store := { path := ⟨"/", ["htpasswd"]⟩ }
    let tree := lone "amy:x\n\nbo:y\n".toUTF8.toList 1
    let tree' := lone "amy:x\r\nbo:y\r\n".toUTF8.toList 2
    Text.lines "amy:x\n\nbo:y\n".toList ≠ Text.lines "amy:x\r\nbo:y\r\n".toList ∧
      (s.refresh tree').store.entries = (s.refresh tree).store.entries ∧
      (s.refresh tree').result = .ok ⟨.reloaded, 2⟩ := by
  intro s tree tree'
  have char {c : Char} {r r' : List Char} (plain : c ≠ '\n' ∧ c ≠ '\r') (rest : Replaced r r') :
      Replaced (c :: r) (c :: r') := .char plain.1 plain.2 rest
  -- each end of a line is replaced by itself: the first becomes a carriage return, and the feed
  -- behind it stays
  have replaced : Replaced "amy:x\n\nbo:y\n".toList "amy:x\r\nbo:y\r\n".toList := by
    refine char (by decide) (char (by decide) (char (by decide) (char (by decide) (char (by decide)
      (.lineEnd .feed .ret nofun (.lineEnd .feed .feed nofun ?_))))))
    exact char (by decide) (char (by decide) (char (by decide) (char (by decide)
      (.lineEnd .feed .both nofun .nil))))
  obtain ⟨result, -, result', entries', -⟩ := Store.line_ends_do_not_matter (s := s) replaced
    (by decide) (by decide) (findNode_lone _ 1) (findNode_lone _ 2) (by decide) (by decide)
  refine ⟨by decide, entries', ?_⟩
  rw [result', result]
  rfl

end AuthRealm.Credential
