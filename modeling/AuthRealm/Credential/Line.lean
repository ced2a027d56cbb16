import AuthRealm.Text.Blank
import AuthRealm.Text.Fields

/-!
# Lines of a credential file

A line is blank, a comment, an entry or malformed. An entry is a user name and a secret with a
colon between them; the name has no colon, the secret no line feed, and neither is empty. Blanks
around a line never belong to it.

`Line.ofText` reads a line. `Spells` says on its own what it means for a text to be an entry, and
`ofText_eq_entry_iff` that the two agree.
-/

namespace AuthRealm.Credential

open Text

/-- What a line of a credential file is. -/
inductive Line where
  | ignored
  | malformed
  | entry (username secret : List Char)
  deriving DecidableEq, Repr

/-- A text, already without blanks around it, is the entry of a name and a secret. -/
def Spells (line username secret : List Char) : Prop :=
  line.head? ≠ some '#' ∧ line = username ++ ':' :: secret ∧
    username ≠ [] ∧ ':' ∉ username ∧ secret ≠ [] ∧ '\n' ∉ secret

namespace Line

/-- Reads a line without blanks around it. -/
def ofTrimmed (line : List Char) : Line :=
  if line.isEmpty || line.head? == some '#' then .ignored
  else
    match cutAt ':' line with
    | (username, some secret) =>
      if username.isEmpty || secret.isEmpty || secret.contains '\n' then .malformed
      else .entry username secret
    | (_, none) => .malformed

/-- Reads a line. -/
def ofText (line : List Char) : Line :=
  ofTrimmed (trim line)

end Line

/-! ### Reading and spelling agree -/

/-- A trimmed line is read as an entry exactly when it spells that entry. -/
theorem Line.ofTrimmed_eq_entry_iff {line username secret : List Char} :
    Line.ofTrimmed line = .entry username secret ↔ Spells line username secret := by
  unfold Line.ofTrimmed Spells
  constructor
  · intro h
    split at h
    · simp at h
    · rename_i hl
      simp only [Bool.or_eq_true, List.isEmpty_iff, beq_iff_eq, not_or] at hl
      split at h
      · rename_i u s hc
        split at h
        · simp at h
        · rename_i hb
          simp only [Bool.or_eq_true, List.isEmpty_iff, List.contains_iff_mem, not_or] at hb
          simp only [Line.entry.injEq] at h
          obtain ⟨rfl, rfl⟩ := h
          obtain ⟨h1, h2⟩ := cutAt_eq_some_iff.mp hc
          exact ⟨hl.2, h1, hb.1.1, h2, hb.1.2, hb.2⟩
      · simp at h
  · rintro ⟨hh, rfl, hu, hcolon, hs, hlf⟩
    -- there is no colon in the name, so the first colon of the line is the one behind it
    have hc : cutAt ':' (username ++ ':' :: secret) = (username, some secret) :=
      cutAt_eq_some_iff.mpr ⟨rfl, hcolon⟩
    simpa [hc, hu, hs, hlf] using hh

/-- A line is read as an entry exactly when it spells that entry between blanks. -/
theorem Line.ofText_eq_entry_iff {line username secret : List Char} :
    Line.ofText line = .entry username secret ↔ Spells (trim line) username secret :=
  Line.ofTrimmed_eq_entry_iff

end AuthRealm.Credential
