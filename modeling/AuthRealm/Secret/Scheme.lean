import AuthRealm.Secret.Hashed

/-!
# Schemes of stored secrets

A credential file does not say how a secret is spelled, so the scheme is inferred from the secret.
`identify` reads the mark; `check` compares a candidate and says under which scheme it matched.

Cleartext comes first on purpose: a stored secret equal to the candidate is accepted whatever it
looks like (`check_self`). Everything else is decided by one reader (`Hashed.ofText?`), and a
malformed secret is a mismatch, never a failure.
-/

namespace AuthRealm.Secret

open Text

/-- The spellings of a stored secret. -/
inductive Scheme where
  | plain
  | apr1
  | sha1
  | crypt
  deriving DecidableEq, Repr

/-- The name under which a scheme is shown. -/
def Scheme.name : Scheme → String
  | .plain => "plain"
  | .apr1 => "apr1"
  | .sha1 => "sha1"
  | .crypt => "crypt"

/-- The scheme that a secret claims by its mark. Cleartext has no mark, so it is never claimed. -/
def identify (stored : String) : Scheme :=
  if (Md5Family.mark .apache).toList.isPrefixOf stored.toList then .apr1
  else if sha1Mark.toList.isPrefixOf stored.toList then .sha1
  else .crypt

/-- Whether a candidate matches a secret as a hash. -/
def hashMatches (stored candidate : String) : Bool :=
  match Hashed.ofText? stored with
  | some h => h.accepts candidate
  | none => false

/-- The scheme under which a candidate matches a secret. -/
def check (stored candidate : String) : Option Scheme :=
  if stored = candidate then some .plain
  else if hashMatches stored candidate then some (identify stored)
  else none

/-- Whether a candidate matches a secret. -/
def verify (stored candidate : String) : Bool :=
  (check stored candidate).isSome

/-! ### First properties -/

/-- A secret matches itself, as cleartext. -/
@[simp] theorem check_self (stored : String) : check stored stored = some .plain := by
  simp [check]

theorem identify_ne_plain (stored : String) : identify stored ≠ .plain := by
  unfold identify
  split
  · simp
  · split <;> simp

/-- Only an equal candidate matches as cleartext. -/
theorem check_eq_plain_iff {stored candidate : String} :
    check stored candidate = some .plain ↔ stored = candidate := by
  unfold check
  split
  · simp_all
  · rename_i hne
    split
    · simpa [hne] using identify_ne_plain stored
    · simp [hne]

/-- Any other match is one of the well-formed secret that the text spells. -/
theorem check_eq_hashed_iff {stored candidate : String} {s : Scheme} (hs : s ≠ .plain) :
    check stored candidate = some s ↔
      stored ≠ candidate ∧ s = identify stored ∧
        ∃ h, Hashed.ofText? stored = some h ∧ h.accepts candidate = true := by
  unfold check hashMatches
  by_cases hne : stored = candidate
  · simp [hne, Ne.symm hs]
  · cases hh : Hashed.ofText? stored with
    | none => simp [hne]
    | some h =>
      by_cases ha : h.accepts candidate = true
      · simp only [hne, ha, if_true, if_false, Option.some.injEq]
        exact ⟨fun h' ↦ ⟨hne, h'.symm, h, rfl, ha⟩, fun h' ↦ h'.2.1.symm⟩
      · simp [hne, ha]

end AuthRealm.Secret
