import AuthRealm.Proofs.Secret.Spelling
import AuthRealm.Proofs.Text.Integer
import AuthRealm.Proofs.Text.Utf8

/-!
# The grammar of hashed secrets

Which texts are hashed secrets, said without the reader of them (`Hashed.Spells`): a mark, perhaps a
number of rounds, a salt of at most so many characters and a digest of exactly so many, all in the
alphabet of hashes; or, with no mark at all, thirteen characters of that alphabet.

**The reader takes exactly the texts of the grammar** (`Hashed.ofText?_eq_some_iff`), so a text that
is no secret in whatever respect (cut short, without a digest, with a salt or a number of rounds out
of bounds, behind a mark that nobody knows) has nothing to compare a candidate with.

From this follows all that a match can mean (`secret_matches_what_it_spells`).
-/

namespace AuthRealm.Secret

open Text

namespace Hashed

/-! ### The parts of a secret -/

/-- **Salt and digest** of a secret: a salt of at most `most` characters and a digest of `length`,
in the alphabet of hashes. -/
structure AreFields (most length : Nat) (salt digest : List Char) : Prop where
  short : salt.length ≤ most
  salt : ∀ c ∈ salt, isHashChar c = true
  long : digest.length = length
  digest : ∀ c ∈ digest, isHashChar c = true

theorem fieldsOk_iff {most length : Nat} {salt digest : List Char} :
    fieldsOk most length salt digest = true ↔ AreFields most length salt digest := by
  constructor
  · intro ok
    simp only [fieldsOk, Bool.and_eq_true, decide_eq_true_eq, beq_iff_eq, List.all_eq_true] at ok
    obtain ⟨⟨⟨short, hash⟩, long⟩, hash'⟩ := ok
    exact ⟨short, hash, long, hash'⟩
  · rintro ⟨short, hash, long, hash'⟩
    exact fieldsOk_eq_true short hash long hash'

/-- **A number of rounds**: an integer in range, with no zero in front of it. -/
structure AreRounds (text : List Char) (n : Nat) : Prop where
  integer : WritesInteger text n
  bare : text.head? ≠ some '0'
  least : minRounds ≤ n
  most : n ≤ maxRounds

theorem rounds?_eq_some_iff {text : List Char} {n : Nat} :
    rounds? text = some n ↔ AreRounds text n := by
  constructor
  · intro read
    rw [rounds?] at read
    split at read
    · cases read
    · rename_i bare
      split at read
      · rename_i m integer
        split at read
        · rename_i range
          obtain rfl := Option.some.inj read
          -- the integer is in range, so it is a natural number
          have positive : ((m.toNat : Nat) : Int) = m := Int.toNat_of_nonneg (by omega)
          refine ⟨?_, bare, by omega, by omega⟩
          rw [positive]
          exact readInteger?_eq_some_iff.1 integer
        · cases read
      · cases read
  · rintro ⟨integer, bare, least, most⟩
    rw [rounds?, if_neg bare, readInteger?_eq_some_iff.2 integer]
    simp [least, most]

/-- What stands in front of the salt, and the number of rounds that it states. Nothing there states
the usual number. -/
inductive StatesRounds : List Char → Nat → Prop where
  | usual : StatesRounds [] defaultRounds
  | stated {text : List Char} {n : Nat} (rounds : AreRounds text n) :
      StatesRounds (roundsMark ++ text ++ ['$']) n

/-! ### Secrets -/

/-- **A text spells a hashed secret.** -/
inductive Spells : List Char → Hashed → Prop where
  | md5 (family : Md5Family) {salt digest : List Char} (fields : AreFields 8 22 salt digest) :
      Spells (family.mark.toList ++ (salt ++ '$' :: digest)) (.md5 family salt digest)
  | sha1 (digest : List Char) : Spells (sha1Mark.toList ++ digest) (.sha1 digest)
  | sha (family : ShaFamily) {front salt digest : List Char} {n : Nat}
      (rounds : StatesRounds front n)
      (fields : AreFields 16 family.digestLength salt digest) :
      Spells (family.mark.toList ++ (front ++ (salt ++ '$' :: digest))) (.sha family n salt digest)
  | des {salt digest : List Char} (two : salt.length = 2) (fields : AreFields 2 11 salt digest) :
      Spells (salt ++ digest) (.des salt digest)

/-! ### What the readers take -/

/-- Two fields are what is before and what is behind the one separator. -/
theorem eq_of_fields {rest salt digest : List Char} (cut : fields '$' rest = [salt, digest]) :
    rest = salt ++ '$' :: digest := by
  rw [← joinFields_fields '$' rest, cut]
  rfl

theorem ofMd5Text?_eq_some_iff {family : Md5Family} {rest : List Char} {h : Hashed} :
    ofMd5Text? family rest = some h ↔ ∃ salt digest, rest = salt ++ '$' :: digest ∧
      AreFields 8 22 salt digest ∧ h = .md5 family salt digest := by
  constructor
  · intro read
    rw [ofMd5Text?] at read
    split at read
    · rename_i salt digest cut
      split at read
      · rename_i ok
        exact ⟨salt, digest, eq_of_fields cut, fieldsOk_iff.1 ok, (Option.some.inj read).symm⟩
      · cases read
    · cases read
  · rintro ⟨salt, digest, rfl, ok, rfl⟩
    exact ofMd5Text?_of_fields ok.short ok.salt ok.long ok.digest

theorem ofShaFields?_eq_some_iff {family : ShaFamily} {n : Nat} {fs : List (List Char)}
    {h : Hashed} :
    ofShaFields? family n fs = some h ↔ ∃ salt digest, fs = [salt, digest] ∧
      AreFields 16 family.digestLength salt digest ∧ h = .sha family n salt digest := by
  constructor
  · intro read
    rw [ofShaFields?.eq_def] at read
    split at read
    · rename_i salt digest
      split at read
      · rename_i ok
        exact ⟨salt, digest, rfl, fieldsOk_iff.1 ok, (Option.some.inj read).symm⟩
      · cases read
    · cases read
  · rintro ⟨salt, digest, rfl, ok, rfl⟩
    exact if_pos (fieldsOk_iff.2 ok)

theorem ofShaText?_eq_some_iff {family : ShaFamily} {rest : List Char} {h : Hashed} :
    ofShaText? family rest = some h ↔ ∃ front n salt digest,
      rest = front ++ (salt ++ '$' :: digest) ∧ StatesRounds front n ∧
      AreFields 16 family.digestLength salt digest ∧ h = .sha family n salt digest := by
  constructor
  · intro read
    rw [ofShaText?] at read
    split at read
    · cases read
    · rename_i first more cut
      -- a first field with the mark states the rounds; without it the first field is the salt
      split at read
      · rename_i text marked
        obtain ⟨n, rounds, read⟩ := Option.bind_eq_some_iff.1 read
        obtain ⟨salt, digest, rfl, ok, rfl⟩ := ofShaFields?_eq_some_iff.1 read
        refine ⟨roundsMark ++ text ++ ['$'], n, salt, digest, ?_,
          .stated (rounds?_eq_some_iff.1 rounds), ok, rfl⟩
        -- the fields joined again are the text that was cut
        rw [← joinFields_fields '$' rest, cut, after?_eq_some_iff.1 marked, joinFields, joinFields,
          joinFields, List.append_assoc _ ['$'], List.singleton_append]
      · obtain ⟨salt, digest, same, ok, rfl⟩ := ofShaFields?_eq_some_iff.1 read
        exact ⟨[], _, salt, digest, eq_of_fields (cut.trans same), .usual, ok, rfl⟩
  · rintro ⟨front, n, salt, digest, rfl, rounds, ok, rfl⟩
    cases rounds with
    | usual =>
      have none : ∀ n ∈ (none : Option Nat), minRounds ≤ n ∧ n ≤ maxRounds :=
        fun n hn ↦ absurd hn (Option.not_mem_none n)
      exact ofShaText?_of_fields none ok.short ok.salt ok.long ok.digest
    | @stated text _ rounds =>
      -- the stated rounds hold no separator, so they are one field
      have dollar : '$' ∉ roundsMark ++ text :=
        List.not_mem_append (by decide) rounds.integer.dollar_notMem
      rw [List.append_assoc _ ['$'], List.singleton_append, ofShaText?, fields_append _ dollar,
        fields_saltAndDigest ok.salt ok.digest]
      simp only [after?_append, rounds?_eq_some_iff.2 rounds, Option.bind_some]
      exact ofShaFields?_eq_some_iff.2 ⟨salt, digest, rfl, ok, rfl⟩

theorem ofDesText?_eq_some_iff {s : List Char} {h : Hashed} :
    ofDesText? s = some h ↔ ∃ salt digest, s = salt ++ digest ∧ salt.length = 2 ∧
      AreFields 2 11 salt digest ∧ h = .des salt digest := by
  constructor
  · intro read
    rw [ofDesText?] at read
    split at read
    · rename_i ok
      rw [Bool.and_eq_true, beq_iff_eq] at ok
      exact ⟨_, _, (List.take_append_drop 2 s).symm, ok.1, fieldsOk_iff.1 ok.2,
        (Option.some.inj read).symm⟩
    · cases read
  · rintro ⟨salt, digest, rfl, two, ok, rfl⟩
    exact ofDesText?_of_fields two ok.salt ok.long ok.digest

/-- **The reader takes exactly the texts of the grammar**, and takes each apart as it is spelt. -/
theorem ofText?_eq_some_iff {stored : String} {h : Hashed} :
    ofText? stored = some h ↔ Spells stored.toList h := by
  constructor
  · intro read
    have md5 : ∀ {family rest}, after? (Md5Family.mark family).toList stored.toList = some rest →
        ofMd5Text? family rest = some h → Spells stored.toList h := by
      intro family rest marked read
      obtain ⟨salt, digest, rfl, ok, rfl⟩ := ofMd5Text?_eq_some_iff.1 read
      exact after?_eq_some_iff.1 marked ▸ .md5 family ok
    have sha : ∀ {family rest}, after? (ShaFamily.mark family).toList stored.toList = some rest →
        ofShaText? family rest = some h → Spells stored.toList h := by
      intro family rest marked read
      obtain ⟨front, n, salt, digest, rfl, rounds, ok, rfl⟩ := ofShaText?_eq_some_iff.1 read
      exact after?_eq_some_iff.1 marked ▸ .sha family rounds ok
    -- the marks are tried in the order of the registered schemes, DES last as it has none
    rw [ofText?] at read
    split at read
    · exact md5 ‹_› read
    split at read
    · rename_i rest marked
      obtain rfl := Option.some.inj read
      exact after?_eq_some_iff.1 marked ▸ .sha1 rest
    split at read
    · exact md5 ‹_› read
    split at read
    · exact sha ‹_› read
    split at read
    · exact sha ‹_› read
    · obtain ⟨salt, digest, whole, two, ok, rfl⟩ := ofDesText?_eq_some_iff.1 read
      exact whole ▸ .des two ok
  · rw [← String.ofList_toList (s := stored), String.toList_ofList]
    generalize stored.toList = s
    intro spells
    cases spells with
    | md5 family ok =>
      rw [ofText?_md5]
      exact ofMd5Text?_eq_some_iff.2 ⟨_, _, rfl, ok, rfl⟩
    | sha1 digest => exact ofText?_sha1 digest
    | sha family rounds ok =>
      rw [ofText?_sha]
      exact ofShaText?_eq_some_iff.2 ⟨_, _, _, _, rfl, rounds, ok, rfl⟩
    | @des salt digest two ok =>
      -- a salt begins with a hash character, which no mark does
      obtain ⟨c, r, rfl⟩ := List.exists_cons_of_length_eq_add_one two
      rw [ofText?_des rfl (ok.salt c List.mem_cons_self)]
      exact ofDesText?_eq_some_iff.2 ⟨_, _, rfl, two, ok, rfl⟩

/-! ### Whole secrets -/

/-- The scheme of a hashed secret. -/
def scheme : Hashed → Scheme
  | .md5 .apache _ _ => .apr1
  | .sha1 _ => .sha1
  | .md5 .classic _ _ | .sha _ _ _ _ | .des _ _ => .crypt

/-- **The scheme that a text claims by its mark is that of the secret it spells.** -/
theorem Spells.identify_eq {stored : String} {h : Hashed} (spells : Spells stored.toList h) :
    identify stored = h.scheme := by
  rw [identify]
  generalize stored.toList = s at spells
  cases spells with
  | md5 family ok => cases family <;> rfl
  | sha1 digest => rfl
  | sha family rounds ok => cases family <;> rfl
  | @des salt digest two ok =>
    -- a character of the alphabet of hashes opens no mark
    obtain ⟨c, r, rfl⟩ := List.exists_cons_of_length_eq_add_one two
    have dollar : '$' ≠ c := fun h ↦ absurd (h ▸ ok.salt c List.mem_cons_self) (by decide)
    have brace : '\x7b' ≠ c := fun h ↦ absurd (h ▸ ok.salt c List.mem_cons_self) (by decide)
    simp [Md5Family.mark, sha1Mark, List.isPrefixOf, scheme, dollar, brace]

/-- **A hashed secret has a whole digest.** The reader sees to that for the salted schemes. An
unsalted digest is read as it stands, and is whole if it is that of twenty bytes. -/
def IsWhole : Hashed → Prop
  | .sha1 digest => ∃ bytes : List UInt8, bytes.length = 20 ∧ digest = Base64.encode bytes
  | _ => True

theorem isWhole_of_digest_eq {h : Hashed} {candidate : String}
    (same : h.digest = h.digestOf candidate) : h.IsWhole := by
  cases h with
  | sha1 digest =>
    have size := Digest.size_sha1 candidate.toUTF8
    rw [ByteArray.size] at size
    rw [Hashed.digest, digestOf, sha1Text, String.toList_ofList] at same
    exact ⟨_, by rw [ByteArray.toList_eq, Array.length_toList, size], same⟩
  | _ => exact trivial

/-- A salted digest is computed of candidates of bounded length without a NUL. -/
theorem admits_iff {h : Hashed} {candidate : String} :
    h.admits candidate = true ↔ (∃ digest, h = .sha1 digest) ∨
      candidate.length ≤ maxCandidate ∧ '\x00' ∉ candidate.toList := by
  cases h <;> simp [admits]

end Hashed

/-! ### Matches -/

/-- Any match but one in the clear is of the whole secret that the stored text spells. -/
theorem check_eq_some_iff {stored candidate : String} {scheme : Scheme} (hashed : scheme ≠ .plain) :
    check stored candidate = some scheme ↔
      candidate ≠ stored ∧ scheme = identify stored ∧
        ∃ h, Hashed.Spells stored.toList h ∧ h.IsWhole ∧ h.scheme = scheme ∧
          h.digest = h.digestOf candidate ∧
          ((∃ digest, h = .sha1 digest) ∨
            candidate.length ≤ Hashed.maxCandidate ∧ '\x00' ∉ candidate.toList) := by
  rw [check_eq_hashed_iff hashed]
  constructor
  · rintro ⟨other, rfl, h, read, accepted⟩
    obtain ⟨admitted, same⟩ := Hashed.accepts_iff.1 accepted
    have spells := Hashed.ofText?_eq_some_iff.1 read
    -- a whole digest is what makes the comparison possible at all
    exact ⟨Ne.symm other, rfl, h, spells, Hashed.isWhole_of_digest_eq same,
      spells.identify_eq.symm, same, Hashed.admits_iff.1 admitted⟩
  · rintro ⟨other, claimed, h, spells, -, -, same, admitted⟩
    exact ⟨Ne.symm other, claimed, h, Hashed.ofText?_eq_some_iff.2 spells,
      Hashed.accepts_iff.2 ⟨Hashed.admits_iff.2 admitted, same⟩⟩

/-- **A stored text matches itself and what it spells, and nothing else.** For all texts `stored`
and `candidate` the comparison has an answer:

* they match in the clear exactly if they are the same;
* they match under any other scheme exactly if they differ, the scheme is the one that `stored`
  claims by its mark, and `stored` spells, from beginning to end, a whole secret of that scheme of
  which the digest field is the digest of `candidate` under the salt and the rounds of that secret;
  for a salted secret `candidate` then has at most 4096 characters and no NUL;
* a text that spells no whole secret is matched by itself alone. -/
theorem secret_matches_what_it_spells (stored candidate : String) :
    (check stored candidate = some .plain ↔ candidate = stored) ∧
      (∀ scheme, scheme ≠ .plain → (check stored candidate = some scheme ↔
        candidate ≠ stored ∧ scheme = identify stored ∧
          ∃ h, Hashed.Spells stored.toList h ∧ h.IsWhole ∧ h.scheme = scheme ∧
            h.digest = h.digestOf candidate ∧
            ((∃ digest, h = .sha1 digest) ∨
              candidate.length ≤ 4096 ∧ '\x00' ∉ candidate.toList))) ∧
      ((∀ h, Hashed.Spells stored.toList h → ¬ h.IsWhole) →
        check stored candidate = if candidate = stored then some .plain else none) := by
  refine ⟨check_eq_plain_iff.trans eq_comm, fun scheme hashed ↦ check_eq_some_iff hashed,
    fun broken ↦ ?_⟩
  split
  · rename_i same
    rw [same, check_self]
  · rename_i other
    rw [Option.eq_none_iff_forall_ne_some]
    -- a match other than by the text itself would need a whole hash
    intro scheme matched
    by_cases clear : scheme = .plain
    · subst clear
      exact other (check_eq_plain_iff.1 matched).symm
    · obtain ⟨-, -, h, spells, whole, -⟩ := (check_eq_some_iff clear).1 matched
      exact broken h spells whole

/-- An unsalted digest is matched by the text that it is the digest of, and a secret behind a mark
that nobody knows is matched by itself alone. -/
theorem secret_matches_what_it_spells_of_digest :
    let whole := "\x7bSHA\x7dqUqP5cyxm6YcTAhz05Hph5gvu9M="
    let unknown := "$2y$05$abcdefghijklmnopqrstuu"
    (∃ h, Hashed.Spells whole.toList h ∧ h.IsWhole ∧ h.digest = h.digestOf "test") ∧
      check unknown unknown = some .plain ∧ check unknown "test" = none := by
  intro whole unknown
  have matched : check whole "test" = some .sha1 := by decide +kernel
  have mute : Hashed.ofText? unknown = none := by decide
  have broken : ∀ h, Hashed.Spells unknown.toList h → ¬ h.IsWhole := by
    intro h spells
    exact absurd (mute.symm.trans (Hashed.ofText?_eq_some_iff.2 spells)) nofun
  obtain ⟨-, hashed, -⟩ := secret_matches_what_it_spells whole "test"
  obtain ⟨-, -, h, spells, isWhole, -, same, -⟩ := (hashed .sha1 nofun).1 matched
  obtain ⟨-, -, alone⟩ := secret_matches_what_it_spells unknown "test"
  obtain ⟨clear, -, -⟩ := secret_matches_what_it_spells unknown unknown
  exact ⟨⟨h, spells, isWhole, same⟩, clear.2 rfl, alone broken⟩

end AuthRealm.Secret
