import AuthRealm.Proofs.Credential.Entries
import AuthRealm.Proofs.Text.Base64
import AuthRealm.Proofs.Text.Fields
import AuthRealm.Proofs.Text.Numeral
import AuthRealm.Secret.Scheme

/-!
# Every way to spell a password

A password can be stored in the clear or hashed, by one of six schemes, each with a salt of its own
choice and some with a number of rounds (`Spelling`). **However it is spelled, it is verified**
(`Spelling.verify`), and the spelling can stand in a line of a credential file
(`Spelling.isSecret`).

The mark selects a reader (`ofText?_md5`, `ofText?_sha1`, `ofText?_sha`, `ofText?_des`), and the
reader finds salt, rounds and digest again since none of them has a dollar sign in it. Nothing is
used of the digests but their length and their alphabet.
-/

namespace AuthRealm.Text

theorem after?_append (start r : List Char) : after? start (start ++ r) = some r :=
  after?_eq_some_iff.2 rfl

/-- A text does not start with `start` if the two part before either ends. -/
theorem after?_append_eq_none {start other : List Char} (r : List Char) (apart : ¬ start <+: other)
    (apart' : ¬ other <+: start) : after? start (other ++ r) = none := by
  rw [Option.eq_none_iff_forall_ne_some]
  intro s h
  rcases List.append_eq_append_iff.1 (after?_eq_some_iff.1 h) with ⟨t, rfl, -⟩ | ⟨t, rfl, -⟩
  · exact apart' (List.prefix_append other t)
  · exact apart (List.prefix_append start t)

end AuthRealm.Text

namespace AuthRealm.Secret

open Credential Text

/-! ### The alphabet of hashes -/

theorem bounds_of_isHashChar {c : Char} (h : isHashChar c = true) :
    46 ≤ c.toNat ∧ c.toNat ≤ 122 := by
  simp only [isHashChar, Bool.or_eq_true, Bool.and_eq_true, decide_eq_true_eq, Char.le_def,
    UInt32.le_iff_toNat_le] at h
  have bounds : (46 ≤ c.toNat ∧ c.toNat ≤ 57) ∨ (65 ≤ c.toNat ∧ c.toNat ≤ 90) ∨
      (97 ≤ c.toNat ∧ c.toNat ≤ 122) := by simpa [or_assoc] using h
  omega

theorem isBlank_of_isHashChar {c : Char} (h : isHashChar c = true) : isBlank c = false := by
  obtain ⟨least, most⟩ := bounds_of_isHashChar h
  exact isBlank_of_ascii (by omega) (by omega)

theorem notMem_of_isHashChar {c : Char} {s : List Char} (all : ∀ c ∈ s, isHashChar c = true)
    (other : isHashChar c = false) : c ∉ s :=
  fun h ↦ absurd ((all c h).symm.trans other) nofun

/-! ### What the digests are written in -/

theorem Md5Hash.isHashChar_of_mem_digest {family : Md5Family} {salt : List Char} {p : String}
    {c : Char} (h : c ∈ digest family salt p) : isHashChar c = true := by
  rw [digest, digestText, List.mem_append, List.mem_flatMap] at h
  rcases h with ⟨⟨i, j, k⟩, -, h⟩ | h
  · exact isHashChar_of_mem_lowFirst h
  · exact isHashChar_of_mem_lowFirst h

theorem ShaHash.isHashChar_of_mem_digest {family : ShaFamily} {rounds : Nat} {salt : List Char}
    {p : String} {c : Char} (h : c ∈ digest family rounds salt p) : isHashChar c = true := by
  rw [digest, digestText.eq_def, List.mem_append, List.mem_flatMap] at h
  rcases h with ⟨⟨i, j, k⟩, -, h⟩ | h
  · exact isHashChar_of_mem_lowFirst h
  · cases family
    · exact isHashChar_of_mem_lowFirst h
    · exact isHashChar_of_mem_lowFirst h

theorem DesHash.isHashChar_of_mem_digest {salt : List Char} {p : String} {c : Char}
    (h : c ∈ digest salt p) : isHashChar c = true :=
  isHashChar_of_mem_highFirst h

namespace Hashed

variable {salt digest : List Char}

/-! ### The reader that a mark selects -/

theorem ofText?_md5 (family : Md5Family) (rest : List Char) :
    ofText? (String.ofList (family.mark.toList ++ rest)) = ofMd5Text? family rest := by
  cases family with
  | apache => rw [ofText?, String.toList_ofList, after?_append]
  | classic =>
    rw [ofText?, String.toList_ofList, after?_append_eq_none rest (by decide) (by decide),
      after?_append_eq_none rest (by decide) (by decide), after?_append]

theorem ofText?_sha1 (rest : List Char) :
    ofText? (String.ofList (sha1Mark.toList ++ rest)) = some (.sha1 rest) := by
  rw [ofText?, String.toList_ofList, after?_append_eq_none rest (by decide) (by decide),
    after?_append]

theorem ofText?_sha (family : ShaFamily) (rest : List Char) :
    ofText? (String.ofList (family.mark.toList ++ rest)) = ofShaText? family rest := by
  cases family with
  | sha256 =>
    rw [ofText?, String.toList_ofList, after?_append_eq_none rest (by decide) (by decide),
      after?_append_eq_none rest (by decide) (by decide),
      after?_append_eq_none rest (by decide) (by decide), after?_append]
  | sha512 =>
    rw [ofText?, String.toList_ofList, after?_append_eq_none rest (by decide) (by decide),
      after?_append_eq_none rest (by decide) (by decide),
      after?_append_eq_none rest (by decide) (by decide),
      after?_append_eq_none rest (by decide) (by decide), after?_append]

/-- A text that starts with a character of the hash alphabet has no mark. -/
theorem ofText?_des {s : List Char} {c : Char} (start : s.head? = some c)
    (hash : isHashChar c = true) : ofText? (String.ofList s) = ofDesText? s := by
  obtain ⟨r, rfl⟩ := List.head?_eq_some_iff.1 start
  -- every mark begins with a character that no hash holds
  have unmarked : ∀ {mark : List Char}, mark.head?.map isHashChar = some false →
      after? mark (c :: r) = none := by
    intro mark other
    rw [Option.eq_none_iff_forall_ne_some]
    intro t h
    obtain ⟨d, head, notHash⟩ := Option.map_eq_some_iff.1 other
    obtain ⟨mark, rfl⟩ := List.head?_eq_some_iff.1 head
    obtain ⟨rfl, -⟩ := List.cons.inj (after?_eq_some_iff.1 h)
    exact absurd (hash.symm.trans notHash) nofun
  rw [ofText?, String.toList_ofList, unmarked (by decide), unmarked (by decide),
    unmarked (by decide), unmarked (by decide), unmarked (by decide)]

/-! ### Salt, rounds and digest -/

theorem fieldsOk_eq_true {most length : Nat} (short : salt.length ≤ most)
    (hash : ∀ c ∈ salt, isHashChar c = true) (exact' : digest.length = length)
    (hash' : ∀ c ∈ digest, isHashChar c = true) : fieldsOk most length salt digest = true := by
  rw [fieldsOk, List.all_eq_true.2 hash, List.all_eq_true.2 hash', exact']
  simp [short]

/-- A salt and a digest are two fields. -/
theorem fields_saltAndDigest (hash : ∀ c ∈ salt, isHashChar c = true)
    (hash' : ∀ c ∈ digest, isHashChar c = true) :
    fields '$' (salt ++ '$' :: digest) = [salt, digest] := by
  have dollar : isHashChar '$' = false := by decide
  rw [fields_append digest (notMem_of_isHashChar hash dollar),
    fields_of_not_mem (notMem_of_isHashChar hash' dollar)]

theorem rounds?_toDigits {n : Nat} (least : minRounds ≤ n) (most : n ≤ maxRounds) :
    rounds? (Nat.toDigits 10 n) = some n := by
  have positive : 0 < n := Nat.lt_of_lt_of_le (by decide) least
  have short : (Nat.toDigits 10 n).length ≤ 9 :=
    (Nat.length_toDigits_le_iff (by decide) (by decide)).2 (Nat.lt_of_le_of_lt most (by decide))
  rw [rounds?, if_neg (head?_toDigits_ne positive),
    readInteger?_toDigits (Nat.le_trans short (by decide))]
  simp [least, most]

/-- Two fields without a stated number of rounds, and three with one. -/
def roundsText : Option Nat → List Char
  | none => []
  | some n => roundsMark ++ Nat.toDigits 10 n ++ ['$']

theorem ofMd5Text?_of_fields {family : Md5Family} (short : salt.length ≤ 8)
    (hash : ∀ c ∈ salt, isHashChar c = true) (long : digest.length = 22)
    (hash' : ∀ c ∈ digest, isHashChar c = true) :
    ofMd5Text? family (salt ++ '$' :: digest) = some (.md5 family salt digest) := by
  rw [ofMd5Text?, fields_saltAndDigest hash hash']
  exact if_pos (fieldsOk_eq_true short hash long hash')

theorem ofShaText?_of_fields {family : ShaFamily} {rounds : Option Nat}
    (inRange : ∀ n ∈ rounds, minRounds ≤ n ∧ n ≤ maxRounds) (short : salt.length ≤ 16)
    (hash : ∀ c ∈ salt, isHashChar c = true) (long : digest.length = family.digestLength)
    (hash' : ∀ c ∈ digest, isHashChar c = true) :
    ofShaText? family (roundsText rounds ++ (salt ++ '$' :: digest)) =
      some (.sha family (rounds.getD defaultRounds) salt digest) := by
  have read : ∀ n, ofShaFields? family n [salt, digest] = some (.sha family n salt digest) :=
    fun n ↦ if_pos (fieldsOk_eq_true short hash long hash')
  cases rounds with
  | none =>
    -- a salt that began with the mark would hold an equals sign
    have unmarked : after? roundsMark salt = none := by
      rw [Option.eq_none_iff_forall_ne_some]
      intro r h
      have equals : '=' ∈ salt := after?_eq_some_iff.1 h ▸ List.mem_append_left r (by decide)
      exact notMem_of_isHashChar hash (by decide) equals
    rw [roundsText, List.nil_append, ofShaText?, fields_saltAndDigest hash hash']
    simp only [unmarked, read, Option.getD_none]
  | some n =>
    obtain ⟨least, most⟩ := inRange n rfl
    -- digits and the mark hold no separator, so the rounds are a field of their own
    have dollar : '$' ∉ roundsMark ++ Nat.toDigits 10 n := by
      refine List.not_mem_append (by decide) fun h ↦ ?_
      exact absurd (isDigit_of_mem_toDigits h) (by decide)
    rw [roundsText, List.append_assoc _ ['$'], List.singleton_append, ofShaText?,
      fields_append _ dollar, fields_saltAndDigest hash hash']
    simp only [after?_append, rounds?_toDigits least most, Option.bind_some, read,
      Option.getD_some]

theorem ofDesText?_of_fields (two : salt.length = 2) (hash : ∀ c ∈ salt, isHashChar c = true)
    (long : digest.length = 11) (hash' : ∀ c ∈ digest, isHashChar c = true) :
    ofDesText? (salt ++ digest) = some (.des salt digest) := by
  have before : (salt ++ digest).take 2 = salt := two ▸ List.take_left
  have behind : (salt ++ digest).drop 2 = digest := two ▸ List.drop_left
  have ok := fieldsOk_eq_true (Nat.le_of_eq two) hash long hash'
  simp only [ofDesText?, before, behind, two, ok]
  rfl

end Hashed

/-! ### Spellings -/

/-- The stored secrets that spell a password. -/
inductive Spelling (p : String) : String → Prop where
  /-- The password itself, if it can stand in a line. -/
  | plain (line : IsSecret p.toList) : Spelling p p
  /-- Its unsalted digest. -/
  | sha1 : Spelling p (String.ofList (sha1Mark.toList ++ (sha1Text p).toList))
  /-- Its digest under a salt of at most eight characters, in either family. -/
  | md5 (family : Md5Family) {salt : List Char} (short : salt.length ≤ 8)
      (hash : ∀ c ∈ salt, isHashChar c = true) :
      Spelling p (String.ofList (family.mark.toList ++
        (salt ++ '$' :: Md5Hash.digest family salt p)))
  /-- Its digest under a salt of at most sixteen characters, with a stated number of rounds or the
  usual one. -/
  | sha (family : ShaFamily) {rounds : Option Nat} {salt : List Char}
      (inRange : ∀ n ∈ rounds, Hashed.minRounds ≤ n ∧ n ≤ Hashed.maxRounds)
      (short : salt.length ≤ 16) (hash : ∀ c ∈ salt, isHashChar c = true) :
      Spelling p (String.ofList (family.mark.toList ++ (Hashed.roundsText rounds ++
        (salt ++ '$' :: ShaHash.digest family (rounds.getD Hashed.defaultRounds) salt p))))
  /-- Its traditional digest under a salt of two characters. -/
  | des {salt : List Char} (two : salt.length = 2) (hash : ∀ c ∈ salt, isHashChar c = true) :
      Spelling p (String.ofList (salt ++ DesHash.digest salt p))

namespace Spelling

variable {p stored : String}

theorem verify_of_ofText? {h : Hashed} (read : Hashed.ofText? stored = some h)
    (accepted : h.accepts p = true) : verify stored p = true := by
  have asHash : hashMatches stored p = true := by
    rw [hashMatches, read]
    exact accepted
  rw [Secret.verify, check, asHash, if_pos rfl]
  -- equal text and an accepted hash both verify, and the two may hold at once
  by_cases same : stored = p
  · rw [if_pos same]
    rfl
  · rw [if_neg same]
    rfl

/-- **However it is spelled, a password is verified**, if it has no NUL and is not too long. -/
theorem verify (short : p.length ≤ Hashed.maxCandidate) (clean : '\x00' ∉ p.toList)
    (h : Spelling p stored) : verify stored p = true := by
  have admitted : (p.length ≤ Hashed.maxCandidate && !p.toList.contains '\x00') = true := by
    simp [short, clean]
  -- in every hashed case the text is read as the hash it spells, and its digest is recomputed
  cases h with
  | plain _ => simp [Secret.verify]
  | sha1 =>
    exact verify_of_ofText? (Hashed.ofText?_sha1 _) (Hashed.accepts_iff.2 ⟨rfl, rfl⟩)
  | md5 family short hash =>
    refine verify_of_ofText? ((Hashed.ofText?_md5 family _).trans
      (Hashed.ofMd5Text?_of_fields short hash (Md5Hash.length_digest ..)
        fun c ↦ Md5Hash.isHashChar_of_mem_digest)) ?_
    exact Hashed.accepts_iff.2 ⟨admitted, rfl⟩
  | sha family inRange short hash =>
    refine verify_of_ofText? ((Hashed.ofText?_sha family _).trans
      (Hashed.ofShaText?_of_fields inRange short hash (ShaHash.length_digest ..)
        fun c ↦ ShaHash.isHashChar_of_mem_digest)) ?_
    exact Hashed.accepts_iff.2 ⟨admitted, rfl⟩
  | @des salt two hash =>
    obtain ⟨c, r, rfl⟩ := List.exists_cons_of_length_eq_add_one two
    refine verify_of_ofText? ((Hashed.ofText?_des rfl (hash c List.mem_cons_self)).trans
      (Hashed.ofDesText?_of_fields two hash (DesHash.length_digest ..)
        fun c ↦ DesHash.isHashChar_of_mem_digest)) ?_
    refine Hashed.accepts_iff.2 ⟨admitted, ?_⟩
    rw [Hashed.digest, Hashed.digestOf]

/-- A text without a blank can stand in a line. -/
theorem isSecret_of_not_isBlank {s : List Char} (nonempty : s ≠ [])
    (visible : ∀ c ∈ s, isBlank c = false) : IsSecret s where
  ne_nil := nonempty
  isLine := ⟨fun h ↦ absurd (visible _ h) (by decide), fun h ↦ absurd (visible _ h) (by decide)⟩
  final c hc := visible c (List.mem_of_getLast? hc)

/-- **A spelling can stand in a line.** -/
theorem isSecret (h : Spelling p stored) : IsSecret stored.toList := by
  have dollar : isBlank '$' = false := by decide
  have written : ∀ {s : List Char}, s.all (fun c ↦ !isBlank c) = true →
      ∀ c ∈ s, isBlank c = false := by
    intro s all c hc
    rw [← Bool.not_eq_true']
    exact List.all_eq_true.1 all c hc
  have ofHash : ∀ {s : List Char}, (∀ c ∈ s, isHashChar c = true) → ∀ c ∈ s, isBlank c = false :=
    fun hash c hc ↦ isBlank_of_isHashChar (hash c hc)
  have ofFields : ∀ {salt digest : List Char}, (∀ c ∈ salt, isHashChar c = true) →
      (∀ c ∈ digest, isHashChar c = true) → ∀ c ∈ salt ++ '$' :: digest, isBlank c = false := by
    intro salt digest hash hash' c hc
    rcases List.mem_append.1 hc with hc | hc
    · exact ofHash hash c hc
    · rcases List.mem_cons.1 hc with rfl | hc
      · exact dollar
      · exact ofHash hash' c hc
  -- a plain secret is one by assumption; a hashed one has no blank, part by part
  cases h with
  | plain line => exact line
  | sha1 =>
    rw [String.toList_ofList]
    refine isSecret_of_not_isBlank (List.append_ne_nil_of_left_ne_nil (by decide) _)
      (List.forall_mem_append.2 ⟨written rfl, fun c hc ↦ ?_⟩)
    rw [sha1Text, String.toList_ofList] at hc
    have visible := Base64.isVisible_of_mem_encode hc
    rw [Base64.isVisible, Bool.and_eq_true, Bool.not_eq_true'] at visible
    exact visible.2
  | md5 family short hash =>
    rw [String.toList_ofList]
    refine isSecret_of_not_isBlank (by simp) (List.forall_mem_append.2 ⟨?_, ?_⟩)
    · cases family <;> exact written rfl
    · exact ofFields hash fun c ↦ Md5Hash.isHashChar_of_mem_digest
  | @sha family rounds salt inRange short hash =>
    rw [String.toList_ofList]
    refine isSecret_of_not_isBlank (by simp) (List.forall_mem_append.2 ⟨?_,
      List.forall_mem_append.2 ⟨?_, ?_⟩⟩)
    · cases family <;> exact written rfl
    · cases rounds with
      | none => exact fun c hc ↦ absurd hc List.not_mem_nil
      | some n =>
        refine List.forall_mem_append.2 ⟨List.forall_mem_append.2 ⟨written rfl, fun c hc ↦ ?_⟩,
          written rfl⟩
        exact isBlank_of_isDigit (isDigit_of_mem_toDigits hc)
    · exact ofFields hash fun c ↦ ShaHash.isHashChar_of_mem_digest
  | @des salt two hash =>
    rw [String.toList_ofList]
    refine isSecret_of_not_isBlank ?_ (List.forall_mem_append.2 ⟨ofHash hash,
      ofHash fun c ↦ DesHash.isHashChar_of_mem_digest⟩)
    exact List.append_ne_nil_of_left_ne_nil (List.ne_nil_of_length_eq_add_one two) _

end Spelling

end AuthRealm.Secret
