import AuthRealm.Account.Password
import AuthRealm.Proofs.Secret.Spelling

/-!
# A hash is a salt again

A password is checked by hashing it under the text of the hash itself. That works because whatever
the reader of salts takes, the writer writes in one form, and the reader takes this form back, with
a digest behind it (`Salt.ofText?_hashUnder`). So **hashing under a hash gives the hash again**
(`hash_of_hash`), and a password verifies against every hash that it was given (`verify_of_hash`).

Which texts are salts is said apart from the reader, by `Salt.Spells`: three words between dollar
signs, of which there may be more than one in a row and any number at both ends; a version, a cost,
and a third word that begins with sixteen bytes in sixty-four characters. Three things about a salt
have more than one spelling, and the writer keeps none of them: the dollar signs, the sign and the
zeros in front of the cost, and what follows the sixteen bytes.
-/

namespace AuthRealm

open Text

/-! ### Words -/

namespace Text

/-- **The words of a text**: its pieces between separators, without empty ones. -/
inductive Words (sep : Char) : List Char → List (List Char) → Prop
  | nil : Words sep [] []
  | skip {s : List Char} {ws : List (List Char)} (rest : Words sep s ws) : Words sep (sep :: s) ws
  | last {w : List Char} (some : w ≠ []) (word : sep ∉ w) : Words sep w [w]
  | next {w s : List Char} {ws : List (List Char)} (some : w ≠ []) (word : sep ∉ w)
      (rest : Words sep s ws) : Words sep (w ++ sep :: s) (w :: ws)

variable {sep : Char} {s : List Char} {ws : List (List Char)}

theorem Words.filter_fields (h : Words sep s ws) : (fields sep s).filter (!·.isEmpty) = ws := by
  induction h with
  | nil => rfl
  | skip rest ih =>
    rw [fields, if_pos rfl]
    exact ih
  | last some word =>
    rw [fields_of_not_mem word]
    exact List.filter_cons_of_pos (by simpa using some)
  | next some word rest ih =>
    rw [fields_append _ word, List.filter_cons_of_pos (by simpa using some), ih]

theorem words_joinFields {fs : List (List Char)} (free : ∀ f ∈ fs, sep ∉ f) :
    Words sep (joinFields sep fs) (fs.filter (!·.isEmpty)) := by
  -- an empty field is no word, and the last field has no separator behind it
  induction fs with
  | nil => exact .nil
  | cons f fs ih =>
    obtain ⟨first, others⟩ := List.forall_mem_cons.1 free
    cases f with
    | nil =>
      cases fs with
      | nil => exact .nil
      | cons g gs => exact .skip (ih others)
    | cons c r =>
      cases fs with
      | nil => exact .last nofun first
      | cons g gs => exact .next nofun first (ih others)

/-- **The nonempty fields of a text are its words**, and nothing else is. -/
theorem filter_fields_eq_iff : (fields sep s).filter (!·.isEmpty) = ws ↔ Words sep s ws := by
  refine ⟨?_, Words.filter_fields⟩
  rintro rfl
  have words := words_joinFields fun f (mem : f ∈ fields sep s) ↦ sep_notMem_of_mem_fields mem
  rwa [joinFields_fields] at words

end Text

namespace Account.Password

/-! ### Sixty-four characters of six bits -/

theorem char_mod (v : Nat) : char (v % 64) = char v := by
  rw [char, Nat.mod_mod, char]

theorem value?_char_of_lt : ∀ v < 64, value? (char v) = some v ∧ char v ≠ '$' := by
  decide +kernel

theorem value?_char (v : Nat) : value? (char v) = some (v % 64) := by
  rw [← char_mod, (value?_char_of_lt (v % 64) (Nat.mod_lt v (by decide))).1]

theorem char_ne_dollar (v : Nat) : char v ≠ '$' := by
  rw [← char_mod]
  exact (value?_char_of_lt (v % 64) (Nat.mod_lt v (by decide))).2

/-- A value is read from no character but its own. -/
theorem eq_char_of_value? {c : Char} {v : Nat} (h : value? c = some v) : c = char v ∧ v < 64 := by
  obtain ⟨bound, same, -⟩ := List.findIdx?_eq_some_iff_getElem.1 h
  have bound' : v < 64 := bound
  refine ⟨?_, bound'⟩
  rw [char, Nat.mod_eq_of_lt bound', List.getD_eq_getElem?_getD, List.getElem?_eq_getElem bound,
    Option.getD_some]
  exact (beq_iff_eq.1 same).symm

theorem dollar_notMem_encode (bytes : List UInt8) : '$' ∉ encode bytes := by
  induction bytes using encode.induct with
  | case1 => exact List.not_mem_nil
  | case2 a => simp [encode, (char_ne_dollar _).symm]
  | case3 a b => simp [encode, (char_ne_dollar _).symm]
  | case4 a b c r ih => simp [encode, (char_ne_dollar _).symm, ih]

theorem length_encode (bytes : List UInt8) :
    (encode bytes).length = (4 * bytes.length + 2) / 3 := by
  induction bytes using encode.induct with
  | case1 => rfl
  | case2 a => simp [encode]
  | case3 a b => simp [encode]
  | case4 a b c r ih =>
    simp only [encode, List.length_cons, ih]
    omega

theorem ofNat_eq {n : Nat} {b : UInt8} (h : n = b.toNat) : UInt8.ofNat n = b := by
  rw [h, UInt8.ofNat_toNat]

/-- **What is written is read**, -/
theorem decode?_encode (bytes : List UInt8) : decode? (encode bytes) = some bytes := by
  -- three bytes at a time; one or two that are left over are filled up with zero bits
  induction bytes using encode.induct with
  | case1 => rfl
  | case2 a =>
    have ha := a.toNat_lt
    have whole : a.toNat * 16 / 64 % 64 * 64 + a.toNat * 16 % 64 = a.toNat * 16 := by omega
    simp only [encode, decode?, value?_char, Option.bind_eq_bind, Option.bind_some, whole]
    rw [if_pos (by omega), ofNat_eq (b := a) (by omega)]
  | case3 a b =>
    have ha := a.toNat_lt
    have hb := b.toNat_lt
    generalize hv : (a.toNat * 256 + b.toNat) * 4 = v
    have whole : (v / 4096 % 64 * 64 + v / 64 % 64) * 64 + v % 64 = v := by omega
    simp only [encode, hv, decode?, value?_char, Option.bind_eq_bind, Option.bind_some, whole]
    rw [if_pos (by omega), ofNat_eq (b := a) (by omega), ofNat_eq (b := b) (by omega)]
  | case4 a b c r ih =>
    have ha := a.toNat_lt
    have hb := b.toNat_lt
    have hc := c.toNat_lt
    generalize hv : (a.toNat * 256 + b.toNat) * 256 + c.toNat = v
    have whole : ((v / 262144 % 64 * 64 + v / 4096 % 64) * 64 + v / 64 % 64) * 64 + v % 64 = v := by
      omega
    simp only [encode, hv, decode?, value?_char, ih, Option.bind_eq_bind, Option.bind_some, whole]
    rw [ofNat_eq (b := a) (by omega), ofNat_eq (b := b) (by omega), ofNat_eq (b := c) (by omega)]

theorem char_congr {v w : Nat} (h : v % 64 = w % 64) : char v = char w := by
  rw [char, h, char]

/-- and what is read was written. -/
theorem encode_of_decode? {s : List Char} {bytes : List UInt8} (h : decode? s = some bytes) :
    encode bytes = s := by
  -- by the recursion of `decode?`: what it reads are the digits that `encode` writes
  induction s using decode?.induct generalizing bytes with
  | case1 =>
    obtain rfl := Option.some.inj h
    rfl
  | case2 c => exact absurd h nofun
  | case3 p q =>
    simp only [decode?, Option.bind_eq_bind, Option.bind_eq_some_iff, Option.ite_none_right_eq_some,
      Option.some.injEq] at h
    obtain ⟨x, hx, y, hy, spare, rfl⟩ := h
    obtain ⟨⟨rfl, boundx⟩, rfl, boundy⟩ := eq_char_of_value? hx, eq_char_of_value? hy
    -- the bits that are left over are zero (`spare`), so the last digit comes out as it was read
    simp only [encode, UInt8.toNat_ofNat_of_lt' (show (x * 64 + y) / 16 < 256 by omega)]
    exact congrArg₂ List.cons (char_congr (by omega))
      (congrArg₂ List.cons (char_congr (by omega)) rfl)
  | case4 p q r =>
    simp only [decode?, Option.bind_eq_bind, Option.bind_eq_some_iff, Option.ite_none_right_eq_some,
      Option.some.injEq] at h
    obtain ⟨x, hx, y, hy, z, hz, spare, rfl⟩ := h
    obtain ⟨⟨rfl, boundx⟩, rfl, boundy⟩ := eq_char_of_value? hx, eq_char_of_value? hy
    obtain ⟨rfl, boundz⟩ := eq_char_of_value? hz
    generalize hv : (x * 64 + y) * 64 + z = v at spare
    simp only [encode, UInt8.toNat_ofNat_of_lt' (show v / 1024 < 256 by omega),
      UInt8.toNat_ofNat_of_lt' (show v / 4 % 256 < 256 by omega)]
    exact congrArg₂ List.cons (char_congr (by omega))
      (congrArg₂ List.cons (char_congr (by omega))
        (congrArg₂ List.cons (char_congr (by omega)) rfl))
  | case5 p q r s t ih =>
    simp only [decode?, Option.bind_eq_bind, Option.bind_eq_some_iff, Option.some.injEq] at h
    obtain ⟨x, hx, y, hy, z, hz, w, hw, more, read, rfl⟩ := h
    obtain ⟨⟨rfl, boundx⟩, rfl, boundy⟩ := eq_char_of_value? hx, eq_char_of_value? hy
    obtain ⟨⟨rfl, boundz⟩, rfl, boundw⟩ := eq_char_of_value? hz, eq_char_of_value? hw
    generalize hv : ((x * 64 + y) * 64 + z) * 64 + w = v
    simp only [encode, UInt8.toNat_ofNat_of_lt' (show v / 65536 < 256 by omega),
      UInt8.toNat_ofNat_of_lt' (show v / 256 % 256 < 256 by omega),
      UInt8.toNat_ofNat_of_lt' (show v % 256 < 256 by omega), ih read]
    exact congrArg₂ List.cons (char_congr (by omega))
      (congrArg₂ List.cons (char_congr (by omega))
        (congrArg₂ List.cons (char_congr (by omega))
          (congrArg₂ List.cons (char_congr (by omega)) rfl)))

/-! ### Salts -/

/-- **The text of a cost**: digits for it behind a plus sign or nothing, with any zeros in front. -/
def WritesCost (s : List Char) (cost : Nat) : Prop :=
  ∃ digits, (s = digits ∨ s = '+' :: digits) ∧ digits ≠ [] ∧ (∀ c ∈ digits, c.isDigit = true) ∧
    Nat.ofDigitChars 10 digits 0 = cost

namespace Salt

/-- What a salt has to be: a cost within bounds, and sixteen bytes. -/
structure Allowed (salt : Salt) : Prop where
  least : minCost ≤ salt.cost
  most : salt.cost ≤ maxCost
  bytes : salt.bytes.length = 16

/-- **A text spells a salt**: its words are a version, a cost, and a word that begins with sixteen
bytes. -/
def Spells (s : List Char) (salt : Salt) : Prop :=
  salt.Allowed ∧ ∃ cost rest, Words '$' s [salt.version.text, cost, encode salt.bytes ++ rest] ∧
    WritesCost cost salt.cost

theorem version_ofText?_text (v : Version) : Version.ofText? v.text = some v := by
  cases v <;> rfl

theorem text_of_version_ofText? {s : List Char} {v : Version} (h : Version.ofText? s = some v) :
    v.text = s := by
  unfold Version.ofText? at h
  split at h
  case h_5 => exact absurd h nofun
  all_goals
    obtain rfl := Option.some.inj h
    rfl

/-- What the reader makes of the digits of a cost. -/
theorem readDigits_eq_some_iff {digits : List Char} {cost : Nat} :
    (if digits.isEmpty || !digits.all Char.isDigit then none
      else if minCost ≤ Nat.ofDigitChars 10 digits 0 ∧ Nat.ofDigitChars 10 digits 0 ≤ maxCost then
        some (Nat.ofDigitChars 10 digits 0)
      else none) = some cost ↔
    (digits ≠ [] ∧ (∀ c ∈ digits, c.isDigit = true) ∧ Nat.ofDigitChars 10 digits 0 = cost) ∧
      minCost ≤ cost ∧ cost ≤ maxCost := by
  rw [Option.ite_none_left_eq_some, Option.ite_none_right_eq_some, Option.some.injEq,
    Bool.or_eq_true, not_or, List.isEmpty_iff, Bool.not_eq_true', Bool.not_eq_false,
    List.all_eq_true]
  constructor
  · rintro ⟨⟨some, all⟩, bounds, rfl⟩
    exact ⟨⟨some, all, rfl⟩, bounds⟩
  · rintro ⟨⟨some, all, rfl⟩, bounds⟩
    exact ⟨⟨some, all⟩, bounds, rfl⟩

/-- **The reader of costs** takes the texts of the costs within bounds. -/
theorem cost?_eq_some_iff {s : List Char} {cost : Nat} :
    cost? s = some cost ↔ WritesCost s cost ∧ minCost ≤ cost ∧ cost ≤ maxCost := by
  unfold cost?
  split
  · rename_i r
    -- behind a plus sign, and then the other spelling would have the sign as a digit
    refine readDigits_eq_some_iff.trans (and_congr_left fun _ ↦ ?_)
    constructor
    · exact fun digits ↦ ⟨r, Or.inr rfl, digits⟩
    · rintro ⟨digits, rfl | same, digits'⟩
      · exact absurd (digits'.2.1 '+' List.mem_cons_self) (by decide)
      · obtain rfl := (List.cons.inj same).2
        exact digits'
  · rename_i unsigned
    refine readDigits_eq_some_iff.trans (and_congr_left fun _ ↦ ?_)
    constructor
    · exact fun digits ↦ ⟨s, Or.inl rfl, digits⟩
    · rintro ⟨digits, rfl | rfl, digits'⟩
      · exact digits'
      · exact absurd rfl (unsigned digits)

/-- **The reader of salts** takes the texts that spell one. -/
theorem ofText?_eq_some_iff {s : List Char} {salt : Salt} :
    ofText? s = some salt ↔ Spells s salt := by
  constructor
  · intro h
    unfold ofText? at h
    split at h
    · rename_i version cost rest cut
      simp only [Option.bind_eq_bind, Option.bind_eq_some_iff, Option.ite_none_left_eq_some,
        Option.some.injEq] at h
      obtain ⟨v, hv, n, hn, long, bytes, read, rfl⟩ := h
      obtain ⟨writes, least, most⟩ := cost?_eq_some_iff.1 hn
      have written := encode_of_decode? read
      -- of what follows the cost only the first twenty-two digits are read: they spell sixteen
      -- bytes
      have length : (encode bytes).length = 22 := by
        rw [written, List.length_take]
        omega
      have sixteen : bytes.length = 16 := by
        rw [length_encode] at length
        omega
      refine ⟨⟨least, most, sixteen⟩, cost, rest.drop 22, ?_, writes⟩
      rw [written, List.take_append_drop, text_of_version_ofText? hv]
      exact filter_fields_eq_iff.1 cut
    · exact absurd h nofun
  · rintro ⟨⟨least, most, bytes⟩, cost, rest, words, writes⟩
    have length : (encode salt.bytes).length = 22 := by
      rw [length_encode, bytes]
    -- the twenty-two digits of the salt come first, so nothing of the rest is read with them
    have first : (encode salt.bytes ++ rest).take 22 = encode salt.bytes := by
      rw [← length, List.take_left]
    have long : ¬ (encode salt.bytes ++ rest).length < 22 := by
      rw [List.length_append, length]
      omega
    simp only [ofText?, words.filter_fields, version_ofText?_text,
      cost?_eq_some_iff.2 ⟨writes, least, most⟩, if_neg long, first, decode?_encode,
      Option.bind_eq_bind, Option.bind_some]

theorem twoDigits_of_le : ∀ n ≤ maxCost, ((twoDigits n).all Char.isDigit = true ∧
    Nat.ofDigitChars 10 (twoDigits n) 0 = n) ∧ '$' ∉ twoDigits n := by
  decide +kernel

/-- **A salt is written as one of its texts**, with anything behind it but a dollar sign. -/
theorem spells_text_append {salt : Salt} (allowed : salt.Allowed) {rest : List Char}
    (free : '$' ∉ rest) : Spells (salt.text ++ rest) salt := by
  obtain ⟨⟨digits, value⟩, cost⟩ := twoDigits_of_le _ allowed.most
  -- no dollar sign stands within a part, so the fields of the text are its parts
  have version : '$' ∉ salt.version.text := by
    cases salt.version <;> decide
  have last : '$' ∉ encode salt.bytes ++ rest := by
    rw [List.mem_append, not_or]
    exact ⟨dollar_notMem_encode _, free⟩
  have some : encode salt.bytes ++ rest ≠ [] := by
    intro none
    have length := congrArg List.length none
    rw [List.length_append, length_encode, allowed.bytes] at length
    exact absurd length (by simp)
  have parts : salt.text ++ rest = '$' :: (salt.version.text ++ '$' ::
      (twoDigits salt.cost ++ '$' :: (encode salt.bytes ++ rest))) := by
    simp [text]
  have two : twoDigits salt.cost ≠ [] := List.cons_ne_nil _ _
  refine ⟨allowed, _, rest, ?_, _, Or.inl rfl, two, List.all_eq_true.1 digits, value⟩
  rw [parts]
  refine .skip (.next ?_ version (.next two cost (.last some last)))
  cases salt.version <;> exact nofun

end Salt

/-! ### Hashes -/

/-- **A hash is a text of its salt.** -/
theorem ofText?_hashUnder {salt : Salt} (allowed : salt.Allowed) (password : List UInt8) :
    Salt.ofText? (hashUnder salt password) = some salt :=
  Salt.ofText?_eq_some_iff.2 (Salt.spells_text_append allowed (dollar_notMem_encode _))

variable {salt : Salt} {text plain hashed : String}

theorem tooLong_eq_true_iff : tooLong plain = true ↔ maxBytes < plain.toUTF8.size := by
  rw [tooLong, decide_eq_true_iff]
  rfl

theorem tooLong_eq_false_iff : tooLong plain = false ↔ plain.toUTF8.size ≤ maxBytes := by
  rw [← Bool.not_eq_true, tooLong_eq_true_iff, not_lt]

/-- A password that is too long has no hash, -/
theorem hash_of_tooLong (long : tooLong plain = true) : hash text plain = .error .tooLong :=
  if_pos long

/-- and no hash is one of it. -/
theorem verify_of_tooLong (long : tooLong plain = true) : verify plain hashed = false := by
  rw [verify, hash_of_tooLong long]

/-- Any other has one under every text of a salt, the same under all the texts of one salt, -/
theorem hash_of_spells (short : tooLong plain = false) (spells : salt.Spells text.toList) :
    hash text plain = .ok (String.ofList (hashUnder salt plain.toUTF8.toList)) := by
  rw [hash, if_neg (Bool.not_eq_true _ ▸ short), Salt.ofText?_eq_some_iff.2 spells]

/-- and under no other text. -/
theorem hash_of_not_spells (short : tooLong plain = false)
    (other : ∀ salt : Salt, ¬ salt.Spells text.toList) : hash text plain = .error .invalidSalt := by
  have unread : Salt.ofText? text.toList = none :=
    Option.eq_none_iff_forall_ne_some.2 fun salt read ↦
      other salt (Salt.ofText?_eq_some_iff.1 read)
  rw [hash, if_neg (Bool.not_eq_true _ ▸ short), unread]

/-- **Hashing under a hash gives the hash again.** -/
theorem hash_of_hash (hashes : hash text plain = .ok hashed) : hash hashed plain = .ok hashed := by
  have short : tooLong plain = false := by
    cases long : tooLong plain with
    | false => rfl
    | true => exact absurd ((hash_of_tooLong long).symm.trans hashes) nofun
  cases read : Salt.ofText? text.toList with
  | none =>
    simp [hash, short, read] at hashes
  | some salt =>
    -- the hash has the salt's own text in front, and is a spelling of the same salt
    have spells := Salt.ofText?_eq_some_iff.1 read
    obtain rfl := Except.ok.inj ((hash_of_spells short spells).symm.trans hashes)
    refine hash_of_spells short (Salt.ofText?_eq_some_iff.1 ?_)
    rw [String.toList_ofList]
    exact ofText?_hashUnder spells.1 _

/-- **A password verifies against every hash of it.** -/
theorem verify_of_hash (hashes : hash text plain = .ok hashed) : verify plain hashed = true := by
  rw [verify, hash_of_hash hashes]
  exact beq_self_eq_true hashed

/-- A hash begins with a dollar sign. -/
theorem head?_of_hash (hashes : hash text plain = .ok hashed) : hashed.toList.head? = some '$' := by
  unfold hash at hashes
  split at hashes
  · exact absurd hashes nofun
  · split at hashes
    · exact absurd hashes nofun
    · obtain rfl := Except.ok.inj hashes
      rw [String.toList_ofList]
      rfl

end Account.Password

end AuthRealm
