import AuthRealm.Http.Cookie

/-!
# Cookies come back as they were handed out

Whatever text a cookie has: if it can be sent at all, then what a client sends back of the header is
read as the same text (`ofRequest_of_header?`). The text is escaped character by character, so one
induction shows that reading undoes the writing (`unescapeQuoted_flatMap`); and no written character
is a semicolon or a blank at an end, so neither cutting the header into pieces nor trimming the
pieces takes anything away.
-/

namespace AuthRealm.Http.Cookie

open Text

/-! ### Characters -/

/-- Plain characters are visible ones. -/
theorem isPlain_bounds {c : Char} (h : isPlain c = true) : 0x21 ≤ c.toNat ∧ c.toNat ≤ 0x7e := by
  rw [isPlain, Bool.or_eq_true] at h
  rcases h with alphanum | listed
  · -- letters and digits are three ranges, the other plain characters a short list
    have ranges : (decide ('A'.val ≤ c.val ∧ c.val ≤ 'Z'.val) ||
        ('a'.val ≤ c.val && c.val ≤ 'z'.val) || ('0'.val ≤ c.val && c.val ≤ '9'.val)) = true :=
      alphanum
    simp only [Bool.or_eq_true, Bool.and_eq_true, decide_eq_true_eq,
      UInt32.le_iff_toNat_le] at ranges
    rcases ranges with (⟨least, most⟩ | ⟨least, most⟩) | ⟨least, most⟩ <;>
      simp at least most <;> omega
  · have bounds : ("!#$%&'*+-.^_\x60|~:".toList.all fun d ↦ 0x21 ≤ d.toNat && d.toNat ≤ 0x7e) =
        true := by decide
    have bound := List.all_eq_true.1 bounds c (List.contains_iff_mem.1 listed)
    simpa only [Bool.and_eq_true, decide_eq_true_eq] using bound

theorem isBlank_of_isPlain {c : Char} (h : isPlain c = true) : isBlank c = false := by
  obtain ⟨least, most⟩ := isPlain_bounds h
  simp [isBlank]
  omega

/-- Neither quotes nor backslashes are written without an escape, nor is a semicolon. -/
theorem isUnescaped_ne {c : Char} (h : isUnescaped c = true) : c ≠ '"' ∧ c ≠ '\\' ∧ c ≠ ';' := by
  refine ⟨?_, ?_, ?_⟩ <;> (rintro rfl; exact absurd h (by decide))

/-! ### Escapes -/

theorem isOctal_ofNat : ∀ d < 8, isOctal (Char.ofNat (48 + d)) = true ∧
    (Char.ofNat (48 + d)).toNat = 48 + d ∧ Char.ofNat (48 + d) ≠ ';' := by
  decide

/-- The three digits of a byte stand for it. -/
theorem octalEscape?_octal {n : Nat} (h : n < 0x100) (r : List Char) :
    ∃ a b d, octal n = [a, b, d] ∧ octalEscape? a (b :: d :: r) = some (Char.ofNat n) := by
  have first : ∀ d < 4, '0' ≤ Char.ofNat (48 + d) ∧ Char.ofNat (48 + d) ≤ '3' := by decide
  have small : n / 64 % 8 < 4 := by omega
  obtain ⟨-, toNat₁, -⟩ := isOctal_ofNat (n / 64 % 8) (by omega)
  obtain ⟨digit₂, toNat₂, -⟩ := isOctal_ofNat (n / 8 % 8) (by omega)
  obtain ⟨digit₃, toNat₃, -⟩ := isOctal_ofNat (n % 8) (by omega)
  refine ⟨_, _, _, rfl, ?_⟩
  -- three octal digits hold a byte, the first of them being less than four
  have value : (48 + n / 64 % 8 - 48) * 64 + (48 + n / 8 % 8 - 48) * 8 + (48 + n % 8 - 48) = n := by
    omega
  have digits : ('0' ≤ Char.ofNat (48 + n / 64 % 8) && Char.ofNat (48 + n / 64 % 8) ≤ '3' &&
      isOctal (Char.ofNat (48 + n / 8 % 8)) && isOctal (Char.ofNat (48 + n % 8))) = true := by
    simp [first _ small, digit₂, digit₃]
  simp only [octalEscape?]
  rw [if_pos digits, toNat₁, toNat₂, toNat₃, value]

/-- **A written character is read as itself**, whatever follows it. -/
theorem unescapeQuoted_quotedChar {c : Char} (byte : c.toNat < 0x100) (r : List Char) :
    unescapeQuoted (quotedChar c ++ r) = c :: unescapeQuoted r := by
  by_cases special : (c = '"' || c = '\\') = true
  · have written : quotedChar c = ['\\', c] := if_pos special
    rw [Bool.or_eq_true, decide_eq_true_eq, decide_eq_true_eq] at special
    -- a backslash is followed by three digits or by the character itself, and this one is no digit
    have noDigits : octalEscape? c r = none := by
      unfold octalEscape?
      rcases special with rfl | rfl <;> split <;> simp
    have noLineFeed : c ≠ '\n' := by
      rintro rfl
      exact absurd special (by decide)
    rw [written, List.cons_append, List.cons_append, List.nil_append, unescapeQuoted, if_pos rfl,
      noDigits]
    exact if_neg noLineFeed
  · by_cases plain : isUnescaped c = true
    · have written : quotedChar c = [c] := (if_neg special).trans (if_pos plain)
      rw [written, List.singleton_append]
      cases r with
      | nil => simp [unescapeQuoted]
      | cons a r => rw [unescapeQuoted, if_neg (isUnescaped_ne plain).2.1]
    · -- any other character is written by its number
      have written : quotedChar c = '\\' :: octal c.toNat := (if_neg special).trans (if_neg plain)
      obtain ⟨a, b, d, digits, value⟩ := octalEscape?_octal byte r
      rw [written, digits, List.cons_append, List.cons_append, List.cons_append, List.cons_append,
        List.nil_append, unescapeQuoted, if_pos rfl, value]
      show Char.ofNat c.toNat :: unescapeQuoted r = _
      rw [Char.ofNat_toNat]

/-- **Reading undoes writing**, by induction on the text. -/
theorem unescapeQuoted_flatMap {s : List Char} (bytes : ∀ c ∈ s, c.toNat < 0x100) :
    unescapeQuoted (s.flatMap quotedChar) = s := by
  induction s with
  | nil => simp [unescapeQuoted]
  | cons c s ih =>
    rw [List.flatMap_cons, unescapeQuoted_quotedChar (bytes c List.mem_cons_self),
      ih fun d hd ↦ bytes d (List.mem_cons_of_mem _ hd)]

/-! ### Values -/

/-- How a value is sent: as it is, or between quotes with every character a byte. -/
theorem valueText?_eq_some {value v : String} (h : valueText? value = some v) :
    ((∀ c ∈ value.toList, isPlain c = true) ∧ v.toList = value.toList) ∨
      ((∀ c ∈ value.toList, c.toNat < 0x100) ∧
        v.toList = '"' :: (value.toList.flatMap quotedChar ++ ['"'])) := by
  unfold valueText? at h
  -- plain as it is, or in quotation marks and then of single bytes only
  simp only at h
  split at h
  · rename_i plain
    obtain rfl : value = v := Option.some.inj h
    exact Or.inl ⟨List.all_eq_true.1 plain, rfl⟩
  · split at h
    · exact absurd h nofun
    · rename_i sendable
      obtain rfl := Option.some.inj h
      refine Or.inr ⟨fun c hc ↦ ?_, by simp⟩
      refine Nat.lt_of_not_le fun large ↦ sendable ?_
      exact Bool.or_eq_true_iff.2 (Or.inr (List.any_eq_true.2 ⟨c, hc, decide_eq_true large⟩))

/-- Whether a value can be sent: its characters are bytes, and none is a control character. -/
def isSendable (value : String) : Bool :=
  value.toList.all fun c ↦ !isControl c && c.toNat < 0x100

/-- **What can be sent** is told by the characters alone. -/
theorem isSome_valueText? (value : String) : (valueText? value).isSome = isSendable value := by
  unfold valueText? isSendable
  simp only
  -- a value without a text is one with a control character or a character beyond a byte
  split
  · rename_i plain
    have sendable : (value.toList.all fun c ↦ !isControl c && c.toNat < 0x100) = true := by
      rw [List.all_eq_true] at plain ⊢
      intro c hc
      obtain ⟨least, most⟩ := isPlain_bounds (plain c hc)
      simp [isControl]
      omega
    rw [sendable, Option.isSome_some]
  · split
    · rename_i unsendable
      have bad : (value.toList.all fun c ↦ !isControl c && c.toNat < 0x100) = false := by
        rw [Bool.or_eq_true, List.any_eq_true, List.any_eq_true] at unsendable
        rw [List.all_eq_false]
        rcases unsendable with ⟨c, hc, control⟩ | ⟨c, hc, large⟩
        · exact ⟨c, hc, by simp [control]⟩
        · exact ⟨c, hc, by simpa using fun _ ↦ of_decide_eq_true large⟩
      rw [bad, Option.isSome_none]
    · rename_i sendable
      have good : (value.toList.all fun c ↦ !isControl c && c.toNat < 0x100) = true := by
        rw [Bool.or_eq_true, List.any_eq_true, List.any_eq_true, not_or] at sendable
        rw [List.all_eq_true]
        intro c hc
        have noControl : isControl c = false := by
          rw [← Bool.not_eq_true]
          exact fun control ↦ sendable.1 ⟨c, hc, control⟩
        have small : c.toNat < 0x100 :=
          Nat.lt_of_not_le fun large ↦ sendable.2 ⟨c, hc, decide_eq_true large⟩
        simp [noControl, small]
      rw [good, Option.isSome_some]

theorem isSome_header? (value : String) (secure : Bool) :
    (header? value secure).isSome = isSendable value := by
  rw [← isSome_valueText?, header?, Option.isSome_map]

theorem unquote_of_ne {s : List Char} (h : ∀ r, s ≠ '"' :: r) : unquote s = s := by
  unfold unquote
  split
  · rename_i r
    exact absurd rfl (h r)
  · rfl

/-- **A value that can be sent is read as it was.** -/
theorem unquote_of_valueText? {value v : String} (h : valueText? value = some v) :
    unquote v.toList = value.toList := by
  rcases valueText?_eq_some h with ⟨plain, written⟩ | ⟨bytes, written⟩
  · rw [written]
    refine unquote_of_ne fun r quoted ↦ ?_
    have quote := plain '"' (quoted ▸ List.mem_cons_self)
    exact absurd quote (by decide)
  · rw [written, unquote, if_pos List.getLast?_concat, List.dropLast_concat]
    exact unescapeQuoted_flatMap bytes

theorem semicolon_notMem_quotedChar (c : Char) : ';' ∉ quotedChar c := by
  -- what is written is a special character, a plain one, or an octal number, and none has a
  -- semicolon
  unfold quotedChar
  split
  · rename_i special
    rw [Bool.or_eq_true, decide_eq_true_eq, decide_eq_true_eq] at special
    rcases special with rfl | rfl <;> decide
  · split
    · rename_i plain
      rw [List.mem_singleton]
      exact fun h ↦ (isUnescaped_ne plain).2.2 h.symm
    · have digit : ∀ n, ';' ≠ Char.ofNat (48 + n % 8) := fun n h ↦
        (isOctal_ofNat (n % 8) (Nat.mod_lt n (by decide))).2.2 h.symm
      simp [octal, digit]

/-- No semicolon is sent in a value. -/
theorem semicolon_notMem {value v : String} (h : valueText? value = some v) : ';' ∉ v.toList := by
  rcases valueText?_eq_some h with ⟨plain, written⟩ | ⟨-, written⟩
  · rw [written]
    intro sent
    exact absurd (plain ';' sent) (by decide)
  · rw [written, List.mem_cons, List.mem_append, List.mem_flatMap, List.mem_singleton]
    rintro (quote | ⟨c, -, sent⟩ | quote)
    · exact absurd quote (by decide)
    · exact semicolon_notMem_quotedChar c sent
    · exact absurd quote (by decide)

/-- No blank is sent at the ends of a value. -/
theorem trim_of_valueText? {value v : String} (h : valueText? value = some v) :
    trim v.toList = v.toList := by
  -- the ends of the text are plain characters or quotation marks, which are no blanks
  rcases valueText?_eq_some h with ⟨plain, written⟩ | ⟨-, written⟩
  · rw [written]
    refine trim_eq_self (fun c hc ↦ ?_) fun c hc ↦ ?_
    · exact isBlank_of_isPlain (plain c (List.mem_of_mem_head? hc))
    · exact isBlank_of_isPlain (plain c (List.mem_of_getLast? hc))
  · rw [written]
    refine trim_eq_self (fun c hc ↦ ?_) fun c hc ↦ ?_
    · obtain rfl : '"' = c := by simpa using hc
      decide
    · rw [← List.cons_append, List.getLast?_concat, Option.some.injEq] at hc
      subst hc
      decide

/-! ### Headers -/

/-- What a client sends back of a header that hands out a cookie: all before the first semicolon. -/
def pair (header : String) : String :=
  String.ofList (cutAt ';' header.toList).1

/-- The pair of a name and a value as it stands in headers. -/
def pairOf (v : String) : String :=
  name ++ "=" ++ v

theorem toList_pairOf (v : String) : (pairOf v).toList = name.toList ++ '=' :: v.toList := by
  simp [pairOf]

theorem semicolon_notMem_pairOf {value v : String} (h : valueText? value = some v) :
    ';' ∉ (pairOf v).toList := by
  rw [toList_pairOf, List.mem_append, List.mem_cons]
  rintro (hname | equals | sent)
  · exact absurd hname (by decide)
  · exact absurd equals (by decide)
  · exact semicolon_notMem h sent

/-- The pair of a header that hands out a cookie is its name and its value. -/
theorem pair_of_header? {value header : String} {secure : Bool}
    (handed : header? value secure = some header) :
    ∃ v, valueText? value = some v ∧ pair header = pairOf v := by
  obtain ⟨v, hv, rfl⟩ := Option.map_eq_some_iff.1 handed
  refine ⟨v, hv, ?_⟩
  have separator : "; HttpOnly; Path=/; SameSite=lax" = ";" ++ " HttpOnly; Path=/; SameSite=lax" :=
    rfl
  have attributes : ∃ rest, name ++ "=" ++ v ++ "; HttpOnly; Path=/; SameSite=lax" ++
      (if secure then "; Secure" else "") = pairOf v ++ ";" ++ rest := by
    refine ⟨" HttpOnly; Path=/; SameSite=lax" ++ if secure then "; Secure" else "", ?_⟩
    rw [separator]
    simp only [pairOf, String.append_assoc]
  obtain ⟨rest, hrest⟩ := attributes
  -- no semicolon stands in the pair, so the pair ends where the attributes begin
  have cut : cutAt ';' ((pairOf v).toList ++ ';' :: rest.toList) =
      ((pairOf v).toList, some rest.toList) :=
    cutAt_eq_some_iff.2 ⟨rfl, semicolon_notMem_pairOf hv⟩
  rw [pair, hrest]
  simp [cut]

/-- The pair of a value is read as the name and the value. -/
theorem ofHeader_pairOf {value v : String} (h : valueText? value = some v) :
    ofHeader (pairOf v) = [(name, value)] := by
  have cut : cutAt '=' (name.toList ++ '=' :: v.toList) = (name.toList, some v.toList) :=
    cutAt_eq_some_iff.2 ⟨rfl, by decide⟩
  have trimmed : trim name.toList = name.toList := by decide
  have named : name.toList.isEmpty = false := by decide
  have piece : ofPiece? (name.toList ++ '=' :: v.toList) = some (name, value) := by
    simp only [ofPiece?, cut, trimmed, trim_of_valueText? h, named, Bool.false_and,
      Bool.false_eq_true, if_false, unquote_of_valueText? h, String.ofList_toList]
  rw [ofHeader, fields_of_not_mem (semicolon_notMem_pairOf h), toList_pairOf]
  simp [piece]

/-- **What is sent back of a cookie is the cookie**, whatever its text, if it could be sent. -/
theorem ofRequest_of_header? {value header : String} {secure : Bool} {r : Request}
    (handed : header? value secure = some header)
    (shown : r.headers.all "cookie" = [pair header]) : ofRequest r = value := by
  obtain ⟨v, hv, hpair⟩ := pair_of_header? handed
  rw [hpair] at shown
  simp [ofRequest, shown, ofHeader_pairOf hv]

end AuthRealm.Http.Cookie
