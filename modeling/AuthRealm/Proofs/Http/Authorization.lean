import AuthRealm.Http.Authorization
import AuthRealm.Proofs.Text.Base64
import AuthRealm.Proofs.Text.Utf8

/-!
# Two readers of one header

The header under which a client presents a name and a password is read twice: for the credentials,
and for the key by which the attempt is counted. The two do not read alike, since the first takes
ASCII and the second any UTF-8, but they agree wherever the first finds something:

* **credentials are counted under the very name that they present** (`rateKey_of_credentials`), and
* a request that presents nothing is counted by its address (`rateKey_of_nothing`).

So no request is counted under a name other than the one whose password it tries. Where they differ
is in what a client can present at all: a parameter is unreadable unless it spells an ASCII text
with a colon (`present_eq_unreadable_iff`), so a name and a password written the way clients write
them are read as what they are if both are ASCII, and otherwise not at all (`present_basicHeader`).
-/

namespace AuthRealm.Http.Authorization

open Text

variable {authorization : Option String} {username password : String}

/-! ### What a parameter spells -/

/-- What a parameter spells: the text of the ASCII bytes that it encodes, if it is ASCII itself. -/
def Spells (parameter text : List Char) : Prop :=
  isAscii parameter = true ∧ ∃ bytes, Base64.decode? parameter = some bytes ∧
    bytes.all isAsciiByte = true ∧ bytes.map charOfByte = text

/-- A parameter spells one text at most. -/
theorem Spells.unique {parameter text text' : List Char} (h : Spells parameter text)
    (h' : Spells parameter text') : text = text' := by
  obtain ⟨-, bytes, decoded, -, rfl⟩ := h
  obtain ⟨-, bytes', decoded', -, rfl⟩ := h'
  rw [Option.some.inj (decoded.symm.trans decoded')]

theorem credentialsOf_eq_unreadable_iff {s : List Char} :
    credentialsOf s = .unreadable ↔ ':' ∉ s := by
  rw [← snd_cutAt_eq_none_iff, credentialsOf]
  rcases cutAt ':' s with ⟨before, _ | after⟩
  · exact iff_of_true rfl rfl
  · exact iff_of_false nofun nofun

theorem readParameter_of_spells {parameter text : List Char} (h : Spells parameter text) :
    readParameter parameter = credentialsOf text := by
  obtain ⟨ascii, bytes, decoded, asciiBytes, rfl⟩ := h
  have small : (bytes.all fun b ↦ decide (b < 0x80)) = true := asciiBytes
  rw [readParameter, if_pos ascii, decoded]
  simp only [small, if_true]
  rfl

theorem readParameter_of_not_spells {parameter : List Char} (h : ∀ text, ¬ Spells parameter text) :
    readParameter parameter = .unreadable := by
  unfold readParameter
  split
  · rename_i ascii
    split
    · rename_i bytes decoded
      split
      · rename_i asciiBytes
        exact absurd ⟨ascii, bytes, decoded, asciiBytes, rfl⟩ (h _)
      · rfl
    · rfl
  · rfl

/-- **A parameter is unreadable unless it spells a text with a colon.** -/
theorem readParameter_eq_unreadable_iff {parameter : List Char} :
    readParameter parameter = .unreadable ↔ ¬ ∃ text, Spells parameter text ∧ ':' ∈ text := by
  by_cases spelt : ∃ text, Spells parameter text
  · obtain ⟨text, spells⟩ := spelt
    rw [readParameter_of_spells spells, credentialsOf_eq_unreadable_iff]
    constructor
    · rintro clean ⟨text', spells', colon⟩
      exact clean (spells.unique spells' ▸ colon)
    · exact fun none colon ↦ none ⟨text, spells, colon⟩
  · refine iff_of_true (readParameter_of_not_spells (not_exists.1 spelt)) ?_
    rintro ⟨text, spells, -⟩
    exact spelt ⟨text, spells⟩

/-! ### What is presented is what is counted -/

theorem cutAt_of_credentialsOf {s : List Char}
    (h : credentialsOf s = .credentials username password) :
    cutAt ':' s = (username.toList, some password.toList) := by
  unfold credentialsOf at h
  split at h
  · rename_i before after cut
    obtain ⟨rfl, rfl⟩ := Presented.credentials.inj h
    rw [cut, String.toList_ofList, String.toList_ofList]
  · exact absurd h nofun

/-- Credentials are what a parameter spells, cut at the first colon. -/
theorem exists_spells_of_readParameter {parameter : List Char}
    (h : readParameter parameter = .credentials username password) :
    ∃ text, Spells parameter text ∧ cutAt ':' text = (username.toList, some password.toList) := by
  by_cases spelt : ∃ text, Spells parameter text
  · obtain ⟨text, spells⟩ := spelt
    rw [readParameter_of_spells spells] at h
    exact ⟨text, spells, cutAt_of_credentialsOf h⟩
  · rw [readParameter_of_not_spells (not_exists.1 spelt)] at h
    exact absurd h nofun

/-- **The reader of keys finds the name of the credentials.** -/
theorem usernameOf?_of_readParameter {parameter : List Char}
    (h : readParameter parameter = .credentials username password) :
    usernameOf? parameter = some username := by
  obtain ⟨_, ⟨-, bytes, decoded, ascii, rfl⟩, cut⟩ := exists_spells_of_readParameter h
  have text := fromUTF8?_of_ascii ascii
  simp [usernameOf?, decoded, text, cut]

theorem ne_nil_of_readParameter {parameter : List Char}
    (h : readParameter parameter = .credentials username password) : parameter ≠ [] := by
  rintro rfl
  have empty : readParameter [] = .unreadable := by decide
  exact absurd (empty.symm.trans h) nofun

/-- **Credentials are counted under the name that they present.** -/
theorem rateKey_of_credentials (client : Option String)
    (h : present authorization = .credentials username password) :
    rateKey client authorization = .ok (addressOf client ++ ":" ++ username) := by
  cases authorization with
  | none => exact absurd h nofun
  | some value =>
    rw [present] at h
    split at h
    · rename_i parameter basic
      -- what the service accepts is ASCII and not empty, so the limiter decodes it as well
      obtain ⟨_, ⟨ascii, -⟩, -⟩ := exists_spells_of_readParameter h
      have nonempty := ne_nil_of_readParameter h
      have read := usernameOf?_of_readParameter h
      obtain ⟨c, r, rfl⟩ := List.exists_cons_of_ne_nil nonempty
      simp [rateKey, basic, ascii, read]
    · exact absurd h nofun

theorem readParameter_ne_nothing (parameter : List Char) : readParameter parameter ≠ .nothing := by
  by_cases spelt : ∃ text, Spells parameter text
  · obtain ⟨text, spells⟩ := spelt
    rw [readParameter_of_spells spells, credentialsOf]
    rcases cutAt ':' text with ⟨_, _ | _⟩
    · exact nofun
    · exact nofun
  · rw [readParameter_of_not_spells (not_exists.1 spelt)]
    exact nofun

/-- **Who presents nothing is counted by address alone.** -/
theorem rateKey_of_nothing (client : Option String) (h : present authorization = .nothing) :
    rateKey client authorization = .ok (addressOf client) := by
  cases authorization with
  | none => rfl
  | some value =>
    rw [present] at h
    split at h
    · exact absurd h (readParameter_ne_nothing _)
    · rename_i basic
      simp [rateKey, basic]

/-- **What is presented is unreadable** exactly if a parameter is, under the Basic scheme, that
spells no text with a colon. -/
theorem present_eq_unreadable_iff :
    present authorization = .unreadable ↔
      ∃ parameter, authorization.bind basicParameter? = some parameter ∧
        ¬ ∃ text, Spells parameter text ∧ ':' ∈ text := by
  cases authorization with
  | none => exact iff_of_false nofun nofun
  | some value =>
    rw [present, Option.bind_some]
    cases basicParameter? value with
    | none => exact iff_of_false nofun nofun
    | some parameter =>
      simp only [Option.some.injEq, exists_eq_left', readParameter_eq_unreadable_iff]

/-! ### What clients write -/

/-- The header with which a client presents a name and a password. -/
def basicHeader (username password : String) : String :=
  "Basic " ++ String.ofList (Base64.encode (username ++ ":" ++ password).toUTF8.toList)

/-- Whether all characters of a name and a password are ASCII. -/
def arePlain (username password : String) : Bool :=
  isAscii (username ++ ":" ++ password).toList

theorem basicParameter?_basicHeader (username password : String) :
    basicParameter? (basicHeader username password) =
      some (Base64.encode (username ++ ":" ++ password).toUTF8.toList) := by
  have chars : (basicHeader username password).toList = "Basic".toList ++
      ' ' :: Base64.encode (username ++ ":" ++ password).toUTF8.toList := by
    simp [basicHeader]
  have cut : cutAt ' ' (basicHeader username password).toList =
      ("Basic".toList, some (Base64.encode (username ++ ":" ++ password).toUTF8.toList)) :=
    cutAt_eq_some_iff.2 ⟨chars, by decide⟩
  have scheme : "Basic".toList.map Char.toLower = "basic".toList := by decide
  simp only [basicParameter?, parts, cut, Option.getD_some, Base64.trim_encode, scheme, if_true]

theorem isAscii_encode (bytes : List UInt8) : isAscii (Base64.encode bytes) = true := by
  rw [isAscii, List.all_eq_true]
  intro c hc
  exact (Bool.and_eq_true_iff.1 (Base64.isVisible_of_mem_encode hc)).1

/-- A name without a colon ends at the first one. -/
theorem cutAt_username (clean : ':' ∉ username.toList) :
    cutAt ':' (username ++ ":" ++ password).toList = (username.toList, some password.toList) := by
  refine cutAt_eq_some_iff.2 ⟨?_, clean⟩
  simp

/-- **What a client presents is read as what it is**, if it is ASCII, and not at all otherwise. The
password may have colons, the name must not. -/
theorem present_basicHeader (password : String) (clean : ':' ∉ username.toList) :
    present (some (basicHeader username password)) =
      if arePlain username password then .credentials username password else .unreadable := by
  have ascii : (username ++ ":" ++ password).toUTF8.toList.all (· < 0x80) =
      arePlain username password := all_isAsciiByte_toUTF8 _
  simp only [present, basicParameter?_basicHeader, readParameter, isAscii_encode, if_true,
    Base64.decode?_encode, ascii]
  cases plain : arePlain username password with
  | false => rfl
  | true =>
    have chars : (username ++ ":" ++ password).toUTF8.toList.map (fun b ↦ Char.ofNat b.toNat) =
        (username ++ ":" ++ password).toList := map_charOfByte_toUTF8 (ascii.trans plain)
    simp only [chars, credentialsOf, cutAt_username clean, String.ofList_toList, if_true]

end AuthRealm.Http.Authorization
