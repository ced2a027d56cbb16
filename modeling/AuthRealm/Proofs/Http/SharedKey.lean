import AuthRealm.Text.Hexadecimal
import AuthRealm.Proofs.Http.RateKey
import AuthRealm.Proofs.Text.Numeral

/-!
# Requests that share a key

Which requests from two addresses are counted together. The key of a request is its address, with a
colon and the name behind it if the request carries one. No name has a colon in it, so two keys that
end in a name, or two that do not, tell the address and the name. But an address can have colons
too, and nothing in a key says whether its last piece is a name. **So there is one way more for two
requests to share a key: the address of the one is that of the other with the name behind it that
the other carries** (`keys_of_two_addresses`), as `1::2:3` is of `1::2` and the name `3`.

Which addresses can be prolonged like this is a matter of their grammar (`IsAddress`). No IPv6
address begins with an IPv4 address and a colon, and one with all of its eight groups has no room
for a ninth. What remains are abbreviated addresses and those with a zone (`room_of_prolonged`).
-/

namespace AuthRealm.Http

open Text

namespace Address

/-! ### The grammar of addresses -/

/-- One to four hexadecimal digits. -/
def IsGroup (s : List Char) : Prop :=
  s ≠ [] ∧ s.length ≤ 4 ∧ ∀ c ∈ s, (hexValue? c).isSome

/-- An IPv4 address: four bytes in decimal, with points between them. -/
def IsQuad (s : List Char) : Prop :=
  ∃ a b c d : UInt8,
    s = ['.'].intercalate ([a, b, c, d].map fun byte ↦ Nat.toDigits 10 byte.toNat)

/-- Pieces that stand for `n` groups: so many groups, or an IPv4 address for the last two. -/
inductive Pieces : Nat → List (List Char) → Prop where
  | groups {gs : List (List Char)} (groups : ∀ g ∈ gs, IsGroup g) : Pieces gs.length gs
  | quad {gs : List (List Char)} {q : List Char} (groups : ∀ g ∈ gs, IsGroup g)
      (quad : IsQuad q) : Pieces (gs.length + 2) (gs ++ [q])

/-- An IPv6 address with all of its eight groups. -/
def IsFull (s : List Char) : Prop :=
  ∃ pieces, Pieces 8 pieces ∧ s = [':'].intercalate pieces

/-- An IPv6 address with two colons in place of some groups. -/
def IsAbbreviated (s : List Char) : Prop :=
  ∃ front n back, (∀ g ∈ front, IsGroup g) ∧ Pieces n back ∧ front.length + n < 8 ∧
    s = [':'].intercalate front ++ ':' :: ':' :: [':'].intercalate back

/-- An IPv6 address with a zone behind it, which is any text without a percent sign. -/
def IsZoned (s : List Char) : Prop :=
  ∃ address zone, (IsFull address ∨ IsAbbreviated address) ∧ zone ≠ [] ∧ '%' ∉ zone ∧
    s = address ++ '%' :: zone

/-- An IPv4 or IPv6 address. -/
def IsAddress (s : List Char) : Prop :=
  IsQuad s ∨ IsFull s ∨ IsAbbreviated s ∨ IsZoned s

/-! ### Which characters stand where -/

theorem isGroup_singleton {c : Char} (digit : (hexValue? c).isSome = true) : IsGroup [c] :=
  ⟨List.cons_ne_nil c [], Nat.le_add_left 1 3, List.forall_mem_singleton.2 digit⟩

theorem IsGroup.notMem {s : List Char} (h : IsGroup s) {c : Char} (other : hexValue? c = none) :
    c ∉ s :=
  fun mem ↦ absurd (h.2.2 c mem) (by rw [other]; exact Bool.false_ne_true)

theorem IsQuad.of_mem {s : List Char} (h : IsQuad s) {c : Char} (mem : c ∈ s) :
    c = '.' ∨ c.isDigit = true := by
  obtain ⟨a, b, c', d, rfl⟩ := h
  rcases of_mem_intercalate mem with point | ⟨digits, among, within⟩
  · exact .inl (List.mem_singleton.1 point)
  · obtain ⟨byte, -, rfl⟩ := List.mem_map.1 among
    exact .inr (isDigit_of_mem_toDigits within)

theorem IsQuad.notMem {s : List Char} (h : IsQuad s) {c : Char} (other : c ≠ '.')
    (noDigit : c.isDigit = false) : c ∉ s := by
  intro mem
  rcases h.of_mem mem with point | digit
  · exact other point
  · cases digit.symm.trans noDigit

theorem IsQuad.ne_nil {s : List Char} (h : IsQuad s) : s ≠ [] := by
  obtain ⟨a, b, c, d, rfl⟩ := h
  rw [List.map_cons, List.map_cons, List.intercalate_cons_cons]
  simp only [ne_eq, List.append_eq_nil_iff, List.cons_ne_nil, and_false, false_and,
    not_false_eq_true]

/-- There are points in an IPv4 address, so it is no group. -/
theorem IsQuad.not_isGroup {s : List Char} (h : IsQuad s) : ¬ IsGroup s := by
  obtain ⟨a, b, c, d, rfl⟩ := h
  refine fun group ↦ group.notMem (c := '.') rfl ?_
  rw [List.map_cons, List.map_cons, List.intercalate_cons_cons]
  exact List.mem_append_left _ (List.mem_append_right _ (List.mem_singleton.2 rfl))

namespace Pieces

variable {n : Nat} {pieces : List (List Char)}

theorem isGroup_or_isQuad (h : Pieces n pieces) {p : List Char} (mem : p ∈ pieces) :
    IsGroup p ∨ IsQuad p := by
  cases h with
  | groups groups => exact .inl (groups p mem)
  | quad groups quad =>
    rcases List.mem_append.1 mem with mem | mem
    · exact .inl (groups p mem)
    · exact .inr (List.mem_singleton.1 mem ▸ quad)

theorem notMem (h : Pieces n pieces) {p : List Char} (mem : p ∈ pieces) {c : Char}
    (other : c ≠ '.') (noDigit : c.isDigit = false) (noHex : hexValue? c = none) : c ∉ p := by
  rcases h.isGroup_or_isQuad mem with group | quad
  · exact group.notMem noHex
  · exact quad.notMem other noDigit

theorem ne_nil (h : Pieces n pieces) : [] ∉ pieces := by
  intro mem
  rcases h.isGroup_or_isQuad mem with group | quad
  · exact group.1 rfl
  · exact quad.ne_nil rfl

/-- All pieces but the last one are groups. -/
theorem init {p : List Char} (h : Pieces n (pieces ++ [p])) :
    (∀ g ∈ pieces, IsGroup g) ∧ pieces.length < n := by
  generalize all : pieces ++ [p] = ps at h
  cases h with
  | groups groups =>
    subst all
    refine ⟨fun g mem ↦ groups g (List.mem_append_left _ mem), ?_⟩
    rw [List.length_append, List.length_singleton]
    exact Nat.lt_succ_self _
  | quad groups quad =>
    obtain ⟨rfl, -⟩ := List.append_inj' all rfl
    exact ⟨groups, by omega⟩

theorem length_of_groups (h : Pieces n pieces) (groups : ∀ g ∈ pieces, IsGroup g) :
    pieces.length = n := by
  cases h with
  | groups => rfl
  | quad _ quad =>
    exact absurd (groups _ (List.mem_append_right _ List.mem_cons_self)) quad.not_isGroup

theorem le_length (h : Pieces n pieces) : n ≤ pieces.length + 1 := by
  cases h with
  | groups => exact Nat.le_succ _
  | quad => exact Nat.le_of_eq (by rw [List.length_append, List.length_singleton])

end Pieces

/-! ### What can be prolonged -/

theorem IsFull.fields {s : List Char} (h : IsFull s) : Pieces 8 (fields ':' s) := by
  obtain ⟨pieces, eight, rfl⟩ := h
  have nonempty : pieces ≠ [] := by
    rintro rfl
    exact absurd eight.le_length (by decide)
  rwa [fields_intercalate nonempty fun p mem ↦ eight.notMem mem (by decide) rfl rfl]

/-- Between the two colons of an abbreviation is an empty field, and not as the last one. -/
theorem IsAbbreviated.fields {s : List Char} (h : IsAbbreviated s) :
    [] ∈ (fields ':' s).dropLast := by
  obtain ⟨front, n, back, -, -, -, rfl⟩ := h
  rw [fields_append_cons, Text.fields, if_pos rfl,
    List.dropLast_append_of_ne_nil (List.cons_ne_nil _ _),
    List.dropLast_cons_of_ne_nil (fields_ne_nil _ _)]
  exact List.mem_append_right _ List.mem_cons_self

/-- No IPv6 address has less than two colons. -/
theorem IsAddress.two_le_count {s : List Char} (h : IsAddress s) (noQuad : ¬ IsQuad s) :
    2 ≤ s.count ':' := by
  -- eight groups have seven colons between them, and an abbreviation is two colons
  have unzoned {s : List Char} (h : IsFull s ∨ IsAbbreviated s) : 2 ≤ s.count ':' := by
    rcases h with full | ⟨front, n, back, -, -, -, rfl⟩
    · have eight := full.fields.le_length
      rw [length_fields] at eight
      omega
    · rw [List.count_append, List.count_cons_self, List.count_cons_self]
      omega
  rcases h with quad | full | abbreviated | ⟨address, zone, within, -, -, rfl⟩
  · exact absurd quad noQuad
  · exact unzoned (.inl full)
  · exact unzoned (.inr abbreviated)
  · rw [List.count_append]
    exact Nat.le_add_right_of_le (unzoned within)

theorem IsAddress.ne_nil {s : List Char} (h : IsAddress s) : s ≠ [] := by
  by_cases quad : IsQuad s
  · exact quad.ne_nil
  · rintro rfl
    exact absurd (h.two_le_count quad) (by decide)

theorem percent_notMem {s : List Char} (h : IsFull s ∨ IsAbbreviated s) : '%' ∉ s := by
  have absent {n : Nat} {pieces : List (List Char)} (h : Pieces n pieces) :
      '%' ∉ [':'].intercalate pieces := by
    intro mem
    rcases of_mem_intercalate mem with sep | ⟨p, among, within⟩
    · exact absurd sep (by decide)
    · exact h.notMem among (by decide) rfl rfl within
  rcases h with ⟨pieces, eight, rfl⟩ | ⟨front, n, back, groups, behind, -, rfl⟩
  · exact absent eight
  · simp only [List.mem_append, List.mem_cons, not_or]
    exact ⟨absent (.groups groups), by decide, by decide, absent behind⟩

/-- **An address with all of its groups has no room for a piece more.** -/
theorem IsFull.not_prolonged {s name : List Char} (h : IsFull s) (absent : ':' ∉ name) :
    ¬ (IsFull (s ++ ':' :: name) ∨ IsAbbreviated (s ++ ':' :: name)) := by
  have cut : Text.fields ':' (s ++ ':' :: name) = Text.fields ':' s ++ [name] := by
    rw [fields_append_cons, fields_of_not_mem absent]
  rintro (full | abbreviated)
  · have longer := full.fields
    rw [cut] at longer
    obtain ⟨groups, less⟩ := longer.init
    exact absurd (h.fields.length_of_groups groups) (Nat.ne_of_lt less)
  · have empty := abbreviated.fields
    rw [cut, List.dropLast_concat] at empty
    exact h.fields.ne_nil empty

/-- A zone that begins behind an address without one begins behind a shorter name, too. -/
theorem IsZoned.of_prolonged {s name : List Char} (h : IsZoned (s ++ ':' :: name))
    (absent : '%' ∉ s) : ∃ shorter zone, name = shorter ++ '%' :: zone ∧
      (IsFull (s ++ ':' :: shorter) ∨ IsAbbreviated (s ++ ':' :: shorter)) := by
  obtain ⟨address, zone, within, -, -, same⟩ := h
  -- the percent sign of the zone stands behind the prolongation, as it cannot stand in `s`
  rcases List.append_eq_append_iff.1 same with ⟨between, rfl, rest⟩ | ⟨between, rfl, rest⟩
  · cases between with
    | nil => exact absurd (List.cons.inj rest).1 (by decide)
    | cons c shorter =>
      obtain ⟨rfl, rfl⟩ := List.cons.inj rest
      exact ⟨shorter, zone, rfl, within⟩
  · cases between with
    | nil => exact absurd (List.cons.inj rest).1 (by decide)
    | cons c between =>
      obtain ⟨rfl, -⟩ := List.cons.inj rest
      exact absurd (List.mem_append_right _ List.mem_cons_self) absent

/-- **Which addresses a name can prolong.** -/
theorem room_of_prolonged {s name : List Char} (address : IsAddress s) (absent : ':' ∉ name)
    (prolonged : IsAddress (s ++ ':' :: name)) : IsAbbreviated s ∨ IsZoned s := by
  have noQuad : ¬ IsQuad (s ++ ':' :: name) := fun quad ↦
    quad.notMem (by decide) rfl (List.mem_append_right _ List.mem_cons_self)
  rcases address with quad | full | room
  · -- What has an IPv4 address in front has one colon, which is too few.
    have one : (s ++ ':' :: name).count ':' = 1 := by
      rw [List.count_append, List.count_cons_self, List.count_eq_zero.2 absent,
        List.count_eq_zero.2 (quad.notMem (by decide) rfl)]
    exact absurd (prolonged.two_le_count noQuad) (by rw [one]; decide)
  · -- eight groups leave no room for another one
    rcases prolonged.resolve_left noQuad with full' | abbreviated | zoned
    · exact absurd (.inl full') (full.not_prolonged absent)
    · exact absurd (.inr abbreviated) (full.not_prolonged absent)
    · obtain ⟨shorter, zone, rfl, within⟩ := zoned.of_prolonged (percent_notMem (.inl full))
      exact absurd within (full.not_prolonged fun mem ↦ absent (List.mem_append_left _ mem))
  · exact room

end Address

namespace Authorization

open Address

/-! ### Sharing a key -/

/-- **A request carries a name**: its parameter is not empty, can be read, and names a user. -/
def Carries (headers : Headers) (username : String) : Prop :=
  ∃ parameter, Offers headers parameter ∧ parameter ≠ [] ∧ isAscii parameter = true ∧
    Names parameter username

/-- **A request prolongs its address to that of another one**: it carries a name and the other one
none, and the address of the other is its own with the name behind a colon. There has to be room. -/
structure Prolongs (host : String) (headers : Headers) (host' : String) (headers' : Headers) :
    Prop where
  name : ∃ username, Carries headers username ∧ host' = host ++ ":" ++ username
  nameless : ∀ username, ¬ Carries headers' username
  room : IsAbbreviated host.toList ∨ IsZoned host.toList

theorem Names.colon_notMem {parameter : List Char} {username : String}
    (h : Names parameter username) : ':' ∉ username.toList := by
  obtain ⟨_, _, -, -, absent, -⟩ := h
  exact absent

theorem Names.unique {parameter : List Char} {username username' : String}
    (h : Names parameter username) (h' : Names parameter username') : username = username' :=
  Option.some.inj ((usernameOf?_eq_some_iff.2 h).symm.trans (usernameOf?_eq_some_iff.2 h'))

section

variable {headers : Headers} {username : String}

theorem Carries.colon_notMem (h : Carries headers username) : ':' ∉ username.toList := by
  obtain ⟨_, -, -, -, names⟩ := h
  exact names.colon_notMem

theorem Carries.unique {username' : String} (h : Carries headers username)
    (h' : Carries headers username') : username = username' := by
  obtain ⟨parameter, offers, -, -, names⟩ := h
  obtain ⟨parameter', offers', -, -, names'⟩ := h'
  exact names.unique (offers'.unique offers ▸ names')

/-- A key is an address and a name, or an address alone. -/
theorem key_cases {host key : String} (address : IsAddress host.toList)
    (counted : rateKey (some host) (headers.first? "authorization") = .ok key) :
    (∃ username, Carries headers username ∧ key = host ++ ":" ++ username) ∨
      ((∀ username, ¬ Carries headers username) ∧ key = host) := by
  have known : addressOf (some host) = host :=
    if_neg fun empty ↦ address.ne_nil (String.toList_eq_nil_iff.2 empty)
  have ends := hasKey_rateKey (some host) headers
  rw [counted] at ends
  -- of the ends of the key, one names somebody; one fails and is excluded by `counted`
  cases ends with
  | nothing nothing =>
    exact .inr ⟨fun _ ⟨parameter, offers, _⟩ ↦ nothing parameter offers, known⟩
  | empty offers =>
    exact .inr ⟨fun _ ⟨_, offers', nonempty, _⟩ ↦ nonempty (offers'.unique offers), known⟩
  | named offers nonempty ascii names =>
    exact .inl ⟨_, ⟨_, offers, nonempty, ascii, names⟩, by rw [known]⟩
  | nobody offers nonempty ascii nobody =>
    exact .inr ⟨fun username ⟨_, offers', _, _, names⟩ ↦
      nobody username (offers.unique offers' ▸ names), known⟩

theorem Carries.key_eq {host key : String} (h : Carries headers username)
    (address : IsAddress host.toList)
    (counted : rateKey (some host) (headers.first? "authorization") = .ok key) :
    key = host ++ ":" ++ username := by
  rcases key_cases address counted with ⟨_, carries, same⟩ | ⟨nameless, -⟩
  · exact carries.unique h ▸ same
  · exact absurd h (nameless username)

theorem key_eq_of_nameless {host key : String} (nameless : ∀ username, ¬ Carries headers username)
    (address : IsAddress host.toList)
    (counted : rateKey (some host) (headers.first? "authorization") = .ok key) : key = host := by
  rcases key_cases address counted with ⟨username, carries, -⟩ | ⟨-, same⟩
  · exact absurd carries (nameless username)
  · exact same

end

section

variable {host host' key key' : String} {headers headers' : Headers}

/-- Keys that end in names tell the address and the name. -/
theorem Carries.eq_of_key_eq {username username' : String} (carries : Carries headers username)
    (carries' : Carries headers' username')
    (same : host ++ ":" ++ username = host' ++ ":" ++ username') :
    host = host' ∧ username = username' := by
  have chars := congrArg String.toList same
  simp only [String.toList_append, List.append_assoc] at chars
  obtain ⟨hosts, names⟩ := append_cons_inj carries.colon_notMem carries'.colon_notMem chars
  exact ⟨String.toList_inj.1 hosts, String.toList_inj.1 names⟩

/-- The key that a name gives one address is another address only if there is room. -/
theorem prolongs_of_key_eq {username : String} (address : IsAddress host.toList)
    (address' : IsAddress host'.toList) (carries : Carries headers username)
    (nameless : ∀ username, ¬ Carries headers' username)
    (same : host' = host ++ ":" ++ username) : Prolongs host headers host' headers' := by
  refine ⟨⟨username, carries, same⟩, nameless, ?_⟩
  rw [same, String.toList_append, String.toList_append, List.append_assoc] at address'
  exact room_of_prolonged address carries.colon_notMem address'

/-- **Two requests from addresses share a key if address and name are the same**, or if the one
prolongs its address to that of the other. -/
theorem keys_of_two_addresses (address : IsAddress host.toList)
    (address' : IsAddress host'.toList)
    (counted : rateKey (some host) (headers.first? "authorization") = .ok key)
    (counted' : rateKey (some host') (headers'.first? "authorization") = .ok key') :
    key = key' ↔
      (host = host' ∧ ∀ username, Carries headers username ↔ Carries headers' username) ∨
        Prolongs host headers host' headers' ∨ Prolongs host' headers' host headers := by
  constructor
  · intro same
    -- two names, one name or none: a name belongs to the key only where it is presented
    rcases key_cases address counted with ⟨username, carries, rfl⟩ | ⟨nameless, rfl⟩
    · rcases key_cases address' counted' with ⟨username', carries', rfl⟩ | ⟨nameless', rfl⟩
      · obtain ⟨hosts, rfl⟩ := carries.eq_of_key_eq carries' same
        refine .inl ⟨hosts, fun other ↦ ⟨fun h ↦ ?_, fun h ↦ ?_⟩⟩
        · exact carries.unique h ▸ carries'
        · exact carries'.unique h ▸ carries
      · exact .inr (.inl (prolongs_of_key_eq address address' carries nameless' same.symm))
    · rcases key_cases address' counted' with ⟨username', carries', rfl⟩ | ⟨nameless', rfl⟩
      · exact .inr (.inr (prolongs_of_key_eq address' address carries' nameless same))
      · exact .inl ⟨same, fun username ↦ iff_of_false (nameless username) (nameless' username)⟩
  · rintro (⟨rfl, alike⟩ | ⟨⟨username, carries, rfl⟩, nameless', -⟩ |
      ⟨⟨username, carries', rfl⟩, nameless, -⟩)
    · by_cases named : ∃ username, Carries headers username
      · obtain ⟨username, carries⟩ := named
        rw [carries.key_eq address counted, ((alike username).1 carries).key_eq address' counted']
      · have nameless := not_exists.1 named
        rw [key_eq_of_nameless nameless address counted,
          key_eq_of_nameless (fun username h ↦ nameless username ((alike username).2 h)) address'
            counted']
    · rw [carries.key_eq address counted, key_eq_of_nameless nameless' address' counted']
    · rw [carries'.key_eq address' counted', key_eq_of_nameless nameless address counted]

/-- The name `3` behind `1::2` is counted with all that comes from `1::2:3` without a name. -/
theorem keys_of_two_addresses_that_meet :
    let headers : Headers := [("Authorization", "Basic Mzp4")]
    IsAddress "1::2".toList ∧ IsAddress "1::2:3".toList ∧
      rateKey (some "1::2") (headers.first? "authorization") = .ok "1::2:3" ∧
      rateKey (some "1::2:3") (Headers.first? [] "authorization") = .ok "1::2:3" ∧
      Prolongs "1::2" headers "1::2:3" [] := by
  intro headers
  have front : ∀ g ∈ [['1']], IsGroup g := List.forall_mem_singleton.2 (isGroup_singleton rfl)
  have back : ∀ g ∈ [['2']], IsGroup g := List.forall_mem_singleton.2 (isGroup_singleton rfl)
  have longer : ∀ g ∈ [['2'], ['3']], IsGroup g :=
    List.forall_mem_cons.2 ⟨isGroup_singleton rfl,
      List.forall_mem_singleton.2 (isGroup_singleton rfl)⟩
  have one : IsAddress "1::2".toList :=
    .inr (.inr (.inl ⟨_, _, _, front, .groups back, by decide, rfl⟩))
  have other : IsAddress "1::2:3".toList :=
    .inr (.inr (.inl ⟨_, _, _, front, .groups longer, by decide, rfl⟩))
  have counted : rateKey (some "1::2") (headers.first? "authorization") = .ok "1::2:3" := by rfl
  have counted' : rateKey (some "1::2:3") (Headers.first? [] "authorization") = .ok "1::2:3" := by
    rfl
  refine ⟨one, other, counted, counted', ?_⟩
  -- the keys are equal and the hosts are not, so one key prolongs the other; which one is a matter
  -- of length
  rcases (keys_of_two_addresses one other counted counted').1 rfl with same | meets | meets
  · exact absurd same.1 (by decide)
  · exact meets
  · obtain ⟨username, -, shorter⟩ := meets.name
    have lengths := congrArg String.length shorter
    rw [String.length_append, String.length_append] at lengths
    change 4 = 6 + 1 + username.length at lengths
    omega

end

end Authorization

end AuthRealm.Http
