import AuthRealm.Http.Message
import AuthRealm.Proofs.Http.Authorization
import AuthRealm.Proofs.Text.Fields

/-!
# The key of every request

By which key the attempts of a client are counted, said without the readers: which parameter a
request offers (`Offers`) and which name a parameter gives (`Names`). **A request has the key of the
name that it gives, or that of its address** (`rate_key_of_every_request`), with one exception: a
parameter that is not ASCII has no key at all, although nothing in it can be read either.

A request of this kind is turned away before it is counted, as nothing that it presents is readable
(`present_of_rateKey_error`). So the exception shows only where the key is asked for by itself.
-/

namespace AuthRealm.Http

open Text

/-- A value is that of the first header of a name, letter case apart. -/
def Headers.HasFirst (headers : Headers) (name value : String) : Prop :=
  ∃ before key after, headers = before ++ (key, value) :: after ∧ lowerCase key = name ∧
    ∀ e ∈ before, lowerCase e.1 ≠ name

theorem Headers.first?_eq_some_iff {headers : Headers} {name value : String} :
    headers.first? name = some value ↔ headers.HasFirst name value := by
  rw [first?, all, List.head?_map, List.head?_filter, Option.map_eq_some_iff]
  constructor
  · rintro ⟨⟨key, value'⟩, found, rfl⟩
    obtain ⟨named, before, after, cut, others⟩ := List.find?_eq_some_iff_append.1 found
    exact ⟨before, key, after, cut, by simpa using named, by simpa using others⟩
  · rintro ⟨before, key, after, cut, named, others⟩
    refine ⟨(key, value), List.find?_eq_some_iff_append.2 ⟨?_, before, after, cut, ?_⟩, rfl⟩
    · simpa using named
    · simpa using others

namespace Authorization

/-! ### What a request offers, and what it names -/

/-- **A value offers a parameter under the Basic scheme**: what stands behind the first blank,
without blanks around it. Without a blank it is empty. -/
def OffersIn (value : String) (parameter : List Char) : Prop :=
  ∃ scheme rest, value.toList = scheme ++ rest ∧ ' ' ∉ scheme ∧
    (rest = [] ∨ rest.head? = some ' ') ∧
    scheme.map Char.toLower = "basic".toList ∧ parameter = trim (rest.drop 1)

/-- A request offers what the first of its headers for this does. -/
def Offers (headers : Headers) (parameter : List Char) : Prop :=
  ∃ value, headers.HasFirst "authorization" value ∧ OffersIn value parameter

/-- **A parameter names a user**: it spells a text in UTF-8, and the name is all of it in front of
the first colon. -/
def Names (parameter : List Char) (username : String) : Prop :=
  ∃ text rest : String, Base64.decode? parameter = some text.toUTF8.toList ∧
    text = username ++ rest ∧ ':' ∉ username.toList ∧ (rest = "" ∨ rest.toList.head? = some ':')

theorem basicParameter?_eq_some_iff {value : String} {parameter : List Char} :
    basicParameter? value = some parameter ↔ OffersIn value parameter := by
  rcases cut : cutAt ' ' value.toList with ⟨scheme, behind⟩
  have read : basicParameter? value =
      if scheme.map Char.toLower = "basic".toList then some (trim (behind.getD [])) else none := by
    simp only [basicParameter?, parts, cut]
  rw [read]
  constructor
  · -- the value is cut at its first space; without one all of it is the scheme and nothing is
    -- offered
    intro h
    split at h
    · rename_i basic
      obtain rfl := Option.some.inj h
      cases behind with
      | none =>
        obtain ⟨same, absent⟩ := cutAt_eq_none_iff.1 cut
        exact ⟨scheme, [], by rw [same, List.append_nil], absent, .inl rfl, basic, rfl⟩
      | some rest =>
        obtain ⟨same, absent⟩ := cutAt_eq_some_iff.1 cut
        exact ⟨scheme, ' ' :: rest, same, absent, .inr rfl, basic, rfl⟩
    · cases h
  · -- conversely, a scheme has no space in it, so the cut is where it ends
    rintro ⟨scheme', rest, same, absent, rfl | separated, basic, rfl⟩
    · rw [List.append_nil] at same
      obtain ⟨rfl, rfl⟩ := Prod.mk.inj (cut.symm.trans (cutAt_eq_none_iff.2 ⟨same, absent⟩))
      exact if_pos basic
    · obtain ⟨rest, rfl⟩ := List.head?_eq_some_iff.1 separated
      obtain ⟨rfl, rfl⟩ := Prod.mk.inj (cut.symm.trans (cutAt_eq_some_iff.2 ⟨same, absent⟩))
      exact if_pos basic

theorem usernameOf?_eq_some_iff {parameter : List Char} {username : String} :
    usernameOf? parameter = some username ↔ Names parameter username := by
  simp only [usernameOf?, Option.bind_eq_bind, Option.bind_eq_some_iff, Option.pure_def,
    Option.some.injEq]
  constructor
  · rintro ⟨bytes, decoded, text, read, rfl⟩
    obtain rfl := fromUTF8?_eq_some_iff.1 read
    -- the name ends at the first colon of the decoded text, or with the text
    obtain ⟨absent, rest, cut, ends⟩ := fst_cutAt_eq_iff.1 (rfl : (cutAt ':' text.toList).1 = _)
    refine ⟨text, String.ofList rest, decoded, ?_, ?_, ?_⟩
    · rw [← String.toList_inj, String.toList_append, String.toList_ofList, String.toList_ofList]
      exact cut
    · rwa [String.toList_ofList]
    · rwa [String.toList_ofList, ← String.toList_inj, String.toList_ofList]
  · rintro ⟨text, rest, decoded, rfl, absent, ends⟩
    refine ⟨_, decoded, _, fromUTF8?_eq_some_iff.2 rfl, ?_⟩
    have cut : (cutAt ':' (username ++ rest).toList).1 = username.toList := by
      refine fst_cutAt_eq_iff.2 ⟨absent, rest.toList, String.toList_append, ?_⟩
      exact ends.imp_left String.toList_eq_nil_iff.2
    rw [cut, String.ofList_toList]

/-! ### The key -/

section

variable (client : Option String) {headers : Headers} {parameter : List Char} {username : String}

/-- What the header of a request offers is what the request offers. -/
theorem bind_basicParameter?_eq_some_iff :
    (headers.first? "authorization").bind basicParameter? = some parameter ↔
      Offers headers parameter := by
  rw [Option.bind_eq_some_iff]
  exact exists_congr fun value ↦ and_congr Headers.first?_eq_some_iff basicParameter?_eq_some_iff

theorem Offers.unique {parameter' : List Char} (h : Offers headers parameter)
    (h' : Offers headers parameter') : parameter = parameter' :=
  Option.some.inj ((bind_basicParameter?_eq_some_iff.2 h).symm.trans
    (bind_basicParameter?_eq_some_iff.2 h'))

theorem rateKey_of_no_offer (nothing : ∀ parameter, ¬ Offers headers parameter) :
    rateKey client (headers.first? "authorization") = .ok (addressOf client) := by
  have none : (headers.first? "authorization").bind basicParameter? = none :=
    Option.eq_none_iff_forall_ne_some.2 fun parameter offered ↦
      nothing parameter (bind_basicParameter?_eq_some_iff.1 offered)
  rw [rateKey, none]

theorem rateKey_of_empty (offers : Offers headers []) :
    rateKey client (headers.first? "authorization") = .ok (addressOf client) := by
  rw [rateKey, bind_basicParameter?_eq_some_iff.2 offers]

/-- A parameter that is not empty is looked at. -/
theorem rateKey_of_offers (offers : Offers headers parameter) (nonempty : parameter ≠ []) :
    rateKey client (headers.first? "authorization") =
      if isAscii parameter then
        match usernameOf? parameter with
        | some username => .ok (addressOf client ++ ":" ++ username)
        | none => .ok (addressOf client)
      else .error .notAscii := by
  rw [rateKey, bind_basicParameter?_eq_some_iff.2 offers]
  cases parameter with
  | nil => exact absurd rfl nonempty
  | cons c r => rfl

/-- **Everything that the key of a request can be.** -/
inductive HasKey (client : Option String) (headers : Headers) : Except KeyError String → Prop where
  | nothing (nothing : ∀ parameter, ¬ Offers headers parameter) :
      HasKey client headers (.ok (addressOf client))
  | empty (offers : Offers headers []) : HasKey client headers (.ok (addressOf client))
  | named {parameter : List Char} {username : String} (offers : Offers headers parameter)
      (nonempty : parameter ≠ []) (ascii : isAscii parameter = true)
      (names : Names parameter username) :
      HasKey client headers (.ok (addressOf client ++ ":" ++ username))
  | nobody {parameter : List Char} (offers : Offers headers parameter)
      (nonempty : parameter ≠ []) (ascii : isAscii parameter = true)
      (nobody : ∀ username, ¬ Names parameter username) :
      HasKey client headers (.ok (addressOf client))
  | notAscii {parameter : List Char} (offers : Offers headers parameter)
      (other : isAscii parameter = false) : HasKey client headers (.error .notAscii)

theorem HasKey.eq {key : Except KeyError String} (h : HasKey client headers key) :
    rateKey client (headers.first? "authorization") = key := by
  cases h with
  | nothing nothing => exact rateKey_of_no_offer client nothing
  | empty offers => exact rateKey_of_empty client offers
  | named offers nonempty ascii names =>
    rw [rateKey_of_offers client offers nonempty, if_pos ascii, usernameOf?_eq_some_iff.2 names]
  | nobody offers nonempty ascii nobody =>
    have none := Option.eq_none_iff_forall_ne_some.2 fun username named ↦
      nobody username (usernameOf?_eq_some_iff.1 named)
    rw [rateKey_of_offers client offers nonempty, if_pos ascii, none]
  | @notAscii parameter offers other =>
    have nonempty : parameter ≠ [] := by
      rintro rfl
      exact absurd other (by decide)
    rw [rateKey_of_offers client offers nonempty, other, if_neg Bool.false_ne_true]

theorem hasKey_rateKey (headers : Headers) :
    HasKey client headers (rateKey client (headers.first? "authorization")) := by
  have hasKey {key : Except KeyError String} (h : HasKey client headers key) :
      HasKey client headers (rateKey client (headers.first? "authorization")) :=
    (h.eq client).symm ▸ h
  -- the five ends in the order in which the limiter comes to them
  by_cases offered : ∃ parameter, Offers headers parameter
  · obtain ⟨parameter, offers⟩ := offered
    by_cases nonempty : parameter = []
    · exact hasKey (.empty (nonempty ▸ offers))
    · cases ascii : isAscii parameter with
      | false => exact hasKey (.notAscii offers ascii)
      | true =>
        by_cases named : ∃ username, Names parameter username
        · obtain ⟨username, names⟩ := named
          exact hasKey (.named offers nonempty ascii names)
        · exact hasKey (.nobody offers nonempty ascii (not_exists.1 named))
  · exact hasKey (.nothing (not_exists.1 offered))

/-- **A request has the key of the name that it gives, or else that of its address**, unless what it
offers is not ASCII: then it has no key. -/
theorem rate_key_of_every_request (headers : Headers) :
    let outcome := rateKey client (headers.first? "authorization")
    (∀ key, outcome = .ok key ↔
      (∃ parameter username, Offers headers parameter ∧ parameter ≠ [] ∧
        isAscii parameter = true ∧ Names parameter username ∧
        key = addressOf client ++ ":" ++ username) ∨
      (key = addressOf client ∧ ∀ parameter, Offers headers parameter → parameter = [] ∨
        (isAscii parameter = true ∧ ∀ username, ¬ Names parameter username))) ∧
      ∀ e, outcome = .error e ↔ ∃ parameter, Offers headers parameter ∧
        isAscii parameter = false := by
  intro outcome
  have ends : HasKey client headers outcome := hasKey_rateKey client headers
  refine ⟨fun key ↦ ⟨fun same ↦ ?_, ?_⟩, fun e ↦ ⟨fun same ↦ ?_, ?_⟩⟩
  · rw [same] at ends
    cases ends with
    | nothing nothing => exact .inr ⟨rfl, fun parameter offers ↦ absurd offers (nothing parameter)⟩
    | empty offers => exact .inr ⟨rfl, fun parameter offers' ↦ .inl (offers'.unique offers)⟩
    | named offers nonempty ascii names => exact .inl ⟨_, _, offers, nonempty, ascii, names, rfl⟩
    | nobody offers nonempty ascii nobody =>
      exact .inr ⟨rfl, fun parameter offers' ↦ .inr (offers.unique offers' ▸ ⟨ascii, nobody⟩)⟩
  · rintro (⟨parameter, username, offers, nonempty, ascii, names, rfl⟩ | ⟨rfl, others⟩)
    · exact (HasKey.named offers nonempty ascii names).eq
    · -- there is no name to be found, for one of three reasons
      by_cases offered : ∃ parameter, Offers headers parameter
      · obtain ⟨parameter, offers⟩ := offered
        by_cases nonempty : parameter = []
        · exact (HasKey.empty (nonempty ▸ offers)).eq
        · obtain ⟨ascii, nobody⟩ := (others parameter offers).resolve_left nonempty
          exact (HasKey.nobody offers nonempty ascii nobody).eq
      · exact (HasKey.nothing (not_exists.1 offered)).eq
  · rw [same] at ends
    cases ends with
    | notAscii offers other => exact ⟨_, offers, other⟩
  · rintro ⟨parameter, offers, other⟩
    cases e with
    | notAscii => exact (HasKey.notAscii offers other).eq

/-- Letters that are not ASCII spell nothing, and no key. -/
example :
    rateKey (some "10.0.0.1") (Headers.first? [("Authorization", "Basic é")] "authorization") =
    .error .notAscii := by
  rfl

/-- **Who has no key presents nothing readable**, so no attempt of theirs is ever counted. -/
theorem present_of_rateKey_error {e : KeyError}
    (h : rateKey client (headers.first? "authorization") = .error e) :
    present (headers.first? "authorization") = .unreadable := by
  have ends := hasKey_rateKey client headers
  rw [h] at ends
  cases ends with
  | notAscii offers other =>
    refine present_eq_unreadable_iff.2 ⟨_, bind_basicParameter?_eq_some_iff.2 offers, ?_⟩
    rintro ⟨text, ⟨ascii, -⟩, -⟩
    cases ascii.symm.trans other

end

end Authorization

end AuthRealm.Http
