import AuthRealm.Http.LoginForm
import AuthRealm.Proofs.Text.Json

/-!
# Names and passwords as JSON

A request carries a name and a password as JSON if it says that its body is JSON, and the body
spells an object that has the two as texts, in whatever spelling and among whatever other members,
nested no deeper than its reader has room for. Such a request is read as a login form within the
bounds on the lengths, and no other request is (`ofRequest_eq_ok_iff`); what its reader gives up is
told apart from what is complained of (`ofRequest_eq_unparsable_iff`); and **every name and password
is carried by the body that writes them out** (`carries_of_written`), whatever room there is.
-/

namespace AuthRealm.Http.LoginForm

open Text

variable {room : Nat} {r : Request} {username password : String}

/-- A request carries a name and a password as JSON. -/
structure Carries (room : Nat) (r : Request) (username password : String) : Prop where
  typed : isJsonType ((r.headers.first? "content-type").getD "") = true
  spelt : ∃ members, Json.parse (withoutMark r.body) = .ok (.object members) ∧
    (Json.object members).member? "username" = some (.string username) ∧
    (Json.object members).member? "password" = some (.string password)
  shallow : isTooDeep room (withoutMark r.body).toList = false

/-- The lengths that a login form allows. -/
structure Fits (username password : String) : Prop where
  username : 1 ≤ username.length ∧ username.length ≤ maxUsername
  password : 1 ≤ password.length ∧ password.length ≤ maxPassword

theorem checkText_of_fits {s : String} {most : Nat} (place : List Json)
    (fits : 1 ≤ s.length ∧ s.length ≤ most) : checkText 1 most place (.string s) = .ok s := by
  have least : ¬ s.length < 1 := by omega
  have greatest : ¬ most < s.length := by omega
  rw [checkText, if_neg least, if_neg greatest]

/-- **What is carried within the bounds is read as a form.** -/
theorem ofRequest_of_carries (carries : Carries room r username password)
    (fits : Fits username password) : ofRequest room r = .ok ⟨username, password⟩ := by
  obtain ⟨members, parsed, named, secret⟩ := carries.spelt
  -- an empty body spells no value
  have given : r.body ≠ "" := by
    intro empty
    have refused : Json.parse (withoutMark "") = .error ⟨.value, 0⟩ := by rfl
    rw [empty, refused] at parsed
    exact absurd parsed nofun
  have checkedName : checkMember (.object members) "username" maxUsername = .ok username := by
    rw [checkMember, named]
    exact checkText_of_fits _ fits.username
  have checkedPassword : checkMember (.object members) "password" maxPassword = .ok password := by
    rw [checkMember, secret]
    exact checkText_of_fits _ fits.password
  have read : readBody room (withoutMark r.body) = .ok (.object members) := by
    rw [readBody, parsed]
    exact if_neg (carries.shallow ▸ Bool.false_ne_true)
  have formed : ofJson (.object members) = .ok ⟨username, password⟩ := by
    simp only [ofJson, checkedName, checkedPassword]
  simp only [ofRequest, given, if_false, carries.typed, if_true, read, formed]
  rfl

theorem of_checkText {least most : Nat} {place : List Json} {v : Json} {s : String}
    (h : checkText least most place v = .ok s) :
    v = .string s ∧ least ≤ s.length ∧ s.length ≤ most := by
  unfold checkText at h
  split at h
  · split at h
    · exact absurd h nofun
    · split at h
      · exact absurd h nofun
      · obtain rfl := Except.ok.inj h
        exact ⟨rfl, by omega, by omega⟩
  · exact absurd h nofun
  · exact absurd h nofun

theorem of_checkMember {form : Json} {name s : String} {most : Nat}
    (h : checkMember form name most = .ok s) :
    form.member? name = some (.string s) ∧ 1 ≤ s.length ∧ s.length ≤ most := by
  unfold checkMember at h
  split at h
  · exact absurd h nofun
  · rename_i v found
    obtain ⟨rfl, bounds⟩ := of_checkText h
    exact ⟨found, bounds⟩

theorem of_ofJson {json : Json} {form : LoginForm} (h : ofJson json = .ok form) :
    ∃ members, json = .object members ∧
      checkMember json "username" maxUsername = .ok form.username ∧
      checkMember json "password" maxPassword = .ok form.password := by
  unfold ofJson at h
  split at h
  · rename_i members
    split at h
    · rename_i u p named secret
      obtain rfl := Except.ok.inj h
      exact ⟨members, rfl, named, secret⟩
    · exact absurd h nofun
    · exact absurd h nofun
    · exact absurd h nofun
  · exact absurd h nofun

/-- What is read as JSON spells it, and is not too deep. -/
theorem of_readBody {text : String} {json : Json} (h : readBody room text = .ok json) :
    Json.parse text = .ok json ∧ isTooDeep room text.toList = false := by
  unfold readBody at h
  split at h
  · split at h
    · exact absurd h nofun
    · exact absurd h nofun
  · rename_i form parsed
    split at h
    · exact absurd h nofun
    · rename_i shallow
      obtain rfl := Except.ok.inj h
      exact ⟨parsed, by simpa using shallow⟩

/-- **A form is read from what is carried within the bounds, and from nothing else.** -/
theorem ofRequest_eq_ok_iff {form : LoginForm} :
    ofRequest room r = .ok form ↔ Carries room r form.username form.password ∧
      Fits form.username form.password := by
  refine ⟨fun h ↦ ?_, fun ⟨carries, fits⟩ ↦ ofRequest_of_carries carries fits⟩
  -- the checks in their order: a body, its type, its text, its members
  unfold ofRequest at h
  split at h
  · exact absurd h nofun
  · split at h
    · rename_i typed
      split at h
      · exact absurd h nofun
      · rename_i json read
        obtain ⟨parsed, shallow⟩ := of_readBody read
        have formed : ofJson json = .ok form := by
          cases checked : ofJson json with
          | error complaints =>
            rw [checked] at h
            exact absurd h nofun
          | ok other =>
            rw [checked] at h
            exact congrArg Except.ok (Except.ok.inj h)
        obtain ⟨members, rfl, named, secret⟩ := of_ofJson formed
        obtain ⟨name, nameFits⟩ := of_checkMember named
        obtain ⟨password, passwordFits⟩ := of_checkMember secret
        exact ⟨⟨typed, ⟨members, parsed, name, password⟩, shallow⟩, nameFits, passwordFits⟩
    · exact absurd h nofun

/-- What the reader of a body gives up: it comes to an integer of too many digits, or what it has
read when it ends is nested too deep. -/
inductive GivesUp (room : Nat) (text : String) : Prop where
  | digits {position : Nat} (stopped : Json.parse text = .error ⟨.tooManyDigits, position⟩)
  | before {e : Json.ParseError} (stopped : Json.parse text = .error e)
      (deep : isTooDeep room (text.toList.take e.position) = true)
  | whole {form : Json} (parsed : Json.parse text = .ok form)
      (deep : isTooDeep room text.toList = true)

theorem readBody_eq_unparsable_iff {text : String} :
    readBody room text = .error .unparsable ↔ GivesUp room text := by
  unfold readBody
  constructor
  · intro h
    -- reading stops at a flaw, or it comes to its end and the value is too deep for the stack
    split at h
    · rename_i e stopped
      split at h
      · rename_i cause
        rcases Bool.or_eq_true_iff.1 cause with digits | deep
        · obtain ⟨flaw, position⟩ := e
          obtain rfl : flaw = .tooManyDigits := of_decide_eq_true digits
          exact .digits stopped
        · exact .before stopped deep
      · exact absurd h nofun
    · rename_i form parsed
      split at h
      · rename_i deep
        exact .whole parsed deep
      · exact absurd h nofun
  · rintro (stopped | ⟨stopped, deep⟩ | ⟨parsed, deep⟩)
    · simp [stopped]
    · simp [stopped, deep]
    · simp [parsed, deep]

/-- The body of a request is one that its reader gives up. -/
structure IsUnparsable (room : Nat) (r : Request) : Prop where
  given : r.body ≠ ""
  typed : isJsonType ((r.headers.first? "content-type").getD "") = true
  stops : GivesUp room (withoutMark r.body)

/-- The members of a form that was read are only ever complained of. -/
theorem ofJson_ne_unparsable (form : Json) :
    (ofJson form).mapError Refusal.complaints ≠ .error .unparsable := by
  cases ofJson form with
  | error complaints => exact nofun
  | ok form => exact nofun

/-- **A body is refused without a report if its reader gives it up**, and for nothing else. -/
theorem ofRequest_eq_unparsable_iff :
    ofRequest room r = .error .unparsable ↔ IsUnparsable room r := by
  have parts : IsUnparsable room r ↔ r.body ≠ "" ∧
      isJsonType ((r.headers.first? "content-type").getD "") = true ∧
      readBody room (withoutMark r.body) = .error .unparsable := by
    rw [readBody_eq_unparsable_iff]
    exact ⟨fun h ↦ ⟨h.given, h.typed, h.stops⟩, fun h ↦ ⟨h.1, h.2.1, h.2.2⟩⟩
  rw [parts]
  unfold ofRequest
  by_cases given : r.body = ""
  · simp [given]
  · cases typed : isJsonType ((r.headers.first? "content-type").getD "") with
    | false => simp [given]
    | true =>
      cases read : readBody room (withoutMark r.body) with
      | error refusal => simp [given]
      | ok form => simp [given, ofJson_ne_unparsable form]

/-- The body that writes out a name and a password. -/
def written (username password : String) : String :=
  (Json.ofTexts [("username", username), ("password", password)]).text

theorem withoutMark_written :
    withoutMark (written username password) = written username password := by
  have starts : (written username password).toList.head? = some '\x7b' := by
    rw [written, Json.toList_text_ofTexts]
    rfl
  unfold withoutMark
  split
  · rename_i rest marked
    rw [marked, List.head?_cons] at starts
    exact absurd (Option.some.inj starts) (by decide)
  · rfl

/-- **What is written out is carried.** -/
theorem carries_of_written (typed : isJsonType ((r.headers.first? "content-type").getD "") = true)
    (body : r.body = written username password) : Carries room r username password where
  typed := typed
  spelt := by
    have distinct : ["username", "password"].Nodup := by decide
    have parsed := Json.parse_text_ofTexts [("username", username), ("password", password)] distinct
    rw [body, withoutMark_written]
    exact ⟨_, parsed, rfl, rfl⟩
  shallow := by
    have level : Json.nesting (written username password).toList = 1 := Json.nesting_text_ofTexts _
    rw [body, withoutMark_written, isTooDeep, level, decide_eq_false_iff_not]
    omega

end AuthRealm.Http.LoginForm
