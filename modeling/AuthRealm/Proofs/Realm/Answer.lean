import AuthRealm.Proofs.Credential.Reading
import AuthRealm.Proofs.Realm.Authenticate

/-!
# Credential files that stop a login

A login that is refused is an answer. A login without an answer is one that the database stops, or
the credential file. The settings let through every name that stands for something, and this module
says what each of them does to a login (`logins_under_accepted_name`):

* the name of a charset gives every login and every cookie an answer, for all bytes that its decoder
  reads or reports, whatever the store has kept from earlier files;
* it stops logins at text that its decoder refuses without pointing to a byte of it; among the
  charsets with a table here that is the one that wants a byte order mark, at text without one,
  however well-formed it is;
* the name of a transformation stops them at every file, since it turns no bytes into text.

The last two are let through by the check of the settings, and are not among the failures that a
refresh reports.

Nothing is said where a decoder may let lone halves of surrogate pairs through, nor where the path
names an account database: neither such texts nor the bytes of a database have a place here.
-/

namespace AuthRealm

open Account Storage Text

/-! ### Names of charsets -/

/-- The check of the settings lets through a name of something. -/
theorem Settings.isKnownName_of_checkCharset {v : Json} {name : String}
    (accepted : checkCharset v = .ok name) : isKnownName name = true := by
  -- only a text is a name, and the check asks whether it is known
  cases v with
  | string given =>
    have checked : checkCharset (.string given) = if hasNul given then .error .nulInCharset
        else if isKnownName given then .ok given else .error (.unknownCharset given) := rfl
    rw [checked] at accepted
    split at accepted
    · simp at accepted
    · split at accepted
      · rename_i known
        obtain rfl : given = name := Except.ok.inj accepted
        exact known
      · simp at accepted
  | _ => simp [checkCharset, checkString, Except.bind] at accepted

/-- A name of something is that of a charset, or that of a mere transformation. -/
theorem Text.ofName_of_isKnownName {name : String} (known : isKnownName name = true) :
    (∃ cs, Charset.ofName name = .ok cs) ∨ Charset.ofName name = .error (.notText name) := by
  cases named : Charset.ofName name with
  | ok cs => exact Or.inl ⟨cs, rfl⟩
  | error e =>
    refine Or.inr ?_
    cases e with
    | unknown other => simp [isKnownName, named] at known
    -- the one error beside the unknown name is that of a transformation, and it gives the name
    | notText other =>
      simp only [Charset.ofName] at named
      split at named
      · simp at named
      · split at named
        · exact named.symm
        · simp at named

namespace Realm

variable {realm : Realm} {tree : Tree} {s : RealmState}

/-! ### Answers -/

/-- Every login and every cookie has an answer in a tree, over a database that can be used. -/
structure Answers (s : RealmState) (tree : Tree) : Prop where
  report : ∃ report, (s.credentials.refresh tree).result = .ok report
  login : ∀ (realm : Realm) (now : Timestamp) (u p : String),
    ∃ answer, (realm.authenticate ⟨tree, now, none⟩ u p s).result = .ok answer
  cookie : ∀ (now : Timestamp) (c : String),
    ∃ answer, (authenticateCookie ⟨tree, now, none⟩ c s).result = .ok answer

/-- Every login that looks at the credential file fails, and so does the cookie of every external
account, although the database can be used. -/
structure Stops (s : RealmState) (tree : Tree) (e : Failure) : Prop where
  refresh : (s.credentials.refresh tree).result = .error e
  login : ∀ (realm : Realm) (now : Timestamp) (u p : String),
    realm.readsFile s.accounts u = true →
      (realm.authenticate ⟨tree, now, none⟩ u p s).result = .error e
  cookie : ∀ (now : Timestamp) (c : String) (row : Row),
    s.accounts.findByCookie? c = some row → row.isLocal = false →
      (authenticateCookie ⟨tree, now, none⟩ c s).result = .error e

theorem answers_of_isReport (reads : (s.credentials.refresh tree).isReport = true) :
    Answers s tree where
  report := Credential.Refresh.isReport_iff.1 reads
  login := by
    intro realm now u p
    have answered : (realm.authenticate ⟨tree, now, none⟩ u p s).result = _ :=
      result_authenticate rfl fun _ ↦ reads
    exact ⟨_, answered⟩
  cookie := by
    intro now c
    have usable : (Scene.mk tree now none).databaseFault = none := rfl
    exact exists_answer_authenticateCookie usable reads c

theorem stops_of_refresh {e : Failure} (stopped : (s.credentials.refresh tree).result = .error e) :
    Stops s tree e where
  refresh := stopped
  login := by
    intro realm now u p looks
    have usable : (Scene.mk tree now none).databaseFault = none := rfl
    exact (authenticate_of_stopped usable looks stopped).1
  cookie := by
    intro now c row found external
    have usable : (Scene.mk tree now none).databaseFault = none := rfl
    have asked := result_authenticateCookie usable found
    rw [external, stopped] at asked
    exact asked

/-- What becomes of logins when bytes are decoded: they have an answer if there is a text or a
report, which then is that of a refresh and leaves the store as it is; and they are stopped if there
is neither. -/
def DecidesLogins (s : RealmState) (tree : Tree) : Except DecodeError (List Char) → Prop
  | .ok _ => Answers s tree
  | .error e =>
    if e.isReport then
      Answers s tree ∧ (s.credentials.refresh tree).store = s.credentials ∧
        (s.credentials.refresh tree).result =
          .ok ⟨.failed e.message, s.credentials.entries.size⟩
    else Stops s tree (.decoding e)

/-- **What is decoded decides about logins**, whoever decodes it. -/
theorem decidesLogins_decode {cs : Charset} {bytes : List UInt8}
    (clean : hasNul s.credentials.path.text = false)
    (named : Charset.ofName s.credentials.charset.name = .ok cs)
    (reads : s.credentials.Reads tree bytes) :
    DecidesLogins s tree (cs.decode s.credentials.charset.decoders bytes) := by
  -- a text and a report have this in common: the decoder gives nothing that is not reported
  have answers (reported : ∀ e, cs.decode s.credentials.charset.decoders bytes = .error e →
      e.isReport = true) : Answers s tree := by
    refine answers_of_isReport (Credential.Store.isReport_of_decoded clean fun bytes' reads' ↦ ?_)
    obtain rfl : bytes' = bytes := reads'.unique reads
    exact ⟨cs, named, reported⟩
  cases decoded : cs.decode s.credentials.charset.decoders bytes with
  | ok text => exact answers fun e failed ↦ absurd (decoded.symm.trans failed) nofun
  | error e =>
    cases reported : e.isReport with
    | true =>
      rw [DecidesLogins, if_pos reported,
        Credential.Store.refresh_of_malformed clean named reads decoded reported]
      refine ⟨answers fun e' failed ↦ ?_, rfl, rfl⟩
      obtain rfl := Except.error.inj (decoded.symm.trans failed)
      exact reported
    | false =>
      rw [DecidesLogins, if_neg (by rw [reported]; exact Bool.false_ne_true)]
      refine stops_of_refresh ?_
      rw [Credential.Store.refresh_of_refused clean named reads decoded reported]

/-- **What a name that the settings let through does to logins**, over a path without a NUL and a
database that can be used, with any entries and any time in the store, any accounts, under every
kind of realm. Where the next refresh reads no bytes, and not for the reason that they are those of
an account database, it reports, and every login and every cookie has an answer. Where it reads
bytes, it is the name of a charset, and then

* if whatever is read in the charset is a text of characters, what its decoder makes of the bytes
  decides: a text or a report gives every login and every cookie an answer, and the report is one of
  a file that could not be read, with the wording of the decoder, and leaves the store as it is; a
  refusal without a report stops every login that looks at the file and the cookies of external
  accounts;
* if the charset has a table here, it reads or reports what it settles, and refuses all else, which
  is sixteen-bit text without a mark of its byte order;

or it is the name of a transformation, and any bytes stop logins. -/
theorem logins_under_accepted_name {v : Json} {name : String}
    (accepted : Settings.checkCharset v = .ok name) (s : RealmState)
    (named : s.credentials.charset.name = name) (clean : hasNul s.credentials.path.text = false)
    (tree : Tree) :
    ((∀ bytes, ¬ s.credentials.Reads tree bytes) →
        (∀ number, tree.findNode s.credentials.path ≠ .ok (.database number)) →
        Answers s tree) ∧
      ∀ bytes, s.credentials.Reads tree bytes →
        (∃ cs, Charset.ofName name = .ok cs ∧
          (cs.isOfCharacters = true →
            DecidesLogins s tree (cs.decode s.credentials.charset.decoders bytes)) ∧
          (cs.isTabled = true →
            (cs.settles bytes = true → ∀ e,
              cs.decode s.credentials.charset.decoders bytes = .error e → e.isReport = true) ∧
            (cs.settles bytes = false →
              cs.decode s.credentials.charset.decoders bytes = .error .noByteOrder))) ∨
        (Charset.ofName name = .error (.notText name) ∧
          Stops s tree (.charset (.notText name))) := by
  subst named
  refine ⟨fun nothing _ ↦ ?_, fun bytes reads ↦ ?_⟩
  · -- where nothing is read, nothing is decoded
    refine answers_of_isReport (Credential.Store.isReport_of_decoded clean fun bytes reads ↦ ?_)
    exact absurd reads (nothing bytes)
  -- a name that is accepted is that of a charset or that of a transformation
  rcases Text.ofName_of_isKnownName (Settings.isKnownName_of_checkCharset accepted) with
    ⟨cs, named⟩ | transformation
  · refine Or.inl ⟨cs, named, fun _ ↦ decidesLogins_decode clean named reads,
      fun tabled ↦ ⟨fun settled e failed ↦ ?_, fun missed ↦ ?_⟩⟩
    · exact (Charset.readsOrPoints_of_settles _ tabled settled).isReport failed
    · exact Charset.decode_of_not_settles _ missed
  · refine Or.inr ⟨transformation, stops_of_refresh ?_⟩
    rw [Credential.Store.refresh_of_transformation clean transformation reads]

/-- Names that the settings let through, over a new store and one file: a byte that is not UTF-8 is
reported, sixteen-bit text without a mark stops logins, under the name of a transformation so does
any text, and so does whatever the machine's decoder for a charset without a table refuses. -/
theorem logins_under_four_names :
    let refusing : Decoders := { decode := fun _ _ ↦ .error (.refused "undefined encoding") }
    let state (name : String) : RealmState :=
      ⟨{ path := ⟨"/", ["htpasswd"]⟩, charset := ⟨name, refusing⟩ }, {}⟩
    (Answers (state "utf-8") (Credential.lone [255] 1) ∧
        ((state "utf-8").credentials.refresh (Credential.lone [255] 1)).result =
          .ok ⟨.failed (DecodeError.malformed "utf-8" 0 0 [255] .invalidStart).message, 0⟩) ∧
      Stops (state "utf-16") (Credential.lone [97, 98] 1) (.decoding .noByteOrder) ∧
      Stops (state "rot13") (Credential.lone [97, 58, 120] 1) (.charset (.notText "rot13")) ∧
      Stops (state "undefined") (Credential.lone [97, 58, 120] 1)
        (.decoding (.refused "undefined encoding")) := by
  intro refusing state
  have clean : hasNul (Storage.Path.mk "/" ["htpasswd"]).text = false := by decide
  have acceptedUtf8 : Settings.checkCharset (.string "utf-8") = .ok "utf-8" := by decide
  have acceptedUtf16 : Settings.checkCharset (.string "utf-16") = .ok "utf-16" := by decide
  have acceptedRot13 : Settings.checkCharset (.string "rot13") = .ok "rot13" := by decide
  have acceptedUndefined :
      Settings.checkCharset (.string "undefined") = .ok "undefined" := by decide
  have utf8 : Charset.ofName "utf-8" = .ok .utf8 := by decide
  have utf16 : Charset.ofName "utf-16" = .ok .utf16 := by decide
  have rot13 : Charset.ofName "rot13" = .error (.notText "rot13") := by decide
  have undefined : Charset.ofName "undefined" = .ok (.foreign "undefined") := by decide
  have reads (name : String) (bytes : List UInt8) :
      (state name).credentials.Reads (Credential.lone bytes 1) bytes :=
    Credential.Store.reads_lone rfl nofun
  -- one instance of the theorem for each name; the other disjunct is excluded by what the name
  -- stands for
  refine ⟨?_, ?_, ?_, ?_⟩
  · rcases (logins_under_accepted_name acceptedUtf8 (state "utf-8") rfl clean _).2 [255]
      (reads "utf-8" [255]) with ⟨cs, named, decides, -⟩ | ⟨other, -⟩
    · obtain rfl : cs = .utf8 := Except.ok.inj (named.symm.trans utf8)
      obtain ⟨answers, -, report⟩ := decides rfl
      exact ⟨answers, report⟩
    · exact absurd (utf8.symm.trans other) nofun
  · rcases (logins_under_accepted_name acceptedUtf16 (state "utf-16") rfl clean _).2 [97, 98]
      (reads "utf-16" [97, 98]) with ⟨cs, named, decides, read⟩ | ⟨other, -⟩
    · obtain rfl : cs = .utf16 := Except.ok.inj (named.symm.trans utf16)
      have refused := (read rfl).2 (by decide)
      have stops := decides rfl
      rwa [refused] at stops
    · exact absurd (utf16.symm.trans other) nofun
  · rcases (logins_under_accepted_name acceptedRot13 (state "rot13") rfl clean _).2 [97, 58, 120]
      (reads "rot13" [97, 58, 120]) with ⟨cs, named, -⟩ | ⟨-, stops⟩
    · exact absurd (rot13.symm.trans named) nofun
    · exact stops
  · rcases (logins_under_accepted_name acceptedUndefined (state "undefined") rfl clean _).2
      [97, 58, 120] (reads "undefined" [97, 58, 120]) with
      ⟨cs, named, decides, -⟩ | ⟨other, -⟩
    · obtain rfl : cs = .foreign "undefined" := Except.ok.inj (named.symm.trans undefined)
      exact decides rfl
    · exact absurd (undefined.symm.trans other) nofun

end Realm

end AuthRealm
