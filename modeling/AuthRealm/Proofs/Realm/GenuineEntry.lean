import AuthRealm.Proofs.Credential.Reading
import AuthRealm.Proofs.Realm.Authenticate
import AuthRealm.Proofs.Secret.Spelling

/-!
# Whoever is listed can log in

A user who has a name that a credential file can hold, and a password of up to 4096 characters, may
be listed with that password spelled in any scheme. **A login with the password then succeeds**
(`genuine_entry_logs_in`), whatever else the file says and whatever the table has for the name, if
the realm overrides local accounts.

Four facts make it up. A text in UTF-8 is read as that text; the last entry of a name is the one
that counts; every spelling of a password can stand in a line and is verified; and an overriding
realm asks the file about the names that it lists.
-/

namespace AuthRealm.Realm

open Account Credential Secret Storage Text

variable {realm : Realm} {tree : Tree} {now : Timestamp} {s : RealmState} {u p stored : String}

/-- A verified secret is matched in some scheme. -/
theorem exists_scheme?_of_verify {file : Credential.Store} (known : file.secret? u = some stored)
    (verified : verify stored p = true) : ∃ scheme, scheme? file u p = some scheme := by
  obtain ⟨scheme, matched⟩ := Option.isSome_iff_exists.1 verified
  exact ⟨scheme, by rw [scheme?, known, Option.bind_some, matched]⟩

/-- **A genuine entry logs in.** The file is written in UTF-8 with another time than the one
recorded, and the last entry of the name spells the password. Then an overriding realm answers with
a record of that name, external and with the sentinel for a hash. -/
theorem genuine_entry_logs_in {text : String} {time : Int} (overrides : realm.overrideLocal = true)
    (name : IsName u.toList) (short : p.length ≤ 4096) (noNul : '\x00' ∉ p.toList)
    (spelling : Spelling p stored)
    (clean : hasNul s.credentials.path.text = false)
    (utf8 : Charset.ofName s.credentials.charset.name = .ok .utf8)
    (written : tree.findNode s.credentials.path = .ok (.file text.toUTF8.toList time))
    (new : s.credentials.modifiedAt ≠ some time) (last : IsLastEntry text.toList u stored) :
    ∃ record, (realm.authenticate ⟨tree, now, none⟩ u p s).result = .ok (some record) ∧
      record.username = u ∧ record.kind = .external ∧
      record.hashedPassword = some externalSentinel := by
  have refreshed := Store.refresh_of_utf8 clean utf8 written new
  -- the last entry of a name is the one that the store has for it
  have known : (s.refreshed tree).credentials.secret? u = some stored := by
    rw [RealmState.refreshed, refreshed]
    refine (congrArg (Entries.secret? · u) (Entries.ofLines_eq _)).trans ?_
    exact Entries.secret?_ofPairs_eq_some_iff.2
      (isFinal_of_isLastEntry name spelling.isSecret last)
  obtain ⟨scheme, matched⟩ := exists_scheme?_of_verify known (spelling.verify short noNul)
  -- the name is listed, so with override the file is in charge, whatever the table has
  have listed : (s.refreshed tree).credentials.lists u = true :=
    lists_of_scheme? (Option.isSome_iff_exists.2 ⟨scheme, matched⟩)
  have notLocal : realm.takesLocal (s.refreshed tree).credentials s.accounts u = false :=
    takesLocal_eq_false_iff.2 (.inl ⟨overrides, listed⟩)
  have reads : (s.credentials.refresh tree).isReport = true := by
    rw [refreshed]
    rfl
  have usable : (Scene.mk tree now none).databaseFault = none := rfl
  have answer : (realm.authenticate ⟨tree, now, none⟩ u p s).result =
      .ok ((scheme? (s.refreshed tree).credentials u p).map fun _ ↦
        (realm.externalLogin s.accounts now.text u p).2) :=
    (authenticate_of_external usable reads notLocal).1
  rw [matched, Option.map_some] at answer
  have profile := realm.toProfile_externalLogin s.accounts now.text u p
  refine ⟨_, answer, ?_, ?_, ?_⟩
  · exact username_externalLogin realm s.accounts now.text u p
  · exact congrArg Profile.kind profile
  · exact congrArg Profile.hashedPassword profile

/-- A password spelled with a stated number of rounds, behind a comment and an older entry and
within blanks, for a name that has a local account with a hash of its own. -/
theorem genuine_entry_logs_in_behind_older_entry :
    let stored := String.ofList (ShaFamily.sha256.mark.toList ++ (Hashed.roundsText (some 1000) ++
      (['A', '/'] ++ '$' :: ShaHash.digest .sha256 1000 ['A', '/'] "p w")))
    let entry := [' '] ++ ("amy".toList ++ ':' :: stored.toList) ++ [' ']
    let text := String.ofList
      ("# staff".toList ++ '\r' :: '\n' :: ("amy:old".toList ++ '\r' :: (entry ++ ['\n'])))
    let row : Row := ⟨{ username := "amy", hashedPassword := some "h" }, 1, "user", ""⟩
    let s : RealmState := ⟨{ path := ⟨"/", ["htpasswd"]⟩ }, ⟨[row]⟩⟩
    let scene : Scene := ⟨lone text.toUTF8.toList 7, ⟨2024, 1, 1, 0, 0, 0, 0⟩, none⟩
    ∃ record, (authenticate {} scene "amy" "p w" s).result = .ok (some record) ∧
      record.username = "amy" ∧ record.kind = .external ∧
      record.hashedPassword = some externalSentinel := by
  intro stored
  have spelling : Spelling "p w" stored :=
    @Spelling.sha "p w" .sha256 (some 1000) ['A', '/'] (by decide) (by decide)
      (List.all_eq_true.1 rfl)
  -- the digest is never computed
  clear_value stored
  intro entry text row s scene
  have line : IsLine entry :=
    ((by decide : IsLine [' ']).append ((by decide : IsLine "amy".toList).append
      ((by decide : IsLine [':']).append spelling.isSecret.isLine))).append (by decide)
  have final : lines (entry ++ ['\n']) = [entry, []] := lines_append line (lines_feed [])
  have noFeed : (entry ++ ['\n']).head? ≠ some '\n' := by
    show some ' ' ≠ some '\n'
    decide
  have behind : lines ('\r' :: (entry ++ ['\n'])) = [[], entry, []] := by
    rw [lines_return noFeed, final]
  have older : lines ("amy:old".toList ++ '\r' :: (entry ++ ['\n'])) =
      ["amy:old".toList, entry, []] := lines_append (by decide) behind
  have cut : lines text.toList = ["# staff".toList, "amy:old".toList] ++ entry :: [[]] := by
    have pair := lines_pair ("amy:old".toList ++ '\r' :: (entry ++ ['\n']))
    rw [older] at pair
    exact (congrArg lines String.toList_ofList).trans (lines_append (by decide) pair)
  have space : ∀ c ∈ [' '], isBlank c = true := List.all_eq_true.1 rfl
  refine genuine_entry_logs_in rfl (by decide) (by decide) (by decide) spelling (by decide)
    (by decide) (findNode_lone _ 7) nofun ⟨_, [' '], [' '], _, cut, space, space, ?_⟩
  intro l hl other spells
  obtain rfl := List.mem_singleton.1 hl
  exact absurd spells.2.1 (by simp [trim, trimStart, trimEnd])

end AuthRealm.Realm
