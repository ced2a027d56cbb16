import AuthRealm.Proofs.Command.Override
import AuthRealm.Proofs.Credential.Grammar
import AuthRealm.Proofs.Credential.SameNames
import AuthRealm.Proofs.Realm.Setup
import AuthRealm.Proofs.Storage.SameShape
import AuthRealm.Proofs.Text.Sorting

/-!
# What a listing tells

The listing of a credential file has a line for each of its names, in ascending order, and says of
the secret of a name only what can be seen at its start (`listing_eq`). So two files with the same
names whose secrets start alike (`LooksLike`) have the same listing. Nothing in front of the listing
tells them apart either: the path setting is resolved alike in both trees, and leads to both files
or to neither (`Tree.SameShape`).

Both facts are in `listing_tells_no_secrets`: **the listing does not depend on the secrets** but for
how they start, and **it has each name of the file once, in ascending order**. The second would be
empty without a listing, so it says with it when there is one (`listUsers_succeeds_iff`).
-/

namespace AuthRealm

open Storage Text

/-! ### Names in order -/

namespace Credential.Entries

variable {e e' : Entries}

theorem pairwise_usernames (distinct : (e.pairs.map Prod.fst).Nodup) :
    e.usernames.Pairwise (· < ·) :=
  List.pairwise_map.2 (pairwise_mergeSort_lt (fun p : String × String ↦ p.1) distinct)

theorem usernames_eq (distinct : (e.pairs.map Prod.fst).Nodup)
    (distinct' : (e'.pairs.map Prod.fst).Nodup) (names : ∀ u, e.contains u = e'.contains u) :
    e.usernames = e'.usernames := by
  refine eq_of_pairwise_lt (pairwise_usernames distinct) (pairwise_usernames distinct') fun u ↦ ?_
  rw [mem_usernames_iff, mem_usernames_iff, names]

/-- The pairs in order are the names in order, each with its secret. -/
theorem sorted_eq (distinct : (e.pairs.map Prod.fst).Nodup) :
    e.sorted = e.usernames.map fun u ↦ (u, (e.secret? u).getD "") := by
  have secret : ∀ p ∈ e.sorted, p = (p.1, (e.secret? p.1).getD "") := by
    intro p listed
    rw [sorted, List.mem_mergeSort] at listed
    rw [(secret?_eq_some_iff distinct).2 listed, Option.getD_some]
  rw [usernames, List.map_map]
  exact (List.map_id _).symm.trans (List.map_congr_left secret)

end Credential.Entries

namespace Command

open Credential

/-! ### What is said of a secret -/

/-- **Entries that a listing does not tell apart**: they have the same names, and the secrets of
each name claim the same scheme and begin with a dollar sign both or neither. -/
structure LooksLike (e e' : Entries) : Prop where
  names : ∀ u, e.contains u = e'.contains u
  secrets : ∀ u s s', e.secret? u = some s → e'.secret? u = some s' →
    Secret.identify s = Secret.identify s' ∧
      (s.toList.head? = some '$' ↔ s'.toList.head? = some '$')

theorem secretLabel_congr {s s' : String} (scheme : Secret.identify s = Secret.identify s')
    (dollar : s.toList.head? = some '$' ↔ s'.toList.head? = some '$') :
    secretLabel s = secretLabel s' := by
  have same : (s.toList.head? != some '$') = (s'.toList.head? != some '$') := by
    rw [Bool.eq_iff_iff, bne_iff_ne, bne_iff_ne]
    exact not_congr dollar
  rw [secretLabel, secretLabel, scheme, same]

/-- The line of a name is the same for secrets that start alike. -/
theorem userLine_congr {e e' : Entries} (h : LooksLike e e') (u : String) :
    userLine u ((e.secret? u).getD "") = userLine u ((e'.secret? u).getD "") := by
  -- the names are the same, so either both have a secret for the name or neither has
  have listed : (e.secret? u).isSome = (e'.secret? u).isSome := h.names u
  cases held : e.secret? u with
  | none =>
    cases held' : e'.secret? u with
    | none => rfl
    | some s' => exact absurd listed (by simp [held, held'])
  | some s =>
    cases held' : e'.secret? u with
    | none => exact absurd listed (by simp [held, held'])
    | some s' =>
      obtain ⟨scheme, dollar⟩ := h.secrets u s s' held held'
      rw [Option.getD_some, Option.getD_some, userLine, userLine, secretLabel_congr scheme dollar]

/-! ### The listing -/

/-- A listing at a path, of names with a line for each. -/
def listingOf (path : Path) (names : List String) (line : String → String) : String :=
  "\n" ++ path.text ++ " -- " ++ toString names.length ++ " user(s)\n" ++
    String.ofList (List.replicate 40 '─') ++ "\n" ++ String.join (names.map line) ++ "\n"

/-- **A listing goes through the names in order.** -/
theorem listing_eq {store : Store} (distinct : (store.entries.pairs.map Prod.fst).Nodup) :
    listing store = listingOf store.path store.entries.usernames
      fun u ↦ userLine u ((store.entries.secret? u).getD "") := by
  rw [listing, listingOf, Entries.length_usernames, Entries.sorted_eq distinct, List.map_map]
  rfl

theorem listing_congr {store store' : Store} (path : store'.path = store.path)
    (distinct : (store.entries.pairs.map Prod.fst).Nodup)
    (distinct' : (store'.entries.pairs.map Prod.fst).Nodup)
    (alike : LooksLike store.entries store'.entries) : listing store' = listing store := by
  have names := Entries.usernames_eq distinct distinct' alike.names
  have lines : (fun u ↦ userLine u ((store.entries.secret? u).getD "")) =
      fun u ↦ userLine u ((store'.entries.secret? u).getD "") :=
    funext (userLine_congr alike)
  rw [listing_eq distinct, listing_eq distinct', path, names, lines]

/-! ### What leads to the listing -/

/-- **A path setting does not depend on what files hold.** -/
theorem resolvePath_of_sameShape {s : Surroundings} {tree : Tree} (same : s.tree.SameShape tree)
    (settings : Settings) (value : String) :
    settings.resolvePath { s with tree := tree } value = settings.resolvePath s value := by
  have expanded (p : Path) : Settings.expandHome { s with tree := tree } p =
      Settings.expandHome s p := rfl
  simp only [Settings.resolvePath, expanded, same.resolve_eq, same.find_eq]

/-- A refresh depends on the tree only through what the path names. -/
theorem refresh_of_findNode {store : Store} {tree tree' : Tree}
    (same : tree'.findNode store.path = tree.findNode store.path) :
    store.refresh tree' = store.refresh tree := by
  rw [Store.refresh, Store.refresh, same]

/-- A store that is about to read for the first time has no time on record. -/
theorem not_bearsTimeOf_new {node : Node} {path : Path} {charset : Encoding} :
    ¬ Store.BearsTimeOf node { path := path, charset := charset } := by
  rintro ⟨known, recorded⟩
  rw [recorded] at known
  exact absurd known Bool.false_ne_true

variable {settings : Settings} {m : Machine}

/-- What is shown of the refresh that a listing starts with. -/
def shownOf (refresh : Refresh) : Except Failure Scenario.Answer × List LogRecord :=
  ((refresh.result.map fun r ↦ usersReport refresh.store r.status).map .command,
    refresh.log.filter isHeard)

theorem listingShown_of_path {path : Path}
    (resolved : settings.userFilePath m.surroundings = .ok path) :
    listingShown m (.ok settings) =
      shownOf (Store.refresh m.disk.tree
        { path := path, charset := m.encoding settings.charset }) := by
  rw [listingShown, listUsers, resolved, shownOf]

/-- Reading a file is not heard of, and shows the listing. -/
theorem shownOf_reloaded (store : Store) (time : Option Int) (ls : List (List Char)) :
    shownOf (store.reloaded time ls) =
      (.ok (.command ⟨0, listing (store.reloaded time ls).store, "", []⟩), []) := by
  have unheard : (store.reloaded time ls).log.filter isHeard = [] := by
    rw [Store.reloaded]
    dsimp only
    split <;> rfl
  rw [shownOf, unheard]
  rfl

section

variable {l : Location} {bytes bytes' : List UInt8} {time time' : Int} {text text' : List Char}

/-- **The first refresh shows the same over files that look alike**, wherever its path leads. -/
theorem shownOf_refresh_put {tree : Tree} {charset : Encoding}
    (stands : tree.get? l = some (.file bytes time)) (spelt : spell? charset bytes = some text)
    (spelt' : spell? charset bytes' = some text')
    (alike : LooksLike (Entries.ofText text) (Entries.ofText text')) (path : Path) :
    shownOf (Store.refresh (tree.put l (.file bytes' time')) { path := path, charset := charset }) =
      shownOf (Store.refresh tree { path := path, charset := charset }) := by
  let store : Store := { path := path, charset := charset }
  -- a path leads either elsewhere, in both trees alike, or to the file that was changed
  rcases Tree.findNode_put_cases stands bytes' time' path with kept | ⟨found, found'⟩
  · have refreshed : store.refresh (tree.put l (.file bytes' time')) = store.refresh tree :=
      refresh_of_findNode kept
    exact congrArg shownOf refreshed
  cases clean : hasNul path.text with
  | true =>
    rw [Store.refresh_of_nul (s := store) clean, Store.refresh_of_nul (s := store) clean]
  | false =>
    -- a new store bears no time, so it reads whichever file is there
    have read : store.refresh tree = store.reloaded (some time) (lines text) :=
      Store.refresh_of_stale (s := store) clean found not_bearsTimeOf_new rfl spelt
    have read' : store.refresh (tree.put l (.file bytes' time')) =
        store.reloaded (some time') (lines text') :=
      Store.refresh_of_stale (s := store) clean found' not_bearsTimeOf_new rfl spelt'
    have same : listing (store.reloaded (some time') (lines text')).store =
        listing (store.reloaded (some time) (lines text)).store :=
      listing_congr rfl (Entries.nodup_ofLines _) (Entries.nodup_ofLines _) alike
    rw [read, read', shownOf_reloaded, shownOf_reloaded, same]

theorem listingShown_congr (stands : m.disk.tree.get? l = some (.file bytes time))
    (spelt : spell? (m.encoding settings.charset) bytes = some text)
    (spelt' : spell? (m.encoding settings.charset) bytes' = some text')
    (alike : LooksLike (Entries.ofText text) (Entries.ofText text')) :
    listingShown { m with disk.tree := m.disk.tree.put l (.file bytes' time') } (.ok settings) =
      listingShown m (.ok settings) := by
  let tree := m.disk.tree.put l (.file bytes' time')
  let other : Machine := { m with disk.tree := tree }
  -- a file with other bytes is still a file, so every path is resolved alike
  have same : m.surroundings.tree.SameShape tree := Tree.sameShape_put ⟨bytes, time, stands⟩ _ _
  have paths : settings.userFilePath other.surroundings = settings.userFilePath m.surroundings :=
    resolvePath_of_sameShape same settings settings.userFile
  show listingShown other (.ok settings) = _
  cases resolved : settings.userFilePath m.surroundings with
  | error e =>
    rw [resolved] at paths
    rw [listingShown, listingShown, listUsers, listUsers, paths, resolved]
  | ok path =>
    rw [listingShown_of_path (paths.trans resolved), listingShown_of_path resolved]
    exact shownOf_refresh_put stands spelt spelt' alike path

end

/-- **Only a file that has been read is listed**: every other end of the first refresh is a
complaint or no report at all. -/
theorem exists_version_of_refreshes {path : Path} {charset : Encoding} {tree : Tree} {r : Refresh}
    {found : Credential.Report}
    (ends : Store.Refreshes tree { path := path, charset := charset } r)
    (reported : r.result = .ok found)
    (succeeded : (usersReport r.store found.status).exitCode = 0) :
    hasNul path.text = false ∧ ∃ entries time,
      version? charset path tree = some (entries, some time) ∧
      usersReport r.store found.status =
        ⟨0, listing ⟨path, charset, entries, some time⟩, "", []⟩ := by
  cases ends with
  | reloaded node bytes text clean held stale read spelt =>
    cases node with
    | file _ time =>
      cases reported
      refine ⟨clean, Entries.ofText text, time, ?_, rfl⟩
      rw [version?_of_found held, read, Option.bind_some, spelt, Option.map_some, Store.timeOf]
    | _ => cases read
  -- of the other ways to end, a new store never comes to this one, and the rest report a failure
  | unchanged node clean held same => exact absurd same not_bearsTimeOf_new
  | noPath => cases reported
  | stopped => cases reported
  | _ =>
    cases reported
    exact absurd succeeded Nat.one_ne_zero

/-- **A listing succeeds just where there is a version of the file to list.** -/
theorem listUsers_succeeds_iff {report : Report} :
    (listUsers m settings).result = .ok report ∧ report.exitCode = 0 ↔
      ∃ path entries time, settings.userFilePath m.surroundings = .ok path ∧
        hasNul path.text = false ∧
        version? (m.encoding settings.charset) path m.disk.tree = some (entries, some time) ∧
        report = ⟨0, listing ⟨path, m.encoding settings.charset, entries, some time⟩, "", []⟩ := by
  rw [listUsers]
  cases resolved : settings.userFilePath m.surroundings with
  | error e =>
    constructor
    · rintro ⟨listed, -⟩
      cases listed
    · rintro ⟨_, _, _, other, -⟩
      cases other
  | ok path =>
    let store : Store := { path := path, charset := m.encoding settings.charset }
    constructor
    · rintro ⟨listed, succeeded⟩
      have ends := Store.refreshes_refresh m.disk.tree store
      dsimp only at listed
      generalize store.refresh m.disk.tree = r at ends listed
      -- one refresh is made, and the report is built from what it leaves
      cases reported : r.result with
      | error e =>
        rw [reported] at listed
        cases listed
      | ok found =>
        rw [reported] at listed
        cases listed
        obtain ⟨clean, entries, time, held, shown⟩ :=
          exists_version_of_refreshes ends reported succeeded
        exact ⟨path, entries, time, rfl, clean, held, shown⟩
    · rintro ⟨_, entries, time, same, clean, held, rfl⟩
      obtain rfl := Except.ok.inj same
      -- conversely, a version to be read is one that a new store takes
      obtain ⟨bytes, text, found, spelt, rfl⟩ := exists_file_of_version? held
      have read : store.refresh m.disk.tree = store.reloaded (some time) (lines text) :=
        Store.refresh_of_stale (s := store) clean found not_bearsTimeOf_new rfl spelt
      refine ⟨?_, rfl⟩
      dsimp only
      rw [read]
      rfl

/-! ### What stands in a listing -/

/-- **The line of a name begins with the name**, and says behind it what can be seen of the
secret. -/
theorem userLine_eq (u secret : String) :
    userLine u secret = "  " ++ u ++ String.ofList (List.replicate (24 - u.length + 1) ' ') ++
      secretLabel secret ++ "\n" := by
  have behind (n : Nat) : String.ofList (List.replicate n ' ') ++ " " =
      String.ofList (List.replicate (n + 1) ' ') := by
    rw [List.replicate_succ', String.ofList_append]
  rw [userLine, padded, ← behind]
  simp only [String.append_assoc]

/-- Every name of a listing stands at the front of its own line. -/
theorem listing_of_distinct {path : Path} {charset : Text.Encoding} {entries : Entries}
    {time : Option Int} (distinct : (entries.pairs.map Prod.fst).Nodup) :
    listing ⟨path, charset, entries, time⟩ = listingOf path entries.usernames fun u ↦
      "  " ++ u ++ String.ofList (List.replicate (24 - u.length + 1) ' ') ++
        secretLabel ((entries.secret? u).getD "") ++ "\n" := by
  let store : Store := ⟨path, charset, entries, time⟩
  have shown : listing store = _ := listing_eq distinct
  simp only [userLine_eq] at shown
  exact shown

/-- What is said of a secret has no line end, whatever the secret is. -/
theorem isLine_secretLabel (secret : String) : IsLine (secretLabel secret).toList := by
  unfold secretLabel
  dsimp only
  split
  · decide
  · cases Secret.identify secret <;> decide

/-- No name of a file has a line end. -/
theorem isLine_of_contains {text : List Char} {u : String}
    (listed : (Entries.ofText text).contains u = true) : IsLine u.toList := by
  obtain ⟨secret, held⟩ := Option.isSome_iff_exists.1 listed
  obtain ⟨before, line, after, cut, entry, -⟩ := Entries.secret?_ofLines_eq_some_iff.1 held
  refine entry.isLine (isLine_of_mem_lines (s := text) ?_)
  rw [cut]
  exact List.mem_append_right _ List.mem_cons_self

/-- **The listing tells no secrets.** Over two files whose entries look alike the command answers
alike, whatever the answer is. And it succeeds just where the path leads to a file that can be read,
with a listing of the names in that file, each of them once and in ascending order: behind the head
of the listing every name stands in a line of its own, between two blanks and what is said of its
secret. -/
theorem listing_tells_no_secrets (m : Machine) (settings : Settings) :
    (∀ l bytes bytes' time time' text text', m.disk.tree.get? l = some (.file bytes time) →
      spell? (m.encoding settings.charset) bytes = some text →
      spell? (m.encoding settings.charset) bytes' = some text' →
      LooksLike (Entries.ofText text) (Entries.ofText text') →
      listingShown { m with disk.tree := m.disk.tree.put l (.file bytes' time') } (.ok settings) =
        listingShown m (.ok settings)) ∧
    ∀ report, (listUsers m settings).result = .ok report ∧ report.exitCode = 0 ↔
      ∃ path entries time names, settings.userFilePath m.surroundings = .ok path ∧
        hasNul path.text = false ∧
        version? (m.encoding settings.charset) path m.disk.tree = some (entries, some time) ∧
        names.Pairwise (· < ·) ∧ (∀ u, u ∈ names ↔ entries.contains u = true) ∧
        (∀ u ∈ names, IsLine u.toList ∧ IsLine (secretLabel ((entries.secret? u).getD "")).toList) ∧
        report = ⟨0, listingOf path names fun u ↦
          "  " ++ u ++ String.ofList (List.replicate (24 - u.length + 1) ' ') ++
            secretLabel ((entries.secret? u).getD "") ++ "\n", "", []⟩ := by
  refine ⟨fun l bytes bytes' time time' text text' stands spelt spelt' alike ↦
    listingShown_congr stands spelt spelt' alike, fun report ↦ listUsers_succeeds_iff.trans ?_⟩
  -- the entries are those of a file, in which a later line replaces an earlier one of the name
  have distinct {path : Path} {entries : Entries} {time : Int}
      (held : version? (m.encoding settings.charset) path m.disk.tree = some (entries, some time)) :
      (entries.pairs.map Prod.fst).Nodup := by
    obtain ⟨_, _, _, _, rfl⟩ := exists_file_of_version? held
    exact Entries.nodup_ofLines _
  constructor
  · rintro ⟨path, entries, time, resolved, clean, held, rfl⟩
    refine ⟨path, entries, time, entries.usernames, resolved, clean, held,
      Entries.pairwise_usernames (distinct held), fun u ↦ Entries.mem_usernames_iff,
      fun u mem ↦ ⟨?_, isLine_secretLabel _⟩, ?_⟩
    · obtain ⟨_, _, _, _, rfl⟩ := exists_file_of_version? held
      exact isLine_of_contains (Entries.mem_usernames_iff.1 mem)
    · rw [listing_of_distinct (distinct held)]
  · rintro ⟨path, entries, time, names, resolved, clean, held, ascending, complete, -, rfl⟩
    -- the order and the members of a list without repetitions determine it
    have same : names = entries.usernames :=
      eq_of_pairwise_lt ascending (Entries.pairwise_usernames (distinct held)) fun u ↦
        (complete u).trans Entries.mem_usernames_iff.symm
    refine ⟨path, entries, time, resolved, clean, held, ?_⟩
    rw [listing_of_distinct (distinct held), same]

/-- Two files with the names `b` and `a` and other passwords in the clear have the same listing,
which starts with `a`. -/
theorem listing_tells_no_secrets_of_two_names :
    let m : Machine := { disk := { tree := lone [98, 58, 120, 10, 97, 58, 112] 5 } }
    let other : Machine := { disk := { tree := lone [98, 58, 121, 10, 97, 58, 113] 6 } }
    let settings : Settings := { userFile := "/htpasswd" }
    listingShown other (.ok settings) = listingShown m (.ok settings) ∧
      ∃ head, (listUsers m settings).result = .ok ⟨0, head ++
        "  a                        crypt/plain\n" ++
        "  b                        crypt/plain\n" ++ "\n", "", []⟩ := by
  intro m other settings
  have spelt : spell? (m.encoding settings.charset) [98, 58, 120, 10, 97, 58, 112] =
      some "b:x\na:p".toList := by
    decide
  have spelt' : spell? (m.encoding settings.charset) [98, 58, 121, 10, 97, 58, 113] =
      some "b:y\na:q".toList := by
    decide
  have held : Entries.ofText "b:x\na:p".toList = ⟨[("b", "x"), ("a", "p")]⟩ := by decide
  have held' : Entries.ofText "b:y\na:q".toList = ⟨[("b", "y"), ("a", "q")]⟩ := by decide
  have names (s t : String) (u : String) :
      (⟨[("b", s), ("a", t)]⟩ : Entries).contains u = true ↔ u = "b" ∨ u = "a" := by
    rw [@eq_comm _ u "b", @eq_comm _ u "a"]
    simp [Entries.contains, Entries.secret?, List.find?_isSome]
  have alike : LooksLike (Entries.ofText "b:x\na:p".toList) (Entries.ofText "b:y\na:q".toList) := by
    rw [held, held']
    refine ⟨fun u ↦ Bool.eq_iff_iff.2 ((names _ _ u).trans (names _ _ u).symm), ?_⟩
    intro u s s' listed listed'
    rw [Entries.secret?_eq_some_iff (by decide)] at listed listed'
    simp only [List.mem_cons, Prod.mk.injEq, List.not_mem_nil, or_false] at listed listed'
    rcases listed with ⟨rfl, rfl⟩ | ⟨rfl, rfl⟩ <;> rcases listed' with ⟨h, rfl⟩ | ⟨h, rfl⟩ <;>
      first | exact absurd h (by decide) | decide
  have resolved : settings.userFilePath m.surroundings = .ok ⟨"/", ["htpasswd"]⟩ :=
    Realm.resolvePath_lone rfl (by decide)
  have version : version? (m.encoding settings.charset) ⟨"/", ["htpasswd"]⟩ m.disk.tree =
      some (⟨[("b", "x"), ("a", "p")]⟩, some 5) := by
    rw [version?_of_found (findNode_lone _ 5), bytesOf?, Option.bind_some, spelt, Option.map_some,
      held]
    rfl
  -- the theorem itself, for the two files and for the listing of the first
  obtain ⟨same, lists⟩ := listing_tells_no_secrets m settings
  refine ⟨same ["htpasswd"] _ _ 5 6 _ _ rfl spelt spelt' alike, ?_⟩
  have succeeds := (lists _).2 ⟨_, _, 5, ["a", "b"], resolved, by decide, version, by decide,
    fun u ↦ by rw [names]; simp [or_comm], by decide, rfl⟩
  have a : "  " ++ "a" ++ String.ofList (List.replicate (24 - "a".length + 1) ' ') ++
      secretLabel (((⟨[("b", "x"), ("a", "p")]⟩ : Entries).secret? "a").getD "") ++ "\n" =
      "  a                        crypt/plain\n" := by
    decide
  have b : "  " ++ "b" ++ String.ofList (List.replicate (24 - "b".length + 1) ' ') ++
      secretLabel (((⟨[("b", "x"), ("a", "p")]⟩ : Entries).secret? "b").getD "") ++ "\n" =
      "  b                        crypt/plain\n" := by
    decide
  have joined (head first second : String) :
      head ++ String.join [first, second] = head ++ first ++ second := by
    simp [String.join, String.append_assoc]
  rw [listingOf, List.map_cons, List.map_cons, a, b, List.map_nil, joined] at succeeds
  exact ⟨_, succeeds.1⟩

end Command

end AuthRealm
