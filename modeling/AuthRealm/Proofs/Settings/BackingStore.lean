import AuthRealm.Proofs.Account.Database
import AuthRealm.Proofs.Settings.ResolvedPath
import AuthRealm.Proofs.Text.Percent
import Mathlib.Data.List.TakeWhile

/-!
# A path in a URL

A backing store that is given as a path is opened by a URL into which the path is put as it stands,
and the URL is read by rules of its own: a question mark ends the database in it, and percent
escapes are read. So **what is opened is what was meant exactly if the path has neither**
(`opened_store_is_meant_store_iff`). Otherwise the database that the URL names has a shorter text
than the path, by the question mark and what is behind it or by an escape, and what is shorter is
another file (`length_text_normal_le`).

Where the path is read as it stands, a database that is opened stands at that very place, as there
are no links on the way any more (`stands_of_openUrl`).
-/

namespace AuthRealm

open Account Storage Text

/-! ### The text of a path in a URL -/

/-- **A text that a URL reads as it stands**: it has neither a question mark nor an escape. -/
def IsPlainInUrl (s : List Char) : Prop :=
  '?' ∉ s ∧ ¬ HasEscape s

/-- What a URL makes of the text of a path. -/
def databaseOf (s : List Char) : String :=
  unescape (s.takeWhile (· != '?'))

/-- The options that a URL reads in the text of a path. -/
def optionsOf (s : List Char) : List (String × String) :=
  match s.dropWhile (· != '?') with
  | '?' :: r => StoreUrl.optionsOf (r.takeWhile (· != '\n'))
  | _ => []

theorem optionsOf_of_isPlainInUrl {s : List Char} (plain : IsPlainInUrl s) : optionsOf s = [] := by
  have none_left : s.dropWhile (· != '?') = [] :=
    List.dropWhile_eq_nil_iff.2 fun c mem ↦ bne_iff_ne.2 fun same ↦ plain.1 (same ▸ mem)
  rw [optionsOf, none_left]

theorem databaseOf_of_isPlainInUrl {s : String} (plain : IsPlainInUrl s.toList) :
    databaseOf s.toList = s := by
  obtain ⟨unmarked, unescaped⟩ := plain
  have whole : s.toList.takeWhile (· != '?') = s.toList :=
    List.takeWhile_eq_self_iff.2 fun c mem ↦ bne_iff_ne.2 fun same ↦ unmarked (same ▸ mem)
  rw [databaseOf, whole, unescape_of_not_hasEscape unescaped, String.ofList_toList]

/-- **Where a URL reads anything else than the text, it reads something shorter.** -/
theorem length_databaseOf_lt {s : List Char} (other : ¬ IsPlainInUrl s) :
    (databaseOf s).toList.length < s.length := by
  have start : s.takeWhile (· != '?') <+: s := List.takeWhile_prefix _
  have read := length_unescape_le (s.takeWhile (· != '?'))
  -- either the text is cut at a question mark or an escape in it is read as one character
  by_cases marked : '?' ∈ s
  · have shorter : (s.takeWhile (· != '?')).length < s.length := by
      refine Nat.lt_of_le_of_ne start.length_le fun same ↦ ?_
      have whole := List.takeWhile_eq_self_iff.1 (start.eq_of_length same)
      exact absurd (whole '?' marked) (by decide)
    exact Nat.lt_of_le_of_lt read shorter
  · have escaped : HasEscape s := not_not.1 fun none ↦ other ⟨marked, none⟩
    have whole : s.takeWhile (· != '?') = s :=
      List.takeWhile_eq_self_iff.2 fun c mem ↦ bne_iff_ne.2 fun same ↦ marked (same ▸ mem)
    rw [databaseOf, whole]
    exact length_unescape_lt escaped

/-- What a URL makes of an absolute path is an absolute path. -/
theorem toList_databaseOf {s : List Char} : ∃ r, (databaseOf ('/' :: s)).toList = '/' :: r := by
  rw [databaseOf, List.takeWhile_cons_of_pos (by decide), toList_unescape_cons _ (by decide)]
  exact ⟨_, rfl⟩

/-! ### The URL of a path -/

namespace Storage.Path

theorem isAbsolute_ofText {s : String} {r : List Char} (slash : s.toList = '/' :: r) :
    (ofText s).isAbsolute = true := by
  rw [isAbsolute, ofText, slash]
  unfold rootOf
  split
  · rfl
  · rfl
  · rfl
  · rfl
  · rename_i other
    exact absurd rfl (other r)

end Storage.Path

namespace Account.StoreUrl

/-- The URL that is read where the path of a location is put into one. -/
def ofLocation (l : Location) : StoreUrl where
  dialect := "sqlite"
  database := some (databaseOf (Path.ofLocation l).text.toList)
  options := AuthRealm.optionsOf (Path.ofLocation l).text.toList

theorem ofText?_urlOfFile (l : Location) :
    ofText? (Settings.urlOfFile (Path.ofLocation l)) = some (ofLocation l) := by
  have chars : (Settings.urlOfFile (Path.ofLocation l)).toList = "sqlite://".toList ++
      '/' :: (Path.ofLocation l).text.toList := by
    rw [Settings.urlOfFile, String.toList_append]
    rfl
  have dialect (rest : List Char) : spanWhile isDialectChar ("sqlite://".toList ++ rest) =
      ("sqlite".toList, "://".toList ++ rest) := rfl
  have behind (rest : List Char) : after? "://".toList ("://".toList ++ rest) = some rest :=
    after?_eq_some_iff.2 rfl
  unfold ofText?
  rw [chars, dialect]
  simp only [behind]
  -- no user and no host stand before a slash
  rfl

/-- The name of a database that is an absolute path stands for its location, dots read and links not
followed. -/
theorem placeOf_of_absolute {database : String} {r : List Char} (workDir : Location)
    (slash : database.toList = '/' :: r) :
    placeOf (some database) workDir =
      if database.toList.contains '\x00' then .error .embeddedNul
      else .ok (.file (Location.normal [] (Path.ofText database).names)) := by
  have named : (database = "" || database = ":memory:") = false := by
    rw [Bool.or_eq_false_iff, decide_eq_false_iff_not, decide_eq_false_iff_not]
    constructor
    · rintro rfl
      cases slash
    · rintro rfl
      exact absurd (List.cons.inj slash).1 (by decide)
  have within : (Path.ofText database).within workDir = Path.ofText database :=
    if_pos (Path.isAbsolute_ofText slash)
  simp only [placeOf, named, within, Bool.false_eq_true, if_false]

/-- The URL of a path names the place of its database, unless the driver will not have its options.
-/
theorem place_ofLocation (drivers : Drivers) (l : Location) (workDir : Location) :
    (ofLocation l).place drivers workDir =
      match drivers.objection? (ofLocation l).options with
      | some problem => .error problem
      | none => placeOf (ofLocation l).database workDir := by
  have served : servedDialects.contains (ofLocation l).dialect = true := by
    show servedDialects.contains "sqlite" = true
    decide
  have bare : (ofLocation l).hasAuthority = false := rfl
  unfold place
  simp only [served, bare, Bool.not_true, Bool.false_eq_true, if_false]
  rfl

end Account.StoreUrl

/-! ### What is opened -/

/-- **The URL of a location names the location exactly if the text is plain**, whatever the drivers
make of options. -/
theorem place_ofLocation_iff {l : Location} (drivers : StoreUrl.Drivers) (workDir : Location)
    (clean : Clean l) (proper : Proper l) :
    (StoreUrl.ofLocation l).place drivers workDir = .ok (.file l) ↔
      IsPlainInUrl (Path.ofLocation l).text.toList := by
  have text := Path.toList_text_ofLocation l
  obtain ⟨r, slash⟩ : ∃ r, (databaseOf (Path.ofLocation l).text.toList).toList = '/' :: r := by
    rw [text]
    exact toList_databaseOf
  have named : StoreUrl.placeOf (StoreUrl.ofLocation l).database workDir = _ :=
    StoreUrl.placeOf_of_absolute workDir slash
  rw [StoreUrl.place_ofLocation, named]
  constructor
  · intro placed
    -- neither an option nor a null byte can stand in the way of a placed database
    split at placed
    · cases placed
    · split at placed
      · cases placed
      · -- a database that is not the path is shorter, so it is at another place
        have same := StoreUrl.Place.file.inj (Except.ok.inj placed)
        have bound := Path.length_text_normal_le slash
        rw [same] at bound
        exact not_not.1 fun other ↦ absurd (length_databaseOf_lt other) (Nat.not_lt.2 bound)
  · intro plain
    have bare : (StoreUrl.ofLocation l).options = [] := optionsOf_of_isPlainInUrl plain
    have given : (Path.ofLocation l).text.toList.contains '\x00' = false := hasNul_ofLocation clean
    rw [bare, drivers.objection?_nil, databaseOf_of_isPlainInUrl plain, given]
    simp only [Bool.false_eq_true, if_false, Path.ofText_text proper]
    exact congrArg (Except.ok ∘ StoreUrl.Place.file) (Location.normal_of_proper proper)

namespace Settings

variable {settings : Settings} {s : Surroundings} {p : Path}

/-- A backing store that stands for a path is given as one. -/
theorem backingStorePath_eq_some_iff : settings.backingStorePath s = .ok (some p) ↔
    settings.storeIsUrl = false ∧ settings.resolvePath s settings.backingStore = .ok p := by
  unfold backingStorePath
  cases settings.storeIsUrl with
  | true => simp
  | false =>
    cases settings.resolvePath s settings.backingStore with
    | error e => simp [Except.map]
    | ok q => simp [Except.map]

/-- The URL of a backing store that stands for a path. -/
theorem exists_url_of_backingStorePath (wellFormed : s.WellFormed)
    (h : settings.backingStorePath s = .ok (some p)) :
    ∃ text url, settings.backingStoreUrl s = .ok text ∧ StoreUrl.ofText? text = some url ∧
      p = Path.ofLocation p.names ∧ Proper p.names ∧ ∀ drivers : StoreUrl.Drivers,
        (url.place drivers s.workDir = .ok (.file p.names) ↔ IsPlainInUrl p.text.toList) := by
  obtain ⟨isPath, resolved⟩ := backingStorePath_eq_some_iff.1 h
  obtain ⟨l, rfl, proper⟩ := exists_location_of_resolvePath wellFormed.proper resolved
  have clean : Clean l :=
    Path.clean_names (hasNul_of_resolvePath wellFormed.links wellFormed.clean resolved)
  have printed : settings.backingStoreUrl s = .ok (urlOfFile (Path.ofLocation l)) := by
    rw [backingStoreUrl, isPath, if_neg Bool.false_ne_true, resolved]
    rfl
  exact ⟨_, _, printed, StoreUrl.ofText?_urlOfFile l, rfl, proper,
    fun drivers ↦ place_ofLocation_iff drivers s.workDir clean proper⟩

/-- **What is opened is what was meant, exactly if the path is plain**: its URL can be read, and the
place that it names, and every connection to it, is at the path itself if and only if the text of
the path has neither a question mark nor an escape. That is so whatever drivers are installed. -/
theorem opened_store_is_meant_store_iff (wellFormed : s.WellFormed)
    (h : settings.backingStorePath s = .ok (some p)) :
    ∃ text url, settings.backingStoreUrl s = .ok text ∧ StoreUrl.ofText? text = some url ∧
      p = Path.ofLocation p.names ∧ ∀ drivers : StoreUrl.Drivers,
        (url.place drivers s.workDir = .ok (.file p.names) ↔ IsPlainInUrl p.text.toList) ∧
        ∀ d d' c, Connection.openUrl drivers d s.workDir text = .ok (d', c) →
          (c.place = .file p.names ↔ IsPlainInUrl p.text.toList) := by
  obtain ⟨text, url, printed, read, location, -, named⟩ :=
    exists_url_of_backingStorePath wellFormed h
  refine ⟨text, url, printed, read, location, fun drivers ↦
    ⟨named drivers, fun d d' c opened ↦ ?_⟩⟩
  obtain ⟨url', place, number, read', placed, -, rfl⟩ := Connection.openUrl_eq_ok opened
  obtain rfl := Option.some.inj (read.symm.trans read')
  rw [← named drivers, placed, Except.ok.injEq]

theorem opened_store_is_meant_store_iff_of_question_mark :
    let s : Surroundings := ⟨{}, [], [], [], "/root"⟩
    let settings : Settings := { backingStore := "a?b.db" }
    settings.backingStorePath s = .ok (some ⟨"/", ["a?b.db"]⟩) ∧
      ∃ text url, settings.backingStoreUrl s = .ok text ∧ StoreUrl.ofText? text = some url ∧
        url.place {} [] ≠ .ok (.file ["a?b.db"]) := by
  intro s settings
  have wellFormed : s.WellFormed := by
    refine ⟨fun l target stands ↦ ?_, .nil, .nil⟩
    by_cases root : l = [] <;> simp [s, Tree.get?, root] at stands
  have found : s.tree.find ⟨"/", ["a?b.db"]⟩ = .error .missing := by
    rw [Tree.find, if_neg (by decide)]
    have unlocked : s.tree.obstacle? [] = none := by decide
    simp [Tree.walk, unlocked, s, Tree.get?, Tree.maxNameBytes]
    decide
  -- the path means the file of that very name, question mark and all
  have resolved : settings.backingStorePath s = .ok (some ⟨"/", ["a?b.db"]⟩) := by
    have isPath : settings.storeIsUrl = false := by decide
    have expanded : expandHome s (Path.ofText (settings.expandPlaceholder "a?b.db")) =
        .ok ⟨"", ["a?b.db"]⟩ := by
      rw [expandPlaceholder_of_absent (by decide)]
      rfl
    have given : hasNul (⟨"", ["a?b.db"]⟩ : Path).text = false := by decide
    have located : (⟨"/", ["a?b.db"]⟩ : Path) = Path.ofLocation
        (s.tree.resolve ((⟨"", ["a?b.db"]⟩ : Path).within s.workDir)).location := by decide
    have kept : s.tree.find ⟨"/", ["a?b.db"]⟩ ≠ .error .tooManyLinks :=
      found ▸ by decide
    exact backingStorePath_eq_some_iff.2
      ⟨isPath, resolvePath_eq_ok_iff.2 ⟨_, expanded, given, located, kept⟩⟩
  obtain ⟨text, url, printed, read, -, named⟩ := opened_store_is_meant_store_iff wellFormed resolved
  -- the opened place would be the file only if the path had no question mark
  refine ⟨resolved, text, url, printed, read, fun placed ↦ ?_⟩
  exact absurd ((named {}).1.1 placed).1 (by decide)

/-- **The database that is opened stands at the path itself**, if the path is plain and short enough
to look up, and no link leads back to itself. -/
theorem stands_of_openUrl (wellFormed : s.WellFormed) (noLoops : s.tree.NoLoops)
    (h : settings.backingStorePath s = .ok (some p)) (plain : IsPlainInUrl p.text.toList)
    (short : p.text.utf8ByteSize ≤ Tree.maxPathBytes) {text : String}
    (printed : settings.backingStoreUrl s = .ok text) {d d' : Disk} {c : Connection}
    (tree : d.tree = s.tree) {drivers : StoreUrl.Drivers}
    (opened : Connection.openUrl drivers d s.workDir text = .ok (d', c)) :
    ∃ number, c.number = some number ∧ d'.tree.get? p.names = some (.database number) := by
  obtain ⟨text', url, printed', read, location, proper, named⟩ :=
    exists_url_of_backingStorePath wellFormed h
  obtain rfl := Except.ok.inj (printed.symm.trans printed')
  obtain ⟨url', place, number, read', placed, openedAt, rfl⟩ := Connection.openUrl_eq_ok opened
  obtain rfl := Option.some.inj (read.symm.trans read')
  obtain rfl := Except.ok.inj (placed.symm.trans ((named drivers).2 plain))
  have free := linkFree_of_resolvePath noLoops (backingStorePath_eq_some_iff.1 h).2
  rw [location] at short
  -- the walk to the path can only end at the path
  have ends {l : Location} (leads : d.tree.walk true Tree.maxLinks [] p.names = .ok l) :
      l = p.names := by
    rw [tree] at leads
    rcases Tree.walk_of_linkFree true Tree.maxLinks [] (fun n mem ↦ (proper n mem).2) rfl
      fun k above ↦ Tree.get?_of_linkFree free above short with reached | ⟨f, stopped, -⟩
    · exact Except.ok.inj (leads.symm.trans reached)
    · cases leads.symm.trans stopped
  refine ⟨number, rfl, ?_⟩
  cases Disk.opens_of_openAt openedAt with
  | found leads _ stands => exact ends leads ▸ stands
  | created allowed leads _ vacant =>
    have isEnd : d.tree.IsEnd _ := vacant.imp_right fun ⟨time, empty⟩ ↦ ⟨[], time, empty⟩
    obtain rfl := ends leads
    exact (Tree.walk_place d.nextNumber isEnd leads).2

end Settings

end AuthRealm
