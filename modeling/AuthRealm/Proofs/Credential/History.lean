import AuthRealm.Proofs.Credential.Refresh

/-!
# A store over the history of its file

A `Watch` is a store with the file tree around it and a record of what has happened so far: the
trees that there have been, those in which a refresh reported a reload, and the questions that were
answered. An `Event` puts any tree in place of the one there is, refreshes the store, or asks it
something. Nothing relates one tree to the next, so a file may be written, touched, removed,
replaced by a directory, or given back with an older time.

**What the store holds is one whole version**, that of the tree in which it was last reloaded, or
nothing as long as there was no reload (`Faithful`, kept by every event). What it holds is current
only as far as times tell versions apart: a refresh looks at nothing but the time. `TimesTell` says
that they do, of everything that has stood at the path; a directory has no bytes, so no file has the
same bytes as it. A file that is locked keeps its bytes, and its time as well, so a store that has
read it before still holds what is in it (`content?`).

`FileTimesTell` asks this of files alone. Then there is one way for a store to be found unchanged
over something else than what it read: a directory that was given the very time of the file in whose
place it stands.
-/

namespace AuthRealm.Credential

open Storage Text

/-! ### Questions and events -/

/-- A question to a store. -/
inductive Query where
  | secret (username : String)
  | lists (username : String)
  | usernames
  | entries
  | modifiedAt
  deriving DecidableEq, Repr

/-- What a store answers to a question. -/
inductive Answer where
  | secret (found : Option String)
  | truth (b : Bool)
  | names (usernames : List String)
  | pairs (entries : List (String × String))
  | time (t : Option Int)
  deriving DecidableEq, Repr

/-- The answer of a store, from what it holds. -/
def Store.answer (s : Store) : Query → Answer
  | .secret username => .secret (s.secret? username)
  | .lists username => .truth (s.lists username)
  | .usernames => .names s.entries.usernames
  | .entries => .pairs s.entries.sorted
  | .modifiedAt => .time s.modifiedAt

/-- What happens around a store and to it. -/
inductive Event where
  | change (tree : Tree)
  | refresh
  | ask (question : Query)

/-- A store and its surroundings, with the record of what has happened, the latest first. -/
structure Watch where
  tree : Tree
  store : Store
  past : List Tree := []
  reloads : List Tree := []
  answers : List (Query × Answer) := []

namespace Watch

/-- One event. -/
def step (w : Watch) : Event → Watch
  | .change tree => { w with tree := tree, past := w.tree :: w.past }
  | .refresh =>
    let r := w.store.refresh w.tree
    { w with
      store := r.store
      reloads := if r.reports .reloaded then w.tree :: w.reloads else w.reloads }
  | .ask question => { w with answers := (question, w.store.answer question) :: w.answers }

/-- Events, one after the other. -/
def run (w : Watch) (events : List Event) : Watch :=
  events.foldl step w

/-- All trees that there have been. -/
def trees (w : Watch) : List Tree :=
  w.tree :: w.past

/-- Everything that has stood at the path of the store. -/
def nodes (w : Watch) : List Node :=
  w.trees.filterMap fun t ↦ (t.findNode w.store.path).toOption

theorem mem_nodes {w : Watch} {node : Node} {t : Tree} (ht : t ∈ w.trees)
    (found : t.findNode w.store.path = .ok node) : node ∈ w.nodes :=
  List.mem_filterMap.2 ⟨t, ht, by rw [found]; rfl⟩

/-! ### One whole version -/

/-- Entries and a time are those of a version that the file has had, or of no version at all. -/
def HasHad (w : Watch) (entries : Entries) (time : Option Int) : Prop :=
  (entries = {} ∧ time = none) ∨
    ∃ t ∈ w.trees, version? w.store.charset w.store.path t = some (entries, time)

/-- What the store holds: nothing before the first reload, and then what stood at its path in the
tree of the latest one. -/
def HoldsLastReload (w : Watch) : Prop :=
  (w.reloads = [] ∧ w.store.entries = {} ∧ w.store.modifiedAt = none) ∨
    ∃ t earlier, w.reloads = t :: earlier ∧
      version? w.store.charset w.store.path t = some (w.store.entries, w.store.modifiedAt)

/-- **The invariant of a store.** It holds one whole version, and every answer it has given was one
about a single version. -/
structure Faithful (w : Watch) : Prop where
  reloads_subset : ∀ t ∈ w.reloads, t ∈ w.trees
  holds : w.HoldsLastReload
  answers : ∀ qa ∈ w.answers, ∃ entries time, w.HasHad entries time ∧
    qa.2 = Store.answer ⟨w.store.path, w.store.charset, entries, time⟩ qa.1

theorem faithful_new (tree : Tree) (path : Path) (charset : Encoding) :
    Faithful { tree := tree, store := { path := path, charset := charset } } where
  reloads_subset := by simp
  holds := Or.inl ⟨rfl, rfl, rfl⟩
  answers := by simp

theorem Faithful.hasHad {w : Watch} (h : w.Faithful) :
    w.HasHad w.store.entries w.store.modifiedAt := by
  rcases h.holds with ⟨-, he, ht⟩ | ⟨t, earlier, hr, hv⟩
  · exact Or.inl ⟨he, ht⟩
  · exact Or.inr ⟨t, h.reloads_subset t (hr ▸ List.mem_cons_self), hv⟩

@[simp] theorem step_path (w : Watch) (e : Event) : (w.step e).store.path = w.store.path := by
  cases e <;> simp [step]

@[simp] theorem step_charset (w : Watch) (e : Event) :
    (w.step e).store.charset = w.store.charset := by
  cases e <;> simp [step]

theorem trees_subset_step (w : Watch) (e : Event) {t : Tree} (ht : t ∈ w.trees) :
    t ∈ (w.step e).trees := by
  cases e with
  | change tree => exact List.mem_cons_of_mem _ ht
  | refresh => exact ht
  | ask question => exact ht

theorem HasHad.step {w : Watch} {entries : Entries} {time : Option Int}
    (h : w.HasHad entries time) (e : Event) : (w.step e).HasHad entries time := by
  rcases h with h | ⟨t, ht, hv⟩
  · exact Or.inl h
  · exact Or.inr ⟨t, w.trees_subset_step e ht, by rwa [step_charset, step_path]⟩

/-- **Every event keeps the invariant.** Only a refresh that reloads changes what is held, and it
takes entries and time from the tree that it puts on record. -/
theorem Faithful.step {w : Watch} (h : w.Faithful) (e : Event) : (w.step e).Faithful := by
  -- answers refer to versions that the path has had, and a step only adds to these
  have old : ∀ qa ∈ w.answers, ∃ entries time, (w.step e).HasHad entries time ∧
      qa.2 =
        Store.answer ⟨(w.step e).store.path, (w.step e).store.charset, entries, time⟩ qa.1 := by
    intro qa hqa
    obtain ⟨entries, time, had, ha⟩ := h.answers qa hqa
    exact ⟨entries, time, had.step e, by rwa [step_charset, step_path]⟩
  cases e with
  | change tree =>
    exact ⟨fun t ht ↦ List.mem_cons_of_mem _ (h.reloads_subset t ht), h.holds, old⟩
  | refresh =>
    -- only a refresh that reloads changes what is held, and what it takes is the version of its
    -- tree
    have hr := Store.refreshes_refresh w.tree w.store
    cases reloaded : (w.store.refresh w.tree).reports .reloaded with
    | true =>
      refine ⟨?_, Or.inr ⟨w.tree, w.reloads, ?_, ?_⟩, old⟩
      · intro t ht
        simp only [Watch.step, reloaded, if_true] at ht
        rcases List.mem_cons.1 ht with rfl | ht
        · exact List.mem_cons_self
        · exact h.reloads_subset t ht
      · simp [Watch.step, reloaded]
      · rw [step_charset, step_path]
        exact hr.version?_eq reloaded
    | false =>
      have same : w.step .refresh = w := by
        simp [Watch.step, reloaded, hr.store_eq reloaded]
      rw [same]
      exact h
  | ask question =>
    refine ⟨h.reloads_subset, h.holds, fun qa hqa ↦ ?_⟩
    -- the new answer is given from the entries that are held, and these are a version by `h.holds`
    rcases List.mem_cons.1 hqa with rfl | hqa
    · exact ⟨w.store.entries, w.store.modifiedAt, h.hasHad.step _, rfl⟩
    · exact old qa hqa

theorem Faithful.run {w : Watch} (h : w.Faithful) (events : List Event) :
    (w.run events).Faithful := by
  induction events generalizing w with
  | nil => exact h
  | cons e es ih => exact ih (h.step e)

@[simp] theorem run_path (w : Watch) (events : List Event) :
    (w.run events).store.path = w.store.path := by
  induction events generalizing w with
  | nil => rfl
  | cons e es ih => exact (ih (w.step e)).trans (w.step_path e)

@[simp] theorem run_charset (w : Watch) (events : List Event) :
    (w.run events).store.charset = w.store.charset := by
  induction events generalizing w with
  | nil => rfl
  | cons e es ih => exact (ih (w.step e)).trans (w.step_charset e)

/-! ### What is held is current -/

/-- The bytes of a file, whether it can be read or not. -/
def contentOf? : Node → Option (List UInt8)
  | .file bytes _ => some bytes
  | .lockedFile bytes _ => some bytes
  | _ => none

/-- The entries and the time of the file at a path, whether it can be read or not. -/
def content? (charset : Encoding) (path : Path) (tree : Tree) :
    Option (Entries × Option Int) := do
  let node ← (tree.findNode path).toOption
  let text ← spell? charset (← contentOf? node)
  return (Entries.ofText text, Store.timeOf node)

theorem content?_of_found {charset : Encoding} {path : Path} {tree : Tree} {node : Node}
    {bytes : List UInt8} {text : List Char} (found : tree.findNode path = .ok node)
    (held : contentOf? node = some bytes) (spelt : spell? charset bytes = some text) :
    content? charset path tree = some (Entries.ofText text, Store.timeOf node) := by
  simp [content?, found, held, spelt, Except.toOption]

/-- A version that can be read is the content. -/
theorem content?_of_version? {charset : Encoding} {path : Path} {tree : Tree}
    {v : Entries × Option Int} (h : version? charset path tree = some v) :
    content? charset path tree = some v := by
  cases found : tree.findNode path with
  | error fault => simp [version?, found, Except.toOption] at h
  | ok node =>
    rw [version?_of_found found] at h
    obtain ⟨text, spelt, rfl⟩ := Option.map_eq_some_iff.1 h
    obtain ⟨bytes, held, spelt⟩ := Option.bind_eq_some_iff.1 spelt
    refine content?_of_found found ?_ spelt
    -- of all nodes only a file that is not locked gives its bytes to a reader
    cases node with
    | file => exact held
    | _ => simp [bytesOf?] at held

/-- What has a time is a file, locked or not, or a directory. -/
theorem isDirectory_of_timeOf {node : Node} {time : Int} (known : Store.timeOf node = some time)
    (empty : contentOf? node = none) : node.isDirectory = true := by
  cases node with
  | directory | lockedDirectory => rfl
  | file | lockedFile => exact absurd empty nofun
  | link | database | lockedDatabase => exact absurd known nofun

/-- Whatever has stood at the path at one time had the same bytes. -/
def TimesTell (w : Watch) : Prop :=
  ∀ m ∈ w.nodes, ∀ n ∈ w.nodes, (Store.timeOf m).isSome → Store.timeOf m = Store.timeOf n →
    contentOf? m = contentOf? n

/-- Files that have stood at the path at one time had the same bytes. -/
def FileTimesTell (w : Watch) : Prop :=
  ∀ m ∈ w.nodes, ∀ n ∈ w.nodes, ∀ b c, contentOf? m = some b → contentOf? n = some c →
    Store.timeOf m = Store.timeOf n → b = c

/-- What a refresh leaves is what the file at the path now holds. -/
def HoldsCurrent (w : Watch) : Prop :=
  content? w.store.charset w.store.path w.tree =
    some ((w.store.refresh w.tree).store.entries, (w.store.refresh w.tree).store.modifiedAt)

/-- A refresh that vouches for what the store holds. -/
def Vouches (w : Watch) : Prop :=
  (w.store.refresh w.tree).reports .reloaded = true ∨
    (w.store.refresh w.tree).reports .unchanged = true

/-- A directory has taken the place and the time of a file that was at the path. -/
def HasDirectoryInPlace (w : Watch) : Prop :=
  ∃ node bytes time, w.tree.findNode w.store.path = .ok node ∧ node.isDirectory = true ∧
    Store.timeOf node = some time ∧ Node.file bytes time ∈ w.nodes

/-- **With files told apart by their times**, a refresh that vouches leaves what the file holds,
unless a directory has taken the place and the time of the file. -/
theorem Faithful.current_or_directory {w : Watch} (h : w.Faithful) (tell : w.FileTimesTell)
    (vouches : w.Vouches) : w.HoldsCurrent ∨ w.HasDirectoryInPlace := by
  have hr := Store.refreshes_refresh w.tree w.store
  rcases vouches with reloaded | unchanged
  · exact Or.inl (content?_of_version? (hr.version?_eq reloaded))
  obtain ⟨node, found, known, bears⟩ := hr.bearsTimeOf unchanged
  obtain ⟨time, htime⟩ := Option.isSome_iff_exists.1 known
  -- the time was recorded by a reload, and that reload read a file
  rcases h.holds with ⟨-, -, hnone⟩ | ⟨t, earlier, hreloads, hv⟩
  · rw [htime, hnone] at bears
    exact absurd bears (by simp)
  rw [← bears, htime] at hv
  obtain ⟨bytes, text, hfile, hspell, hentries⟩ := exists_file_of_version? hv
  have hmem : Node.file bytes time ∈ w.nodes :=
    mem_nodes (h.reloads_subset t (hreloads ▸ List.mem_cons_self)) hfile
  cases held : contentOf? node with
  | none =>
    exact Or.inr ⟨node, bytes, time, found, isDirectory_of_timeOf htime held, htime, hmem⟩
  | some bytes' =>
    -- the file of the reload and the one that is there now have one time, so one content
    obtain rfl : bytes = bytes' :=
      tell _ hmem _ (mem_nodes List.mem_cons_self found) _ _ rfl held htime.symm
    have hstore : (w.store.refresh w.tree).store = w.store :=
      hr.store_eq (Refresh.reports_eq_false unchanged (by decide))
    left
    rw [HoldsCurrent, hstore, ← bears, hentries]
    exact content?_of_found found held hspell

/-- **With everything told apart by its time**, a refresh that vouches leaves what the file holds.
-/
theorem Faithful.current {w : Watch} (h : w.Faithful) (tell : w.TimesTell)
    (vouches : w.Vouches) : w.HoldsCurrent := by
  have tellFiles : w.FileTimesTell := by
    intro m hm n hn b c hb hc same
    cases known : Store.timeOf m with
    | none =>
      -- every file has a time
      cases m with
      | file | lockedFile => exact absurd known nofun
      | _ => exact absurd hb nofun
    | some time =>
      have alike := tell m hm n hn (by rw [known]; rfl) same
      exact Option.some.inj (hb.symm.trans (alike.trans hc))
  rcases h.current_or_directory tellFiles vouches with
    current | ⟨node, bytes, time, found, directory, htime, hmem⟩
  · exact current
  · -- the file of that time had bytes, and a directory has none
    have same := tell _ hmem _ (mem_nodes List.mem_cons_self found) rfl htime.symm
    cases node with
    | directory | lockedDirectory => exact absurd same nofun
    | _ => exact absurd directory Bool.false_ne_true

/-! ### Every run from a new store -/

/-- **A store holds one whole version of its file, and the current one as far as times tell.** After
any events, from a new store on:

* before the first reload it holds nothing; after it, exactly the entries and the time of the file
  in the tree of the latest reload;
* every answer it has given is one about a single version that the file has had, or about none;
* if times tell apart whatever has stood at the path, a refresh that reports `reloaded` or
  `unchanged` leaves the entries and the time of the file that is there now;
* if times only tell files apart, the one exception is a directory with the time of such a file. -/
theorem run_new_holds_one_version (tree : Tree) (path : Path) (charset : Encoding)
    (events : List Event) :
    let w := run { tree := tree, store := { path := path, charset := charset } } events
    ((w.reloads = [] ∧ w.store.entries = {} ∧ w.store.modifiedAt = none) ∨
        ∃ t earlier, w.reloads = t :: earlier ∧
          version? charset path t = some (w.store.entries, w.store.modifiedAt)) ∧
      (∀ qa ∈ w.answers, ∃ entries time, w.HasHad entries time ∧
        qa.2 = Store.answer ⟨path, charset, entries, time⟩ qa.1) ∧
      (w.TimesTell →
        (w.store.refresh w.tree).reports .reloaded = true ∨
            (w.store.refresh w.tree).reports .unchanged = true →
          content? charset path w.tree = some ((w.store.refresh w.tree).store.entries,
            (w.store.refresh w.tree).store.modifiedAt)) ∧
      (w.FileTimesTell →
        (w.store.refresh w.tree).reports .reloaded = true ∨
            (w.store.refresh w.tree).reports .unchanged = true →
          content? charset path w.tree = some ((w.store.refresh w.tree).store.entries,
              (w.store.refresh w.tree).store.modifiedAt) ∨
            ∃ node bytes time, w.tree.findNode path = .ok node ∧ node.isDirectory = true ∧
              Store.timeOf node = some time ∧ Node.file bytes time ∈ w.nodes) := by
  intro w
  have h : w.Faithful := (faithful_new tree path charset).run events
  have hp : w.store.path = path := run_path _ events
  have hc : w.store.charset = charset := run_charset _ events
  refine ⟨?_, ?_, fun tell vouches ↦ ?_, fun tell vouches ↦ ?_⟩
  · simpa only [HoldsLastReload, hp, hc] using h.holds
  · simpa only [hp, hc] using h.answers
  · simpa only [HoldsCurrent, hp, hc] using h.current tell vouches
  · simpa only [HoldsCurrent, HasDirectoryInPlace, hp, hc] using h.current_or_directory tell vouches

/-- A file is put in place of another with an older time; the store reads it, and is then found
unchanged over it. -/
theorem run_new_holds_older_version :
    let w := run { tree := lone [97, 58, 120] 5, store := { path := ⟨"/", ["htpasswd"]⟩ } }
      [.refresh, .change (lone [97, 58, 121] 3), .ask (.secret "a"), .refresh]
    w.TimesTell ∧ (w.store.refresh w.tree).reports .unchanged = true ∧
      content? {} ⟨"/", ["htpasswd"]⟩ w.tree =
        some ((w.store.refresh w.tree).store.entries,
          (w.store.refresh w.tree).store.modifiedAt) := by
  intro w
  have hpath : w.store.path = ⟨"/", ["htpasswd"]⟩ := run_path _ _
  have hnodes : w.nodes = [.file [97, 58, 121] 3, .file [97, 58, 120] 5] := by
    have htrees : w.trees = [lone [97, 58, 121] 3, lone [97, 58, 120] 5] := rfl
    have read : ∀ bytes time, ((lone bytes time).findNode ⟨"/", ["htpasswd"]⟩).toOption =
        some (.file bytes time) := fun bytes time ↦ by rw [findNode_lone, Except.toOption]
    rw [nodes, htrees, hpath]
    simp only [List.filterMap_cons, read, List.filterMap_nil]
  -- the two files have different times, which is all that `TimesTell` asks for
  have tell : w.TimesTell := by
    rw [TimesTell, hnodes]
    decide
  have older : w.store.modifiedAt = some 3 := by
    have first : spell? {} [97, 58, 120] = some ['a', ':', 'x'] := by decide
    have second : spell? {} [97, 58, 121] = some ['a', ':', 'y'] := by decide
    show ((Store.refresh (lone [97, 58, 121] 3) (Store.refresh (lone [97, 58, 120] 5)
      { path := ⟨"/", ["htpasswd"]⟩ }).store).store).modifiedAt = some 3
    rw [Store.refresh_lone (s := { path := ⟨"/", ["htpasswd"]⟩ }) rfl (by simp) first,
      Store.refresh_lone rfl (by simp [Store.reloaded]) second]
    rfl
  -- the file that is there bears the time that is kept, so nothing is read again
  have unchanged : (w.store.refresh w.tree).reports .unchanged = true := by
    have clean : hasNul w.store.path.text = false := by rw [hpath]; rfl
    have found : w.tree.findNode w.store.path = .ok (.file [97, 58, 121] 3) := by
      rw [hpath]
      exact findNode_lone _ _
    rw [Store.refresh_of_bearsTimeOf clean found ⟨rfl, older.symm⟩]
    rfl
  exact ⟨tell, unchanged,
    (run_new_holds_one_version _ _ _ _).2.2.1 tell (Or.inr unchanged)⟩

end Watch

end AuthRealm.Credential
