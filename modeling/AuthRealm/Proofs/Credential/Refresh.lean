import AuthRealm.Credential.Store

/-!
# What a refresh can do

`Refreshes` lists the seven ways in which a refresh ends, each with the condition under which it
ends that way; `refreshes_refresh` says that there is no eighth. Every other fact about refreshing
is read off that list, so `Store.refresh` is opened here and nowhere else.

Two views go with it. `version?` is what a tree holds at a path, apart from any store: the entries
of the text that the bytes there spell, and the time that goes with them. A refresh that reloads
leaves exactly that version behind (`Refreshes.version?_eq`), and every other refresh leaves the
store alone (`Refreshes.store_eq`).

**A second refresh on the same tree finds nothing new**: the store is the same
(`refresh_refresh_store`) and there is a report if there was one (`refresh_refresh_isReport`). An
operation that refreshes twice may therefore be read as one that refreshes once.
-/

namespace AuthRealm.Credential

open Storage Text

/-! ### The version of a file -/

/-- The bytes that reading a node gives. A directory has none, a locked file keeps its own, and
those of an account database are not held by a tree. -/
def bytesOf? : Node → Option (List UInt8)
  | .file bytes _ => some bytes
  | _ => none

/-- The text that bytes spell in an encoding. -/
def spell? (charset : Encoding) (bytes : List UInt8) : Option (List Char) :=
  match Charset.ofName charset.name with
  | .ok cs => (cs.decode charset.decoders bytes).toOption
  | .error _ => none

/-- What a tree holds at a path for a reader of a charset: the entries of the text there, and its
time. -/
def version? (charset : Encoding) (path : Path) (tree : Tree) : Option (Entries × Option Int) := do
  let node ← (tree.findNode path).toOption
  let text ← spell? charset (← bytesOf? node)
  return (Entries.ofText text, Store.timeOf node)

theorem version?_of_found {charset : Encoding} {path : Path} {tree : Tree} {node : Node}
    (found : tree.findNode path = .ok node) :
    version? charset path tree =
      ((bytesOf? node).bind (spell? charset)).map fun text ↦
        (Entries.ofText text, Store.timeOf node) := by
  rw [version?, found]
  cases hb : bytesOf? node with
  | none => simp [Except.toOption, hb]
  | some bytes => cases ht : spell? charset bytes <;> simp [Except.toOption, hb, ht]

/-- A node with bytes and a known time is a file. -/
theorem eq_file_of_bytesOf? {node : Node} {bytes : List UInt8} {time : Int}
    (hb : bytesOf? node = some bytes) (ht : Store.timeOf node = some time) :
    node = .file bytes time := by
  cases node with
  | file b t =>
    obtain rfl : b = bytes := by simpa [bytesOf?] using hb
    obtain rfl : t = time := by simpa [Store.timeOf] using ht
    rfl
  | _ => simp [bytesOf?] at hb

/-- The file that a version with a known time was read from. -/
theorem exists_file_of_version? {charset : Encoding} {path : Path} {tree : Tree} {entries : Entries}
    {time : Int} (h : version? charset path tree = some (entries, some time)) :
    ∃ bytes text, tree.findNode path = .ok (.file bytes time) ∧ spell? charset bytes = some text ∧
      entries = Entries.ofText text := by
  cases found : tree.findNode path with
  | error fault => simp [version?, found, Except.toOption] at h
  | ok node =>
    rw [version?_of_found found] at h
    obtain ⟨text, ht, he⟩ := Option.map_eq_some_iff.1 h
    obtain ⟨bytes, hb, hs⟩ := Option.bind_eq_some_iff.1 ht
    rw [Prod.mk.injEq] at he
    obtain rfl := eq_file_of_bytesOf? hb he.2
    exact ⟨bytes, text, rfl, hs, he.1.symm⟩

/-- A tree with one file in it. -/
def lone (bytes : List UInt8) (time : Int) : Tree :=
  ⟨[(["htpasswd"], .file bytes time)]⟩

theorem find_lone (bytes : List UInt8) (time : Int) :
    (lone bytes time).find ⟨"/", ["htpasswd"]⟩ = .ok ["htpasswd"] := by
  have held : (lone bytes time).get? ["htpasswd"] = some (.file bytes time) := rfl
  have walked : (lone bytes time).walk false Tree.maxLinks [] ["htpasswd"] = .ok ["htpasswd"] := by
    have top : (lone bytes time).obstacle? [] = none := rfl
    have short : ¬ Tree.maxNameBytes < "htpasswd".utf8ByteSize := by decide
    simp [Tree.walk, top, short, held]
  exact (if_neg (by decide)).trans walked

theorem findNode_lone (bytes : List UInt8) (time : Int) :
    (lone bytes time).findNode ⟨"/", ["htpasswd"]⟩ = .ok (.file bytes time) := by
  have held : (lone bytes time).get? ["htpasswd"] = some (.file bytes time) := rfl
  simp only [Tree.findNode, find_lone, held]

/-- There is no file in a tree with nothing in it. -/
theorem findNode_empty :
    (Tree.mk []).findNode ⟨"/", ["htpasswd"]⟩ = .error .missing := by
  have walked : (Tree.mk []).walk false Tree.maxLinks [] ["htpasswd"] = .error .missing := by
    have top : (Tree.mk []).obstacle? [] = none := rfl
    have short : ¬ Tree.maxNameBytes < "htpasswd".utf8ByteSize := by decide
    have absent : (Tree.mk []).get? ["htpasswd"] = none := rfl
    simp [Tree.walk, top, short, absent]
  have found : (Tree.mk []).find ⟨"/", ["htpasswd"]⟩ = .error .missing :=
    (if_neg (by decide)).trans walked
  simp only [Tree.findNode, found]

namespace Store

/-- Reading gives the lines of what the bytes spell. -/
theorem readLines_eq_ok {charset : Encoding} {path : String} {node : Node} {ls : List (List Char)}
    (h : readLines charset path node = .ok (.ok ls)) :
    ∃ bytes text, bytesOf? node = some bytes ∧ spell? charset bytes = some text ∧
      ls = lines text := by
  -- only a file has bytes; they are decoded by the charset, and a text is cut into its lines
  cases node with
  | file bytes time =>
    refine ⟨bytes, ?_⟩
    simp only [readLines, readBytes] at h
    cases hc : Charset.ofName charset.name with
    | error e => simp [hc] at h
    | ok cs =>
      rw [hc] at h
      cases hd : cs.decode charset.decoders bytes with
      | error e => cases reported : e.isReport <;> simp [hd, reported] at h
      | ok text =>
        refine ⟨text, rfl, by simp [spell?, hc, hd, Except.toOption], ?_⟩
        simpa [hd] using h.symm
  | _ => simp [readLines] at h

/-- What a node spells is read as its lines. -/
theorem readLines_of_spell? {charset : Encoding} {path : String} {node : Node} {bytes : List UInt8}
    {text : List Char} (hb : bytesOf? node = some bytes) (ht : spell? charset bytes = some text) :
    readLines charset path node = .ok (.ok (lines text)) := by
  cases hc : Charset.ofName charset.name with
  | error e => simp [spell?, hc] at ht
  | ok cs =>
    have hd : cs.decode charset.decoders bytes = .ok text := by
      cases hd : cs.decode charset.decoders bytes with
      | error e => simp [spell?, hc, hd, Except.toOption] at ht
      | ok text' =>
        simp only [spell?, hc, hd, Except.toOption, Option.some.injEq] at ht
        rw [ht]
    cases node with
    | file bytes' time =>
      obtain rfl : bytes' = bytes := by simpa [bytesOf?] using hb
      simp [readLines, readBytes, hc, hd]
    | _ => simp [bytesOf?] at hb

/-! ### Every way a refresh ends -/

/-- A node bears the time that a store has recorded. A time that is not known is never the one
recorded. -/
def BearsTimeOf (node : Node) (s : Store) : Prop :=
  (timeOf node).isSome ∧ timeOf node = s.modifiedAt

/-- **Everything a refresh can do**, with the condition under which it does it. -/
inductive Refreshes (tree : Tree) (s : Store) : Refresh → Prop where
  /-- The path has a NUL, and is not looked up. -/
  | noPath (nul : hasNul s.path.text = true) :
      Refreshes tree s { store := s, result := .error (.path .embeddedNul) }
  /-- Nothing stands at the path. -/
  | missing (clean : hasNul s.path.text = false) (absent : tree.findNode s.path = .error .missing) :
      Refreshes tree s { store := s, result := .ok ⟨.missing, s.entries.size⟩ }
  /-- The path cannot be followed. -/
  | unreachable (fault : Fault) (clean : hasNul s.path.text = false)
      (lost : tree.findNode s.path = .error fault) (other : fault ≠ .missing) :
      Refreshes tree s (s.failed (fault.message s.path.text))
  /-- The time is the one recorded. -/
  | unchanged (node : Node) (clean : hasNul s.path.text = false)
      (found : tree.findNode s.path = .ok node) (same : BearsTimeOf node s) :
      Refreshes tree s { store := s, result := .ok ⟨.unchanged, s.entries.size⟩ }
  /-- Reading ends without an answer. -/
  | stopped (node : Node) (failure : Failure) (clean : hasNul s.path.text = false)
      (found : tree.findNode s.path = .ok node) (stale : ¬ BearsTimeOf node s)
      (read : readLines s.charset s.path.text node = .error failure) :
      Refreshes tree s { store := s, result := .error failure }
  /-- The bytes cannot be read, or spell no text. -/
  | unreadable (node : Node) (reason : String) (clean : hasNul s.path.text = false)
      (found : tree.findNode s.path = .ok node) (stale : ¬ BearsTimeOf node s)
      (read : readLines s.charset s.path.text node = .ok (.error reason)) :
      Refreshes tree s (s.failed reason)
  /-- The text is read. -/
  | reloaded (node : Node) (bytes : List UInt8) (text : List Char)
      (clean : hasNul s.path.text = false) (found : tree.findNode s.path = .ok node)
      (stale : ¬ BearsTimeOf node s) (read : bytesOf? node = some bytes)
      (spelt : spell? s.charset bytes = some text) :
      Refreshes tree s (s.reloaded (timeOf node) (lines text))

theorem refreshes_refresh (tree : Tree) (s : Store) : Refreshes tree s (s.refresh tree) := by
  -- one constructor for each branch of the refresh, in the order of the program
  unfold refresh
  split
  · rename_i nul
    exact .noPath nul
  · rename_i clean
    rw [Bool.not_eq_true] at clean
    split
    · rename_i absent
      exact .missing clean absent
    · rename_i fault other lost
      exact .unreachable fault clean lost fun h ↦ other (h ▸ rfl)
    · rename_i node found
      split
      · rename_i same
        rw [Bool.and_eq_true, beq_iff_eq] at same
        exact .unchanged node clean found same
      · rename_i stale
        rw [Bool.and_eq_true, beq_iff_eq] at stale
        split
        · rename_i failure read
          exact .stopped node failure clean found stale read
        · rename_i reason read
          exact .unreadable node reason clean found stale read
        · -- what has been read are the lines of a text that the bytes of the node spell
          rename_i ls read
          obtain ⟨bytes, text, hb, ht, rfl⟩ := readLines_eq_ok read
          exact .reloaded node bytes text clean found stale hb ht

end Store

/-! ### What is kept and what is replaced -/

/-- Whether a refresh reports a status. -/
def Refresh.reports (r : Refresh) (status : Status) : Bool :=
  r.result.toOption.map (·.status) == some status

/-- A refresh reports one status. -/
theorem Refresh.reports_eq_false {r : Refresh} {status other : Status}
    (h : r.reports status = true) (ne : other ≠ status) : r.reports other = false := by
  rw [reports, beq_iff_eq] at h
  rw [reports, h, ← Bool.not_eq_true, beq_iff_eq]
  exact fun same ↦ ne (Option.some.inj same).symm

/-- Whether there is a report. -/
def Refresh.isReport (r : Refresh) : Bool :=
  r.result.toOption.isSome

theorem Refresh.isReport_iff {r : Refresh} :
    r.isReport = true ↔ ∃ report, r.result = .ok report := by
  cases h : r.result <;> simp [isReport, h, Except.toOption]

namespace Store

namespace Refreshes

variable {tree : Tree} {s : Store} {r : Refresh}

theorem path_eq (h : Refreshes tree s r) : r.store.path = s.path := by
  cases h <;> rfl

theorem charset_eq (h : Refreshes tree s r) : r.store.charset = s.charset := by
  cases h <;> rfl

/-- **A reload takes entries and time from one version**, the one that stands at the path. -/
theorem version?_eq (h : Refreshes tree s r) (reloaded : r.reports .reloaded = true) :
    version? s.charset s.path tree = some (r.store.entries, r.store.modifiedAt) := by
  cases h with
  | reloaded node bytes text clean found stale read spelt =>
    rw [version?_of_found found, read, Option.bind_some, spelt]
    rfl
  | _ => exact absurd reloaded (by simp [Refresh.reports, failed, Except.toOption])

/-- **Whatever is not a reload leaves the store alone.** -/
theorem store_eq (h : Refreshes tree s r) (kept : r.reports .reloaded = false) : r.store = s := by
  cases h with
  | reloaded node bytes text clean found stale read spelt =>
    exact absurd kept (by simp [Refresh.reports, Store.reloaded, Except.toOption])
  | _ => rfl

/-- A store is found unchanged only by the time of what stands at its path. -/
theorem bearsTimeOf (h : Refreshes tree s r) (same : r.reports .unchanged = true) :
    ∃ node, tree.findNode s.path = .ok node ∧ BearsTimeOf node s := by
  cases h with
  | unchanged node clean found bears => exact ⟨node, found, bears⟩
  | _ => exact absurd same (by simp [Refresh.reports, failed, Store.reloaded, Except.toOption])

end Refreshes

variable (tree : Tree) (s : Store)

@[simp] theorem refresh_path : (s.refresh tree).store.path = s.path :=
  (refreshes_refresh tree s).path_eq

@[simp] theorem refresh_charset : (s.refresh tree).store.charset = s.charset :=
  (refreshes_refresh tree s).charset_eq

/-! ### Refreshing twice -/

variable {tree s}

/-- The refresh of a store for what reading a file of some time gives. -/
def taken (s : Store) (time : Option Int) :
    Except Failure (Except String (List (List Char))) → Refresh
  | .error failure => { store := s, result := .error failure }
  | .ok (.error reason) => s.failed reason
  | .ok (.ok ls) => s.reloaded time ls

/-- A file is read when its time is not the one recorded. -/
theorem refresh_apply_of_stale {node : Node} (clean : hasNul s.path.text = false)
    (found : tree.findNode s.path = .ok node) (stale : ¬ BearsTimeOf node s) :
    s.refresh tree = s.taken (timeOf node) (readLines s.charset s.path.text node) := by
  have guard : ((timeOf node).isSome && timeOf node == s.modifiedAt) = false := by
    rw [← Bool.not_eq_true, Bool.and_eq_true, beq_iff_eq]
    exact stale
  rcases read : readLines s.charset s.path.text node with failure | reason | ls <;>
    simp [refresh, clean, found, guard, read, taken]

theorem refresh_of_stale {node : Node} {bytes : List UInt8} {text : List Char}
    (clean : hasNul s.path.text = false) (found : tree.findNode s.path = .ok node)
    (stale : ¬ BearsTimeOf node s) (read : bytesOf? node = some bytes)
    (spelt : spell? s.charset bytes = some text) :
    s.refresh tree = s.reloaded (timeOf node) (lines text) := by
  rw [refresh_apply_of_stale clean found stale, readLines_of_spell? read spelt, taken]

/-- A path with a NUL is not looked up. -/
theorem refresh_of_nul (nul : hasNul s.path.text = true) :
    s.refresh tree = { store := s, result := .error (.path .embeddedNul) } := by
  simp [refresh, nul]

/-- A path that cannot be followed is reported. -/
theorem refresh_of_unreachable {fault : Fault} (clean : hasNul s.path.text = false)
    (lost : tree.findNode s.path = .error fault) (other : fault ≠ .missing) :
    s.refresh tree = s.failed (fault.message s.path.text) := by
  cases fault <;> first | exact absurd rfl other | simp [refresh, clean, lost]

/-- Where nothing stands, nothing is read. -/
theorem refresh_of_missing (clean : hasNul s.path.text = false)
    (absent : tree.findNode s.path = .error .missing) :
    s.refresh tree = { store := s, result := .ok ⟨.missing, s.entries.size⟩ } := by
  simp [refresh, clean, absent]

/-- A file whose time is the one recorded is not read. -/
theorem refresh_of_bearsTimeOf {node : Node} (clean : hasNul s.path.text = false)
    (found : tree.findNode s.path = .ok node) (same : BearsTimeOf node s) :
    s.refresh tree = { store := s, result := .ok ⟨.unchanged, s.entries.size⟩ } := by
  have guard : ((timeOf node).isSome && timeOf node == s.modifiedAt) = true := by
    rw [Bool.and_eq_true, beq_iff_eq]
    exact same
  simp [refresh, clean, found, guard]

/-- A file of another time, alone in its tree, is read. -/
theorem refresh_lone {bytes : List UInt8} {text : List Char} {time : Int}
    (path : s.path = ⟨"/", ["htpasswd"]⟩) (other : s.modifiedAt ≠ some time)
    (spelt : spell? s.charset bytes = some text) :
    s.refresh (lone bytes time) = s.reloaded (some time) (lines text) := by
  have clean : hasNul s.path.text = false := by rw [path]; rfl
  have found : (lone bytes time).findNode s.path = .ok (.file bytes time) := by
    rw [path]
    exact findNode_lone bytes time
  exact refresh_of_stale clean found (fun bears ↦ other bears.2.symm) rfl spelt

theorem isReport_refresh_lone {bytes : List UInt8} {text : List Char} {time : Int}
    (path : s.path = ⟨"/", ["htpasswd"]⟩) (other : s.modifiedAt ≠ some time)
    (spelt : spell? s.charset bytes = some text) :
    (s.refresh (lone bytes time)).isReport = true := by
  rw [refresh_lone path other spelt]
  rfl

/-- What has been read is not read again: nothing but a file has bytes, and the time now recorded is
that of the file. -/
theorem refresh_reloaded {node : Node} {bytes : List UInt8} {ls : List (List Char)}
    (clean : hasNul s.path.text = false) (found : tree.findNode s.path = .ok node)
    (read : bytesOf? node = some bytes) :
    (s.reloaded (timeOf node) ls).store.refresh tree =
      { store := (s.reloaded (timeOf node) ls).store
        result := .ok ⟨.unchanged, (Entries.ofLines ls).size⟩ } := by
  cases node with
  | file bytes time =>
    exact refresh_of_bearsTimeOf (s := (s.reloaded (some time) ls).store) clean found ⟨rfl, rfl⟩
  | _ => exact absurd read nofun

/-- **Refreshing twice is refreshing once.** -/
theorem refresh_refresh_store :
    ((s.refresh tree).store.refresh tree).store = (s.refresh tree).store := by
  have h := refreshes_refresh tree s
  generalize hr : s.refresh tree = r at h
  cases h with
  | reloaded node bytes text clean found stale read spelt =>
    rw [refresh_reloaded clean found read]
  | _ => exact congrArg Refresh.store hr

/-- **And the second refresh reports if the first did.** -/
theorem refresh_refresh_isReport (h : (s.refresh tree).isReport = true) :
    ((s.refresh tree).store.refresh tree).isReport = true := by
  have h' := refreshes_refresh tree s
  generalize hr : s.refresh tree = r at h h'
  cases h' with
  | reloaded node bytes text clean found stale read spelt =>
    rw [refresh_reloaded clean found read]
    rfl
  | _ =>
    rw [← hr] at h
    exact h

/-- **Stores that are refreshed to the same store** are refreshed to the same failure, if to any. -/
theorem result_of_same_store {s' : Store}
    (same : (s.refresh tree).store = (s'.refresh tree).store) {e : Failure}
    (stopped : (s.refresh tree).result = .error e) : (s'.refresh tree).result = .error e := by
  have kept : ∀ {s : Store} {e : Failure}, (s.refresh tree).result = .error e →
      (s.refresh tree).store = s := fun {s _} stopped ↦
    (refreshes_refresh tree s).store_eq (by simp [Refresh.reports, stopped, Except.toOption])
  cases hr : (s'.refresh tree).result with
  | error e' =>
    obtain rfl : s = s' := (kept stopped).symm.trans (same.trans (kept hr))
    rw [← hr, stopped]
  | ok report =>
    -- had the other one reported, it would report again, and its store is the first one
    have again := refresh_refresh_isReport (Refresh.isReport_iff.2 ⟨report, hr⟩)
    rw [← same, kept stopped, Refresh.isReport, stopped] at again
    exact absurd again Bool.false_ne_true

end Store

end AuthRealm.Credential
