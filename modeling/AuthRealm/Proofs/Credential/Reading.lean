import AuthRealm.Proofs.Credential.Refresh
import AuthRealm.Proofs.Text.Charset
import AuthRealm.Proofs.Text.Decoding

/-!
# Which files can be read to the end

A refresh looks at the bytes at its path only if their time is not the one recorded (`Reads`), and
it ends without a report only where reading them ends without one. Over a path without a NUL, and in
a charset that reads the bytes or reports them, **every refresh reports** (`isReport_of_decoded`),
and bytes that spell no text are reported like a file that cannot be opened
(`refresh_of_malformed`). Two things end it: a name that stands for a mere transformation, at any
bytes that are read, and text that its decoder refuses (`refresh_of_refused`). In UTF-8 the bytes of
a text are read as that text (`refresh_of_utf8`).
-/

namespace AuthRealm.Credential.Store

open Storage Text

variable {tree : Tree} {s : Store} {cs : Charset} {bytes : List UInt8}

/-- The next refresh of a store reads bytes: they are at its path, with another time than the one
recorded. -/
def Reads (s : Store) (tree : Tree) (bytes : List UInt8) : Prop :=
  ∃ node, tree.findNode s.path = .ok node ∧ ¬ BearsTimeOf node s ∧ bytesOf? node = some bytes

theorem Reads.unique {bytes' : List UInt8} (reads : s.Reads tree bytes)
    (reads' : s.Reads tree bytes') : bytes = bytes' := by
  obtain ⟨node, found, -, read⟩ := reads
  obtain ⟨node', found', -, read'⟩ := reads'
  obtain rfl : node = node' := Except.ok.inj (found.symm.trans found')
  exact Option.some.inj (read.symm.trans read')

/-- What can be read at all is read like a file of its bytes. -/
theorem readLines_of_bytesOf? {node : Node} (read : bytesOf? node = some bytes)
    (charset : Encoding) (path : String) (time : Int) :
    readLines charset path node = readLines charset path (.file bytes time) := by
  cases node with
  | file bytes' time' =>
    obtain rfl : bytes' = bytes := Option.some.inj read
    rfl
  | _ => simp [bytesOf?] at read

/-- What a refresh does with the bytes that it reads. -/
theorem Reads.refresh_apply (reads : s.Reads tree bytes) (clean : hasNul s.path.text = false) :
    ∃ time, s.refresh tree =
      s.taken time (readLines s.charset s.path.text (.file bytes 0)) := by
  obtain ⟨node, found, stale, read⟩ := reads
  refine ⟨timeOf node, ?_⟩
  rw [refresh_apply_of_stale clean found stale, readLines_of_bytesOf? read _ _ 0]

/-- **Every refresh reports**, if the name is that of a charset that reads what is there, or reports
it. -/
theorem isReport_of_decoded (clean : hasNul s.path.text = false)
    (decoded : ∀ bytes, s.Reads tree bytes → ∃ cs, Charset.ofName s.charset.name = .ok cs ∧
      ∀ e, cs.decode s.charset.decoders bytes = .error e → e.isReport = true) :
    (s.refresh tree).isReport = true := by
  have h := refreshes_refresh tree s
  generalize s.refresh tree = r at h
  -- a refresh fails with an exception over a NUL in the path or where reading stops
  cases h with
  | noPath nul => simp [clean] at nul
  | stopped node failure clean found stale read =>
    cases hb : bytesOf? node with
    | none =>
      cases node with
      | file bytes time => simp [bytesOf?] at hb
      | _ => simp [readLines] at read
    | some bytes =>
      obtain ⟨cs, named, reported⟩ := decoded bytes ⟨node, found, stale, hb⟩
      rw [readLines_of_bytesOf? hb _ _ 0] at read
      -- the charset is known, so reading stops only at a text that its decoder refuses
      cases hd : cs.decode s.charset.decoders bytes with
      | ok text => simp [readLines, readBytes, named, hd] at read
      | error e => simp [readLines, readBytes, named, hd, reported e hd] at read
  | _ => rfl

/-- **Malformed bytes are reported** as a file that could not be read, and the entries stay. -/
theorem refresh_of_malformed {e : DecodeError} (clean : hasNul s.path.text = false)
    (named : Charset.ofName s.charset.name = .ok cs) (reads : s.Reads tree bytes)
    (malformed : cs.decode s.charset.decoders bytes = .error e) (reported : e.isReport = true) :
    s.refresh tree = s.failed e.message := by
  obtain ⟨time, refreshed⟩ := reads.refresh_apply clean
  rw [refreshed]
  simp [readLines, readBytes, named, malformed, reported, taken]

/-- **A new store reads what is at its path**: the version there, or nothing if the file is missing
or spells no text. -/
theorem version_of_new {r : Refresh} (h : Refreshes tree s r) (entries : s.entries = {})
    (time : s.modifiedAt = none) (reports : r.isReport = true) :
    (r.store.entries, r.store.modifiedAt) =
      (version? s.charset s.path tree).getD ({}, none) := by
  -- a version that cannot be read is none, and what has no entries and no time is kept
  have unread (nothing : version? s.charset s.path tree = none) (kept : r.store = s) :
      (r.store.entries, r.store.modifiedAt) =
        (version? s.charset s.path tree).getD ({}, none) := by
    rw [kept, entries, time, nothing, Option.getD_none]
  cases h with
  | noPath => exact absurd reports Bool.false_ne_true
  | missing clean absent => exact unread (by simp [version?, absent, Except.toOption]) rfl
  | unreachable fault clean lost => exact unread (by simp [version?, lost, Except.toOption]) rfl
  -- a store without a time takes no file for one that it has read
  | unchanged node clean found same =>
    obtain ⟨known, same⟩ := same
    rw [same, time] at known
    exact absurd known Bool.false_ne_true
  | stopped => exact absurd reports Bool.false_ne_true
  | unreadable node reason clean found stale read =>
    refine unread ?_ rfl
    rw [version?_of_found found]
    cases held : bytesOf? node with
    | none => rfl
    | some bytes =>
      cases spelt : spell? s.charset bytes with
      | none => simp [spelt]
      | some text =>
        have lines := read.symm.trans (readLines_of_spell? held spelt)
        cases lines
  | reloaded node bytes text clean found stale read spelt =>
    have version :=
      Refreshes.version?_eq (.reloaded node bytes text clean found stale read spelt) rfl
    rw [version, Option.getD_some]

/-- Bytes that are read under the name of a transformation end the refresh. -/
theorem refresh_of_transformation {e : CharsetError} (clean : hasNul s.path.text = false)
    (named : Charset.ofName s.charset.name = .error e) (reads : s.Reads tree bytes) :
    s.refresh tree = { store := s, result := .error (.charset e) } := by
  obtain ⟨time, refreshed⟩ := reads.refresh_apply clean
  rw [refreshed]
  simp [readLines, readBytes, named, taken]

/-- So does text that its decoder refuses without pointing to a byte of it. -/
theorem refresh_of_refused {e : DecodeError} (clean : hasNul s.path.text = false)
    (named : Charset.ofName s.charset.name = .ok cs) (reads : s.Reads tree bytes)
    (refused : cs.decode s.charset.decoders bytes = .error e) (unreported : e.isReport = false) :
    s.refresh tree = { store := s, result := .error (.decoding e) } := by
  obtain ⟨time, refreshed⟩ := reads.refresh_apply clean
  rw [refreshed]
  simp [readLines, readBytes, named, refused, unreported, taken]

/-- **A text that is written in UTF-8 is read**, by a store that expects UTF-8 and has recorded
another time. -/
theorem refresh_of_utf8 {text : String} {time : Int} (clean : hasNul s.path.text = false)
    (utf8 : Charset.ofName s.charset.name = .ok .utf8)
    (written : tree.findNode s.path = .ok (.file text.toUTF8.toList time))
    (new : s.modifiedAt ≠ some time) :
    s.refresh tree = s.reloaded (some time) (lines text.toList) := by
  have spelt : spell? s.charset text.toUTF8.toList = some text.toList := by
    simp only [spell?, utf8, Charset.decode_toUTF8, Except.toOption]
  exact refresh_of_stale clean written (fun bears ↦ new bears.2.symm) rfl spelt

/-- A file of another time, alone in its tree, is read. -/
theorem reads_lone {time : Int} (path : s.path = ⟨"/", ["htpasswd"]⟩)
    (other : s.modifiedAt ≠ some time) : s.Reads (lone bytes time) bytes := by
  refine ⟨.file bytes time, ?_, fun bears ↦ other bears.2.symm, rfl⟩
  rw [path]
  exact findNode_lone bytes time

end AuthRealm.Credential.Store
