import AuthRealm.Proofs.Credential.Reading

/-!
# A refresh is whole and can be repeated

Entries and time belong together, so a refresh that ended half-way would be worse than none: with
the time recorded and the entries not read, the file would count as unchanged for good. **Either a
whole version is taken over or nothing is** (`refresh_is_whole_and_repeatable`), whichever way the
refresh ends, also without a report.

What the same refresh does again is then told from what it did. One that did not reload has left its
store alone and is repeated to the letter (`refresh_of_kept`). One that reloaded has recorded the
time of the file that it read, and what bears that time is not read again (`refresh_of_reloaded`).
-/

namespace AuthRealm.Credential

open Storage Text

/-- The reason that a status gives for its failure. -/
def Status.reason? : Status → Option String
  | .failed reason => some reason
  | _ => none

theorem Status.isSome_reason?_iff (status : Status) :
    status.reason?.isSome = true ↔ status.name = "failed" := by
  cases status <;> simp [reason?, name]

namespace Store

variable {tree : Tree} {s : Store} {r : Refresh} {report : Report}

/-! ### The report -/

/-- **A report counts the entries as they are after it.** -/
theorem Refreshes.size_eq (h : Refreshes tree s r) (ended : r.result = .ok report) :
    report.size = r.store.entries.size := by
  cases h with
  | noPath => exact absurd ended nofun
  | stopped => exact absurd ended nofun
  | _ =>
    obtain rfl := Except.ok.inj ended
    rfl

/-! ### The same refresh again -/

/-- A refresh that does not reload is repeated. -/
theorem refresh_of_kept (kept : (s.refresh tree).reports .reloaded = false) :
    (s.refresh tree).store.refresh tree = s.refresh tree := by
  rw [(refreshes_refresh tree s).store_eq kept]

/-- A refresh that reloads is not repeated: the store is found unchanged. -/
theorem refresh_of_reloaded (reloaded : (s.refresh tree).reports .reloaded = true) :
    (s.refresh tree).store.refresh tree =
      { store := (s.refresh tree).store
        result := .ok ⟨.unchanged, (s.refresh tree).store.entries.size⟩ } := by
  have h := refreshes_refresh tree s
  generalize s.refresh tree = r at h reloaded
  cases h with
  | reloaded node bytes text clean found stale read spelt => exact refresh_reloaded clean found read
  | _ => exact absurd reloaded (by simp [Refresh.reports, failed, Except.toOption])

/-- **A refresh is whole and can be repeated.** For all stores and all trees:

* unless it reports a reload, it leaves the store as it was, also if it ends without a report; if it
  does, the store has the entries and the time of the version that stands at the path;
* a report counts the entries of the store after it, and it gives a reason exactly if its status is
  that of a failure;
* the same refresh again leaves the store as it is. If the first did not report a reload, the second
  is the same to the letter: store, report or failure, and log. If it did, the second finds the
  store unchanged and logs nothing. -/
theorem refresh_is_whole_and_repeatable (tree : Tree) (s : Store) :
    let r := s.refresh tree
    let again := r.store.refresh tree
    ((r.reports .reloaded = false → r.store = s) ∧
      (r.reports .reloaded = true → r.store.path = s.path ∧ r.store.charset = s.charset ∧
        version? s.charset s.path tree = some (r.store.entries, r.store.modifiedAt))) ∧
    (∀ report, r.result = .ok report → report.size = r.store.entries.size ∧
      (report.status.reason?.isSome = true ↔ report.status.name = "failed")) ∧
    again.store = r.store ∧
    (r.reports .reloaded = false → again = r) ∧
    (r.reports .reloaded = true →
      again.result = .ok ⟨.unchanged, r.store.entries.size⟩ ∧ again.log = []) := by
  intro r again
  have h : Refreshes tree s r := refreshes_refresh tree s
  refine ⟨⟨h.store_eq, fun reloaded ↦ ⟨h.path_eq, h.charset_eq, h.version?_eq reloaded⟩⟩,
    fun report ended ↦ ⟨h.size_eq ended, report.status.isSome_reason?_iff⟩,
    refresh_refresh_store, refresh_of_kept, fun reloaded ↦ ?_⟩
  have same : again = { store := r.store, result := .ok ⟨.unchanged, r.store.entries.size⟩ } :=
    refresh_of_reloaded reloaded
  rw [same]
  exact ⟨rfl, rfl⟩

/-- A file is read and then not read again. The next version of it, which breaks off after a good
line, leaves what was read alone, however often it is tried. -/
theorem refresh_is_repeatable_over_broken_file :
    let good := lone [97, 58, 120] 5
    let broken := lone [97, 58, 121, 10, 255] 6
    let read := refresh good { path := ⟨"/", ["htpasswd"]⟩ }
    let kept := read.store.refresh broken
    (read.reports .reloaded = true ∧
      (read.store.refresh good).result = .ok ⟨.unchanged, 1⟩) ∧
    kept.reports .reloaded = false ∧ kept.store = read.store ∧
      kept.store.refresh broken = kept := by
  intro good broken read kept
  have spelt : spell? {} [97, 58, 120] = some ['a', ':', 'x'] := by decide
  have first : read = reloaded { path := ⟨"/", ["htpasswd"]⟩ } (some 5) (lines ['a', ':', 'x']) :=
    refresh_lone rfl nofun spelt
  have reloaded : read.reports .reloaded = true := by rw [first]; rfl
  have one : read.store.entries.size = 1 := by rw [first]; decide
  -- the last byte is no UTF-8, and the decoder points to it
  have flaw : ∃ e, Charset.utf8.decode read.store.charset.decoders [97, 58, 121, 10, 255] =
      .error e ∧ e.isReport = true := ⟨_, rfl, rfl⟩
  obtain ⟨e, malformed, reported⟩ := flaw
  have unread : kept = read.store.failed e.message := by
    have clean : hasNul read.store.path.text = false := by rw [first]; rfl
    have named : Charset.ofName read.store.charset.name = .ok .utf8 := by rw [first]; rfl
    have stale : read.store.Reads broken [97, 58, 121, 10, 255] :=
      reads_lone (by rw [first]; rfl) (by rw [first]; decide)
    exact refresh_of_malformed clean named stale malformed reported
  have failed : kept.reports .reloaded = false := by rw [unread]; rfl
  -- the theorem at the good file gives the repetition, at the broken one what is kept
  obtain ⟨-, -, -, -, again⟩ := refresh_is_whole_and_repeatable good { path := ⟨"/", ["htpasswd"]⟩ }
  obtain ⟨⟨whole, -⟩, -, -, same, -⟩ := refresh_is_whole_and_repeatable broken read.store
  refine ⟨⟨reloaded, ?_⟩, failed, whole failed, same failed⟩
  rw [← one]
  exact (again reloaded).1

end Store

end AuthRealm.Credential
