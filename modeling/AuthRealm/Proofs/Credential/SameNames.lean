import AuthRealm.Proofs.Credential.Refresh

/-!
# Files with the same names

Two credential files may have the same user names and not a secret in common. **A refresh does not
tell them apart** (`Store.SameNamed.refresh`): it ends with the same report or the same failure,
logs the same, and leaves two stores that have the same names again and the same time. What it logs
is made of the path, of how many names there are and of how many lines were malformed, and a reason
for a file that cannot be read. The reason is the one thing that may depend on what a file holds, so
two versions that differ have to be text, both of them.
-/

namespace AuthRealm.Credential

open Storage Text

namespace Entries

variable {e e' : Entries}

theorem mem_usernames_iff {u : String} : u ∈ e.usernames ↔ e.contains u = true := by
  rw [usernames, List.mem_map, contains, secret?, Option.isSome_map, List.find?_isSome]
  refine exists_congr fun p ↦ ?_
  rw [sorted, List.mem_mergeSort, beq_iff_eq]

theorem length_usernames (e : Entries) : e.usernames.length = e.size := by
  rw [usernames, List.length_map, sorted, List.length_mergeSort, size]

theorem size_eq_of_usernames (h : e.usernames = e'.usernames) : e.size = e'.size := by
  rw [← length_usernames, h, length_usernames]

theorem contains_eq_of_usernames (h : e.usernames = e'.usernames) (u : String) :
    e.contains u = e'.contains u := by
  rw [Bool.eq_iff_iff, ← mem_usernames_iff, h, mem_usernames_iff]

end Entries

/-- **Two trees hold the same names at a path**, for a reader of a charset: the path leads to the
same in both, or cannot be followed for the same reason, or it leads to files of the same time, both
of them text, with the same user names and as many malformed lines. -/
inductive SameNamesAt (charset : Encoding) (path : Path) (tree tree' : Tree) : Prop where
  | lost (fault : Fault) (h : tree.findNode path = .error fault)
      (h' : tree'.findNode path = .error fault)
  | same (node : Node) (h : tree.findNode path = .ok node) (h' : tree'.findNode path = .ok node)
  | files (time : Int) (bytes bytes' : List UInt8) (text text' : List Char)
      (h : tree.findNode path = .ok (.file bytes time))
      (h' : tree'.findNode path = .ok (.file bytes' time))
      (spelt : spell? charset bytes = some text) (spelt' : spell? charset bytes' = some text')
      (names : (Entries.ofText text).usernames = (Entries.ofText text').usernames)
      (malformed : Entries.malformedCount (lines text) = Entries.malformedCount (lines text'))

namespace Store

/-- Two stores have the same names, and have read their files at the same time. -/
structure SameNamed (s s' : Store) : Prop where
  path : s'.path = s.path
  charset : s'.charset = s.charset
  modifiedAt : s'.modifiedAt = s.modifiedAt
  names : s.entries.usernames = s'.entries.usernames

end Store

/-- Two refreshes differ in no more than secrets. -/
structure Refresh.SameNamed (r r' : Refresh) : Prop where
  store : r.store.SameNamed r'.store
  result : r.result = r'.result
  log : r.log = r'.log

namespace Store.SameNamed

variable {s s' : Store} {tree tree' : Tree}

theorem refl (s : Store) : s.SameNamed s :=
  ⟨rfl, rfl, rfl, rfl⟩

theorem lists (h : s.SameNamed s') (u : String) : s.lists u = s'.lists u :=
  Entries.contains_eq_of_usernames h.names u

theorem size (h : s.SameNamed s') : s.entries.size = s'.entries.size :=
  Entries.size_eq_of_usernames h.names

/-- Both have a secret of a name or neither has. -/
theorem secret? (h : s.SameNamed s') (u : String) :
    Option.Rel (fun _ _ ↦ True) (s.secret? u) (s'.secret? u) := by
  have listed : (s.secret? u).isSome = (s'.secret? u).isSome := h.lists u
  cases hs : s.secret? u <;> cases hs' : s'.secret? u <;> simp [hs, hs'] at listed ⊢

theorem bearsTimeOf_iff (h : s.SameNamed s') {node node' : Node}
    (time : timeOf node = timeOf node') :
    BearsTimeOf node s ↔ BearsTimeOf node' s' := by
  rw [BearsTimeOf, BearsTimeOf, time, h.modifiedAt]

theorem failed (h : s.SameNamed s') (reason : String) :
    (s.failed reason).SameNamed (s'.failed reason) := by
  refine ⟨h, ?_, ?_⟩
  · rw [Store.failed, Store.failed, h.size]
  · rw [Store.failed, Store.failed, h.size, h.path]

theorem reloaded (h : s.SameNamed s') (time : Option Int) {ls ls' : List (List Char)}
    (names : (Entries.ofLines ls).usernames = (Entries.ofLines ls').usernames)
    (malformed : Entries.malformedCount ls = Entries.malformedCount ls') :
    (s.reloaded time ls).SameNamed (s'.reloaded time ls') := by
  have size := Entries.size_eq_of_usernames names
  refine ⟨⟨h.path, h.charset, rfl, names⟩, ?_, ?_⟩
  · rw [Store.reloaded, Store.reloaded, size]
  · rw [Store.reloaded, Store.reloaded, size, malformed, h.path]

theorem taken (h : s.SameNamed s') (time : Option Int)
    (read : Except Failure (Except String (List (List Char)))) :
    (s.taken time read).SameNamed (s'.taken time read) := by
  rcases read with failure | reason | ls
  · exact ⟨h, rfl, rfl⟩
  · exact h.failed reason
  · exact h.reloaded time rfl rfl

/-- **Files with the same names are refreshed alike.** -/
theorem refresh (h : s.SameNamed s') (trees : SameNamesAt s.charset s.path tree tree') :
    (s.refresh tree).SameNamed (s'.refresh tree') := by
  cases clean : hasNul s.path.text with
  | true =>
    rw [refresh_of_nul clean, refresh_of_nul (h.path ▸ clean)]
    exact ⟨h, rfl, rfl⟩
  | false =>
    have clean' : hasNul s'.path.text = false := h.path ▸ clean
    -- both stores are over one path, and both trees have it lost, alike, or as files that list
    -- alike
    cases trees with
    | lost fault lost lost' =>
      rw [← h.path] at lost'
      by_cases missing : fault = .missing
      · subst missing
        rw [refresh_of_missing clean lost, refresh_of_missing clean' lost', h.size]
        exact ⟨h, rfl, rfl⟩
      · rw [refresh_of_unreachable clean lost missing, refresh_of_unreachable clean' lost' missing,
          h.path]
        exact h.failed _
    | same node found found' =>
      rw [← h.path] at found'
      -- the times of the stores agree, so both keep what they have or both read
      by_cases bears : BearsTimeOf node s
      · rw [refresh_of_bearsTimeOf clean found bears,
          refresh_of_bearsTimeOf clean' found' ((h.bearsTimeOf_iff rfl).1 bears), h.size]
        exact ⟨h, rfl, rfl⟩
      · rw [refresh_apply_of_stale clean found bears,
          refresh_apply_of_stale clean' found' (mt (h.bearsTimeOf_iff rfl).2 bears), h.path,
          h.charset]
        exact h.taken _ _
    | files time bytes bytes' text text' found found' spelt spelt' names malformed =>
      rw [← h.path] at found'
      rw [← h.charset] at spelt'
      by_cases bears : BearsTimeOf (.file bytes time) s
      · rw [refresh_of_bearsTimeOf clean found bears,
          refresh_of_bearsTimeOf clean' found' ((h.bearsTimeOf_iff rfl).1 bears), h.size]
        exact ⟨h, rfl, rfl⟩
      · rw [refresh_of_stale clean found bears rfl spelt,
          refresh_of_stale clean' found' (mt (h.bearsTimeOf_iff rfl).2 bears) rfl spelt']
        exact h.reloaded (some time) names malformed

end Store.SameNamed

end AuthRealm.Credential
