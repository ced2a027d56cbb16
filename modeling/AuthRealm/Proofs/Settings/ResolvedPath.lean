import AuthRealm.Proofs.Storage.Following

/-!
# What a path setting stands for

A path setting is read in five steps: the base folder is written out, a home directory is written
out, the path is anchored at the working directory, its links are followed, and the system is asked
whether it gives the result up (`resolvePath_eq_ok_iff`).

The path is a location, so each of its names enters something (`exists_location_of_resolvePath`). On
a file system without loops it is also what its names lead to, and nothing is left to follow
(`linkFree_of_resolvePath`). Read again, it is passed through every step as it is: **the outcome is
a normal form** (`resolved_path_is_normal`).
-/

namespace AuthRealm

open Storage Text

/-- The names around a path setting are names: no link points to one with a NUL, and the working
directory is a location. -/
structure Surroundings.WellFormed (s : Surroundings) : Prop where
  links : s.tree.CleanLinks
  clean : Clean s.workDir
  proper : Proper s.workDir

namespace Settings

variable {settings : Settings} {s : Surroundings} {value : String} {p : Path}

/-! ### The steps -/

/-- **The steps in which a path setting is read.** -/
theorem resolvePath_eq_ok_iff : settings.resolvePath s value = .ok p ↔
    ∃ path, expandHome s (Path.ofText (settings.expandPlaceholder value)) = .ok path ∧
      hasNul path.text = false ∧
      p = Path.ofLocation (s.tree.resolve (path.within s.workDir)).location ∧
      s.tree.find p ≠ .error .tooManyLinks := by
  unfold resolvePath
  split
  · rename_i failed
    simp [failed]
  · rename_i path expanded
    simp only [expanded, Except.ok.injEq, exists_eq_left']
    -- the null byte is looked for before any link is followed
    by_cases nul : hasNul path.text = true
    · simp [nul]
    · rw [if_neg nul]
      simp only [nul]
      split
      · rename_i looped
        refine ⟨nofun, ?_⟩
        rintro ⟨-, rfl, found⟩
        exact absurd looped found
      · rename_i found
        rw [Except.ok.injEq]
        refine ⟨?_, fun ⟨_, same, _⟩ ↦ same.symm⟩
        rintro rfl
        exact ⟨trivial, rfl, found⟩

/-- Only the placeholder stands for something else. -/
theorem expandPlaceholder_of_absent (h : contains placeholder value.toList = false) :
    settings.expandPlaceholder value = value := by
  rw [expandPlaceholder, replace_of_not_contains _ h, String.ofList_toList]

/-- An absolute path has no home directory in front. -/
theorem expandHome_of_isAbsolute (absolute : p.isAbsolute = true) : expandHome s p = .ok p := by
  unfold expandHome
  split
  · rw [absolute, Bool.not_true, Bool.false_and, if_neg Bool.false_ne_true]
  · rfl

/-- A home directory is read from a text, or there is none to be found. -/
theorem homeOf_cases (s : Surroundings) (name : String) :
    (∃ text, homeOf s name = .ok (Path.ofText text)) ∨ homeOf s name = .error .noHome ∨
      homeOf s name = .error .embeddedNul := by
  unfold homeOf
  split
  · -- the home of the user running the program, then that of a named user
    dsimp only
    split
    · exact .inr (.inl rfl)
    · exact .inl ⟨_, rfl⟩
  · split
    · exact .inr (.inr rfl)
    · split
      · exact .inl ⟨_, rfl⟩
      · exact .inr (.inl rfl)

/-- Writing out a home directory leaves each name one name. -/
theorem isName_of_expandHome {text : String} (h : expandHome s (Path.ofText text) = .ok p) :
    ∀ n ∈ p.names, IsName n := by
  have given : ∀ n ∈ (Path.ofText text).names, IsName n :=
    fun n mem ↦ (Path.isName_of_mem_ofText mem).1
  unfold expandHome at h
  split at h
  · rename_i first rest names
    split at h
    · -- the home folder's names go in front of what followed the tilde
      rcases homeOf_cases s first with ⟨text', found⟩ | missing | missing
      · obtain rfl := Except.ok.inj (found ▸ h)
        rw [names] at given
        exact List.forall_mem_append.2 ⟨fun n mem ↦ (Path.isName_of_mem_ofText mem).1,
          fun n mem ↦ given n (List.mem_cons_of_mem _ mem)⟩
      · exact absurd (missing ▸ h) nofun
      · exact absurd (missing ▸ h) nofun
    · exact Except.ok.inj h ▸ given
  · exact Except.ok.inj h ▸ given

/-- A home directory is missing for other reasons than links. -/
theorem expandHome_ne_linkLoop (p : Path) (text : String) :
    expandHome s p ≠ .error (.linkLoop text) := by
  unfold expandHome
  split
  · rename_i first rest names
    split
    · rcases homeOf_cases s first with ⟨text', found⟩ | missing | missing
      · exact found ▸ nofun
      · exact missing ▸ by simp [Except.map]
      · exact missing ▸ by simp [Except.map]
    · exact nofun
  · exact nofun

/-! ### The outcome -/

/-- What a path setting stands for has no NUL. -/
theorem hasNul_of_resolvePath (links : s.tree.CleanLinks) (clean : Clean s.workDir)
    (h : settings.resolvePath s value = .ok p) : hasNul p.text = false := by
  obtain ⟨path, -, given, rfl, -⟩ := resolvePath_eq_ok_iff.1 h
  have names : Clean path.names := Path.clean_names given
  refine hasNul_ofLocation (Tree.clean_resolve links ?_)
  unfold Path.within
  split
  · exact names
  · exact clean.append names

theorem isName_of_within {path : Path} (proper : Proper s.workDir)
    (named : ∀ n ∈ path.names, IsName n) : ∀ n ∈ (path.within s.workDir).names, IsName n := by
  unfold Path.within
  split
  · exact named
  · exact List.forall_mem_append.2 ⟨fun n mem ↦ (proper n mem).1, named⟩

/-- **A path setting stands for a location**, loops or not. -/
theorem exists_location_of_resolvePath (proper : Proper s.workDir)
    (h : settings.resolvePath s value = .ok p) : ∃ l, p = Path.ofLocation l ∧ Proper l := by
  obtain ⟨path, expanded, -, rfl, -⟩ := resolvePath_eq_ok_iff.1 h
  exact ⟨_, rfl, Tree.proper_resolve _ (isName_of_within proper (isName_of_expandHome expanded))⟩

/-- **Without loops no link is left** on the way to the location. -/
theorem linkFree_of_resolvePath (noLoops : s.tree.NoLoops)
    (h : settings.resolvePath s value = .ok p) : s.tree.LinkFree p.names := by
  obtain ⟨path, -, -, rfl, -⟩ := resolvePath_eq_ok_iff.1 h
  obtain ⟨l, leads, resolved⟩ := Tree.follows_resolve noLoops (path.within s.workDir)
  rw [resolved]
  exact leads.linkFree (Tree.linkFree_nil _)

/-- **Without loops no setting is given up for its links.** -/
theorem resolvePath_ne_linkLoop (noLoops : s.tree.NoLoops) (proper : Proper s.workDir)
    (text : String) : settings.resolvePath s value ≠ .error (.linkLoop text) := by
  unfold resolvePath
  split
  · rename_i e failed
    intro looped
    exact expandHome_ne_linkLoop _ text (failed.trans looped)
  · rename_i path expanded
    have named := isName_of_within proper (isName_of_expandHome expanded)
    obtain ⟨l, leads, resolved⟩ := Tree.follows_resolve noLoops (path.within s.workDir)
    have proper' := Tree.proper_resolve s.tree named
    dsimp only
    rw [resolved] at proper' ⊢
    -- the resolved location has no link on its way, so looking it up follows none
    have found := Tree.find_ne_tooManyLinks proper' (leads.linkFree (Tree.linkFree_nil _))
    split
    · exact nofun
    · split
      · rename_i looped
        exact absurd looped found
      · exact nofun

/-- **What is read back is passed through every step as it is.** -/
theorem resolvePath_text {l : Location} (clean : Clean l) (proper : Proper l)
    (free : s.tree.LinkFree l) (noLoops : s.tree.NoLoops)
    (plain : contains placeholder (Path.ofLocation l).text.toList = false) :
    settings.resolvePath s (Path.ofLocation l).text = .ok (Path.ofLocation l) := by
  have absolute : (Path.ofLocation l).isAbsolute = true := rfl
  have leads : s.tree.Follows [] l l :=
    Tree.follows_of_linkFree [] (fun n mem ↦ (proper n mem).2) free
  refine resolvePath_eq_ok_iff.2 ⟨Path.ofLocation l, ?_, hasNul_ofLocation clean, ?_,
    Tree.find_ne_tooManyLinks proper free⟩
  · rw [expandPlaceholder_of_absent plain, Path.ofText_text proper,
      expandHome_of_isAbsolute absolute]
  · rw [Path.within, if_pos absolute, leads.resolve_eq (p := Path.ofLocation l) noLoops]

end Settings

end AuthRealm
