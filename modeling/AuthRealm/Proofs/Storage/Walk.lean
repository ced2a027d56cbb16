import AuthRealm.Storage.Tree
import AuthRealm.Proofs.Lookup

/-!
# A path that has come to be

Where a path leads is known before anything stands there. **Once something is placed at that
location, the path leads to it** (`walk_place`): placing changes the tree at one location, and at
the directory above it no more than the time (`sameAt_place_of_ne`), so every step of the walk is
the same but the last. What permissions keep from the program stays the same too.

Whoever only looks what a path names **fails for its length or for permissions, and for nothing
else** (`namesWhere_eq_error_iff`).
-/

namespace AuthRealm.Storage.Tree

variable {t : Tree} {k l : Location} {n : Node}

theorem get?_nil (t : Tree) : t.get? [] = some (.directory none) := rfl

/-- In an empty tree a path leads to nothing but the root. -/
theorem findNode_of_empty {p : Path} (h : (Tree.mk []).findNode p = .ok n) :
    n = .directory none := by
  unfold findNode at h
  split at h
  · exact absurd h nofun
  · rename_i l _
    by_cases root : l = []
    · rw [root, get?_nil] at h
      exact (Except.ok.inj h).symm
    · have absent : (Tree.mk []).get? l = none := if_neg root
      rw [absent] at h
      exact absurd h nofun

theorem get?_put_self (h : l ≠ []) : (t.put l n).get? l = some n := by
  simp [get?, put, h]

theorem get?_put_of_ne (h : k ≠ l) : (t.put l n).get? k = t.get? k := by
  by_cases root : k = []
  · rw [root, get?_nil, get?_nil]
  · simp [get?, put, root, Ne.symm h, find?_filter_of_ne h]

/-- Of two trees the one has at a location what the other has, or a directory of another time. -/
def SameAt (t t' : Tree) (k : Location) : Prop :=
  t'.get? k = t.get? k ∨
    ∃ n time, n.isDirectory = true ∧ t.get? k = some n ∧ t'.get? k = some (n.withTime time)

theorem isDirectory_withTime (n : Node) (time : Option Int) :
    (n.withTime time).isDirectory = n.isDirectory := by
  cases n <;> rfl

theorem SameAt.isDirectoryAt {t' : Tree} (h : SameAt t t' k) :
    t'.isDirectoryAt k = t.isDirectoryAt k := by
  rcases h with h | ⟨n, time, -, held, held'⟩
  · rw [Tree.isDirectoryAt, h, Tree.isDirectoryAt]
  · rw [Tree.isDirectoryAt, Tree.isDirectoryAt, held, held', Option.any_some, Option.any_some,
      isDirectory_withTime]

theorem SameAt.isSealedAt {t' : Tree} (h : SameAt t t' k) : t'.isSealedAt k = t.isSealedAt k := by
  rcases h with h | ⟨n, time, -, held, held'⟩
  · rw [Tree.isSealedAt, h, Tree.isSealedAt]
  · rw [Tree.isSealedAt, Tree.isSealedAt, held, held']
    cases n <;> rfl

/-- What is no directory is the same in both. -/
theorem SameAt.get? {t' : Tree} (h : SameAt t t' k) (other : t.isDirectoryAt k = false) :
    t'.get? k = t.get? k := by
  rcases h with h | ⟨n, time, directory, held, -⟩
  · exact h
  · rw [Tree.isDirectoryAt, held, Option.any_some, directory] at other
    exact absurd other nofun

theorem SameAt.obstacle?_eq {t' : Tree} (h : SameAt t t' k) : t'.obstacle? k = t.obstacle? k := by
  rw [obstacle?, h.isDirectoryAt, h.isSealedAt, obstacle?]

/-- What is no link is none in the other. -/
theorem SameAt.exists_noLink {t' : Tree} (h : SameAt t t' k) (held : t.get? k = some n)
    (noLink : ∀ target, n ≠ .link target) :
    ∃ n', t'.get? k = some n' ∧ ∀ target, n' ≠ .link target := by
  rcases h with h | ⟨m, time, directory, -, held'⟩
  · exact ⟨n, h.trans held, noLink⟩
  · refine ⟨_, held', fun target link ↦ ?_⟩
    have other := isDirectory_withTime m time
    rw [link, directory] at other
    exact absurd other nofun

/-- Names are looked up in directories only. -/
theorem isDirectoryAt_of_obstacle? (inside : t.obstacle? k = none) : t.isDirectoryAt k = true := by
  unfold obstacle? at inside
  split at inside
  · exact absurd inside nofun
  · rename_i directory
    simpa using directory

/-- Telling a directory of a change leaves it one, and leaves alone all else. -/
theorem sameAt_touchParent (t : Tree) (l k : Location) : SameAt t (t.touchParent l) k := by
  unfold touchParent
  split
  · exact .inl rfl
  · split
    · exact .inl rfl
    · rename_i parent root
      split
      · rename_i n found
        split
        · rename_i directory
          -- the folder gets a new time only, so it is the one location to differ
          by_cases same : k = l.dropLast
          · have nonroot : l.dropLast ≠ [] := by simpa using root
            subst same
            exact .inr ⟨n, none, directory, found, get?_put_self nonroot⟩
          · exact .inl (get?_put_of_ne same)
        · exact .inl rfl
      · exact .inl rfl

theorem get?_place_database (number : Nat) (h : l ≠ []) :
    (t.place l (.database number)).get? l = some (.database number) := by
  have put : (t.put l (.database number)).get? l = some (.database number) := get?_put_self h
  unfold place
  split
  · exact put
  · have other : (t.put l (.database number)).isDirectoryAt l = false := by
      rw [isDirectoryAt, put]
      rfl
    rw [(sameAt_touchParent _ l l).get? other, put]

theorem sameAt_place_of_ne (h : k ≠ l) : SameAt t (t.place l n) k := by
  unfold place
  split
  · exact .inl (get?_put_of_ne h)
  · have put : (t.put l n).get? k = t.get? k := get?_put_of_ne h
    rcases sameAt_touchParent (t.put l n) l k with same | ⟨m, time, directory, held, held'⟩
    · exact .inl (same.trans put)
    · exact .inr ⟨m, time, directory, put.symm.trans held, held'⟩

/-! ### Walking -/

/-- Nothing stands at a location but perhaps a file: it is no way to anywhere else. -/
def IsEnd (t : Tree) (l : Location) : Prop :=
  t.get? l = none ∨ ∃ bytes time, t.get? l = some (.file bytes time)

theorem IsEnd.ne {k : Location} (h : t.IsEnd l) (directory : t.isDirectoryAt k = true) :
    k ≠ l := by
  rintro rfl
  rcases h with h | ⟨bytes, time, h⟩ <;> simp [isDirectoryAt, h, Node.isDirectory] at directory

/-- **The walk to an end is the same** once a database stands there. -/
theorem walk_of_sameAt {t' : Tree} {number : Nat} (ends : t.IsEnd l)
    (stands : t'.get? l = some (.database number)) (same : ∀ k, k ≠ l → SameAt t t' k)
    {links : Nat} {at' : Location} {names : List String}
    (h : t.walk true links at' names = .ok l) : t'.walk true links at' names = .ok l := by
  -- the walk turns back at the end or passes through directories and links, which are the same
  have passes : ∀ {k}, t.obstacle? k = none → t'.obstacle? k = none := by
    intro k inside
    have directory := isDirectoryAt_of_obstacle? inside
    rwa [(same k (ends.ne directory)).obstacle?_eq]
  fun_induction Tree.walk t true links at' names with
  | case1 links at' => rw [walk, h]
  | case3 links at' name rest inside dot ih =>
    rw [walk, passes inside]
    exact (if_pos dot).trans (ih h)
  | case4 links at' rest inside dot ih =>
    rw [walk, passes inside]
    simp only [if_neg dot, if_true]
    exact ih h
  | case6 links at' name rest inside dot up short absent last =>
    obtain rfl : at' ++ [name] = l := Except.ok.inj h
    obtain rfl : rest = [] := by simpa using last
    rw [walk, passes inside]
    simp only [if_neg dot, if_neg up, if_neg short, stands]
    exact walk.eq_1 ..
  | case9 at' name rest inside dot up short target found links path ih =>
    have other : at' ++ [name] ≠ l := by
      rintro rfl
      rcases ends with absent | ⟨bytes, time, file⟩
      · exact absurd (found.symm.trans absent) nofun
      · exact absurd (found.symm.trans file) nofun
    have noDirectory : t.isDirectoryAt (at' ++ [name]) = false := by
      rw [isDirectoryAt, found]
      rfl
    have found' : t'.get? (at' ++ [name]) = some (.link target) :=
      ((same _ other).get? noDirectory).trans found
    rw [walk, passes inside]
    simp only [if_neg dot, if_neg up, if_neg short, found']
    exact ih h
  | case10 links at' name rest inside dot up short node noLink found ih =>
    -- what is passed through is no link in the other tree either
    have goesOn : ∃ node', t'.get? (at' ++ [name]) = some node' ∧
        ∀ target, node' ≠ .link target := by
      by_cases reached : at' ++ [name] = l
      · exact ⟨.database number, reached ▸ stands, fun _ ↦ nofun⟩
      · exact (same _ reached).exists_noLink found noLink
    obtain ⟨node', found', noLink'⟩ := goesOn
    rw [walk, passes inside]
    simp only [if_neg dot, if_neg up, if_neg short, found']
    cases node' with
    | link target => exact absurd rfl (noLink' target)
    | _ => exact ih h
  | _ => exact absurd h nofun

/-! ### What keeps a path from being followed -/

/-- A path that cannot be followed names nothing, or it is too long, or permissions stop it. -/
theorem cases_of_walk_error {creating : Bool} {links : Nat} {at' : Location} {names : List String}
    {fault : Fault} (h : t.walk creating links at' names = .error fault) :
    fault.meansAbsent = true ∨ fault = .nameTooLong ∨ fault = .denied := by
  fun_induction walk t creating links at' names with
  | case1 => exact absurd h nofun
  | case2 links at' name rest fault' stopped =>
    obtain rfl := Except.error.inj h
    unfold obstacle? at stopped
    split at stopped
    · exact Or.inl (Option.some.inj stopped ▸ rfl)
    · split at stopped
      · exact Or.inr (Or.inr (Option.some.inj stopped).symm)
      · exact absurd stopped nofun
  | case5 => exact Or.inr (Or.inl (Except.error.inj h).symm)
  | case6 => exact absurd h nofun
  | case7 | case8 => exact Or.inl (Except.error.inj h ▸ rfl)
  | case3 _ _ _ _ _ _ ih | case4 _ _ _ _ _ ih | case9 _ _ _ _ _ _ _ _ _ _ _ ih
  | case10 _ _ _ _ _ _ _ _ _ _ _ ih => exact ih h

/-- **A look at a path fails** where the path is too long, or permissions stop whoever follows it,
and in no other way. -/
theorem namesWhere_eq_error_iff {test : Node → Bool} {p : Path} {fault : Fault} :
    t.namesWhere test p = .error fault ↔
      t.findNode p = .error fault ∧ (fault = .nameTooLong ∨ fault = .denied) := by
  cases found : t.findNode p with
  | ok node => simp only [namesWhere, found, reduceCtorEq, false_and]
  | error f =>
    have kinds : f.meansAbsent = true ∨ f = .nameTooLong ∨ f = .denied := by
      unfold findNode find at found
      split at found
      · rename_i stopped
        obtain rfl := Except.error.inj found
        -- a path that is too long is not walked at all
        split at stopped
        · exact Or.inr (Or.inl (Except.error.inj stopped).symm)
        · exact cases_of_walk_error stopped
      · split at found
        · exact absurd found nofun
        · -- a walk that ends where nothing stands means that it is absent
          exact Or.inl (Except.error.inj found ▸ rfl)
    simp only [namesWhere, found]
    constructor
    · intro h
      split at h
      · exact absurd h nofun
      · rename_i serious
        obtain rfl := Except.error.inj h
        -- a fault that means absence would have been answered
        exact ⟨rfl, kinds.resolve_left serious⟩
    · rintro ⟨same, rfl | rfl⟩
      · rw [Except.error.inj same]
        rfl
      · rw [Except.error.inj same]
        rfl

/-- **A path leads to what is placed where it leads.** -/
theorem walk_place {names : List String} (number : Nat) (ends : t.IsEnd l)
    (h : t.walk true maxLinks [] names = .ok l) :
    (t.place l (.database number)).walk true maxLinks [] names = .ok l ∧
      (t.place l (.database number)).get? l = some (.database number) := by
  have nonroot : l ≠ [] := Ne.symm (ends.ne rfl)
  have stands := get?_place_database (t := t) number nonroot
  exact ⟨walk_of_sameAt ends stands (fun k ↦ sameAt_place_of_ne) h, stands⟩

end AuthRealm.Storage.Tree
