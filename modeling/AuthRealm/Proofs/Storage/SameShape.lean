import AuthRealm.Proofs.Storage.Following

/-!
# Trees of one shape

Two trees have the same shape if they differ in no more than what their files hold. **Paths do not
tell them apart**: each is resolved to the same location in both (`SameShape.resolve_eq`) and leads
to the same place, or fails for the same reason, when the system follows it (`SameShape.walk_eq`).
Writing a file anew leaves the shape of a tree (`sameShape_put`), so it changes what a path names
only if that was the file (`findNode_put_cases`).
-/

namespace AuthRealm.Storage.Tree

/-- A file stands at a location. -/
def IsFile (t : Tree) (l : Location) : Prop :=
  ∃ bytes time, t.get? l = some (.file bytes time)

/-- **Two trees differ in no more than what their files hold.** -/
def SameShape (t t' : Tree) : Prop :=
  ∀ l, t'.get? l = t.get? l ∨ (t.IsFile l ∧ t'.IsFile l)

variable {t t' : Tree}

/-- Writing a file anew leaves the shape. -/
theorem sameShape_put {l : Location} (file : t.IsFile l) (bytes : List UInt8) (time : Int) :
    t.SameShape (t.put l (.file bytes time)) := by
  intro k
  by_cases here : k = l
  · subst here
    have nonroot : k ≠ [] := by
      rintro rfl
      obtain ⟨bytes', time', stands⟩ := file
      exact absurd stands nofun
    exact .inr ⟨file, bytes, time, get?_put_self nonroot⟩
  · exact .inl (get?_put_of_ne here)

namespace SameShape

variable (same : t.SameShape t')

include same

theorem get?_eq_link_iff {l : Location} {target : String} :
    t'.get? l = some (.link target) ↔ t.get? l = some (.link target) := by
  rcases same l with kept | ⟨⟨bytes, time, file⟩, bytes', time', file'⟩
  · rw [kept]
  · rw [file, file']
    exact iff_of_false nofun nofun

theorem get?_eq_none_iff {l : Location} : t'.get? l = none ↔ t.get? l = none := by
  rcases same l with kept | ⟨⟨bytes, time, file⟩, bytes', time', file'⟩
  · rw [kept]
  · rw [file, file']
    exact iff_of_false nofun nofun

theorem isSealedAt_eq (l : Location) : t'.isSealedAt l = t.isSealedAt l := by
  rcases same l with kept | ⟨⟨bytes, time, file⟩, bytes', time', file'⟩
  · rw [isSealedAt, kept, isSealedAt]
  · rw [isSealedAt, file', isSealedAt, file]

theorem obstacle?_eq (l : Location) : t'.obstacle? l = t.obstacle? l := by
  have directory : t'.isDirectoryAt l = t.isDirectoryAt l := by
    rcases same l with kept | ⟨⟨bytes, time, file⟩, bytes', time', file'⟩
    · rw [isDirectoryAt, kept, isDirectoryAt]
    · rw [isDirectoryAt, file', isDirectoryAt, file]
      rfl
  rw [obstacle?, directory, same.isSealedAt_eq, obstacle?]

theorem look?_eq_link_iff {l : Location} {target : String} :
    t'.look? l = some (.link target) ↔ t.look? l = some (.link target) := by
  have hidden : t'.hides l = t.hides l := by
    unfold hides
    simp only [same.isSealedAt_eq]
  unfold look?
  rw [hidden]
  split
  · rfl
  · exact same.get?_eq_link_iff

/-! ### Resolving -/

theorem resolves {seen : List (Location × Option Location)} {at' : Location} {rest : List Pending}
    {r : Resolved} (h : t.Resolves seen at' rest r) : t'.Resolves seen at' rest r := by
  induction h with
  | done => exact .done
  | endOfLink goesOn ih => exact .endOfLink ih
  | dots dots goesOn ih => exact .dots dots ih
  | plain enters noLink goesOn ih =>
    exact .plain enters (fun target ↦ mt same.look?_eq_link_iff.1 (noLink target)) ih
  | again enters stands known goesOn ih =>
    exact .again enters (same.look?_eq_link_iff.2 stands) known ih
  | loop enters stands known => exact .loop enters (same.look?_eq_link_iff.2 stands) known
  | link enters stands new goesOn ih => exact .link enters (same.look?_eq_link_iff.2 stands) new ih

/-- **A path is resolved to the same location.** -/
theorem resolve_eq (p : Path) : t'.resolve p = t.resolve p :=
  (resolves_resolve t' p).unique (same.resolves (resolves_resolve t p))

/-! ### Following -/

/-- **Names lead to the same place**, or to none for the same reason. -/
theorem walk_eq (creating : Bool) (links : Nat) (at' : Location) (names : List String) :
    t'.walk creating links at' names = t.walk creating links at' names := by
  fun_induction Tree.walk t creating links at' names with
  | case1 links at' => rw [walk]
  | case2 links at' name rest fault outside =>
    rw [walk, same.obstacle?_eq, outside]
  | case3 links at' name rest inside dot ih =>
    rw [walk, same.obstacle?_eq, inside]
    exact (if_pos dot).trans ih
  | case4 links at' rest inside dot ih =>
    rw [walk, same.obstacle?_eq, inside]
    simp only [if_neg dot, if_true]
    exact ih
  | case5 links at' name rest inside dot up long =>
    rw [walk, same.obstacle?_eq, inside]
    simp only [if_neg dot, if_neg up, if_pos long]
  | case6 links at' name rest inside dot up short absent last =>
    rw [walk, same.obstacle?_eq, inside]
    simp only [if_neg dot, if_neg up, if_neg short, same.get?_eq_none_iff.2 absent]
    exact if_pos last
  | case7 links at' name rest inside dot up short absent last =>
    rw [walk, same.obstacle?_eq, inside]
    simp only [if_neg dot, if_neg up, if_neg short, same.get?_eq_none_iff.2 absent]
    exact if_neg last
  | case8 at' name rest inside dot up short target stands =>
    rw [walk, same.obstacle?_eq, inside]
    simp only [if_neg dot, if_neg up, if_neg short, same.get?_eq_link_iff.2 stands]
  | case9 at' name rest inside dot up short target stands links path ih =>
    rw [walk, same.obstacle?_eq, inside]
    simp only [if_neg dot, if_neg up, if_neg short, same.get?_eq_link_iff.2 stands]
    exact ih
  | case10 links at' name rest inside dot up short node noLink stands ih =>
    rw [walk, same.obstacle?_eq, inside]
    simp only [if_neg dot, if_neg up, if_neg short]
    -- a node of another kind is there on both sides, its content left open
    split
    · rename_i absent
      cases (same.get?_eq_none_iff.1 absent).symm.trans stands
    · rename_i target link
      have link' := same.get?_eq_link_iff.1 link
      exact absurd (Option.some.inj (stands.symm.trans link')) (noLink target)
    · exact ih

theorem find_eq (p : Path) : t'.find p = t.find p := by
  rw [find, find, same.walk_eq]

end SameShape

/-- **After a file is written anew** a path names what it named, or it named the file. -/
theorem findNode_put_cases {l : Location} {bytes : List UInt8} {time : Int}
    (stands : t.get? l = some (.file bytes time)) (bytes' : List UInt8) (time' : Int) (p : Path) :
    (t.put l (.file bytes' time')).findNode p = t.findNode p ∨
      (t.findNode p = .ok (.file bytes time) ∧
        (t.put l (.file bytes' time')).findNode p = .ok (.file bytes' time')) := by
  have same := sameShape_put ⟨bytes, time, stands⟩ bytes' time'
  unfold findNode
  rw [same.find_eq]
  cases leads : t.find p with
  | error fault => exact .inl rfl
  | ok k =>
    -- only at the overwritten location can the node found differ
    by_cases here : k = l
    · have nonroot : l ≠ [] := by
        rintro rfl
        exact absurd stands nofun
      have put := get?_put_self (t := t) (n := .file bytes' time') nonroot
      exact .inr ⟨by simp only [here, stands], by simp only [here, put]⟩
    · exact .inl (by simp only [get?_put_of_ne here])

end AuthRealm.Storage.Tree
