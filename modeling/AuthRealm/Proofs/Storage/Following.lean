import AuthRealm.Proofs.Storage.Resolve
import AuthRealm.Proofs.Storage.Walk
import Mathlib.Logic.Relation

/-!
# Where names lead

A path is resolved name by name, with a record of the links that have been met and a bound on the
steps. What it should come to is said here without either: `Tree.Follows` reads a link wherever it
stands, its target first and then the names behind it. A link is met by another if it is come across
while the target of the other is read (`Tree.Meets`), and **a link leads back to itself** if it is
met in this way, in however many steps, while its own target is read. A tree without such a link is
`Tree.NoLoops`.

`Tree.Resolves` lists the ways in which resolving goes on, so `Tree.resolveFrom` is opened here and
nowhere else; the bound on the steps is always enough for it (`resolves_resolve`), as each link is
read once (`linkCost`). Over it, by induction on the steps, **a path in a tree without loops is
resolved to where its names lead** (`follows_resolve`). The induction carries that what has been
read so far of the path, and of the target of each open link, leads to where resolving stands
(`Reading`).

Where names lead there is no link to be seen any more on the way (`Follows.linkFree`), and such a
location leads to itself (`follows_of_linkFree`). A link behind a directory that cannot be searched
is not seen, and so is passed through by its name.
-/

namespace AuthRealm.Storage

namespace Tree

variable {t : Tree}

/-! ### Following links -/

/-- Where the target of a link in a directory is read from. -/
def startOf (target : String) (directory : Location) : Location :=
  if (Path.ofText target).isAbsolute then [] else directory

/-- **Names lead from a location to a location**, each link on the way being followed. What does not
exist is passed through by its name. -/
inductive Follows (t : Tree) : Location → List String → Location → Prop where
  | nil {at' : Location} : Follows t at' [] at'
  | dots {at' l : Location} {n : String} {rest : List String} (dots : IsDots n)
      (goesOn : Follows t (at'.step n) rest l) : Follows t at' (n :: rest) l
  | plain {at' l : Location} {n : String} {rest : List String} (enters : ¬ IsDots n)
      (noLink : ∀ target, t.look? (at' ++ [n]) ≠ some (.link target))
      (goesOn : Follows t (at' ++ [n]) rest l) : Follows t at' (n :: rest) l
  | link {at' mid l : Location} {n target : String} {rest : List String} (enters : ¬ IsDots n)
      (stands : t.look? (at' ++ [n]) = some (.link target))
      (leads : Follows t (startOf target at') (Path.ofText target).names mid)
      (goesOn : Follows t mid rest l) : Follows t at' (n :: rest) l

/-- Names lead to one location at most. -/
theorem Follows.unique {at' l l' : Location} {names : List String} (h : t.Follows at' names l)
    (h' : t.Follows at' names l') : l = l' := by
  induction h generalizing l' with
  | nil => cases h'; rfl
  | dots dots goesOn ih =>
    cases h' with
    | dots _ goesOn' => exact ih goesOn'
    | plain enters => exact absurd dots enters
    -- the name is followed as a step, a plain name or a link, and never as two of these
    | link enters => exact absurd dots enters
  | plain enters noLink goesOn ih =>
    cases h' with
    | dots dots => exact absurd dots enters
    | plain _ _ goesOn' => exact ih goesOn'
    | link _ stands => exact absurd stands (noLink _)
  | link enters stands leads goesOn ihLeads ih =>
    cases h' with
    | dots dots => exact absurd dots enters
    | plain _ noLink => exact absurd stands (noLink _)
    | link _ stands' leads' goesOn' =>
      -- the same link stands on both sides, so both follow the same target first
      obtain rfl := Node.link.inj (Option.some.inj (stands.symm.trans stands'))
      obtain rfl := ihLeads leads'
      exact ih goesOn'

/-- Names are followed one part after the other. -/
theorem Follows.append {at' mid l : Location} {names names' : List String}
    (h : t.Follows at' names mid) (h' : t.Follows mid names' l) :
    t.Follows at' (names ++ names') l := by
  induction h with
  | nil => exact h'
  | dots dots goesOn ih => exact .dots dots (ih h')
  | plain enters noLink goesOn ih => exact .plain enters noLink (ih h')
  | link enters stands leads goesOn _ ih => exact .link enters stands leads (ih h')

/-- A link is met while the target of another is read. -/
structure Meets (t : Tree) (l k : Location) : Prop where
  exists_split : ∃ target before n after mid,
    t.look? l = some (.link target) ∧ (Path.ofText target).names = before ++ n :: after ∧
      t.Follows (startOf target l.dropLast) before mid ∧ ¬ IsDots n ∧ k = mid ++ [n]
  isLink : ∃ target, t.look? k = some (.link target)

/-- **No link leads back to itself.** -/
def NoLoops (t : Tree) : Prop :=
  ∀ l, ¬ Relation.TransGen t.Meets l l

/-- A tree is free of loops if its links can be ranked so that each meets lower ones only. -/
theorem noLoops_of_rank (rank : Location → Nat) (lower : ∀ l k, t.Meets l k → rank k < rank l) :
    t.NoLoops := by
  intro l loop
  have falls {l k : Location} (h : Relation.TransGen t.Meets l k) : rank k < rank l := by
    induction h with
    | single meets => exact lower _ _ meets
    | tail _ meets ih => exact Nat.lt_trans (lower _ _ meets) ih
  exact Nat.lt_irrefl _ (falls loop)

/-! ### The ways of resolving -/

/-- What is recorded of a link: where it led, or nothing as long as its target is being read. -/
def recorded (seen : List (Location × Option Location)) (l : Location) : Option (Option Location) :=
  (seen.find? fun e ↦ e.1 == l).map (·.2)

theorem recorded_cons (seen : List (Location × Option Location)) (k l : Location)
    (led : Option Location) :
    recorded ((k, led) :: seen) l = if k = l then some led else recorded seen l := by
  by_cases same : k = l
  · simp [recorded, same]
  · simp [recorded, same]

theorem recorded_eq_none_iff {seen : List (Location × Option Location)} {l : Location} :
    recorded seen l = none ↔ l ∉ seen.map (·.1) := by
  induction seen with
  | nil => simp [recorded]
  | cons e seen ih =>
    obtain ⟨k, led⟩ := e
    rw [recorded_cons]
    by_cases same : k = l
    · simp [same]
    · simp [same, Ne.symm same, ih]

/-- **Everything that resolving can come to.** -/
inductive Resolves (t : Tree) :
    List (Location × Option Location) → Location → List Pending → Resolved → Prop where
  | done {seen : List (Location × Option Location)} {at' : Location} :
      Resolves t seen at' [] ⟨at', false⟩
  | endOfLink {seen : List (Location × Option Location)} {at' l : Location} {rest : List Pending}
      {r : Resolved} (goesOn : Resolves t ((l, some at') :: seen) at' rest r) :
      Resolves t seen at' (.endOfLink l :: rest) r
  | dots {seen : List (Location × Option Location)} {at' : Location} {n : String}
      {rest : List Pending} {r : Resolved} (dots : IsDots n)
      (goesOn : Resolves t seen (at'.step n) rest r) : Resolves t seen at' (.name n :: rest) r
  | plain {seen : List (Location × Option Location)} {at' : Location} {n : String}
      {rest : List Pending} {r : Resolved} (enters : ¬ IsDots n)
      (noLink : ∀ target, t.look? (at' ++ [n]) ≠ some (.link target))
      (goesOn : Resolves t seen (at' ++ [n]) rest r) : Resolves t seen at' (.name n :: rest) r
  /-- A link that has been read before. -/
  | again {seen : List (Location × Option Location)} {at' led : Location} {n target : String}
      {rest : List Pending} {r : Resolved} (enters : ¬ IsDots n)
      (stands : t.look? (at' ++ [n]) = some (.link target))
      (known : recorded seen (at' ++ [n]) = some (some led))
      (goesOn : Resolves t seen led rest r) : Resolves t seen at' (.name n :: rest) r
  /-- A link whose target is still being read. -/
  | loop {seen : List (Location × Option Location)} {at' : Location} {n target : String}
      {rest : List Pending} (enters : ¬ IsDots n)
      (stands : t.look? (at' ++ [n]) = some (.link target))
      (known : recorded seen (at' ++ [n]) = some none) :
      Resolves t seen at' (.name n :: rest)
        ⟨Location.normal (at' ++ [n]) (Pending.names rest), true⟩
  /-- A link that has not been met. -/
  | link {seen : List (Location × Option Location)} {at' : Location} {n target : String}
      {rest : List Pending} {r : Resolved} (enters : ¬ IsDots n)
      (stands : t.look? (at' ++ [n]) = some (.link target))
      (new : recorded seen (at' ++ [n]) = none)
      (goesOn : Resolves t ((at' ++ [n], none) :: seen) (startOf target at')
        ((Path.ofText target).names.map .name ++ .endOfLink (at' ++ [n]) :: rest) r) :
      Resolves t seen at' (.name n :: rest) r

/-- Resolving comes to one thing. -/
theorem Resolves.unique {seen : List (Location × Option Location)} {at' : Location}
    {rest : List Pending} {r r' : Resolved} (h : t.Resolves seen at' rest r)
    (h' : t.Resolves seen at' rest r') : r = r' := by
  induction h generalizing r' with
  | done => cases h'; rfl
  | endOfLink goesOn ih =>
    cases h' with
    | endOfLink goesOn' => exact ih goesOn'
  | dots dots goesOn ih =>
    cases h' with
    | dots _ goesOn' => exact ih goesOn'
    | plain enters | again enters | loop enters | link enters => exact absurd dots enters
  | plain enters noLink goesOn ih =>
    cases h' with
    | dots dots => exact absurd dots enters
    | plain _ _ goesOn' => exact ih goesOn'
    | again _ stands | loop _ stands | link _ stands => exact absurd stands (noLink _)
  | again enters stands known goesOn ih =>
    cases h' with
    | dots dots => exact absurd dots enters
    -- what is recorded of a link decides which of its three cases applies
    | plain _ noLink => exact absurd stands (noLink _)
    | again _ _ known' goesOn' =>
      obtain rfl := Option.some.inj (Option.some.inj (known.symm.trans known'))
      exact ih goesOn'
    | loop _ _ known' => exact absurd (known.symm.trans known') (by simp)
    | link _ _ new => exact absurd (known.symm.trans new) nofun
  | loop enters stands known =>
    cases h' with
    | dots dots => exact absurd dots enters
    | plain _ noLink => exact absurd stands (noLink _)
    | again _ _ known' => exact absurd (known.symm.trans known') (by simp)
    | loop => rfl
    | link _ _ new => exact absurd (known.symm.trans new) nofun
  | link enters stands new goesOn ih =>
    cases h' with
    | dots dots => exact absurd dots enters
    | plain _ noLink => exact absurd stands (noLink _)
    | again _ _ known' => exact absurd (known'.symm.trans new) nofun
    | loop _ _ known' => exact absurd (known'.symm.trans new) nofun
    | link _ stands' _ goesOn' =>
      obtain rfl := Node.link.inj (Option.some.inj (stands.symm.trans stands'))
      exact ih goesOn'

/-- **What is resolved has names that a location can have**, with loops or without: by induction on
the steps, as is so of where resolving stands and of where the links have led. -/
theorem Resolves.proper {seen : List (Location × Option Location)} {at' : Location}
    {rest : List Pending} {r : Resolved} (h : t.Resolves seen at' rest r) (proper : Proper at')
    (led : ∀ l led, recorded seen l = some (some led) → Proper led)
    (named : ∀ n ∈ Pending.names rest, IsName n) : Proper r.location := by
  induction h with
  | done => exact proper
  | @endOfLink seen at' l rest r goesOn ih =>
    refine ih proper (fun k led' known ↦ ?_) named
    -- a link that ends here is recorded as leading here
    rw [recorded_cons] at known
    split at known
    · obtain rfl := Option.some.inj (Option.some.inj known)
      exact proper
    · exact led k led' known
  | dots dots goesOn ih =>
    exact ih (proper.step_dots dots) led (List.forall_mem_cons.1 named).2
  | plain enters noLink goesOn ih =>
    obtain ⟨first, others⟩ := List.forall_mem_cons.1 named
    exact ih (proper.concat first enters) led others
  | again enters stands known goesOn ih =>
    exact ih (led _ _ known) led (List.forall_mem_cons.1 named).2
  | loop enters stands known =>
    obtain ⟨first, others⟩ := List.forall_mem_cons.1 named
    exact (proper.concat first enters).normal others
  | @link seen at' n target rest r enters stands new goesOn ih =>
    refine ih ?_ (fun k led' known ↦ ?_) ?_
    · unfold startOf
      split
      · exact .nil
      · exact proper
    · -- an open link leads nowhere as yet
      rw [recorded_cons] at known
      split at known
      · exact absurd known (by simp)
      · exact led k led' known
    · rw [names_map_append]
      exact List.forall_mem_append.2 ⟨fun _ mem ↦ (Path.isName_of_mem_ofText mem).1,
        (List.forall_mem_cons.1 named).2⟩

/-! ### Enough steps -/

/-- The steps that reading a node's target takes, if it is a link. -/
def weight (e : Location × Node) : Nat :=
  match e.2 with
  | .link target => (Path.ofText target).names.length + 2
  | _ => 0

/-- The steps that are left for links that have not been met. -/
def linkCost (seen : List (Location × Option Location)) : List (Location × Node) → Nat
  | [] => 0
  | e :: nodes => (if e.1 ∈ seen.map (·.1) then 0 else weight e) + linkCost seen nodes

theorem linkCost_cons_le (seen : List (Location × Option Location)) (l : Location)
    (led : Option Location) (nodes : List (Location × Node)) :
    linkCost ((l, led) :: seen) nodes ≤ linkCost seen nodes := by
  induction nodes with
  | nil => exact Nat.le_refl 0
  | cons e nodes ih =>
    refine Nat.add_le_add ?_ ih
    rw [List.map_cons]
    by_cases met : e.1 ∈ seen.map (·.1)
    · rw [if_pos (List.mem_cons_of_mem _ met)]
      exact Nat.zero_le _
    · rw [if_neg met]
      split <;> omega

/-- Meeting a link takes its target from the steps that are left. -/
theorem linkCost_cons_add_le {seen : List (Location × Option Location)} {l : Location} {n : Node}
    {nodes : List (Location × Node)} (mem : (l, n) ∈ nodes) (new : l ∉ seen.map (·.1))
    (led : Option Location) :
    linkCost ((l, led) :: seen) nodes + weight (l, n) ≤ linkCost seen nodes := by
  induction nodes with
  | nil => exact absurd mem List.not_mem_nil
  | cons e nodes ih =>
    rcases List.mem_cons.1 mem with rfl | mem
    · have kept := linkCost_cons_le seen l led nodes
      rw [linkCost, linkCost, List.map_cons, if_pos List.mem_cons_self, if_neg new]
      omega
    · -- the node at the head may be the same link again, whose weight is not taken twice
      have kept := linkCost_cons_le seen l led [e]
      have rest := ih mem
      simp only [linkCost] at kept ⊢
      omega

theorem mem_nodes_of_get? {l : Location} {target : String} (h : t.get? l = some (.link target)) :
    (l, Node.link target) ∈ t.nodes := by
  unfold get? at h
  split at h
  · exact absurd h nofun
  · obtain ⟨e, found, same⟩ := Option.map_eq_some_iff.1 h
    have located := List.find?_some found
    exact beq_iff_eq.1 located ▸ same ▸ List.mem_of_find?_eq_some found

/-- **With more steps than what remains may take, resolving is not cut short.** -/
theorem resolves_resolveFrom (t : Tree) {fuel : Nat} {seen : List (Location × Option Location)}
    {at' : Location} {rest : List Pending} (enough : rest.length + linkCost seen t.nodes < fuel) :
    t.Resolves seen at' rest (t.resolveFrom fuel seen at' rest) := by
  have dotsIff (n : String) : (n = "" || n = "." || n = "..") = true ↔ IsDots n := by
    simp [IsDots, or_assoc]
  -- the names still to read and the links not met bound the fuel that a step can take
  fun_induction Tree.resolveFrom t fuel seen at' rest with
  | case1 => exact absurd enough (Nat.not_lt_zero _)
  | case2 => exact .done
  | case3 fuel seen at' l rest ih =>
    have kept := linkCost_cons_le seen l (some at') t.nodes
    rw [List.length_cons] at enough
    exact .endOfLink (ih (by omega))
  | case4 fuel seen at' n rest next dots ih =>
    rw [List.length_cons] at enough
    exact .dots ((dotsIff n).1 dots) (ih (by omega))
  | case5 fuel seen at' n rest next dots target stands led met ih =>
    have enters := mt (dotsIff n).2 dots
    have entered : next = at' ++ [n] := Location.step_of_enters enters
    rw [entered] at stands met
    rw [List.length_cons] at enough
    exact .again enters stands met (ih (by omega))
  | case6 fuel seen at' n rest next dots target stands met =>
    have enters := mt (dotsIff n).2 dots
    have entered : next = at' ++ [n] := Location.step_of_enters enters
    rw [entered] at stands met ⊢
    exact .loop enters stands met
  | case7 fuel seen at' n rest next dots target stands met path ih =>
    have enters := mt (dotsIff n).2 dots
    have entered : next = at' ++ [n] := Location.step_of_enters enters
    have new : next ∉ seen.map (·.1) := recorded_eq_none_iff.1 met
    -- the link is met for the first time, and its weight pays for the names of its target
    have taken := linkCost_cons_add_le (mem_nodes_of_get? (get?_of_look? stands)) new none
    have read : path.names.length = (Path.ofText target).names.length := rfl
    simp only [weight, List.length_cons] at taken enough
    have goesOn := ih (by
      simp only [List.length_append, List.length_map, List.length_cons]
      omega)
    rw [entered] at stands met goesOn ⊢
    exact .link enters stands met goesOn
  | case8 fuel seen at' n rest next dots noLink ih =>
    have enters := mt (dotsIff n).2 dots
    have entered : next = at' ++ [n] := Location.step_of_enters enters
    rw [List.length_cons] at enough
    have goesOn := ih (by omega)
    rw [entered] at noLink goesOn ⊢
    exact .plain enters noLink goesOn

theorem resolveFuel_eq (t : Tree) (names : List String) :
    t.resolveFuel names = names.length + 1 + linkCost [] t.nodes := by
  unfold resolveFuel
  generalize names.length + 1 = start
  induction t.nodes generalizing start with
  | nil => rfl
  | cons e nodes ih =>
    rw [List.foldl_cons, ih, linkCost, weight, if_neg (by simp)]
    cases e.2 <;> simp only <;> omega

/-- **Resolving a path is never cut short.** -/
theorem resolves_resolve (t : Tree) (p : Path) :
    t.Resolves [] [] (p.names.map .name) (t.resolve p) := by
  refine resolves_resolveFrom t ?_
  rw [resolveFuel_eq, List.length_map]
  omega

theorem proper_resolve (t : Tree) {p : Path} (named : ∀ n ∈ p.names, IsName n) :
    Proper (t.resolve p).location := by
  have names := names_map_append p.names []
  rw [List.append_nil] at names
  refine (resolves_resolve t p).proper .nil nofun ?_
  rw [names]
  exact List.forall_mem_append.2 ⟨named, nofun⟩

/-! ### Resolving follows the names -/

/-- **How far a path has been read**: up to a location, with `rest` behind it and the targets of
`links` not yet at their end, the last one opened in front. -/
inductive Reading (t : Tree) (path : List String) :
    Location → List Pending → List Location → Prop where
  | path {before after : List String} {at' : Location} (cut : path = before ++ after)
      (read : t.Follows [] before at') : Reading t path at' (after.map .name) []
  | target {before after : List String} {at' outer : Location} {n target : String}
      {rest : List Pending} {links : List Location} (enters : ¬ IsDots n)
      (stands : t.look? (outer ++ [n]) = some (.link target))
      (cut : (Path.ofText target).names = before ++ after)
      (read : t.Follows (startOf target outer) before at')
      (waits : Reading t path outer (.name n :: rest) links) :
      Reading t path at' (after.map .name ++ .endOfLink (outer ++ [n]) :: rest)
        ((outer ++ [n]) :: links)

namespace Reading

variable {path : List String} {at' mid : Location} {n : String} {rest : List Pending}
  {links : List Location}

/-- One more name is read. -/
theorem advance (h : t.Reading path at' (.name n :: rest) links) (leads : t.Follows at' [n] mid) :
    t.Reading path mid rest links := by
  generalize remains : Pending.name n :: rest = rest' at h
  cases h with
  | @path before after at' cut read =>
    cases after with
    | nil => exact absurd remains nofun
    | cons n' after =>
      obtain ⟨rfl, rfl⟩ : n = n' ∧ rest = after.map .name := by simpa using remains
      exact .path (by rw [cut, List.append_assoc]; rfl) (read.append leads)
  | @target before after at' outer m target rest' links enters stands cut read waits =>
    cases after with
    | nil => exact absurd remains (by simp)
    | cons n' after =>
      obtain ⟨rfl, rfl⟩ : n = n' ∧
          rest = after.map .name ++ .endOfLink (outer ++ [m]) :: rest' := by
        simpa using remains
      exact .target enters stands (by rw [cut, List.append_assoc]; rfl) (read.append leads) waits

/-- At the end of a target the link has led to where reading stands. -/
theorem endOfLink {l : Location} (h : t.Reading path at' (.endOfLink l :: rest) links) :
    ∃ outer n links', l = outer ++ [n] ∧ links = l :: links' ∧ t.Follows outer [n] at' ∧
      t.Reading path at' rest links' := by
  generalize remains : Pending.endOfLink l :: rest = rest' at h
  cases h with
  | @path before after at' cut read =>
    cases after with
    | nil | cons => exact absurd remains nofun
  | @target before after at' outer m target rest' links enters stands cut read waits =>
    cases after with
    -- the target is read to its end, so the link leads where the reading has come to
    | nil =>
      obtain ⟨rfl, rfl⟩ : l = outer ++ [m] ∧ rest = rest' := by simpa using remains
      rw [List.append_nil] at cut
      have leads : t.Follows outer [m] at' := .link enters stands (cut ▸ read) .nil
      exact ⟨outer, m, links, rfl, rfl, leads, waits.advance leads⟩
    | cons => exact absurd remains nofun

/-- **A link that comes up is met by all whose targets are being read.** -/
theorem meets {target : String} (h : t.Reading path at' (.name n :: rest) links)
    (enters : ¬ IsDots n) (stands : t.look? (at' ++ [n]) = some (.link target)) :
    ∀ k ∈ links, Relation.TransGen t.Meets k (at' ++ [n]) := by
  generalize remains : Pending.name n :: rest = rest' at h
  induction h generalizing n rest target with
  | path => exact nofun
  | @target before after at' outer m target' rest' links enters' stands' cut read waits ih =>
    cases after with
    | nil => exact absurd remains (by simp)
    | cons n' after =>
      obtain rfl : n = n' := by simpa using (List.cons.inj remains).1
      -- the target of the open link goes through this link, which is one step of a chain
      have meets : t.Meets (outer ++ [m]) (at' ++ [n]) :=
        ⟨⟨target', before, n, after, at', stands', cut, by rwa [List.dropLast_concat], enters, rfl⟩,
          target, stands⟩
      intro k open'
      rcases List.mem_cons.1 open' with rfl | open'
      · exact .single meets
      · exact (ih enters' stands' rfl k open').tail meets

end Reading

/-- What is recorded is true: a link led where it leads, or is one of those being read. -/
structure Known (t : Tree) (seen : List (Location × Option Location)) (links : List Location) :
    Prop where
  led : ∀ at' n led, recorded seen (at' ++ [n]) = some (some led) → t.Follows at' [n] led
  isOpen : ∀ l, recorded seen l = some none → l ∈ links

theorem Known.endOfLink {seen : List (Location × Option Location)} {links : List Location}
    {outer at' : Location} {n : String} (h : t.Known seen ((outer ++ [n]) :: links))
    (leads : t.Follows outer [n] at') : t.Known ((outer ++ [n], some at') :: seen) links where
  led at'' n' led known := by
    rw [recorded_cons] at known
    split at known
    · rename_i same
      obtain ⟨rfl, last⟩ := List.append_inj' same rfl
      obtain rfl := List.singleton_inj.1 last
      obtain rfl := Option.some.inj (Option.some.inj known)
      exact leads
    · exact h.led _ _ _ known
  isOpen l known := by
    rw [recorded_cons] at known
    split at known
    · exact absurd known (by simp)
    · rename_i other
      exact (List.mem_cons.1 (h.isOpen l known)).resolve_left (Ne.symm other)

theorem Known.open {seen : List (Location × Option Location)} {links : List Location}
    (h : t.Known seen links) (l : Location) : t.Known ((l, none) :: seen) (l :: links) where
  led at' n led known := by
    rw [recorded_cons] at known
    split at known
    · exact absurd known (by simp)
    · exact h.led _ _ _ known
  isOpen l' known := by
    rw [recorded_cons] at known
    split at known
    · rename_i same
      exact same ▸ List.mem_cons_self
    · exact List.mem_cons_of_mem _ (h.isOpen l' known)

/-- In a tree without loops the rest of a path leads to where the path leads. -/
theorem Resolves.follows {seen : List (Location × Option Location)} {at' : Location}
    {rest : List Pending} {r : Resolved} {path : List String} {links : List Location}
    (h : t.Resolves seen at' rest r) (noLoops : t.NoLoops) (known : t.Known seen links)
    (reading : t.Reading path at' rest links) :
    ∃ l, t.Follows [] path l ∧ r = ⟨l, false⟩ := by
  induction h generalizing links with
  | @done seen at' =>
    generalize remains : ([] : List Pending) = rest at reading
    cases reading with
    | @path before after at' cut read =>
      obtain rfl : after = [] := by simpa using remains.symm
      rw [List.append_nil] at cut
      exact ⟨at', cut ▸ read, rfl⟩
    | target => exact absurd remains (by simp)
  | endOfLink goesOn ih =>
    obtain ⟨outer, n, links, rfl, rfl, leads, reading⟩ := reading.endOfLink
    exact ih (known.endOfLink leads) reading
  | dots dots goesOn ih => exact ih known (reading.advance (.dots dots .nil))
  | plain enters noLink goesOn ih => exact ih known (reading.advance (.plain enters noLink .nil))
  | again enters stands met goesOn ih => exact ih known (reading.advance (known.led _ _ _ met))
  -- a link met while it is open would be met from its own target, which no loop-free tree allows
  | loop enters stands met =>
    exact absurd (reading.meets enters stands _ (known.isOpen _ met)) (noLoops _)
  | link enters stands new goesOn ih =>
    exact ih (known.open _) (.target enters stands (List.nil_append _).symm .nil reading)

/-- **A path in a tree without loops is resolved to where its names lead.** -/
theorem follows_resolve (noLoops : t.NoLoops) (p : Path) :
    ∃ l, t.Follows [] p.names l ∧ t.resolve p = ⟨l, false⟩ :=
  (resolves_resolve t p).follows noLoops ⟨nofun, nofun⟩ (.path (List.nil_append _).symm .nil)

/-- What names lead to is what a path with these names is resolved to. -/
theorem Follows.resolve_eq {p : Path} {l : Location} (h : t.Follows [] p.names l)
    (noLoops : t.NoLoops) : t.resolve p = ⟨l, false⟩ := by
  obtain ⟨l', leads, resolved⟩ := follows_resolve noLoops p
  rw [resolved, leads.unique h]

/-! ### Where names have led -/

/-- No link can be seen at a location or above it. -/
def LinkFree (t : Tree) (l : Location) : Prop :=
  ∀ k, k <+: l → ∀ target, t.look? k ≠ some (.link target)

theorem linkFree_nil (t : Tree) : t.LinkFree [] := by
  intro k above target link
  rw [List.prefix_nil.1 above] at link
  exact absurd (get?_of_look? link) nofun

theorem LinkFree.concat {l : Location} {n : String} (h : t.LinkFree l)
    (noLink : ∀ target, t.look? (l ++ [n]) ≠ some (.link target)) : t.LinkFree (l ++ [n]) := by
  intro k above target
  rcases List.prefix_concat_iff.1 above with rfl | above
  · exact noLink target
  · exact h k above target

theorem LinkFree.of_prefix {k l : Location} (h : t.LinkFree l) (above : k <+: l) : t.LinkFree k :=
  fun _ higher ↦ h _ (higher.trans above)

theorem LinkFree.step_dots {l : Location} {n : String} (h : t.LinkFree l) (dots : IsDots n) :
    t.LinkFree (l.step n) := by
  unfold Location.step
  rcases dots with rfl | rfl | rfl
  · exact h
  · exact h
  · exact h.of_prefix (List.dropLast_prefix l)

theorem LinkFree.startOf {l : Location} (h : t.LinkFree l) (target : String) :
    t.LinkFree (startOf target l) := by
  unfold Tree.startOf
  split
  · exact linkFree_nil t
  · exact h

/-- **Where names lead, no link is on the way any more.** -/
theorem Follows.linkFree {at' l : Location} {names : List String} (h : t.Follows at' names l)
    (free : t.LinkFree at') : t.LinkFree l := by
  induction h with
  | nil => exact free
  | dots dots goesOn ih => exact ih (free.step_dots dots)
  | plain enters noLink goesOn ih => exact ih (free.concat noLink)
  | link enters stands leads goesOn ihLeads ih => exact ih (ihLeads (free.startOf _))

/-- What keeps names from being looked up is never a link. -/
theorem obstacle?_ne_tooManyLinks {l : Location} {fault : Fault} (h : t.obstacle? l = some fault) :
    fault ≠ .tooManyLinks := by
  rintro rfl
  unfold obstacle? at h
  split at h
  · exact absurd h (by simp)
  · split at h
    · exact absurd h (by simp)
    · exact absurd h nofun

/-- A name in a directory that can be searched is hidden by no other directory than the directory
itself is. -/
theorem hides_concat {l : Location} {n : String} (reached : t.hides l = false)
    (inside : t.obstacle? l = none) : t.hides (l ++ [n]) = false := by
  -- entering a location already tested that its folder can be searched
  have searched : t.isSealedAt l = false := by
    unfold obstacle? at inside
    split at inside
    · exact absurd inside nofun
    · split at inside
      · exact absurd inside nofun
      · rename_i free
        simpa using free
  unfold hides at reached ⊢
  rw [List.any_eq_false] at reached ⊢
  intro k above
  rw [List.length_append, List.length_singleton, List.mem_range, Nat.lt_succ_iff] at above
  rcases Nat.lt_or_eq_of_le above with higher | rfl
  · rw [List.take_append_of_le_length above]
    exact reached k (List.mem_range.2 higher)
  · rw [List.take_left, searched]
    exact Bool.false_ne_true

/-- **A location without links leads to itself.** -/
theorem follows_of_linkFree (at' : Location) {names : List String}
    (enters : ∀ n ∈ names, ¬ IsDots n) (free : t.LinkFree (at' ++ names)) :
    t.Follows at' names (at' ++ names) := by
  induction names generalizing at' with
  | nil => exact (List.append_nil at').symm ▸ .nil
  | cons n rest ih =>
    obtain ⟨first, others⟩ := List.forall_mem_cons.1 enters
    have shifted : at' ++ n :: rest = at' ++ [n] ++ rest := by simp
    rw [shifted] at free ⊢
    exact .plain first (free _ (List.prefix_append _ rest)) (ih (at' ++ [n]) others free)

/-- **Where no link is on the way, the system finds what stands at the location itself**, or it has
a reason other than links to find nothing. A link behind a directory that cannot be searched is not
met: `reached` says that where the walk stands it has searched all directories above. -/
theorem walk_of_linkFree (creating : Bool) (links : Nat) (at' : Location) {names : List String}
    (enters : ∀ n ∈ names, ¬ IsDots n) (reached : t.hides at' = false)
    (free : ∀ k, k <+: at' ++ names → t.hides k = false →
      ∀ target, t.get? k ≠ some (.link target)) :
    t.walk creating links at' names = .ok (at' ++ names) ∨
      ∃ f, t.walk creating links at' names = .error f ∧ f ≠ .tooManyLinks := by
  induction names generalizing at' with
  | nil => exact .inl (by rw [walk, List.append_nil])
  | cons n rest ih =>
    obtain ⟨first, others⟩ := List.forall_mem_cons.1 enters
    obtain ⟨notEmpty, notDot, notUp⟩ := not_or.1 first |>.imp_right not_or.1
    have dot : ¬ (decide (n = ".") || decide (n = "")) = true := by simp [notEmpty, notDot]
    have shifted : at' ++ n :: rest = at' ++ [n] ++ rest := by simp
    rw [shifted] at free ⊢
    rw [walk]
    -- the obstacles of a step are tried in order, and none of them is a chain of links
    cases inside : t.obstacle? at' with
    | some fault => exact .inr ⟨fault, rfl, obstacle?_ne_tooManyLinks inside⟩
    | none =>
      have reached' : t.hides (at' ++ [n]) = false := hides_concat reached inside
      simp only [if_neg dot, if_neg notUp]
      by_cases long : maxNameBytes < n.utf8ByteSize
      · exact .inr ⟨.nameTooLong, if_pos long, by decide⟩
      · rw [if_neg long]
        split
        · rename_i absent
          split
          · rename_i last
            obtain rfl : rest = [] := List.isEmpty_iff.1 (Bool.and_eq_true_iff.1 last).2
            exact .inl (by rw [List.append_nil])
          · exact .inr ⟨.missing, rfl, by decide⟩
        · -- a link would stand on the path itself, which is free of them
          rename_i target stands
          exact absurd stands (free _ (List.prefix_append _ rest) reached' target)
        · exact ih (at' ++ [n]) others reached' free

theorem get?_of_linkFree {k l : Location} (free : t.LinkFree l) (above : k <+: l)
    (short : (Path.ofLocation l).text.utf8ByteSize ≤ maxPathBytes) (reached : t.hides k = false)
    (target : String) : t.get? k ≠ some (.link target) := by
  intro stands
  have room := Nat.le_trans (Path.utf8ByteSize_text_le above) short
  refine free k above target ?_
  rw [look?, decide_eq_false (Nat.not_lt.2 room), reached, Bool.or_false, if_neg Bool.false_ne_true,
    stands]

/-- A path to a location without links is not given up for its links. -/
theorem find_ne_tooManyLinks {l : Location} (proper : Proper l) (free : t.LinkFree l) :
    t.find (Path.ofLocation l) ≠ .error .tooManyLinks := by
  unfold find
  split
  · exact nofun
  · rename_i short
    have leads := walk_of_linkFree false maxLinks []
      (fun n mem ↦ (proper n mem).2) rfl fun k above ↦
        get?_of_linkFree free above (Nat.not_lt.1 short)
    rcases leads with leads | ⟨f, leads, other⟩
    · exact fun h ↦ absurd (leads.symm.trans h) nofun
    · exact fun h ↦ other (Except.error.inj (leads.symm.trans h))

end Tree

end AuthRealm.Storage
