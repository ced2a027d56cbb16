import AuthRealm.Proofs.Settings.Assignments
import AuthRealm.Proofs.Storage.Walk
import AuthRealm.Settings.Load
import Mathlib.Logic.Function.Basic

/-!
# One setting given anew

Settings are checked one by one, and what is wrong is gathered in their order (`validate_eq`). So a
new value for one setting leaves alone the other settings and the problems that are about them
(`problemsOf_update`, `validate_update`).

A variable of the environment is such a value, under two conditions (`Sets`). No other variable
bears the name of the setting, since letter case does not tell names apart; and no assignment of the
file refers to the variable, since assignments are read over the environment. Then setting the
variable comes to giving the setting its text (`Sets.sourced_eq`), and what remains is what the
check makes of the text: nothing for a folder (`Sets.load_baseFolder`), and for the path of the
credential file the text without blanks around it (`Sets.load_userFile`), which must leave something
(`Sets.load_blank`).
-/

namespace AuthRealm.Settings

open Storage Text

variable {given : Field → Option Json} {field : Field}

/-! ### Checking, setting by setting -/

/-- The hosts that are given, or the default, with the problems. -/
def checkedHosts (given : Field → Option Json) : List String × List FieldProblem :=
  match given .allowedHosts with
  | none => (({} : Settings).allowedHosts, [])
  | some v =>
    match checkStrings Field.allowedHosts.name v with
    | .ok hosts => (hosts, [])
    | .error ps => (({} : Settings).allowedHosts, ps)

/-- The settings that values give, with the default in place of what is missing or wrong. -/
def values (given : Field → Option Json) : Settings :=
  let base : Settings := {}
  { debug := (checked .debug given base.debug checkBool).1
    baseFolder := (checked .baseFolder given base.baseFolder checkFolder).1
    backingStore := (checked .backingStore given base.backingStore checkPath).1
    userFile := (checked .userFile given base.userFile checkPath).1
    overrideLocal := (checked .overrideLocal given base.overrideLocal checkBool).1
    charset := (checked .charset given base.charset checkCharset).1
    secureCookies := (checked .secureCookies given base.secureCookies checkBool).1
    loginRateLimit := (checked .loginRateLimit given base.loginRateLimit checkString).1
    verifyRateLimit := (checked .verifyRateLimit given base.verifyRateLimit checkString).1
    allowedHosts := (checkedHosts given).1 }

/-- The problems with the value of a setting. -/
def problemsOf (given : Field → Option Json) : Field → List FieldProblem :=
  let base : Settings := {}
  fun
  | .debug => (checked .debug given base.debug checkBool).2
  | .baseFolder => (checked .baseFolder given base.baseFolder checkFolder).2
  | .backingStore => (checked .backingStore given base.backingStore checkPath).2
  | .userFile => (checked .userFile given base.userFile checkPath).2
  | .overrideLocal => (checked .overrideLocal given base.overrideLocal checkBool).2
  | .charset => (checked .charset given base.charset checkCharset).2
  | .secureCookies => (checked .secureCookies given base.secureCookies checkBool).2
  | .loginRateLimit => (checked .loginRateLimit given base.loginRateLimit checkString).2
  | .verifyRateLimit => (checked .verifyRateLimit given base.verifyRateLimit checkString).2
  | .allowedHosts => (checkedHosts given).2

/-- The settings, in the order in which problems are reported. -/
def Field.all : List Field :=
  [.debug, .baseFolder, .backingStore, .userFile, .overrideLocal, .charset, .secureCookies,
    .loginRateLimit, .verifyRateLimit, .allowedHosts]

theorem Field.mem_all (f : Field) : f ∈ Field.all := by
  cases f <;> decide

/-- **Settings are checked one by one**, and there are settings if no check finds a problem. -/
theorem validate_eq (given : Field → Option Json) :
    validate given =
      match Field.all.flatMap (problemsOf given) with
      | [] => .ok (values given)
      | problems => .error problems := by
  have gathered : Field.all.flatMap (problemsOf given) = problemsOf given .debug ++
      problemsOf given .baseFolder ++ problemsOf given .backingStore ++
      problemsOf given .userFile ++ problemsOf given .overrideLocal ++
      problemsOf given .charset ++ problemsOf given .secureCookies ++
      problemsOf given .loginRateLimit ++ problemsOf given .verifyRateLimit ++
      problemsOf given .allowedHosts := by
    simp only [Field.all, List.flatMap_cons, List.flatMap_nil, List.append_nil, List.append_assoc]
  rw [gathered]
  rfl

/-! ### Another value for one setting -/

variable {v : Option Json} {settings : Settings}

theorem checked_update {α : Type} {f : Field} (other : f ≠ field) (default : α)
    (check : Json → Except Problem α) :
    checked f (Function.update given field v) default check = checked f given default check := by
  rw [checked, Function.update_of_ne other, checked]

theorem checked_update_self {α : Type} (w : Json) (default : α)
    (check : Json → Except Problem α) :
    checked field (Function.update given field (some w)) default check =
      match check w with
      | .ok a => (a, [])
      | .error p => (default, [⟨field.name, none, p⟩]) := by
  cases ended : check w <;> simp only [checked, Function.update_self, ended]

theorem checkedHosts_update (notList : field ≠ .allowedHosts) :
    checkedHosts (Function.update given field v) = checkedHosts given := by
  rw [checkedHosts, Function.update_of_ne (Ne.symm notList), checkedHosts]

/-- The problems with the other settings stay. -/
theorem problemsOf_update {f : Field} (other : f ≠ field) :
    problemsOf (Function.update given field v) f = problemsOf given f := by
  cases f with
  | allowedHosts => exact congrArg Prod.snd (checkedHosts_update (Ne.symm other))
  | _ => exact congrArg Prod.snd (checked_update other _ _)

/-- Every problem names the setting it is about. -/
theorem name_of_mem_problemsOf {problem : FieldProblem} (h : problem ∈ problemsOf given field)
    (notList : field ≠ .allowedHosts) : problem.name = field.name := by
  -- a single-valued field names itself in the one problem it can have
  have named : ∀ {α : Type} (default : α) (check : Json → Except Problem α),
      problem ∈ (checked field given default check).2 → problem.name = field.name := by
    intro α default check mem
    unfold checked at mem
    split at mem
    · exact absurd mem List.not_mem_nil
    · split at mem
      · exact absurd mem List.not_mem_nil
      · rw [List.mem_singleton.1 mem]
  cases field with
  | allowedHosts => exact absurd rfl notList
  | _ => exact named _ _ h

/-- Settings without problems are the values given. -/
theorem eq_values_of_validate (h : validate given = .ok settings) :
    settings = values given ∧ ∀ f, problemsOf given f = [] := by
  rw [validate_eq] at h
  split at h
  · rename_i none
    exact ⟨(Except.ok.inj h).symm, fun f ↦ List.flatMap_eq_nil_iff.1 none f f.mem_all⟩
  · exact absurd h nofun

/-- A value without problems in place of one without problems changes the settings, if there are
any, and otherwise nothing. -/
theorem validate_update (old : problemsOf given field = [])
    (new : problemsOf (Function.update given field v) field = []) :
    validate (Function.update given field v) =
      (validate given).map fun _ ↦ values (Function.update given field v) := by
  have same : problemsOf (Function.update given field v) = problemsOf given := by
    funext f
    by_cases h : f = field
    · rw [h, old, new]
    · exact problemsOf_update h
  rw [validate_eq, validate_eq, same]
  cases Field.all.flatMap (problemsOf given) <;> rfl

/-- A value with problems in place of one without is what is wrong, and nothing else is. -/
theorem validate_update_of_problem (fine : validate given = .ok settings) {problem : FieldProblem}
    (wrong : problemsOf (Function.update given field v) field = [problem]) :
    validate (Function.update given field v) = .error [problem] := by
  have none := (eq_values_of_validate fine).2
  have same : problemsOf (Function.update given field v) =
      fun f ↦ if f = field then [problem] else [] := by
    funext f
    by_cases h : f = field
    · rw [h, wrong, if_pos rfl]
    · rw [problemsOf_update h, none, if_neg h]
  rw [validate_eq, same]
  cases field <;> rfl

/-! ### Sources -/

/-- A name is that of a setting, letter case apart. -/
def Names (field : Field) (name : String) : Prop :=
  String.ofList (name.toList.map Char.toLower) = field.name

instance (field : Field) (name : String) : Decidable (Names field name) :=
  inferInstanceAs (Decidable (_ = _))

theorem Field.name_injective : Function.Injective Field.name := by
  intro f f'
  cases f <;> cases f' <;> decide

theorem Names.unique {f f' : Field} {name : String} (h : Names f name) (h' : Names f' name) :
    f = f' :=
  Field.name_injective (h.symm.trans h')

section LastNamed

variable {α : Type} {pairs pairs' : List (String × α)} {x : α}

/-- The last of the entries that are about a setting counts. -/
theorem lastNamed?_eq (field : Field) (pairs : List (String × α)) :
    lastNamed? field pairs =
      (pairs.filter fun p ↦ decide (Names field p.1)).getLast?.map (·.2) := by
  rw [List.getLast?_eq_head?_reverse, ← List.filter_reverse, List.head?_filter]
  rfl

theorem lastNamed?_eq_some (there : ∃ p ∈ pairs, Names field p.1)
    (alone : ∀ p ∈ pairs, Names field p.1 → p.2 = x) : lastNamed? field pairs = some x := by
  obtain ⟨p, mem, names⟩ := there
  have mem' : p ∈ pairs.filter fun p ↦ decide (Names field p.1) :=
    List.mem_filter.2 ⟨mem, decide_eq_true names⟩
  have last := List.getLast?_eq_some_getLast (List.ne_nil_of_mem mem')
  obtain ⟨there, names'⟩ := List.mem_filter.1 (List.mem_of_getLast? last)
  rw [lastNamed?_eq, last, Option.map_some, alone _ there (of_decide_eq_true names')]

/-- Entries that are not about a setting can be left out. -/
theorem lastNamed?_filter {keep : String × α → Bool}
    (kept : ∀ p ∈ pairs, Names field p.1 → keep p = true) :
    lastNamed? field (pairs.filter keep) = lastNamed? field pairs := by
  rw [lastNamed?_eq, lastNamed?_eq, List.filter_filter]
  refine congrArg (fun l : List (String × α) ↦ l.getLast?.map (·.2))
    (List.filter_congr fun p mem ↦ ?_)
  by_cases names : Names field p.1
  · rw [kept p mem names, Bool.and_true]
  · rw [decide_eq_false names, Bool.false_and]

end LastNamed

/-- What a source of texts gives for a setting but the list is a text. -/
theorem fromTexts_apply {source : Source} {pairs : List (String × String)}
    (h : fromTexts source pairs = .ok given) (notList : field ≠ .allowedHosts) :
    given field = (lastNamed? field pairs).map .string := by
  unfold fromTexts at h
  dsimp only at h
  split at h
  · rw [← Except.ok.inj h]
  · split at h
    · exact absurd h nofun
    · rw [← Except.ok.inj h]
      exact if_neg notList

theorem fromTexts_update {source : Source} {pairs pairs' : List (String × String)} {x : String}
    (notList : field ≠ .allowedHosts) (there : lastNamed? field pairs' = some x)
    (same : ∀ f, f ≠ field → lastNamed? f pairs' = lastNamed? f pairs) :
    fromTexts source pairs' =
      (fromTexts source pairs).map (Function.update · field (some (.string x))) := by
  -- every other field is read from the pairs as before
  have plain : (fun f ↦ (lastNamed? f pairs').map Json.string) =
      Function.update (fun f ↦ (lastNamed? f pairs).map .string) field (some (.string x)) :=
    Function.eq_update_iff.2
      ⟨by rw [there, Option.map_some], fun f other ↦ by rw [same f other]⟩
  rw [fromTexts, fromTexts, same .allowedHosts (Ne.symm notList)]
  cases lastNamed? .allowedHosts pairs with
  | none => exact congrArg Except.ok plain
  | some text =>
    dsimp only
    cases Json.parse text with
    | error e => rfl
    | ok v =>
      -- the list field was decoded alike on both sides, so only the one field differs
      refine congrArg Except.ok (Function.eq_update_iff.2 ⟨?_, fun f other ↦ ?_⟩)
      · rw [if_neg notList, there, Option.map_some]
      · rw [same f other]

/-- The values that the environment and the file of assignments give. -/
def sourced (s : Surroundings) : Except LoadError (Field → Option Json) :=
  match fileValues s with
  | .error e => .error e
  | .ok assigned =>
    match fromTexts .environment s.environment with
    | .error e => .error e
    | .ok environment =>
      (fromTexts .file assigned).map fun file f ↦ (environment f).or (file f)

/-- What the sources give for a setting but the list is a text. -/
theorem eq_string_of_sourced {s : Surroundings} (hs : sourced s = .ok given)
    (notList : field ≠ .allowedHosts) {w : Json} (there : given field = some w) :
    ∃ t, w = .string t := by
  unfold sourced at hs
  split at hs
  · exact absurd hs nofun
  · rename_i assigned _
    split at hs
    · exact absurd hs nofun
    · rename_i environment inEnvironment
      cases inFile : fromTexts .file assigned with
      | error e =>
        rw [inFile] at hs
        exact absurd hs nofun
      | ok file =>
        rw [inFile] at hs
        obtain rfl := Except.ok.inj hs
        -- outside the list field both sources give texts only
        replace there : (environment field).or (file field) = some w := there
        rw [fromTexts_apply inEnvironment notList, fromTexts_apply inFile notList] at there
        rw [← Option.map_or] at there
        obtain ⟨t, -, rfl⟩ := Option.map_eq_some_iff.1 there
        exact ⟨t, rfl⟩

theorem load_eq (s : Surroundings) :
    load s [] = (sourced s).bind fun given ↦ (validate given).mapError .invalid := by
  unfold load sourced
  cases fileValues s with
  | error e => rfl
  | ok assigned =>
    dsimp only
    cases fromTexts .environment s.environment with
    | error e => rfl
    | ok environment =>
      dsimp only
      cases fromTexts .file assigned with
      | error e => rfl
      | ok file =>
        have order {outcome : Except (List FieldProblem) Settings} {given : Field → Option Json}
            (validated : validate given = outcome)
            (same : ∀ f, (environment f).or (file f) = given f) :
            (validate fun f ↦ (environment f).or (file f)) = outcome :=
          (congrArg validate (funext same)).trans validated
        dsimp only
        show _ = (validate fun f ↦ (environment f).or (file f)).mapError LoadError.invalid
        -- no argument is given, so the value is that of the environment or that of the file
        split
        · rename_i settings validated
          rw [order validated fun f ↦ by cases environment f <;> rfl]
          rfl
        · rename_i problems validated
          rw [order validated fun f ↦ by cases environment f <;> rfl]
          rfl

/-! ### A variable set -/

/-- The assignments in the file of the working directory. -/
def assignments (s : Surroundings) : List (List Char × Option (List Char)) :=
  match s.tree.findNode (assignmentFile s) with
  | .ok (.file bytes _) =>
    match Charset.decodeUtf8 0 0 bytes with
    | .error _ => []
    | .ok text => Assignments.readLines ((plainLines text).length + 1) (plainLines text)
  | _ => []

/-- There are no assignments in an empty tree. -/
theorem fileValues_of_empty {s : Surroundings} (tree : s.tree = ⟨[]⟩) :
    fileValues s = .ok [] ∧ assignments s = [] := by
  rw [fileValues, assignments, tree]
  cases found : (Tree.mk []).findNode (assignmentFile s) with
  | error fault => exact ⟨rfl, rfl⟩
  | ok node =>
    obtain rfl := Tree.findNode_of_empty found
    exact ⟨rfl, rfl⟩

/-- **An environment is another one with a variable set**, and the variable is the only one that the
setting has, in whatever letter case; no assignment refers to it. -/
structure Sets (s : Surroundings) (field : Field) (name x : String)
    (environment : List (String × String)) : Prop where
  names : Names field name
  there : (name, x) ∈ environment
  others : environment.filter (·.1 != name) = s.environment.filter (·.1 != name)
  alone : ∀ v ∈ environment, Names field v.1 → v = (name, x)
  unread : ∀ a ∈ assignments s, ∀ value, a.2 = some value → ¬ Assignments.Refers name value

section Sets

variable {s : Surroundings} {name x : String} {environment : List (String × String)}

theorem Sets.fileValues_eq (h : Sets s field name x environment) :
    fileValues { s with environment := environment } = fileValues s := by
  have unread := h.unread
  have place : assignmentFile { s with environment := environment } = assignmentFile s := rfl
  rw [fileValues, fileValues, place]
  -- the file is read with the environment at hand, which only its references could notice
  rw [assignments] at unread
  cases found : s.tree.findNode (assignmentFile s) with
  | error fault => rfl
  | ok node =>
    cases node with
    | file bytes time =>
      simp only [found] at unread ⊢
      cases decoded : Charset.decodeUtf8 0 0 bytes with
      | error e => rfl
      | ok text =>
        simp only [decoded] at unread
        dsimp only
        rw [Assignments.ofText_congr h.others unread]
    | _ => rfl

theorem Sets.lastNamed?_eq (h : Sets s field name x environment) :
    lastNamed? field environment = some x ∧
      ∀ f, f ≠ field → lastNamed? f environment = lastNamed? f s.environment := by
  refine ⟨lastNamed?_eq_some ⟨_, h.there, h.names⟩ fun v mem names ↦ by rw [h.alone v mem names],
    fun f other ↦ ?_⟩
  have kept : ∀ v : String × String, Names f v.1 → (v.1 != name) = true := by
    intro v names
    rw [bne_iff_ne]
    rintro rfl
    exact other (names.unique h.names)
  rw [← lastNamed?_filter fun v _ ↦ kept v, h.others, lastNamed?_filter fun v _ ↦ kept v]

theorem Sets.sourced_eq (h : Sets s field name x environment) (notList : field ≠ .allowedHosts) :
    sourced { s with environment := environment } =
      (sourced s).map (Function.update · field (some (.string x))) := by
  obtain ⟨there, same⟩ := h.lastNamed?_eq
  unfold sourced
  rw [h.fileValues_eq]
  -- the three readings fail in this order, and each alike on both sides
  cases fileValues s with
  | error e => rfl
  | ok assigned =>
    dsimp only
    rw [fromTexts_update notList there same]
    cases fromTexts .environment s.environment with
    | error e => rfl
    | ok given =>
      cases fromTexts .file assigned with
      | error e => rfl
      | ok file =>
        -- the environment goes before the file, so the set field has its value in the end
        refine congrArg Except.ok (Function.eq_update_iff.2 ⟨?_, fun f other ↦ ?_⟩)
        · show (Function.update given field (some (.string x)) field).or (file field) = _
          rw [Function.update_self, Option.some_or]
        · show (Function.update given field (some (.string x)) f).or (file f) = _
          rw [Function.update_of_ne other]

/-! ### What the variable makes of the settings -/

/-- A setting that no problem is about. -/
theorem problemsOf_eq_nil (notList : field ≠ .allowedHosts)
    (fine : ∀ ps, validate given = .error ps → ∀ p ∈ ps, p.name ≠ field.name) :
    problemsOf given field = [] := by
  cases checked : validate given with
  | ok settings => exact (eq_values_of_validate checked).2 field
  | error ps =>
    refine List.eq_nil_iff_forall_not_mem.2 fun p mem ↦ ?_
    refine fine ps checked p ?_ (name_of_mem_problemsOf mem notList)
    rw [validate_eq] at checked
    split at checked
    · exact absurd checked nofun
    · obtain rfl := Except.error.inj checked
      exact List.mem_flatMap.2 ⟨field, field.mem_all, mem⟩

/-- Loading reports no problem about a setting. -/
def LoadsFine (s : Surroundings) (field : Field) : Prop :=
  ∀ ps, load s [] = .error (.invalid ps) → ∀ p ∈ ps, p.name ≠ field.name

theorem problemsOf_of_loadsFine (h : LoadsFine s field) (notList : field ≠ .allowedHosts)
    (hs : sourced s = .ok given) : problemsOf given field = [] := by
  refine problemsOf_eq_nil notList fun ps failed ↦ h ps ?_
  rw [load_eq, hs]
  show (validate given).mapError _ = _
  rw [failed]
  rfl

/-- **A value without problems takes the place of another**, if no problem is about that either. -/
theorem Sets.load_eq (h : Sets s field name x environment) (notList : field ≠ .allowedHosts)
    (old : ∀ given, sourced s = .ok given → problemsOf given field = []) (f : Settings → Settings)
    (new : ∀ given, problemsOf (Function.update given field (some (.string x))) field = [])
    (changed : ∀ given,
      values (Function.update given field (some (.string x))) = f (values given)) :
    load { s with environment := environment } [] = (load s []).map f := by
  rw [Settings.load_eq, Settings.load_eq, h.sourced_eq notList]
  cases hs : sourced s with
  | error e => rfl
  | ok given =>
    show (validate (Function.update given field _)).mapError _ =
      ((validate given).mapError LoadError.invalid).map f
    -- the field had no problem and has none now, so validation ends as it did
    rw [validate_update (old given hs) (new given)]
    cases checked : validate given with
    | error ps => rfl
    | ok settings =>
      rw [(eq_values_of_validate checked).1]
      exact congrArg Except.ok (changed given)

theorem checkPath_string (x : String) :
    checkPath (.string x) =
      if trim x.toList = [] then .error .blankPath else .ok (String.ofList (trim x.toList)) := by
  have blank : String.ofList (trim x.toList) = "" ↔ trim x.toList = [] := by
    rw [← String.toList_eq_nil_iff, String.toList_ofList]
  show (if String.ofList (trim x.toList) = "" then _ else _) = _
  simp only [blank]

/-- The path setting of the credential file is the text without blanks around it. -/
theorem Sets.load_userFile (h : Sets s .userFile name x environment) (fine : LoadsFine s .userFile)
    (nonblank : trim x.toList ≠ []) :
    load { s with environment := environment } [] =
      (load s []).map ({ · with userFile := String.ofList (trim x.toList) }) := by
  have accepted (given : Field → Option Json) (default : String) :
      checked .userFile (Function.update given .userFile (some (.string x))) default checkPath =
        (String.ofList (trim x.toList), []) := by
    rw [checked_update_self, checkPath_string, if_neg nonblank]
  refine h.load_eq (by decide) (fun given ↦ problemsOf_of_loadsFine fine (by decide)) _
    (fun given ↦ congrArg Prod.snd (accepted given _)) fun given ↦ ?_
  simp (disch := decide) only [values, checked_update, checkedHosts_update, accepted]

/-- Blanks alone are no path. -/
theorem Sets.load_blank (h : Sets s .userFile name x environment) (blank : trim x.toList = [])
    (loaded : load s [] = .ok settings) :
    load { s with environment := environment } [] =
      .error (.invalid [⟨Field.userFile.name, none, .blankPath⟩]) := by
  rw [Settings.load_eq] at loaded
  rw [Settings.load_eq, h.sourced_eq (by decide)]
  cases hs : sourced s with
  | error e =>
    rw [hs] at loaded
    exact absurd loaded nofun
  | ok given =>
    rw [hs] at loaded
    -- the blank path is the one problem, as every other field loaded without any
    have wrong : problemsOf (Function.update given .userFile (some (.string x))) .userFile =
        [⟨Field.userFile.name, none, .blankPath⟩] := by
      show (checked _ _ _ _).2 = _
      rw [checked_update_self, checkPath_string, if_pos blank]
    show (validate (Function.update given .userFile _)).mapError _ = _
    replace loaded : (validate given).mapError LoadError.invalid = .ok settings := loaded
    cases fine : validate given with
    | error ps =>
      rw [fine] at loaded
      exact absurd loaded nofun
    | ok settings' =>
      rw [validate_update_of_problem fine wrong]
      rfl

/-- A folder is taken as it stands. -/
theorem Sets.load_baseFolder (h : Sets s .baseFolder name x environment) :
    load { s with environment := environment } [] =
      (load s []).map ({ · with baseFolder := Path.ofText x }) := by
  have accepted (given : Field → Option Json) (default : Path) :
      checked .baseFolder (Function.update given .baseFolder (some (.string x))) default
        checkFolder = (Path.ofText x, []) := by
    rw [checked_update_self]
    rfl
  refine h.load_eq (by decide) (fun given hs ↦ ?_) _
    (fun given ↦ congrArg Prod.snd (accepted given _)) fun given ↦ ?_
  · -- any folder that was given before was a text, and no text is refused as a folder
    show (checked _ _ _ _).2 = []
    rw [checked]
    cases there : given .baseFolder with
    | none => rfl
    | some w =>
      obtain ⟨t, rfl⟩ := eq_string_of_sourced hs (by decide) there
      rfl
  · simp (disch := decide) only [values, checked_update, checkedHosts_update, accepted]

end Sets

end AuthRealm.Settings
