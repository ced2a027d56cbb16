import AuthRealm.Proofs.Settings.Load
import AuthRealm.Scenario.Run

/-!
# Options in place of variables

Two settings can be given in two ways, by a variable of the environment and by an option of the
command line that overrides it. A variable is there when the settings are loaded, so its value is
checked with all the others (`Settings.Sets`); an option is put in afterwards, **as it stands**
(`shown_userFile`, `shown_baseFolder`). For the base folder there is nothing to check, so there the
two are one. The path of the credential file is trimmed, and refused if nothing is left of it.
`option_means_variable` is what this comes to: with blanks around the value the option leads to
another file than the variable, and with nothing but blanks the option does not fail. The checks
come too early for an option in another way, too. A value of the environment that is refused stops
the program even if an option overrides it.

Runs are compared in what they show (`shown`), which is the answer or the failure, and the log
records that are printed unasked; each is a run of a program that has just been started and has no
settings yet.
-/

namespace AuthRealm

open Storage Text Settings

namespace Command

/-! ### Reading an option with its value -/

section Reading

variable {topic : Topic} {f : Flag} {spelling argument x : String}

/-- No spelling of an option has an equals sign. -/
theorem equals_notMem_spelled (topic : Topic) : ∀ s ∈ spelled topic.flags, '=' ∉ s.1.toList := by
  cases topic <;> decide

theorem mem_spelled_of_flagOf? (known : flagOf? topic.flags spelling = some f) :
    (spelling, f) ∈ spelled topic.flags := by
  obtain ⟨s, found, rfl⟩ := Option.map_eq_some_iff.1 known
  have same := List.find?_some found
  obtain rfl := beq_iff_eq.1 same
  exact List.mem_of_find?_eq_some found

theorem flagOf?_of_equals (equals : '=' ∈ argument.toList) :
    flagOf? topic.flags argument = none := by
  have unspelled : (spelled topic.flags).find? (fun s ↦ s.1 == argument) = none := by
    refine List.find?_eq_none.2 fun s mem same ↦ equals_notMem_spelled topic s mem ?_
    rwa [beq_iff_eq.1 same]
  rw [flagOf?, unspelled, Option.map_none]

/-- A spelling with a text behind an equals sign is the option, with the text for its value. -/
theorem readArgument_behindEquals (known : flagOf? topic.flags spelling = some f)
    (chars : argument.toList = spelling.toList ++ '=' :: x.toList) {d : Char} {r : List Char}
    (dashed : spelling.toList = '-' :: d :: r) :
    readArgument topic.flags argument =
      .ok (.flag f (isShort spelling) (some (.behindEquals x.toList))) := by
  -- a spelling has no equals sign, so the argument is cut behind the spelling
  have equals : '=' ∈ argument.toList := by
    rw [chars]
    exact List.mem_append_right _ List.mem_cons_self
  have cut : cutAt '=' argument.toList = (spelling.toList, some x.toList) :=
    cutAt_eq_some_iff.2 ⟨chars, equals_notMem_spelled topic _ (mem_spelled_of_flagOf? known)⟩
  have read : readOption topic.flags argument =
      .ok (.flag f (isShort spelling) (some (.behindEquals x.toList))) := by
    simp only [readOption, cut, Option.isSome_some, if_true, String.ofList_toList, known]
  rw [readArgument, chars, dashed]
  dsimp only [List.cons_append]
  rw [flagOf?_of_equals equals]
  exact read

/-- The invocation that lists the users, with a value for an option. -/
theorem parse_behindEquals (known : flagOf? (Topic.flags .program) spelling = some f)
    (valued : f.takesValue = true)
    (chars : argument.toList = spelling.toList ++ '=' :: x.toList) {d : Char} {r : List Char}
    (dashed : spelling.toList = '-' :: d :: r) {i : Invocation}
    (applied : Invocation.apply .program {} (f, x) = .ok i) :
    parse [argument, "users"] = .ok { i with request := some .users } := by
  -- nothing of the argument is taken for the end of the options
  have other : argument ≠ "--" := by
    rintro rfl
    have equals : '=' ∈ "--".toList := by
      rw [chars]
      exact List.mem_append_right _ List.mem_cons_self
    exact absurd equals (by decide)
  have read : tokens (Topic.flags .program) [argument, "users"] = .ok [⟨argument,
      .flag f (isShort spelling) (some (.behindEquals x.toList))⟩, ⟨"users", .operand⟩] := by
    have command : tokens (Topic.flags .program) ["users"] = .ok [⟨"users", .operand⟩] := rfl
    rw [tokens, if_neg other, readArgument_behindEquals known chars dashed, command]
  have bundle : readBundle (Topic.flags .program) (argument.length + 1) f (isShort spelling)
      (some (.behindEquals x.toList)) = .ok { flags := [(f, x)] } := by
    simp only [readBundle, valued, if_true, String.ofList_toList]
  -- the one option is applied, and what is left is the command
  have taken : takeOptions .program {} [] [⟨argument,
      .flag f (isShort spelling) (some (.behindEquals x.toList))⟩, ⟨"users", .operand⟩] =
        .ok ⟨i, [], [⟨"users", .operand⟩]⟩ := by
    have applied' : [(f, x)].foldlM (Invocation.apply .program) {} = .ok i := by
      rw [List.foldlM_cons, applied]
      rfl
    simp only [takeOptions, bundle, applied', List.append_nil]
  rw [parse, read]
  dsimp only
  rw [taken]
  rfl

end Reading

/-! ### Programs that have just been started -/

/-- Whether a record is printed without being asked for. -/
def isHeard (r : LogRecord) : Bool :=
  r.level = .warning || r.level = .error

/-- What a command line shows in a program that has just been started: its answer, and the log
records that are heard. -/
def shown (m : Machine) (arguments : List String) (password : String) :
    Except Failure Scenario.Answer × List LogRecord :=
  let outcome := Scenario.State.runCommand { machine := m } arguments password
  (outcome.result, outcome.log.filter isHeard)

/-- What listing the users shows, once loading the settings has come to an end. -/
def listingShown (m : Machine) :
    Except LoadError Settings → Except Failure Scenario.Answer × List LogRecord
  | .error e => (.error (.settings e), [])
  | .ok settings =>
    ((listUsers m settings).result.map .command, (listUsers m settings).log.filter isHeard)

theorem shown_users {arguments : List String} {i : Invocation}
    (parsed : parse arguments = .ok { i with request := some .users }) (m : Machine)
    (password : String) :
    shown m arguments password =
      listingShown m ((Settings.load m.surroundings []).map i.override) := by
  rw [shown, Scenario.State.runCommand, parsed]
  dsimp only
  rw [Scenario.State.runRequest, Scenario.State.loadSettings]
  dsimp only
  cases Settings.load m.surroundings [] with
  | error e => rfl
  | ok settings =>
    have same : ({ i with request := some .users } : Invocation).override settings =
        i.override settings := rfl
    -- the record of the loaded settings is one that a command line does not show
    have unheard : isHeard (.settingsLoaded settings.baseFolder.text) = false := rfl
    simp only [Request.run, Except.map, listingShown, same, List.cons_append, List.nil_append,
      List.filter_cons, unheard, Bool.false_eq_true, if_false]

variable {m : Machine} {x : String} {environment : List (String × String)}

/-- The home directory does not depend on a variable that is that of a setting. -/
theorem resolvePath_of_sets {field : Field} {name : String} {s : Surroundings}
    (h : Sets s field name x environment) (settings : Settings) (value : String) :
    settings.resolvePath { s with environment := environment } value =
      settings.resolvePath s value := by
  have other : "HOME" ≠ name := by
    rintro rfl
    have names := h.names
    cases field <;> exact absurd names (by decide)
  -- of the environment, resolving a path reads the home directory only
  have home : ({ s with environment := environment } : Surroundings).value? "HOME" =
      s.value? "HOME" := Assignments.lookup?_congr h.others other
  have homes (first : String) : homeOf { s with environment := environment } first =
      homeOf s first := by
    simp only [homeOf, home]
  have expanded (p : Path) : expandHome { s with environment := environment } p =
      expandHome s p := by
    simp only [expandHome, homes]
  simp only [resolvePath, expanded]

theorem listingShown_of_sets {field : Field} {name : String}
    (h : Sets m.surroundings field name x environment) (loaded : Except LoadError Settings) :
    listingShown { m with environment := environment } loaded = listingShown m loaded := by
  cases loaded with
  | error e => rfl
  | ok settings =>
    let other : Machine := { m with environment := environment }
    have path : settings.userFilePath other.surroundings =
        settings.userFilePath m.surroundings := resolvePath_of_sets h settings settings.userFile
    have same : listUsers other settings = listUsers m settings := by
      rw [listUsers, listUsers, path]
      rfl
    rw [listingShown, listingShown, same]

/-! ### Options and variables -/

theorem shown_plain (m : Machine) (password : String) :
    shown m ["users"] password = listingShown m (Settings.load m.surroundings []) := by
  have parsed : parse ["users"] = .ok { ({} : Invocation) with request := some .users } := by
    decide
  rw [shown_users parsed]
  have same : (Settings.load m.surroundings []).map ({} : Invocation).override =
      Settings.load m.surroundings [] := by
    cases Settings.load m.surroundings [] <;> rfl
  rw [same]

/-- The option for the credential file puts its value in place of the setting, as it stands. -/
theorem shown_userFile (m : Machine) {x : String} (given : x ≠ "") (password : String) :
    shown m ["--htpasswd=" ++ x, "users"] password =
      listingShown m ((Settings.load m.surroundings []).map ({ · with userFile := x })) := by
  have known : flagOf? (Topic.flags .program) "--htpasswd" = some .userFile := by decide
  have parsed : parse ["--htpasswd=" ++ x, "users"] =
      .ok { ({ userFile := some x } : Invocation) with request := some .users } :=
    parse_behindEquals known rfl (String.toList_append ..) rfl rfl
  rw [shown_users parsed]
  refine congrArg (fun f ↦ listingShown m ((Settings.load m.surroundings []).map f))
    (funext fun settings ↦ ?_)
  simp only [Invocation.override, Option.getD_some, Option.getD_none, if_true, if_neg given]

/-- So does the option for the base folder. -/
theorem shown_baseFolder (m : Machine) {x : String} (given : x ≠ "") (password : String) :
    shown m ["--base-folder=" ++ x, "users"] password =
      listingShown m
        ((Settings.load m.surroundings []).map ({ · with baseFolder := Path.ofText x })) := by
  have known : flagOf? (Topic.flags .program) "--base-folder" = some .baseFolder := by decide
  have parsed : parse ["--base-folder=" ++ x, "users"] =
      .ok { ({ baseFolder := some x } : Invocation) with request := some .users } :=
    parse_behindEquals known rfl (String.toList_append ..) rfl rfl
  rw [shown_users parsed]
  refine congrArg (fun f ↦ listingShown m ((Settings.load m.surroundings []).map f))
    (funext fun settings ↦ ?_)
  simp only [Invocation.override, Option.getD_some, Option.getD_none, if_true, if_neg given]

/-- **An option means what the variable means that it overrides, except that its value is not
checked.** For every machine, every value that is not empty and every environment that is that of
the machine with the variable set, a program that has just been started shows in the listing:

* the same with the option for the base folder as with the variable;
* the same with the option for the credential file as with the variable, if the value has no blanks
  around it and the environment as it was had no problem with this setting;
* with the variable for the credential file, in any case, what the option shows with the value
  trimmed, unless there is nothing left of it: then the value is refused;
* with the option, the listing of the file that the value stands for as it is, blanks and all, over
  settings that have to load first. -/
theorem option_means_variable (m : Machine) {x : String} (given : x ≠ "") (password : String)
    (environment : List (String × String)) :
    let other : Machine := { m with environment := environment }
    let trimmed := String.ofList (trim x.toList)
    (Sets m.surroundings .baseFolder "BASE_FOLDER" x environment →
        shown m ["--base-folder=" ++ x, "users"] password = shown other ["users"] password) ∧
      (Sets m.surroundings .userFile "HTPASSWD_USERFILE" x environment →
        (LoadsFine m.surroundings .userFile →
            (trimmed = x →
              shown m ["--htpasswd=" ++ x, "users"] password = shown other ["users"] password) ∧
            (trimmed ≠ "" →
              shown m ["--htpasswd=" ++ trimmed, "users"] password =
                shown other ["users"] password)) ∧
          ∀ settings, Settings.load m.surroundings [] = .ok settings → trimmed = "" →
            shown other ["users"] password =
              (.error (.settings (.invalid [⟨Field.userFile.name, none, .blankPath⟩])), [])) ∧
      (∀ settings, Settings.load m.surroundings [] = .ok settings →
        shown m ["--htpasswd=" ++ x, "users"] password =
          listingShown m (.ok { settings with userFile := x })) ∧
      ∀ e, Settings.load m.surroundings [] = .error e →
        shown m ["--htpasswd=" ++ x, "users"] password = (.error (.settings e), []) := by
  intro other trimmed
  have blank_iff : trimmed = "" ↔ trim x.toList = [] := by
    rw [← String.toList_eq_nil_iff, String.toList_ofList]
  -- over settings that load, the trimmed value of the option is the value of the variable
  have variable_eq (h : Sets m.surroundings .userFile "HTPASSWD_USERFILE" x environment)
      (fine : LoadsFine m.surroundings .userFile) (some : trimmed ≠ "") :
      shown m ["--htpasswd=" ++ trimmed, "users"] password = shown other ["users"] password := by
    rw [shown_userFile m some, shown_plain, listingShown_of_sets h]
    exact congrArg (listingShown m) (h.load_userFile fine (mt blank_iff.2 some)).symm
  refine ⟨fun h ↦ ?_, fun h ↦ ⟨fun fine ↦ ⟨fun bare ↦ ?_, variable_eq h fine⟩,
    fun settings loaded blank ↦ ?_⟩, fun settings loaded ↦ ?_, fun e failed ↦ ?_⟩
  · rw [shown_baseFolder m given, shown_plain, listingShown_of_sets h]
    exact congrArg (listingShown m) h.load_baseFolder.symm
  · have same := variable_eq h fine (bare ▸ given)
    rwa [bare] at same
  · rw [shown_plain]
    exact congrArg (listingShown other) (h.load_blank (blank_iff.1 blank) loaded)
  · rw [shown_userFile m given, loaded]
    rfl
  · rw [shown_userFile m given, failed]
    rfl

/-- Blanks around the value are taken off a variable, so the variable with them is the option
without them. -/
theorem option_means_variable_at_missing_file :
    let other : Machine := { environment := [("HTPASSWD_USERFILE", " /htpasswd")] }
    shown {} ["--htpasswd=" ++ "/htpasswd", "users"] "" = shown other ["users"] "" := by
  intro other
  have trimmed : String.ofList (trim " /htpasswd".toList) = "/htpasswd" := by decide
  -- no variable is set and there is no file, so the settings are the usual ones
  obtain ⟨values, assigned⟩ := fileValues_of_empty (s := ({} : Machine).surroundings) rfl
  have sets : Sets ({} : Machine).surroundings .userFile "HTPASSWD_USERFILE" " /htpasswd"
      [("HTPASSWD_USERFILE", " /htpasswd")] := by
    refine ⟨by decide, List.mem_singleton_self _, by decide,
      fun v mem _ ↦ List.mem_singleton.1 mem, fun a mem ↦ ?_⟩
    rw [assigned] at mem
    exact absurd mem List.not_mem_nil
  have loads : Settings.load ({} : Machine).surroundings [] = .ok {} := by
    rw [Settings.load, values]
    rfl
  have fine : LoadsFine ({} : Machine).surroundings .userFile := by
    intro ps failed
    exact absurd (loads.symm.trans failed) nofun
  obtain ⟨-, alike, -⟩ := option_means_variable {} (show " /htpasswd" ≠ "" by decide) ""
    [("HTPASSWD_USERFILE", " /htpasswd")]
  have same := ((alike sets).1 fine).2 (by decide)
  rwa [trimmed] at same

end Command

end AuthRealm
