import AuthRealm.Storage.Tree
import AuthRealm.Text.Fields

/-!
# Settings

What an operator can choose, and the paths that the choices stand for. A path setting may contain a
placeholder for the base folder, may start at a home directory, and is anchored at the working
directory if it is relative; `resolvePath` makes one absolute path of it, with every link followed.

The backing store is given as a path or as a URL. A text with `://` in it is a URL and is taken as
it stands; anything else is a path, and its URL is written from the resolved path
(`backingStoreUrl`).
-/

namespace AuthRealm

open Storage Text

/-- What an operator can choose. -/
structure Settings where
  debug : Bool := false
  baseFolder : Path := ⟨"", ["data"]⟩
  backingStore : String := "$\x7bbaseFolder\x7d/users.db"
  userFile : String := "$\x7bbaseFolder\x7d/htpasswd"
  overrideLocal : Bool := true
  charset : String := "utf-8"
  secureCookies : Bool := false
  loginRateLimit : String := "10/minute"
  verifyRateLimit : String := "60/minute"
  allowedHosts : List String := ["localhost", "127.0.0.1", "*.localhost"]
  deriving DecidableEq, Repr

/-- What the meaning of a path depends on: the file tree, the working directory, the environment,
and the home directories of known users. -/
structure Surroundings where
  tree : Tree
  workDir : Location
  environment : List (String × String)
  homes : List (String × String)
  ownHome : String
  deriving Repr

/-- The value of an environment variable. -/
def Surroundings.value? (s : Surroundings) (name : String) : Option String :=
  (s.environment.find? fun v ↦ v.1 == name).map (·.2)

/-- Why a path setting stands for no path. -/
inductive PathError where
  | noHome
  | embeddedNul
  | linkLoop (path : String)
  deriving DecidableEq, Repr

/-- The wording of a refusal. -/
def PathError.message : PathError → String
  | .noHome => "Could not determine home directory."
  | .embeddedNul => "embedded null byte"
  | .linkLoop path => "Symlink loop from " ++ quoted path

/-- Whether a text contains a NUL, which no path may. -/
def hasNul (s : String) : Bool :=
  s.toList.contains '\x00'

namespace Settings

/-- The placeholder for the base folder. -/
def placeholder : List Char := "$\x7bbaseFolder\x7d".toList

/-- The mark of a URL. -/
def urlMark : List Char := "://".toList

/-- The text without slashes at its end. -/
def withoutFinalSlashes (s : String) : String :=
  String.ofList (s.toList.reverse.dropWhile (· == '/')).reverse

/-- The home directory that the first name of a path stands for, if it starts with a tilde: the
user's own for a bare tilde, another's for a tilde and a name. -/
def homeOf (s : Surroundings) (name : String) : Except PathError Path :=
  match name.toList.drop 1 with
  | [] =>
    let home := withoutFinalSlashes ((s.value? "HOME").getD s.ownHome)
    if home.toList.head? = some '~' then .error .noHome
    else .ok (Path.ofText (if home = "" then "/" else home))
  | user =>
    if user.contains '\x00' then .error .embeddedNul
    else
      match s.homes.find? fun h ↦ h.1.toList == user with
      | some h => .ok (Path.ofText (if withoutFinalSlashes h.2 = "" then "/" else
          withoutFinalSlashes h.2))
      | none => .error .noHome

/-- The path with a leading home directory written out. -/
def expandHome (s : Surroundings) (p : Path) : Except PathError Path :=
  match p.names with
  | first :: rest =>
    if !p.isAbsolute && first.toList.head? = some '~' then
      (homeOf s first).map fun home ↦ { home with names := home.names ++ rest }
    else .ok p
  | [] => .ok p

/-- The text of a path setting with the base folder in place of the placeholder. -/
def expandPlaceholder (settings : Settings) (value : String) : String :=
  String.ofList (replace placeholder settings.baseFolder.text.toList value.toList)

/-- The absolute path that a path setting stands for. -/
def resolvePath (settings : Settings) (s : Surroundings) (value : String) :
    Except PathError Path :=
  match expandHome s (Path.ofText (settings.expandPlaceholder value)) with
  | .error e => .error e
  | .ok path =>
    if hasNul path.text then .error .embeddedNul
    else
      let absolute := path.within s.workDir
      let resolved := Path.ofLocation (s.tree.resolve absolute).location
      match s.tree.find resolved with
      | .error .tooManyLinks => .error (.linkLoop resolved.text)
      | _ => .ok resolved

/-- The path of the credential file. -/
def userFilePath (settings : Settings) (s : Surroundings) : Except PathError Path :=
  settings.resolvePath s settings.userFile

/-- Whether the backing store is given as a URL. -/
def storeIsUrl (settings : Settings) : Bool :=
  contains urlMark settings.backingStore.toList

/-- The path of the backing store, if it is given as a path. -/
def backingStorePath (settings : Settings) (s : Surroundings) : Except PathError (Option Path) :=
  if settings.storeIsUrl then .ok none
  else (settings.resolvePath s settings.backingStore).map some

/-- The URL of a store in a file. -/
def urlOfFile (p : Path) : String :=
  "sqlite:///" ++ p.text

/-- The URL of the backing store. -/
def backingStoreUrl (settings : Settings) (s : Surroundings) : Except PathError String :=
  if settings.storeIsUrl then .ok settings.backingStore
  else (settings.resolvePath s settings.backingStore).map urlOfFile

end Settings

end AuthRealm
