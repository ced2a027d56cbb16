import AuthRealm.Account.TableFile
import AuthRealm.Command.Run

/-!
# The program

Runs a command line on the machine at hand. What the command may look at is gathered first: the
environment, the home directories, the file of assignments, and of the file tree whatever lies on
the way to the credential file and the account store. The command itself is then run on these
values, and what it did to the accounts is written back.
-/

namespace AuthRealm.Main

open Account Storage Text

/-! ### Gathering -/

/-- The bytes of a file, or whether there is a directory in its place. -/
def readPlace (path : String) : IO (Option (Option ByteArray)) := do
  try return some (some (← IO.FS.readBinFile path))
  catch e =>
    match e with
    | .inappropriateType .. => return some none
    | _ => return none

/-- The text of a file, empty if there is none. -/
def readText (path : String) : IO String := do
  match ← readPlace path with
  | some (some bytes) => return (String.fromUTF8? bytes).getD ""
  | _ => return ""

/-- The variables of the environment. -/
def readEnvironment : IO (List (String × String)) := do
  let text ← readText "/proc/self/environ"
  return (fields '\x00' text.toList).filterMap fun f ↦
    match cutAt '=' f with
    | (name, some value) => some (String.ofList name, String.ofList value)
    | _ => none

/-- The home directories of known users. -/
def readHomes : IO (List (String × String)) := do
  let text ← readText "/etc/passwd"
  return (lines text.toList).filterMap fun l ↦
    match fields ':' l with
    | [name, _, _, _, _, home, _] => some (String.ofList name, String.ofList home)
    | _ => none

/-- Where a path leads, if it leads anywhere. -/
def realPath? (path : String) : IO (Option String) := do
  try return some (toString (← IO.FS.realPath path))
  catch _ => return none

/-- The text of a location. -/
def textOf (l : Location) : String :=
  (Path.ofLocation l).text

/-- The disk with what the machine has at a location. -/
def learn (disk : Disk) (l : Location) : IO Disk := do
  if (disk.tree.get? l).isSome then return disk
  match ← realPath? (textOf l) with
  | none => return disk
  | some real =>
    let node? ←
      if real != textOf l then pure (some (Node.link real))
      else
        match ← readPlace real with
        | none => pure none
        | some none => pure (some (.directory none))
        | some (some bytes) => pure (some (.file bytes.toList 0))
    match node? with
    | none => return disk
    | some node => return { disk with tree := disk.tree.put l node }

/-- The disk with everything on the way to an absolute path. Each link that is met leads further;
the fuel bounds how many are. -/
def learnPath (p : Path) : Nat → Disk → IO Disk
  | 0, disk => return disk
  | fuel + 1, disk => do
    let l := (disk.tree.resolve p).location
    let next ← (List.range (l.length + 1)).foldlM (fun d n ↦ learn d (l.take n)) disk
    if next.tree.nodes.length = disk.tree.nodes.length then return next
    else learnPath p fuel next

/-- The most links that are followed while a path is learned. -/
def maxLearned : Nat := 64

/-- The machine with everything on the way to a path setting. -/
def learnSetting (settings : Settings) (value : String) (m : Machine) : IO Machine := do
  match Settings.expandHome m.surroundings (Path.ofText (settings.expandPlaceholder value)) with
  | .error _ => return m
  | .ok p => return { m with disk := ← learnPath (p.within m.workDir) maxLearned m.disk }

/-- The place of the account store that settings name. -/
def storePlace? (settings : Settings) (m : Machine) : Option Location := do
  let url ← (settings.backingStoreUrl m.surroundings).toOption
  match (← StoreUrl.ofText? url).place m.drivers m.workDir with
  | .ok (.file l) => some l
  | _ => none

/-- The machine with the account database that settings name, if its file holds a table. -/
def learnStore (settings : Settings) (m : Machine) : IO Machine := do
  match storePlace? settings m with
  | none => return m
  | some place =>
    let disk ← learnPath (Path.ofLocation place) maxLearned m.disk
    let l := (disk.tree.resolve (Path.ofLocation place)).location
    match disk.tree.get? l with
    | some (.file bytes _) =>
      match (String.fromUTF8? ⟨bytes.toArray⟩).bind TableFile.ofText? with
      | some table =>
        let (disk, number) := disk.newDatabaseAt l
        return { m with disk := disk.setTable number table }
      | none => return { m with disk := disk }
    | _ => return { m with disk := disk }

/-! ### The time -/

/-- The moment that lies some seconds after the start of 1970. Years are counted from March, so that
a leap day is the last day of its year. -/
def momentOf (seconds : Nat) : Timestamp :=
  let days := seconds / 86400 + 719468
  let rest := seconds % 86400
  let day := days % 146097
  let year := (day - day / 1460 + day / 36524 - day / 146096) / 365
  let dayOfYear := day - (365 * year + year / 4 - year / 100)
  let fromMarch := (5 * dayOfYear + 2) / 153
  let month := if fromMarch < 10 then fromMarch + 3 else fromMarch - 9
  ⟨days / 146097 * 400 + year + (if month ≤ 2 then 1 else 0), month,
    dayOfYear - (153 * fromMarch + 2) / 5 + 1, rest / 3600, rest / 60 % 60, rest % 60, 0⟩

/-- The number that the digits at the start of a text write. -/
def leadingNumber (s : List Char) : Nat :=
  (s.takeWhile Char.isDigit).foldl (fun n d ↦ 10 * n + (d.toNat - 48)) 0

/-- The present moment: the time at which the machine was started, and how long ago that was. -/
def readMoment : IO Timestamp := do
  let started := (lines (← readText "/proc/stat").toList).findSome? (after? "btime ".toList)
  let since := (← readText "/proc/uptime").toList
  return momentOf (leadingNumber (started.getD []) + leadingNumber since)

/-- The machine at hand, with its file of assignments. -/
def gather : IO Machine := do
  let workDir := (Path.ofText (toString (← IO.currentDir))).names
  return {
    disk := ← learnPath (Path.ofLocation (workDir ++ [".env"])) maxLearned {}
    workDir := workDir
    environment := ← readEnvironment
    homes := ← readHomes
    now := ← readMoment }

/-! ### Running -/

/-- Writes back the tables of the databases that a command has changed or created. -/
def writeBack (before after : Disk) : IO Unit := do
  for (l, node) in after.tree.nodes do
    if let .database number := node then
      if before.tree.get? l != some node || before.table number != after.table number then
        IO.FS.writeFile (textOf l) (TableFile.text (after.table number))

/-- Shows the records that are grave enough. -/
def showLog (verbose : Bool) (log : List LogRecord) : IO Unit := do
  for r in log do
    if verbose || r.level == .warning || r.level == .error then IO.eprintln r.text

/-- Shows a report; gives the exit code. -/
def showReport (report : Command.Report) : IO UInt32 := do
  IO.print report.output
  IO.eprint report.errors
  return UInt32.ofNat report.exitCode

/-- Shows a failure; gives the exit code. -/
def showFailure (e : Failure) : IO UInt32 := do
  IO.eprintln e.message
  return 1

/-- Asks for a password if a request needs one. Whether it does shows in the report that it has with
an empty one. -/
def askPassword (rehearsal : Command.Finished) : IO String := do
  match rehearsal.result with
  | .ok report =>
    match report.prompts with
    | [] => return ""
    | prompt :: _ =>
      IO.eprint prompt
      let line ← (← IO.getStdin).getLine
      return String.ofList (line.toList.takeWhile (· != '\n'))
  | .error _ => return ""

/-- Runs a request with the settings of the machine. -/
def runRequest (m : Machine) (i : Command.Invocation) (request : Command.Request) : IO UInt32 := do
  match Settings.load m.surroundings [] with
  | .error e => showFailure (.settings e)
  | .ok settings =>
    let settings := i.override settings
    let m ← learnSetting settings settings.userFile m
    let m ← if settings.storeIsUrl then pure m
      else learnSetting settings settings.backingStore m
    let m ← learnStore settings m
    let password ← askPassword (request.run m settings "")
    let finished := request.run m settings password
    showLog i.verbose finished.log
    writeBack m.disk finished.disk
    match finished.result with
    | .error e => showFailure e
    | .ok report => showReport report

/-- Runs a command line. -/
def run (arguments : List String) : IO UInt32 := do
  match Command.parse arguments with
  | .error stop => showReport stop.report
  | .ok i =>
    match i.request with
    | none => showReport (Command.Stop.report (.help .program))
    | some request => runRequest (← gather) i request

end AuthRealm.Main

/-- The program. -/
def main (arguments : List String) : IO UInt32 :=
  AuthRealm.Main.run arguments
