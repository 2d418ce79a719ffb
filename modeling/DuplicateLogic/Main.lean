import DuplicateLogic.Run

/-! # The command

The disk is read into a file system value first: the paths of the command line as far as an
analysis can need them, and the settings and ignore files of the folders above them. The runtime
hands names over as texts. Everything after that is `run`. -/

namespace DuplicateLogic

open CommandLine

/-- The files that settings and ignore rules are read from, by their place in a folder. -/
def controlFiles : List (List String) :=
  [[settingsFileName.text], [".ignore"], [".gitignore"], [".git", "info", "exclude"]]

/-- The entries that make a folder the root of a repository. -/
def repositoryMarks : List String :=
  [".git", ".jj"]

/-- Whether the content of a file can matter when the file is found in a folder. -/
def contentMatters (name : String) : Bool :=
  Path.isTreeFile ⟨name⟩ || controlFiles.any fun parts => parts.getLast? = some name

/-- Whether an entry of a folder can matter: of the data of a repository only its rules do. -/
def entryMatters (folder name : String) : Bool :=
  !repositoryMarks.contains folder || name = "info"

/-- The names from the root to a path: a step up takes the last name back. -/
def resolveNames (working : List String) (path : Path) : List String :=
  path.components.foldl
    (fun names component =>
      match component with
      | .root => []
      | .current => names
      | .parent => names.dropLast
      | .name text => names ++ [text.lossy])
    working

/-- The absolute path of names. -/
def absolutePath (names : List String) : String :=
  "/" ++ "/".intercalate names

/-- Reads a file or a folder with all that is in it. Links inside folders are passed over, and so
is what cannot be read. -/
partial def readEntry (named : Bool) (path name : String) : IO (Option Entry) := do
  try
    let place ← IO.FS.realPath path
    if ← place.isDir then
      let mut entries : Array (RawText × Entry) := #[]
      for child in ← place.readDir do
        let status ← child.path.symlinkMetadata
        unless status.type == .symlink || !entryMatters name child.fileName do
          let entry? ← readEntry false (path ++ "/" ++ child.fileName) child.fileName
          if let some entry := entry? then
            entries := entries.push (child.fileName, entry)
      return some (.folder entries.toList)
    else if named || contentMatters name then
      return some (.file (← IO.FS.readBinFile place))
    else
      return some (.file ByteArray.empty)
  catch _ =>
    return none

/-- The tree with what the disk has at names, unless that is missing. -/
def includeEntry (tree : Entry) (names : List String) : IO Entry := do
  match ← readEntry true (absolutePath names) (names.getLastD "") with
  | some entry => return Entry.put entry (names.map RawText.ofString) tree
  | none => return tree

/-- The tree with a folder at names, which is empty unless the tree has it. -/
def includeFolder (tree : Entry) (names : List String) : Entry :=
  if FileSystem.isFolder ⟨tree, []⟩ ⟨absolutePath names⟩ then tree
  else Entry.put (.folder []) (names.map RawText.ofString) tree

/-- Whether the disk has something at names. -/
def onDisk (names : List String) : IO Bool := do
  try
    let _ ← IO.FS.realPath (absolutePath names)
    return true
  catch _ =>
    return false

/-- The tree with the settings and ignore files of a folder, or with the file that stands in its
place. -/
def includeControls (tree : Entry) (names : List String) : IO Entry := do
  try
    let place ← IO.FS.realPath (absolutePath names)
    if ← place.isDir then
      let marks ← (repositoryMarks.map fun mark => names ++ [mark]).filterM onDisk
      let marked := marks.foldl includeFolder (includeFolder tree names)
      controlFiles.foldlM (fun tree parts => includeEntry tree (names ++ parts)) marked
    else
      includeEntry tree names
  catch _ =>
    return tree

/-- Names and all that lead to them, the root first. -/
def namesAbove (names : List String) : List (List String) :=
  (List.range (names.length + 1)).map names.take

/-- The part of the disk that an analysis of paths can need. -/
def readDisk (working : List String) (paths : List Path) : IO FileSystem := do
  let targets := paths.map (resolveNames working)
  let controls ← ((working :: targets).flatMap namesAbove).foldlM includeControls (.folder [])
  let root ← targets.foldlM includeEntry controls
  return ⟨root, working.map RawText.ofString⟩

/-- Says why a command line leads to no report. -/
def explain (system : FileSystem) (arguments : List String) : IO Unit := do
  match Arguments.parse arguments with
  | .error (.showHelp _) => return ()
  | .error .showVersion => return ()
  | .error stop => IO.eprintln stop.text
  | .ok arguments =>
      match runSettings system arguments with
      | .error fault => IO.eprintln ("Error: " ++ fault.message)
      | .ok _ => return ()

end DuplicateLogic

open DuplicateLogic in
/-- Analyses the paths of the command line and writes the report. -/
def main (arguments : List String) : IO UInt32 := do
  let working := resolveNames [] ⟨(← IO.currentDir).toString⟩
  let paths :=
    match CommandLine.Arguments.parse arguments with
    | .ok parsed => parsed.paths ++ parsed.config?.toList
    | .error _ => []
  let system ← readDisk working paths
  explain system arguments
  let output ← IO.getStdout
  let plain? ← IO.getEnv "NO_COLOR"
  let outcome := run system ((← output.isTty) && plain?.isNone) arguments
  if let .failed cause := outcome then
    IO.eprintln ("Error: " ++ cause.message)
  output.putStr outcome.output
  output.flush
  return outcome.code.toUInt32
