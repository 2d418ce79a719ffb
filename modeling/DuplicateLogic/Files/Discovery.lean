import DuplicateLogic.Files.IgnoreRules

/-! # Finding tree files

A folder is searched for tree files. What is rejected and folders that are excluded are passed over
with all that is in them. Ignore files reject entries, and so do hidden names unless an ignore file
re-includes them. The folder that is searched and files that are named are never passed over. A name
that is no text is neither that of a tree file nor that of an excluded folder. -/

namespace DuplicateLogic

/-- How the name of a tree file ends. -/
def treeFileSuffix : List Char :=
  ".tree.json".toList

/-- Whether a name is that of a tree file. -/
def RawText.isTreeName (name : RawText) : Bool :=
  name.text?.any fun text => treeFileSuffix.isSuffixOf text.toList

/-- Whether a path names a tree file. -/
def Path.isTreeFile (path : Path) : Bool :=
  path.fileName?.any (·.isTreeName)

/-- Whether a name is hidden. -/
def isHidden (name : RawText) : Bool :=
  name.bytes.head? = some RawText.dot

namespace Discovery

/-- Whether the ignore files, or its hidden name, keep a search from what stands at some names. -/
def isRejected (root : Entry) (names : List RawText) : Bool :=
  (root.at? names).any fun entry =>
    let verdict := ignoreVerdict (IgnoreLayer.leadingTo root names.dropLast) names entry.isFolder
    verdict = .ignored || (verdict = .silent && names.getLast?.any isHidden)

/-- Whether a name is one of the folders that are excluded. -/
def isExcluded (excluded : List String) (name : RawText) : Bool :=
  name.text?.any excluded.contains

/-- Whether an entry of a folder is passed over. -/
def passesOver (rejects : List RawText → Bool) (excluded : List String) (names : List RawText)
    (name : RawText) (entry : Entry) : Bool :=
  rejects (names ++ [name]) || (entry.isFolder && isExcluded excluded name)

mutual

/-- The tree files in an entry. `names` lead to it from the folder that is searched, `rejects` says
which names from there are rejected, and `path` is how the entry is spelled. -/
def search (rejects : List RawText → Bool) (excluded : List String) (names : List RawText)
    (path : Path) : Entry → List Path
  | .file _ => if path.isTreeFile then [path] else []
  | .folder entries => searchAll rejects excluded names path entries

/-- The tree files in the entries of a folder. -/
def searchAll (rejects : List RawText → Bool) (excluded : List String) (names : List RawText)
    (path : Path) : List (RawText × Entry) → List Path
  | [] => []
  | (name, entry) :: rest =>
      (if passesOver rejects excluded names name entry then []
      else search rejects excluded (names ++ [name]) (path.join ⟨name⟩) entry) ++
        searchAll rejects excluded names path rest

end

/-- The tree files below a folder. -/
def inFolder (system : FileSystem) (excluded : List String) (path : Path) : List Path :=
  match system.find path with
  | .error _ => []
  | .ok place =>
      search (fun names => isRejected system.root (place.names ++ names)) excluded [] path
        place.entry

/-- The paths without those that follow an equal one. -/
def dropRepeats : List Path → List Path
  | [] => []
  | [path] => [path]
  | first :: second :: rest =>
      if first.same second then dropRepeats (first :: rest)
      else first :: dropRepeats (second :: rest)
termination_by paths => paths.length

/-- The files that paths stand for, in the order of paths and each once: the tree files of a
folder, and everything else as it is. -/
def collect (system : FileSystem) (excluded : List String) (paths : List Path) : List Path :=
  let files := paths.flatMap fun path =>
    if system.isFolder path then inFolder system excluded path else [path]
  dropRepeats (files.mergeSort Path.atMost)

end Discovery

end DuplicateLogic
