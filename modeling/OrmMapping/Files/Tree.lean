import OrmMapping.Files.Path
import OrmMapping.Text.Order
import OrmMapping.Text.Quoted

/-!
# File trees

A file tree is a value: every file and directory with the place where it stands, and the working
directory that relative paths start from. There are no links, so a place is the list of names that
lead to it from the top.

* `FileTree.locate`: the place a path leads to;
* `FileTree.read`, `FileTree.write`, `FileTree.makeDirectories`: the operations;
* `FileTree.Change`: a tree after work on it, with the error that ended the work;
* `FileTree.filesBelow`: all files under a place, sorted;
* `FileError`: why an operation fails.
-/

namespace OrmMapping

/-- The names that lead to a file or directory from the top. -/
abbrev Place := List String

/-- What stands at a place. -/
inductive FileEntry where
  | file (content : List UInt8)
  | directory
deriving DecidableEq

/-- Why a path does not serve. -/
inductive FileFault where
  | missing
  | exists
  | notDirectory
  | isDirectory
  | nameTooLong
  | nullCharacter
deriving DecidableEq, Repr

/-- A fault with the path that it befalls. -/
structure FileError where
  fault : FileFault
  path : Path
deriving DecidableEq, Repr

/-- The number of a fault among the system's errors. A path with a null character never reaches the
system. -/
def FileFault.number? : FileFault → Option Nat
  | .missing => some 2
  | .exists => some 17
  | .notDirectory => some 20
  | .isDirectory => some 21
  | .nameTooLong => some 36
  | .nullCharacter => none

/-- The fault in words. -/
def FileFault.message : FileFault → String
  | .missing => "No such file or directory"
  | .exists => "File exists"
  | .notDirectory => "Not a directory"
  | .isDirectory => "Is a directory"
  | .nameTooLong => "File name too long"
  | .nullCharacter => "embedded null byte"

/-- The error in words. -/
def FileError.message (e : FileError) : String :=
  match e.fault.number? with
  | some number =>
    "[Errno " ++ toString number ++ "] " ++ e.fault.message ++ ": " ++ Text.quoted e.path.text
  | none => e.fault.message

/-- Files and directories with their places, and the working directory. The top is a directory
without an entry. -/
structure FileTree where
  workingDirectory : Place := []
  entries : List (Place × FileEntry) := []

namespace FileTree

/-- The most bytes that a name may have. -/
def maxNameLength : Nat := 255

/-- The most bytes that a path may have. -/
def maxPathLength : Nat := 4095

/-- The step up to the directory above. -/
def up : String := ".."

/-! ## Finding -/

/-- What stands at a place. -/
def lookup? (t : FileTree) (place : Place) : Option FileEntry :=
  match place with
  | [] => some .directory
  | place => t.entries.lookup place

/-- The place where a path starts. -/
def start (t : FileTree) (path : Path) : Place :=
  match path.anchor with
  | .workingDirectory => t.workingDirectory
  | _ => []

/-- The place of a name in the directory at `here`. -/
def step (t : FileTree) (here : Place) (name : String) : Except FileFault Place :=
  match t.lookup? here with
  | none => .error .missing
  | some (.file _) => .error .notDirectory
  | some .directory =>
    if name == up then .ok here.dropLast
    else if maxNameLength < name.utf8ByteSize then .error .nameTooLong
    else .ok (here ++ [name])

/-- The place that names lead to from `here`; everything on the way, and the end, must exist. -/
def walk (t : FileTree) (here : Place) : List String → Except FileFault Place
  | [] => if (t.lookup? here).isSome then .ok here else .error .missing
  | name :: rest =>
    match t.step here name with
    | .error fault => .error fault
    | .ok next => t.walk next rest

/-- What keeps a path from leading anywhere, whatever the files. -/
def pathFault? (path : Path) : Option FileFault :=
  let written := path.text
  if written.toList.contains '\x00' then some .nullCharacter
  else if maxPathLength < written.utf8ByteSize then some .nameTooLong
  else none

/-- The place of something that exists. -/
def locate (t : FileTree) (path : Path) : Except FileFault Place :=
  match pathFault? path with
  | some fault => .error fault
  | none => t.walk (t.start path) path.parts

/-- What a path leads to. -/
def find? (t : FileTree) (path : Path) : Option FileEntry :=
  match t.locate path with
  | .ok place => t.lookup? place
  | .error _ => none

/-- Whether a path leads to a directory. -/
def isDirectory (t : FileTree) (path : Path) : Bool :=
  t.find? path == some .directory

/-- The place that a path names, whether or not anything stands there; what leads to it must. -/
def target (t : FileTree) (path : Path) : Except FileFault Place :=
  match pathFault? path, path.parts.getLast? with
  | some fault, _ => .error fault
  | none, none => .ok (t.start path)
  | none, some name =>
    match t.walk (t.start path) path.parts.dropLast with
    | .error fault => .error fault
    | .ok parent => t.step parent name

/-! ## Reading -/

/-- The content of a file. -/
def read (t : FileTree) (path : Path) : Except FileError (List UInt8) :=
  match t.locate path with
  | .error fault => .error ⟨fault, path⟩
  | .ok place =>
    match t.lookup? place with
    | some (.file content) => .ok content
    | some .directory => .error ⟨.isDirectory, path⟩
    | none => .error ⟨.missing, path⟩

/-- The names that lead from a place to what stands below it. -/
def namesBelow (place : Place) (entries : List (Place × FileEntry)) : List (List String) :=
  entries.filterMap fun (p, _) =>
    if place.isPrefixOf p && p != place then some (p.drop place.length) else none

/-- What stands below a place, by the names that lead there from it, sorted by those names. -/
def allBelow (t : FileTree) (place : Place) : List (List String) :=
  (namesBelow place t.entries).mergeSort Text.allAtMost

/-- Whether a file stands at a place. -/
def isFileAt (t : FileTree) (place : Place) : Bool :=
  match t.lookup? place with
  | some (.file _) => true
  | _ => false

/-- All files below a place with the names that lead there from it, sorted by those names. -/
def filesBelow (t : FileTree) (place : Place) : List (List String) :=
  (t.allBelow place).filter fun names => t.isFileAt (place ++ names)

/-! ## Writing -/

/-- Puts something at a place, instead of what stands there. -/
def putEntry (entries : List (Place × FileEntry)) (place : Place) (entry : FileEntry) :
    List (Place × FileEntry) :=
  match entries with
  | [] => [(place, entry)]
  | (p, e) :: rest =>
    if p == place then (p, entry) :: rest else (p, e) :: putEntry rest place entry

/-- The tree with something put at a place. -/
def put (t : FileTree) (place : Place) (entry : FileEntry) : FileTree :=
  { t with entries := putEntry t.entries place entry }

/-- After `putEntry` the `entry` stands at `place`, and all other places have what they had. -/
theorem lookup_putEntry (entries : List (Place × FileEntry)) (place other : Place)
    (entry : FileEntry) :
    (putEntry entries place entry).lookup other =
      if other = place then some entry else entries.lookup other := by
  induction entries with
  | nil =>
    by_cases ho : other = place
    · simp [putEntry, ho]
    · simp [putEntry, List.lookup_cons, beq_eq_false_iff_ne.mpr ho, ho]
  | cons first rest ih =>
    obtain ⟨p, e⟩ := first
    by_cases hp : p = place
    · subst hp
      by_cases ho : other = p
      · simp [putEntry, ho]
      · simp [putEntry, List.lookup_cons, beq_eq_false_iff_ne.mpr ho, ho]
    · by_cases ho : other = p
      · subst ho
        simp [putEntry, hp]
      · simp [putEntry, List.lookup_cons, hp, beq_eq_false_iff_ne.mpr ho, ih]

/-- Putting something at a place changes what stands there and nothing else. The top, `[]`, is left
out: it is always a directory. -/
theorem lookup?_put (t : FileTree) (place other : Place) (entry : FileEntry) (h : other ≠ []) :
    (t.put place entry).lookup? other = if other = place then some entry else t.lookup? other := by
  cases other with
  | nil => exact absurd rfl h
  | cons name rest => exact lookup_putEntry t.entries place (name :: rest) entry

/-- Writes a file, instead of one that is there already. -/
def write (t : FileTree) (path : Path) (content : List UInt8) : Except FileError FileTree :=
  match t.target path with
  | .error fault => .error ⟨fault, path⟩
  | .ok place =>
    match t.lookup? place with
    | some .directory => .error ⟨.isDirectory, path⟩
    | _ => .ok (t.put place (.file content))

/-- Makes a directory in one that exists. A path that ends with a step up always leads to something
that exists. -/
def makeDirectory (t : FileTree) (path : Path) : Except FileFault FileTree :=
  match t.target path with
  | .error fault => .error fault
  | .ok place =>
    if (t.lookup? place).isSome || path.parts.getLast? == some up then .error .exists
    else .ok (t.put place .directory)

/-- Makes a directory unless there is one. -/
def ensureDirectory (t : FileTree) (path : Path) : Except FileError FileTree :=
  match t.makeDirectory path with
  | .ok made => .ok made
  | .error fault =>
    if fault != .missing && t.isDirectory path then .ok t else .error ⟨fault, path⟩

/-- What is left of a tree when some work on it is done or has failed. -/
structure Change where
  tree : FileTree
  error? : Option FileError := none

/-- The change that an outcome is; a failed step leaves the tree as it was. -/
def Change.of (before : FileTree) : Except FileError FileTree → Change
  | .ok after => ⟨after, none⟩
  | .error e => ⟨before, some e⟩

/-- Makes a directory and those above it that are missing, given the names in reverse. Directories
made before a failure stay. -/
def makeDirectoriesOf (anchor : Anchor) (t : FileTree) : List String → Change
  | [] => .of t (t.ensureDirectory ⟨anchor, []⟩)
  | name :: above =>
    let path : Path := ⟨anchor, (name :: above).reverse⟩
    match t.ensureDirectory path with
    | .ok made => ⟨made, none⟩
    | .error e =>
      if e.fault == .missing then
        let higher := makeDirectoriesOf anchor t above
        match higher.error? with
        | none => .of higher.tree (higher.tree.ensureDirectory path)
        | some _ => higher
      else
        ⟨t, some e⟩

/-- Makes a directory and those above it that are missing. -/
def makeDirectories (t : FileTree) (path : Path) : Change :=
  makeDirectoriesOf path.anchor t path.parts.reverse

/-- Writes a file after making the directory given. -/
def writeIn (t : FileTree) (directory path : Path) (content : List UInt8) : Change :=
  let made := t.makeDirectories directory
  match made.error? with
  | some _ => made
  | none => .of made.tree (made.tree.write path content)

/-- The tree without what stands at a place and below it, as a tool outside leaves it that clears a
directory. -/
def remove (t : FileTree) (place : Place) : FileTree :=
  { t with entries := t.entries.filter fun (p, _) => !place.isPrefixOf p }

/-- All files below the working directory, with their paths from there and what they hold: what can
be compared of two trees. -/
def workingFiles (t : FileTree) : List (Path × List UInt8) :=
  t.entries.filterMap fun (p, entry) =>
    match entry with
    | .file content =>
      if t.workingDirectory.isPrefixOf p then
        some (⟨.workingDirectory, p.drop t.workingDirectory.length⟩, content)
      else
        none
    | .directory => none

end FileTree

end OrmMapping
