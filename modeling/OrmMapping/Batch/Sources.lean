import OrmMapping.Files.Tree
import OrmMapping.Text.Casing

/-!
# Sources

The files that may hold descriptors, found below the paths to search. Their order depends on the
files alone, and none is listed twice. The place of a file below its search path gives the dotted
name under which its class is known: `auto/Engine.json` is `auto.Engine`.

* `Source`: a file with its dotted name;
* `Source.discover`: all files below some paths.
-/

namespace OrmMapping

/-- A file that may hold a descriptor, the path it was found from and its dotted name. -/
structure Source where
  qualifiedName : String
  path : Path
  root : Path
deriving DecidableEq, Repr

namespace Source

/-- The last segment of the dotted name. -/
def className (s : Source) : String :=
  Text.lastSegment s.qualifiedName

/-- The dotted name of a file, given the names that lead to it. -/
def qualify (names : List String) : String :=
  match names.getLast? with
  | none => ""
  | some last => Text.joinWith "." (names.dropLast ++ [Path.stemOf last])

/-- Whether a file name has one of the suffixes, whatever the case. -/
def hasSuffix (suffixes : List String) (name : String) : Bool :=
  (suffixes.map Text.lower).contains (Text.lower (Path.suffixOf name))

/-- The paths from a directory on to what the given names lead to there. -/
def pathsFrom (root : Path) (below : List (List String)) : List Path :=
  below.map fun names => root.join ⟨.workingDirectory, names⟩

/-- The files that one search path leads to, each with its place: the files below a directory in
order, or the one file that it names. A search path that leads nowhere has none; it fails only when
it is too long itself, or becomes too long on the way to something below it. -/
def below (t : FileTree) (suffixes : List String) (root : Path) :
    Except FileError (List (Place × Source)) :=
  match t.locate root with
  | .error .nameTooLong => .error ⟨.nameTooLong, root⟩
  | .error _ => .ok []
  | .ok place =>
    if t.isFileAt place then
      .ok (if hasSuffix suffixes root.name then
        [(place, ⟨qualify [root.name], root, root.parent⟩)] else [])
    else
      match (pathsFrom root (t.allBelow place)).find? fun p => (FileTree.pathFault? p).isSome with
      | some path => .error ⟨.nameTooLong, path⟩
      | none =>
        .ok (((t.filesBelow place).filter fun names =>
          hasSuffix suffixes (names.getLast?.getD "")).map fun names =>
            (place ++ names, ⟨qualify names, root.join ⟨.workingDirectory, names⟩, root⟩))

/-- Leaves out files at places that came before. -/
def distinct : (seen : List Place) → List (Place × Source) → List Source
  | _, [] => []
  | seen, (place, source) :: rest =>
    if seen.contains place then distinct seen rest
    else source :: distinct (place :: seen) rest

/-- All files that the search paths lead to, in the order of the paths; the first path that fails
counts. -/
def discover (t : FileTree) (roots : List Path) (suffixes : List String) :
    Except FileError (List Source) :=
  (roots.mapM (below t suffixes)).map fun found => distinct [] found.flatten

end Source

end OrmMapping
