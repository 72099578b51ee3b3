import OrmMapping.Descriptor.Validation
import OrmMapping.Files.Tree
import OrmMapping.Json.Reader
import OrmMapping.Text.Utf8

/-!
# Loading descriptors

A descriptor file holds one descriptor as JSON in UTF-8.

* `Descriptor.load`: the descriptor in a file;
* `LoadError`: why there is none.
-/

namespace OrmMapping

/-- Why a file holds no descriptor. -/
inductive LoadFault where
  | file (e : FileError)
  | encoding (fault : Text.Utf8Fault)
  | content (violations : List Violation)
deriving DecidableEq, Repr

/-- Why a file holds no descriptor, with its path; or that there can be no file of that path. -/
inductive LoadError where
  | refused (path : Path) (fault : LoadFault)
  | impossiblePath (e : FileError)
deriving DecidableEq, Repr

/-- Where in a file the encoding is at fault. -/
def encodingPlace (f : Text.Utf8Fault) : String :=
  if f.width ≤ 1 then
    "byte 0x" ++ String.ofList (Text.hexDigits 2 f.byte.toNat) ++ " in position " ++
      toString f.position
  else
    "bytes in position " ++ toString f.position ++ "-" ++ toString (f.position + f.width - 1)

namespace LoadFault

/-- The fault in words. -/
def message : LoadFault → String
  | .file e => e.message
  | .encoding f => "'utf-8' codec can't decode " ++ encodingPlace f ++ ": " ++ f.reason.message
  | .content violations => Violation.summary violations

end LoadFault

/-- The error in words. -/
def LoadError.message : LoadError → String
  | .refused path fault =>
    "Cannot load entity descriptor '" ++ path.text ++ "': " ++ fault.message
  | .impossiblePath e => e.message

namespace Descriptor

/-- The descriptor that a JSON text stands for. -/
def ofJson (text : String) : Checked Descriptor :=
  match Value.ofJson? text with
  | none => .refuse [] .json
  | some value => ofValue value

/-- The descriptor that the bytes of a file stand for. -/
def ofBytes (content : List UInt8) : Except LoadFault Descriptor :=
  match Text.decode content with
  | .error fault => .error (.encoding fault)
  | .ok cs => (ofJson (String.ofList cs)).mapError .content

/-- The descriptor in a file. -/
def load (t : FileTree) (path : Path) : Except LoadError Descriptor :=
  match t.read path with
  | .error e =>
    .error (if e.fault == .nullCharacter then .impossiblePath e else .refused path (.file e))
  | .ok content => (ofBytes content).mapError (.refused path)

end Descriptor

end OrmMapping
