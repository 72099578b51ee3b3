import OrmMapping.Annotation.Coercion
import OrmMapping.Files.Path
import OrmMapping.Text.Casing
import OrmMapping.Violation

/-!
# Settings of a batch

Where descriptors are looked for, where mapping documents go, and how a batch deals with errors.

* `TemporaryDirectory`: the directory that the system keeps for temporary files;
* `Settings`: the settings, each with its default but the paths to search;
* `Settings.outputDirectory`: where the document of a source goes;
* `Settings.ofEntries`: settings read from named values.
-/

namespace OrmMapping

/-- The directory that the system keeps for temporary files. The system has opened it before, so no
name on its `path` has a null character. -/
structure TemporaryDirectory where
  path : Path
  nullFree : path.NullFree
deriving DecidableEq, Repr

/-- The directory `tmp`, where nothing else is known of the system. -/
def TemporaryDirectory.standard : TemporaryDirectory where
  path := { parts := ["tmp"] }
  nullFree := by decide

/-- The settings of one batch. `temporary` is a fact about the system: it is not among the values
that the settings are read from. -/
structure Settings where
  searchPaths : List Path
  outputDir : Option Path := none
  beside : Bool := false
  failFast : Bool := true
  datasource : Option String := none
  suffixes : List String := [".json"]
  quoteIdentifiers : Bool := false
  temporary : TemporaryDirectory := .standard
deriving DecidableEq, Repr

namespace Settings

/-- Where documents go when neither `outputDir` nor `beside` is set. -/
def standardOutputDir (s : Settings) : Path :=
  s.temporary.path.join { parts := ["orm_mappings"] }

/-- The directory that the document of a source goes to. -/
def outputDirectory (s : Settings) (source : Path) : Path :=
  if s.beside then source.parent else s.outputDir.getD s.standardOutputDir

/-- A file suffix in lower case and with its dot. -/
def dottedSuffix (written : String) : String :=
  let lowered := Text.lower written
  if written.toList.head? == some '.' then lowered else "." ++ lowered

/-! ## Reading settings -/

/-- A path. -/
def checkPath (place : List String) : Value → Checked Path
  | .str s => .ok (.ofString s)
  | _ => .refuse place .path

/-- A text. -/
def checkText (place : List String) : Value → Checked String
  | .str s => .ok s
  | _ => .refuse place .string

/-- A truth value. A value of a kind that could stand for one, but does not, is told apart from one
of any other kind: texts could, and whole numbers below `2 ^ 63`. -/
def checkBool (place : List String) (value : Value) : Checked Bool :=
  match value.toBool? with
  | some b => .ok b
  | none =>
    match value with
    | .str _ => .refuse place .booleanWord
    | .int n =>
      .refuse place (if -wholeBound ≤ n && n < wholeBound then .booleanWord else .boolean)
    | .float x =>
      .refuse place (if (Value.float x).toInt?.isSome then .booleanWord else .boolean)
    | _ => .refuse place .boolean

/-- The field of a name, or its default when it is left out. -/
def fieldOr {α : Type} (entries : Keyed Value) (name : String) (standard : α)
    (check : List String → Value → Checked α) : Checked α :=
  match entries.get? name with
  | none => .ok standard
  | some value => check [name] value

/-- A value that may be null. -/
def checkOption {α : Type} (check : List String → Value → Checked α) (place : List String) :
    Value → Checked (Option α)
  | .null => .ok none
  | value => (check place value).map some

/-- The paths to search: a list, or a single one. -/
def searchPathsField (entries : Keyed Value) : Checked (List Path) :=
  let place := ["entity_paths"]
  match entries.get? "entity_paths" with
  | none => .refuse place .present
  | some (.str s) => .ok [.ofString s]
  | some (.list items) => Checked.indexed place checkPath items
  | some _ => .refuse place .list

/-- The suffixes of descriptor files. -/
def checkSuffixes (place : List String) : Value → Checked (List String)
  | .list items => (Checked.indexed place checkText items).map (·.map dottedSuffix)
  | _ => .refuse place .sequence

/-- The settings that named values stand for. Violations are found in the order of the fields;
values of other names are passed over. -/
def ofEntries (entries : Keyed Value) : Checked Settings :=
  (Checked.both (searchPathsField entries)
    (Checked.both (fieldOr entries "output_dir" none (checkOption checkPath))
      (Checked.both (fieldOr entries "save_mapping" false checkBool)
        (Checked.both (fieldOr entries "fail_fast" true checkBool)
          (Checked.both (fieldOr entries "datasource" none (checkOption checkText))
            (Checked.both (fieldOr entries "extensions" [".json"] checkSuffixes)
              (fieldOr entries "quote_identifiers" false checkBool))))))).map
    fun (searchPaths, outputDir, beside, failFast, datasource, suffixes, quoteIdentifiers) =>
      { searchPaths, outputDir, beside, failFast, datasource, suffixes, quoteIdentifiers }

/-- The names of the arguments that are given by their place. -/
def placedNames : List String := ["entity_paths", "output_dir"]

/-- Why arguments make no settings. -/
inductive ArgumentFault where
  | givenTwice (name : String)
  | tooMany (count : Nat) (namedToo : Bool)
  | missing
  | invalid (violations : List Violation)
deriving DecidableEq, Repr

/-- The fault in words. -/
def ArgumentFault.message : ArgumentFault → String
  | .givenTwice name => s!"generate_mappings() got multiple values for argument '{name}'"
  | .tooMany count namedToo =>
    "generate_mappings() takes from 1 to 2 positional arguments but " ++ toString count ++
      (if namedToo then " positional arguments (and 1 keyword-only argument)" else "") ++
      " were given"
  | .missing => "generate_mappings() missing 1 required positional argument: 'entity_paths'"
  | .invalid violations => Violation.summary violations

/-- The settings for arguments: the paths to search and possibly an output directory by their
places, and further named values, which must not name one of the placed ones again. -/
def ofArguments (placed : List Value) (options : Keyed Value) : Except ArgumentFault Settings :=
  let leading : Keyed Value := placedNames.zip placed
  match options.keys.find? leading.has with
  | some name => .error (.givenTwice name)
  | none =>
    if placedNames.length < placed.length then
      .error (.tooMany placed.length (options.has "fail_fast"))
    else
      let arguments := leading ++ options
      if arguments.has "entity_paths" then (ofEntries arguments).mapError .invalid
      else .error .missing

end Settings

end OrmMapping
