import OrmMapping.Batch.Roster
import OrmMapping.Batch.Settings
import OrmMapping.Descriptor.Loading
import OrmMapping.Document.Layout
import OrmMapping.Entity.Mapping

/-!
# Running a batch

A batch first goes through all sources and enters the persistent classes in its roster. Then it
maps them one by one in that order: each is mapped, its references are resolved, and its document
is written. An error ends the batch, or, when it is told to go on, is logged and the class is left
out; an error on writing always ends it.

* `Batch`: a batch between two steps;
* `Batch.next`: runs it up to its next document;
* `generate`: runs it to its end.
-/

namespace OrmMapping

/-- A mapped entity: where its class comes from and where its document is. -/
structure EntityRecord where
  entityName : String
  qualifiedName : String
  sourcePath : Path
  documentPath : Path
  datasource : Option String := none
deriving DecidableEq, Repr

/-- The bare name of the class. -/
def EntityRecord.className (r : EntityRecord) : String :=
  Text.lastSegment r.qualifiedName

/-- What ends a batch. -/
inductive BatchError where
  | load (e : LoadError)
  | mapping (e : MappingError)
  | write (entity : String) (path : Path) (e : FileError)
  /-- A path of the settings that the system does not take. -/
  | unusablePath (e : FileError)
deriving DecidableEq, Repr

/-- The error in words. -/
def BatchError.message : BatchError → String
  | .load e => e.message
  | .mapping e => e.message
  | .write entity path e =>
    "Cannot write mapping for '" ++ entity ++ "' to " ++ path.text ++ ": " ++ e.message
  | .unusablePath e => e.message

/-- What a batch logs: the warnings on its entities, and the errors it goes on after. -/
inductive LogRecord where
  | warning (notice : Notice)
  | skipped (label : String) (e : BatchError)
deriving DecidableEq, Repr

namespace LogRecord

/-- How grave a record is. -/
def level : LogRecord → String
  | .warning _ => "WARNING"
  | .skipped _ _ => "ERROR"

/-- The record in words. -/
def message : LogRecord → String
  | .warning notice => notice.message
  | .skipped label e => "Skipping " ++ label ++ ": " ++ e.message

end LogRecord

/-! ## Discovery -/

/-- A persistent class as a candidate. -/
def Candidate.of (s : Settings) (source : Source) (d : Descriptor) :
    Except MappingError Candidate := do
  let entityName ← d.entityName
  let datasource ← d.datasource s.datasource
  return { source, descriptor := d, entityName, datasource }

/-- The roster after one more source; a class that is not persistent changes nothing. -/
def Roster.enter (s : Settings) (t : FileTree) (r : Roster) (source : Source) :
    Except BatchError Roster :=
  match Descriptor.load t source.path with
  | .error e => .error (.load e)
  | .ok d =>
    if d.isPersistent then
      ((Candidate.of s source d).bind r.register).mapError .mapping
    else
      .ok r

/-- The outcome of discovery, with its log. -/
structure Discovery where
  log : List LogRecord
  outcome : Except BatchError Roster

/-- Goes through sources in turn. -/
def Roster.enterAll (s : Settings) (t : FileTree) : Roster → List Source → Discovery
  | r, [] => ⟨[], .ok r⟩
  | r, source :: rest =>
    match r.enter s t source with
    | .ok r => enterAll s t r rest
    | .error e =>
      if s.failFast then ⟨[], .error e⟩
      else
        let further := enterAll s t r rest
        ⟨.skipped source.path.text e :: further.log, further.outcome⟩

/-- The roster of all sources that the settings lead to. -/
def discover (s : Settings) (t : FileTree) : Discovery :=
  match Source.discover t s.searchPaths s.suffixes with
  | .error e => ⟨[], .error (.unusablePath e)⟩
  | .ok sources => Roster.enterAll s t {} sources

/-! ## One entity -/

/-- What documents' names end with. -/
def documentSuffix : String := ".hbm.xml"

/-- Where the document of an entity goes. -/
def Settings.documentPath (s : Settings) (source : Path) (entityName : String) : Path :=
  (s.outputDirectory source).join (.ofString (entityName ++ documentSuffix))

/-- The document of an entity; what XML does not allow is an error of the entity. -/
def buildDocument (s : Settings) (e : MappedEntity) : Except MappingError Document :=
  (e.document s.quoteIdentifiers).mapError (.unbuildable e.entityName)

/-- A candidate mapped and resolved, with its document. -/
def mapCandidate (s : Settings) (r : Roster) (c : Candidate) :
    Report (MappedEntity × Document) := do
  let mapped ← MappedEntity.ofDescriptor c.descriptor s.datasource
  let resolved ← r.resolve mapped
  let document ← buildDocument s resolved
  return (resolved, document)

/-- The record of a mapped candidate. -/
def EntityRecord.of (s : Settings) (c : Candidate) (e : MappedEntity) : EntityRecord where
  entityName := e.entityName
  qualifiedName := c.source.qualifiedName
  sourcePath := c.source.path
  documentPath := s.documentPath c.source.path e.entityName
  datasource := e.datasource

/-- What became of one candidate: its document is written, or it is left out, or the batch ends. -/
inductive Attempt where
  | written (record : EntityRecord) (tree : FileTree)
  | leftOut (e : MappingError)
  | ended (e : BatchError) (tree : FileTree)

/-- Writes the document of a mapped candidate. -/
def writeDocument (s : Settings) (t : FileTree) (c : Candidate) (e : MappedEntity) (d : Document) :
    Attempt :=
  let record := EntityRecord.of s c e
  let change :=
    t.writeIn (s.outputDirectory c.source.path) record.documentPath d.bytes
  match change.error? with
  | none => .written record change.tree
  | some error =>
    .ended (if error.fault == .nullCharacter then .unusablePath error
      else .write e.entityName record.documentPath error) change.tree

/-- Maps a candidate and writes its document. -/
def attempt (s : Settings) (r : Roster) (t : FileTree) (c : Candidate) :
    List LogRecord × Attempt :=
  let report := mapCandidate s r c
  let log := report.notices.map LogRecord.warning
  match report.outcome with
  | .ok (e, d) => (log, writeDocument s t c e d)
  | .error e =>
    if s.failFast then (log, .ended (.mapping e) t)
    else (log ++ [.skipped c.entityName (.mapping e)], .leftOut e)

/-! ## Steps and whole runs -/

/-- Where a batch stands: before discovery, among its candidates, or at its end. -/
inductive Stage where
  | pending
  | running (roster : Roster) (remaining : List Candidate)
  | finished

/-- A batch between two steps. -/
structure Batch where
  settings : Settings
  stage : Stage := .pending

/-- What a step gives: the next record, none at the end, or an error; and what is left. -/
structure Step where
  log : List LogRecord
  tree : FileTree
  outcome : Except BatchError (Option EntityRecord)
  batch : Batch

/-- Runs among the candidates up to the next document. -/
def Batch.advance (s : Settings) (r : Roster) : FileTree → List Candidate → Step
  | t, [] => ⟨[], t, .ok none, ⟨s, .finished⟩⟩
  | t, c :: rest =>
    match attempt s r t c with
    | (log, .written record t) => ⟨log, t, .ok (some record), ⟨s, .running r rest⟩⟩
    | (log, .ended e t) => ⟨log, t, .error e, ⟨s, .finished⟩⟩
    | (log, .leftOut _) =>
      let further := advance s r t rest
      { further with log := log ++ further.log }

/-- Runs a batch up to its next document. Discovery is part of the first step. -/
def Batch.next (b : Batch) (t : FileTree) : Step :=
  match b.stage with
  | .finished => ⟨[], t, .ok none, b⟩
  | .running r remaining => Batch.advance b.settings r t remaining
  | .pending =>
    let discovery := discover b.settings t
    match discovery.outcome with
    | .error e => ⟨discovery.log, t, .error e, ⟨b.settings, .finished⟩⟩
    | .ok r =>
      let step := Batch.advance b.settings r t r.candidates
      { step with log := discovery.log ++ step.log }

/-- Ends a batch before its end. -/
def Batch.close (b : Batch) : Batch :=
  { b with stage := .finished }

/-- What a whole run gives. -/
structure Run where
  log : List LogRecord
  tree : FileTree
  outcome : Except BatchError (List EntityRecord)

/-- Runs through all candidates. -/
def runAll (s : Settings) (r : Roster) : FileTree → List Candidate → Run
  | t, [] => ⟨[], t, .ok []⟩
  | t, c :: rest =>
    match attempt s r t c with
    | (log, .written record t) =>
      let further := runAll s r t rest
      ⟨log ++ further.log, further.tree, further.outcome.map (record :: ·)⟩
    | (log, .ended e t) => ⟨log, t, .error e⟩
    | (log, .leftOut _) =>
      let further := runAll s r t rest
      { further with log := log ++ further.log }

/-- Runs a batch to its end: the records of all entities whose documents were written. -/
def generate (s : Settings) (t : FileTree) : Run :=
  let discovery := discover s t
  match discovery.outcome with
  | .error e => ⟨discovery.log, t, .error e⟩
  | .ok r =>
    let run := runAll s r t r.candidates
    { run with log := discovery.log ++ run.log }

end OrmMapping
