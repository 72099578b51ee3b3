import OrmMapping.Annotation.Basic
import OrmMapping.Annotation.Coercion
import OrmMapping.Annotation.Folding
import OrmMapping.Annotation.PairNotation
import OrmMapping.Batch.Roster
import OrmMapping.Batch.Run
import OrmMapping.Batch.Settings
import OrmMapping.Batch.Sources
import OrmMapping.Descriptor.Basic
import OrmMapping.Descriptor.Loading
import OrmMapping.Descriptor.Validation
import OrmMapping.Dialect
import OrmMapping.Document.Element
import OrmMapping.Document.Identifier
import OrmMapping.Document.Layout
import OrmMapping.Document.Namespaces
import OrmMapping.Document.Printer
import OrmMapping.Document.TagName
import OrmMapping.Entity.Basic
import OrmMapping.Entity.ClassFacts
import OrmMapping.Entity.Inherited
import OrmMapping.Entity.Mapping
import OrmMapping.Fault
import OrmMapping.Files.Path
import OrmMapping.Files.Tree
import OrmMapping.Json.Reader
import OrmMapping.Json.Value
import OrmMapping.Keyed
import OrmMapping.Number.Binary64
import OrmMapping.Number.Shortest
import OrmMapping.Proofs.Annotation.Folding
import OrmMapping.Proofs.Annotation.Footprint
import OrmMapping.Proofs.Annotation.Marker
import OrmMapping.Proofs.Annotation.PairNotation
import OrmMapping.Proofs.Annotation.ParameterNotations
import OrmMapping.Proofs.Annotation.Shorthand
import OrmMapping.Proofs.Annotation.Texts
import OrmMapping.Proofs.Annotation.WrittenPairs
import OrmMapping.Proofs.Batch.Accounting
import OrmMapping.Proofs.Batch.Apart
import OrmMapping.Proofs.Batch.Changes
import OrmMapping.Proofs.Batch.Discovery
import OrmMapping.Proofs.Batch.Documents
import OrmMapping.Proofs.Batch.Endings
import OrmMapping.Proofs.Batch.FailFast
import OrmMapping.Proofs.Batch.Influence
import OrmMapping.Proofs.Batch.Listing
import OrmMapping.Proofs.Batch.Places
import OrmMapping.Proofs.Batch.Pulling
import OrmMapping.Proofs.Batch.QualifiedNames
import OrmMapping.Proofs.Batch.Rediscovery
import OrmMapping.Proofs.Batch.References
import OrmMapping.Proofs.Batch.Renderings
import OrmMapping.Proofs.Batch.Repetition
import OrmMapping.Proofs.Batch.Sources
import OrmMapping.Proofs.Batch.Steps
import OrmMapping.Proofs.Batch.Turns
import OrmMapping.Proofs.Document.Classes
import OrmMapping.Proofs.Document.Faults
import OrmMapping.Proofs.Document.Identifiers
import OrmMapping.Proofs.Document.Outline
import OrmMapping.Proofs.Document.Quoting
import OrmMapping.Proofs.Document.References
import OrmMapping.Proofs.Document.Relationships
import OrmMapping.Proofs.Document.Subclasses
import OrmMapping.Proofs.Entity.Agreement
import OrmMapping.Proofs.Entity.Discriminator
import OrmMapping.Proofs.Entity.Faults
import OrmMapping.Proofs.Entity.Footprint
import OrmMapping.Proofs.Entity.Identity
import OrmMapping.Proofs.Entity.Ignored
import OrmMapping.Proofs.Entity.Inheritance
import OrmMapping.Proofs.Entity.JoinColumn
import OrmMapping.Proofs.Entity.Parts
import OrmMapping.Proofs.Entity.PropertyPlaces
import OrmMapping.Proofs.Entity.Renditions
import OrmMapping.Proofs.Entity.Shorthand
import OrmMapping.Proofs.Entity.Soundness
import OrmMapping.Proofs.Entity.Storage
import OrmMapping.Proofs.Entity.Texts
import OrmMapping.Proofs.Entity.Vocabulary
import OrmMapping.Proofs.Files.Additions
import OrmMapping.Proofs.Files.Contents
import OrmMapping.Proofs.Files.Directories
import OrmMapping.Proofs.Files.Faults
import OrmMapping.Proofs.Files.Listing
import OrmMapping.Proofs.Files.Regions
import OrmMapping.Proofs.Files.Sound
import OrmMapping.Proofs.Files.Ways
import OrmMapping.Proofs.Json.Maps
import OrmMapping.Proofs.Json.WrittenMaps
import OrmMapping.Proofs.Property.Agreement
import OrmMapping.Proofs.Property.Coherence
import OrmMapping.Proofs.Property.Faults
import OrmMapping.Proofs.Property.Footprint
import OrmMapping.Proofs.Property.Parameters
import OrmMapping.Proofs.Property.Reading
import OrmMapping.Proofs.Property.Relationships
import OrmMapping.Proofs.Property.Renditions
import OrmMapping.Proofs.Property.Shorthand
import OrmMapping.Proofs.Property.Texts
import OrmMapping.Proofs.Property.Vocabulary
import OrmMapping.Proofs.Roster.Lookup
import OrmMapping.Proofs.Roster.Referents
import OrmMapping.Proofs.Roster.Registration
import OrmMapping.Proofs.Roster.Reordering
import OrmMapping.Proofs.Roster.Resolution
import OrmMapping.Proofs.Text.Blank
import OrmMapping.Proofs.Text.Casing
import OrmMapping.Proofs.Text.Lowering
import OrmMapping.Proofs.Text.Order
import OrmMapping.Proofs.Text.Segments
import OrmMapping.Proofs.Text.WordChar
import OrmMapping.Proofs.TypeName.Arguments
import OrmMapping.Proofs.TypeName.Canonical
import OrmMapping.Proofs.TypeName.Spelling
import OrmMapping.Property.Basic
import OrmMapping.Property.Classic
import OrmMapping.Property.Facts
import OrmMapping.Property.Mapping
import OrmMapping.Property.Modern
import OrmMapping.Report
import OrmMapping.Text.Blank
import OrmMapping.Text.Casing
import OrmMapping.Text.CasingTable
import OrmMapping.Text.Order
import OrmMapping.Text.Printable
import OrmMapping.Text.Quoted
import OrmMapping.Text.Ranges
import OrmMapping.Text.Segments
import OrmMapping.Text.UriReference
import OrmMapping.Text.Utf8
import OrmMapping.Text.WordChar
import OrmMapping.TypeName
import OrmMapping.Violation
