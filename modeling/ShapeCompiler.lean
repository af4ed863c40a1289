import ShapeCompiler.Keyed
import ShapeCompiler.Sorted
import ShapeCompiler.Text.Cut
import ShapeCompiler.Text.Characters
import ShapeCompiler.Json.Printer
import ShapeCompiler.Json.Reader
import ShapeCompiler.Rdf.Graph
import ShapeCompiler.Context.Session
import ShapeCompiler.Model.Build
import ShapeCompiler.Render.Target
import ShapeCompiler.Rdf.JsonLd.Reader
import ShapeCompiler.Rdf.NTriples
import ShapeCompiler.Command.Run
import ShapeCompiler.Main
import ShapeCompiler.Proofs.Outcomes
import ShapeCompiler.Proofs.Context.Remembering
import ShapeCompiler.Proofs.Context.RoundTrip
import ShapeCompiler.Proofs.Model.CycleReports
import ShapeCompiler.Proofs.Model.Interleaving
import ShapeCompiler.Proofs.Context.Expanding
import ShapeCompiler.Proofs.Context.Search
import ShapeCompiler.Proofs.Context.Completeness
import ShapeCompiler.Proofs.Model.WellFormed
import ShapeCompiler.Proofs.Render.Names
import ShapeCompiler.Proofs.Render.References
import ShapeCompiler.Proofs.Render.Inheritance
import ShapeCompiler.Proofs.Render.TraitModules
import ShapeCompiler.Proofs.Rdf.Renaming
import ShapeCompiler.Proofs.Model.Renaming
import ShapeCompiler.Proofs.Render.Definitions
import ShapeCompiler.Proofs.Command.Generation
import ShapeCompiler.Proofs.Json.PrettyReading
import ShapeCompiler.Proofs.Render.RawReading
import ShapeCompiler.Proofs.Render.CodeLines
import ShapeCompiler.Proofs.Render.Comments
import ShapeCompiler.Proofs.Context.Agreement
import ShapeCompiler.Proofs.Context.Isolation
import ShapeCompiler.Proofs.Context.Priority
import ShapeCompiler.Proofs.Context.Recursion
import ShapeCompiler.Proofs.Context.Merging
import ShapeCompiler.Proofs.Context.Reading
import ShapeCompiler.Proofs.Walks
import ShapeCompiler.Proofs.Model.Nearest
import ShapeCompiler.Proofs.Model.Children
import ShapeCompiler.Proofs.Render.DerivedChoices
import ShapeCompiler.Proofs.Render.Variants
import ShapeCompiler.Proofs.Render.MethodNames
import ShapeCompiler.Proofs.Render.OwnProperties
import ShapeCompiler.Proofs.Render.Cardinality
import ShapeCompiler.Proofs.Render.Identifiers
import ShapeCompiler.Proofs.Text.Literals
import ShapeCompiler.Proofs.Render.EnumerationLines
import ShapeCompiler.Proofs.Render.AssociatedTypes
import ShapeCompiler.Proofs.Render.ItemNames
import ShapeCompiler.Proofs.Rdf.Collections
import ShapeCompiler.Proofs.Context.Guards
import ShapeCompiler.Proofs.Model.Individuals
import ShapeCompiler.Proofs.Model.Faults
import ShapeCompiler.Proofs.Rdf.Insertion
import ShapeCompiler.Proofs.Text.CommonPrefix
import ShapeCompiler.Proofs.Model.Counts
import ShapeCompiler.Proofs.Render.CaseForms
