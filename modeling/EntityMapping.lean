import EntityMapping.CommandLine.Program
import EntityMapping.Generation.Request
import EntityMapping.Main
import EntityMapping.Proofs.Generation.Refinement
import EntityMapping.Proofs.Generation.Bundled
import EntityMapping.Proofs.Generation.Coherence
import EntityMapping.Proofs.Generation.Census
import EntityMapping.Proofs.Classification
import EntityMapping.Proofs.Generation.Accounting
import EntityMapping.Proofs.Text.LetterCase
import EntityMapping.Proofs.Registry.Registration
import EntityMapping.Proofs.Registry.Ownership
import EntityMapping.Proofs.Registry.Conflicts
import EntityMapping.Proofs.Registry.Withdrawal
import EntityMapping.Proofs.Generation.Reordering
import EntityMapping.Proofs.Value.Parts
import EntityMapping.Proofs.Value.Fields
import EntityMapping.Proofs.Settings.Layering
import EntityMapping.Proofs.Json.Reading
import EntityMapping.Proofs.Json.Scalars
import EntityMapping.Proofs.Text.Utf8
import EntityMapping.Proofs.Files.Writing
import EntityMapping.Proofs.Json.RoundTrip
import EntityMapping.Proofs.Settings.File
import EntityMapping.Proofs.Settings.Saving
import EntityMapping.Proofs.Settings.Precedence
import EntityMapping.Proofs.Settings.Associativity
import EntityMapping.Proofs.Generation.SharedBase
import EntityMapping.Proofs.CSharp.Directives
import EntityMapping.Proofs.Generation.Completion
import EntityMapping.Proofs.Manifest.Names
import EntityMapping.Proofs.Manifest.Remembering
import EntityMapping.Proofs.Manifest.Loading
import EntityMapping.Proofs.Files.Lookup
import EntityMapping.Proofs.Settings.Merging
import EntityMapping.Proofs.CommandLine.Steps
import EntityMapping.Proofs.CommandLine.Gathering
import EntityMapping.Proofs.CommandLine.Inputs
import EntityMapping.Proofs.Files.Folders
import EntityMapping.Proofs.CommandLine.Endings
import EntityMapping.Proofs.CommandLine.OneCall
import EntityMapping.Proofs.CommandLine.Writing
import EntityMapping.Proofs.CommandLine.Output
import EntityMapping.Proofs.Generation.AuditLists
import EntityMapping.Proofs.CommandLine.Confinement
import EntityMapping.Proofs.CommandLine.AuditSources
import EntityMapping.Proofs.Resource.Sources
import EntityMapping.Proofs.Text.Pieces
import EntityMapping.Proofs.Text.Tidy
import EntityMapping.Proofs.Text.Order
import EntityMapping.Proofs.Generation.Heading
import EntityMapping.Proofs.Generation.EntityLines
import EntityMapping.Proofs.AuditList
import EntityMapping.Proofs.Generation.BaseLines
import EntityMapping.Proofs.Agreement
import EntityMapping.Proofs.Manifest.Likeness
import EntityMapping.Proofs.Manifest.Places
import EntityMapping.Proofs.Manifest.Spelling
import EntityMapping.Proofs.Generation.AnnotationNames
import EntityMapping.Proofs.Manifest.NullFields
import EntityMapping.Proofs.Naming
import EntityMapping.Proofs.Directives.Rules
import EntityMapping.Proofs.Directives.Firsts
import EntityMapping.Proofs.CSharp.Literals
import EntityMapping.Proofs.CSharp.Chains
import EntityMapping.Proofs.Text.UpperCase
import EntityMapping.Proofs.Text.BasicAlphabet
import EntityMapping.Proofs.Naming.FixedPoints
import EntityMapping.Proofs.Naming.Separation
import EntityMapping.Proofs.Text.Tidy.Lines
import EntityMapping.Proofs.Text.Tidy.Settling
import EntityMapping.Proofs.AuditList.Writing
import EntityMapping.Proofs.Settings.Check
import EntityMapping.Proofs.Classification.Positions
import EntityMapping.Proofs.Manifest.Resolution
import EntityMapping.Proofs.Manifest.TypeArguments
import EntityMapping.Proofs.Text.Word
import EntityMapping.Proofs.Manifest.BuilderType
import EntityMapping.Proofs.Manifest.ArgumentLists
import EntityMapping.Proofs.Naming.Words
import EntityMapping.Proofs.Resource.Neighbour
import EntityMapping.Proofs.Resource.Listings
