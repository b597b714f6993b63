import ObjectMapping.Catalog
import ObjectMapping.CommandLine.Arguments
import ObjectMapping.CommandLine.Files
import ObjectMapping.CommandLine.Run
import ObjectMapping.Config.Basic
import ObjectMapping.Config.Codec
import ObjectMapping.Config.OptionValue
import ObjectMapping.Construction
import ObjectMapping.Conversion
import ObjectMapping.Converter.Basic
import ObjectMapping.Converter.Declaration
import ObjectMapping.Converter.Registry
import ObjectMapping.Decimal.Shortest
import ObjectMapping.Descriptor.Basic
import ObjectMapping.Descriptor.Codec
import ObjectMapping.Descriptor.Slot
import ObjectMapping.Distinct
import ObjectMapping.Engine
import ObjectMapping.Generation
import ObjectMapping.Json.Decode
import ObjectMapping.Json.Fraction
import ObjectMapping.Json.Outline
import ObjectMapping.Json.Reader
import ObjectMapping.Json.Value
import ObjectMapping.Json.Writer
import ObjectMapping.Main
import ObjectMapping.Manifest
import ObjectMapping.MappingError
import ObjectMapping.Matching
import ObjectMapping.Override.Basic
import ObjectMapping.Override.Codec
import ObjectMapping.Override.Set
import ObjectMapping.Plan.Codec
import ObjectMapping.Plan.Resolution
import ObjectMapping.Plan.Step
import ObjectMapping.Planning
import ObjectMapping.Proofs.CommandLine.Runs
import ObjectMapping.Proofs.Config.Options
import ObjectMapping.Proofs.Conversion.Acceptance
import ObjectMapping.Proofs.Conversion.Addition
import ObjectMapping.Proofs.Conversion.Choice
import ObjectMapping.Proofs.Conversion.Depth
import ObjectMapping.Proofs.Conversion.Derivation
import ObjectMapping.Proofs.Conversion.Exclusivity
import ObjectMapping.Proofs.Conversion.Extension
import ObjectMapping.Proofs.Conversion.Innermost
import ObjectMapping.Proofs.Conversion.Leading
import ObjectMapping.Proofs.Conversion.Library
import ObjectMapping.Proofs.Conversion.Lookup
import ObjectMapping.Proofs.Conversion.Nullability
import ObjectMapping.Proofs.Conversion.Qualifiers
import ObjectMapping.Proofs.Conversion.Ranking
import ObjectMapping.Proofs.Conversion.Registration
import ObjectMapping.Proofs.Conversion.Soundness
import ObjectMapping.Proofs.Conversion.StepTree
import ObjectMapping.Proofs.Json.Abridgement
import ObjectMapping.Proofs.Json.Arrangement
import ObjectMapping.Proofs.Json.Guarantee
import ObjectMapping.Proofs.Json.Reading
import ObjectMapping.Proofs.Json.Recovery
import ObjectMapping.Proofs.Json.Tokens
import ObjectMapping.Proofs.Manifest.Catalog
import ObjectMapping.Proofs.Manifest.Generation
import ObjectMapping.Proofs.Manifest.Listing
import ObjectMapping.Proofs.Manifest.Options
import ObjectMapping.Proofs.Manifest.Parts
import ObjectMapping.Proofs.Manifest.Requests
import ObjectMapping.Proofs.Manifest.Results
import ObjectMapping.Proofs.Mapping.Blockers
import ObjectMapping.Proofs.Mapping.Comparison
import ObjectMapping.Proofs.Mapping.Coverage
import ObjectMapping.Proofs.Mapping.Delivery
import ObjectMapping.Proofs.Mapping.Enforcement
import ObjectMapping.Proofs.Mapping.Enrichment
import ObjectMapping.Proofs.Mapping.Errors
import ObjectMapping.Proofs.Mapping.Failures
import ObjectMapping.Proofs.Mapping.Growth
import ObjectMapping.Proofs.Mapping.Identity
import ObjectMapping.Proofs.Mapping.Likeness
import ObjectMapping.Proofs.Mapping.Locality
import ObjectMapping.Proofs.Mapping.Misreading
import ObjectMapping.Proofs.Mapping.Optimality
import ObjectMapping.Proofs.Mapping.Pinning
import ObjectMapping.Proofs.Mapping.Plans
import ObjectMapping.Proofs.Mapping.Preference
import ObjectMapping.Proofs.Mapping.Provenance
import ObjectMapping.Proofs.Mapping.Refusal
import ObjectMapping.Proofs.Mapping.Registration
import ObjectMapping.Proofs.Mapping.Result
import ObjectMapping.Proofs.Mapping.Selection
import ObjectMapping.Proofs.Mapping.Slots
import ObjectMapping.Proofs.Mapping.Soundness
import ObjectMapping.Proofs.Mapping.Types
import ObjectMapping.Proofs.Override.Effect
import ObjectMapping.Proofs.Override.Partition
import ObjectMapping.Proofs.Plan.Recovery
import ObjectMapping.Proofs.Plan.Types
import ObjectMapping.Proofs.Report.Contents
import ObjectMapping.Proofs.Report.Marks
import ObjectMapping.Proofs.SortedTable
import ObjectMapping.Proofs.Success
import ObjectMapping.Proofs.TypeRef.Alphabet
import ObjectMapping.Proofs.TypeRef.Completeness
import ObjectMapping.Proofs.TypeRef.Fitting
import ObjectMapping.Proofs.TypeRef.Grammar
import ObjectMapping.Proofs.TypeRef.Printing
import ObjectMapping.Proofs.TypeRef.Recognition
import ObjectMapping.Proofs.TypeRef.Soundness
import ObjectMapping.Proofs.TypeRef.Transition
import ObjectMapping.Proofs.TypeRef.Viability
import ObjectMapping.Report.Document
import ObjectMapping.Report.Summary
import ObjectMapping.Request
import ObjectMapping.SortedTable
import ObjectMapping.Text.Alphanumeric
import ObjectMapping.Text.CharClass
import ObjectMapping.Text.Columns
import ObjectMapping.Text.Qualified
import ObjectMapping.Text.Quoted
import ObjectMapping.Text.Unprintable
import ObjectMapping.TypeRef.Basic
import ObjectMapping.TypeRef.Pattern
import ObjectMapping.TypeRef.Reader
import ObjectMapping.TypeRef.WellKnown
import ObjectMapping.Warning
