import ServiceLevel.Template
import ServiceLevel.Query.Structure
import ServiceLevel.Labels
import ServiceLevel.Duration.Reader
import ServiceLevel.Quantity.Text
import ServiceLevel.Json.Writer
import ServiceLevel.Slo.Validation
import ServiceLevel.Rule
import ServiceLevel.BurnAlert
import ServiceLevel.Chain
import ServiceLevel.Generation
import ServiceLevel.Source.Loaded
import ServiceLevel.Indicator.Query
import ServiceLevel.Repository.Basic
import ServiceLevel.Repository.Shipped
import ServiceLevel.App.Setup
import ServiceLevel.Proofs.Attempt
import ServiceLevel.Proofs.Chain.Arrangement
import ServiceLevel.Proofs.Generation.Processors
import ServiceLevel.Proofs.Generation.Steps
import ServiceLevel.Proofs.Generation.Jobs
import ServiceLevel.Proofs.Generation.Independence
import ServiceLevel.Proofs.Generation.Attribution
import ServiceLevel.Proofs.Characters
import ServiceLevel.Proofs.Labels.FilterReader
import ServiceLevel.Proofs.Selector
import ServiceLevel.Proofs.Entries
import ServiceLevel.Proofs.Naming
import ServiceLevel.Proofs.Rules.Recording
import ServiceLevel.Proofs.Rules.Selection
import ServiceLevel.Proofs.Repository.Filing
import ServiceLevel.Proofs.Template.Rendering
import ServiceLevel.Proofs.Query.Scanning
import ServiceLevel.Proofs.Quantity
import ServiceLevel.Proofs.Slo.Accepted
import ServiceLevel.Proofs.Rules.QueryRendering
import ServiceLevel.Proofs.Rules.Sufficiency
import ServiceLevel.Proofs.Rules.Structure
import ServiceLevel.Proofs.Rules.Correction
import ServiceLevel.Proofs.Rules.MetadataSelection
import ServiceLevel.Proofs.Rules.Kinds
import ServiceLevel.Proofs.Generation.RuleKinds
import ServiceLevel.Proofs.Slo.Dialects
import ServiceLevel.Proofs.Source.Guarding
import ServiceLevel.Proofs.Source.Running
import ServiceLevel.Proofs.Source.Importing
import ServiceLevel.Proofs.Rules.LabelNames
import ServiceLevel.Proofs.Number.Truncation
import ServiceLevel.Proofs.Duration.Spelling
import ServiceLevel.Proofs.Duration.RoundTrip
import ServiceLevel.Proofs.Repository.Scanning
import ServiceLevel.Proofs.Repository.Reloading
import ServiceLevel.Proofs.App.ConfigOutcome
import ServiceLevel.Proofs.Slo.Identifiers
import ServiceLevel.Proofs.Generation.GroupNames
import ServiceLevel.Proofs.Generation.Refusals
import ServiceLevel.Proofs.Rules.LabelRemoval
import ServiceLevel.Proofs.Query.Grammar
import ServiceLevel.Proofs.Template.Delimiters
import ServiceLevel.Proofs.Template.Reference
import ServiceLevel.Proofs.Template.Leaks
import ServiceLevel.Proofs.Generation.HollowChains
import ServiceLevel.Proofs.Slo.EveryWindow
import ServiceLevel.Proofs.Labels.FilterInjection
import ServiceLevel.Proofs.Rules.Optimization
import ServiceLevel.Proofs.Rules.UsableObjectives
import ServiceLevel.Proofs.Rules.Replacement
import ServiceLevel.Proofs.Rules.BudgetSelection
import ServiceLevel.Proofs.Indicator.Availability
import ServiceLevel.Proofs.Source.Binding
import ServiceLevel.Proofs.Source.Declaring
import ServiceLevel.Proofs.Rules.LabelKeeping
import ServiceLevel.Proofs.Rules.RecordedWindows
import ServiceLevel.Proofs.Rules.Intervals
import ServiceLevel.Proofs.Generation.OtherChains
import ServiceLevel.Proofs.Generation.Insertion
import ServiceLevel.Proofs.Generation.Relocation
import ServiceLevel.Proofs.Rules.RulesFile
import ServiceLevel.Proofs.Number.NormalForm
import ServiceLevel.Proofs.Number.Denotation
import ServiceLevel.Proofs.Files.Enumeration
