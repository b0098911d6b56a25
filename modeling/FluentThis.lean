import FluentThis.Files.Tree
import FluentThis.Main
import FluentThis.Program.Writing
import FluentThis.Proofs.ActiveGenerators
import FluentThis.Proofs.Checking
import FluentThis.Proofs.ProgramElements
import FluentThis.Proofs.ProgramInference
import FluentThis.Proofs.ReportEntries
import FluentThis.Proofs.StoreCoherence
import FluentThis.Schema.TypeIdentity
import FluentThis.Proofs.Acceptance
import FluentThis.Proofs.Representation
import FluentThis.Proofs.DeclarationOrder
import FluentThis.Proofs.ProgramExtension
import FluentThis.Proofs.StatelessQuery
import FluentThis.Proofs.WrittenDocuments
import FluentThis.Proofs.HeldDocuments
import FluentThis.Proofs.WrittenPrograms
import FluentThis.Proofs.WrittenReports
import FluentThis.Proofs.FormatAgreement
import FluentThis.Proofs.CheckStages
import FluentThis.Proofs.InferenceFailure
import FluentThis.Proofs.Padding
import FluentThis.Proofs.Inheritance
import FluentThis.Proofs.ConfigSearch
import FluentThis.Proofs.PathTrails
import FluentThis.Proofs.PathWalks
import FluentThis.Proofs.HiddenFiles
import FluentThis.Proofs.DisablePrecedence
import FluentThis.Proofs.FaultOrder
import FluentThis.Proofs.ReferenceForm
import FluentThis.Proofs.Requalification
import FluentThis.Proofs.GenericArguments
import FluentThis.Proofs.DisableList
import FluentThis.Proofs.RootClasses
import FluentThis.Proofs.PairedTraversals
import FluentThis.Proofs.EntryLookup
import FluentThis.Proofs.ConfigCreation
import FluentThis.Proofs.ConfigDiscovery
import FluentThis.Proofs.DirectoryEntries
import FluentThis.Proofs.Neighbourhood
import FluentThis.Proofs.Nesting
import FluentThis.Proofs.OwnNames
import FluentThis.Proofs.PlainListing
import FluentThis.Proofs.StyledListing
import FluentThis.Proofs.SettledTrees
