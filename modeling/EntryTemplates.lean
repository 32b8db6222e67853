import EntryTemplates.CommandLine
import EntryTemplates.EntryFile
import EntryTemplates.Library
import EntryTemplates.Main
import EntryTemplates.Settings.Reading
import EntryTemplates.Writing
import EntryTemplates.Proofs.Library.Reopening
import EntryTemplates.Proofs.Catalogue.History
import EntryTemplates.Proofs.Files.Growth
import EntryTemplates.Proofs.Library.Effects
import EntryTemplates.Proofs.Writing
import EntryTemplates.Proofs.Library.Stopping
import EntryTemplates.Proofs.Source.Brackets
import EntryTemplates.Proofs.Journal.History
import EntryTemplates.Proofs.CommandLine.Content
import EntryTemplates.Proofs.CommandLine.Runs
import EntryTemplates.Proofs.Source.Stripping
import EntryTemplates.Proofs.Catalogue.Outcomes
import EntryTemplates.Proofs.Writing.Outcomes
import EntryTemplates.Proofs.Template.Inclusion
import EntryTemplates.Proofs.Template.LineEnds
import EntryTemplates.Proofs.Source.Tokens
import EntryTemplates.Proofs.Source.Separation
import EntryTemplates.Proofs.Catalogue.Lookups
import EntryTemplates.Proofs.Catalogue.Spellings
import EntryTemplates.Proofs.Settings.Winners
import EntryTemplates.Proofs.Source.LineNumbers
import EntryTemplates.Proofs.Writing.FileNames
import EntryTemplates.Proofs.Template.Markers
import EntryTemplates.Proofs.Document.Trees
import EntryTemplates.Proofs.Document.TreeNodes
import EntryTemplates.Proofs.Document.Merging
import EntryTemplates.Proofs.Document.Begun
import EntryTemplates.Proofs.Document.Filling
import EntryTemplates.Proofs.Document.Loading
import EntryTemplates.Proofs.Document.Mappings
import EntryTemplates.Proofs.Library.KnownKeys
import EntryTemplates.Proofs.Catalogue.UnknownNames
import EntryTemplates.Proofs.Source.DefinitionPlaces
import EntryTemplates.Proofs.Source.KeptLines
