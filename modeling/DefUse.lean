import DefUse.Main
import DefUse.Toml.Fault
import DefUse.Toml.Cursor
import DefUse.Toml.Quotation
import DefUse.Proofs.Forest
import DefUse.Proofs.Marking
import DefUse.Proofs.Representation
import DefUse.Proofs.Rebuilding
import DefUse.Proofs.LastWriter
import DefUse.Proofs.Reachable
import DefUse.Proofs.Origin
import DefUse.Proofs.RelatedFacts
import DefUse.Proofs.Ambiguity
import DefUse.Proofs.Scrolling
import DefUse.Proofs.Renaming
import DefUse.Proofs.ScriptPrinting
import DefUse.Proofs.Unaddressed
import DefUse.Proofs.OneLineScript
import DefUse.Proofs.ExactNavigation
import DefUse.Proofs.ReportContent
import DefUse.Proofs.Tracing
import DefUse.Proofs.FailingStages
import DefUse.Proofs.Ancestry
import DefUse.Proofs.ExactHighlighting
import DefUse.Proofs.LinePattern
import DefUse.Proofs.TextWords
import DefUse.Proofs.ScriptGrammar
import DefUse.Proofs.ScriptConcatenation
import DefUse.Proofs.Acceptance
import DefUse.Proofs.ExactAmbiguity
import DefUse.Proofs.ReportText
import DefUse.Proofs.FileFrames
import DefUse.Proofs.Relatedness
import DefUse.Proofs.MarkCounts
import DefUse.Proofs.StatusLine
import DefUse.Proofs.AddressSets
import DefUse.Proofs.Vocabulary
import DefUse.Proofs.AddressLists
import DefUse.Proofs.Flattening
