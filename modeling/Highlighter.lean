import Highlighter.Main
import Highlighter.Semantic.Workspace
import Highlighter.Proofs.CheckedScan
import Highlighter.Proofs.FreshScan
import Highlighter.Proofs.JsonDocument
import Highlighter.Proofs.JsonSearch
import Highlighter.Proofs.Restart
import Highlighter.Proofs.EscapeParity
import Highlighter.Proofs.NumeralGrammar
import Highlighter.Proofs.StandardRules
import Highlighter.Proofs.Delimiters
import Highlighter.Proofs.Places
import Highlighter.Proofs.Words
import Highlighter.Proofs.VisibleTokens
import Highlighter.Proofs.LineScans
import Highlighter.Proofs.JsonFragments
import Highlighter.Proofs.SemanticEntries
import Highlighter.Proofs.SemanticReading
import Highlighter.Proofs.JsonScan
import Highlighter.Proofs.Overrides
import Highlighter.Proofs.SettingsChecks
import Highlighter.Proofs.ExitCodes
import Highlighter.Proofs.MarkupReading
import Highlighter.Proofs.RenderedMarkup
import Highlighter.Proofs.RenderedTokens
import Highlighter.Proofs.ThemeColours
import Highlighter.Proofs.ListingReading
import Highlighter.Proofs.RunEffects
import Highlighter.Proofs.Boundaries
import Highlighter.Proofs.Priorities
import Highlighter.Proofs.LetterCase
import Highlighter.Proofs.WhiteSpace
import Highlighter.Proofs.ContentEvidence
import Highlighter.Proofs.OverrideTables
import Highlighter.Proofs.ReportedLine
import Highlighter.Proofs.ShownSource
import Highlighter.Proofs.LatestState
import Highlighter.Proofs.WhiteRuns
