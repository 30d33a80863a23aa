import Concordance.ChangeBatch
import Concordance.Main
import Concordance.Calendar
import Concordance.Proofs.Trimming
import Concordance.Proofs.CharacterLaws
import Concordance.Proofs.Clusters
import Concordance.Proofs.CodePointSets
import Concordance.Proofs.UnicodeLaws
import Concordance.Proofs.WatchedExtensions
import Concordance.Proofs.FindableTerms
import Concordance.Proofs.CacheRuns
import Concordance.Proofs.WellFormedIndexes
import Concordance.Proofs.CacheRepairs
import Concordance.Proofs.LosslessSnapshots
import Concordance.Proofs.Reloads
import Concordance.Proofs.NumberTexts
import Concordance.Proofs.ShortestDecimals
import Concordance.Proofs.JsonTexts
import Concordance.Proofs.JsonFields
import Concordance.Proofs.ServerRuns
import Concordance.Proofs.RankingOrder
import Concordance.Index.Assembly
import Concordance.Proofs.LosslessIndexes
import Concordance.Proofs.ExactScores
import Concordance.Proofs.NumberValues
import Concordance.Proofs.SearchRequests
import Concordance.Proofs.PhraseHits
import Concordance.Proofs.TextRuns
import Concordance.Snippet.Measured
import Concordance.Proofs.SnippetWindows
import Concordance.Proofs.Collapsing
import Concordance.Proofs.Snippets
import Concordance.Proofs.ArrivalOrder
import Concordance.Proofs.JsonSizes
import Concordance.Proofs.MatchModes
import Concordance.Proofs.Shortening
import Concordance.Proofs.ResponseSizes
import Concordance.Proofs.MaximalRuns
import Concordance.Proofs.Mentions
import Concordance.Proofs.PlannedClauses
import Concordance.Proofs.WrittenQueries
import Concordance.Proofs.Tiling
import Concordance.Proofs.SeparatedTexts
import Concordance.Proofs.AsciiCase
import Concordance.Proofs.AcceptedIndexes
import Concordance.Proofs.CheckedSearches
import Concordance.Proofs.SingleSpacing
import Concordance.Proofs.Drafts
import Concordance.Proofs.Titles
import Concordance.Proofs.Paragraphs
import Concordance.Proofs.PlainLines
import Concordance.Proofs.Headings
import Concordance.Proofs.CodeBlocks
import Concordance.Proofs.Fingerprints
import Concordance.Proofs.SnapshotRoots
import Concordance.Proofs.Orphans
import Concordance.Proofs.PlainParagraphs
import Concordance.Proofs.PendingChanges
import Concordance.Calendar.Checked
import Concordance.Proofs.Dates
import Concordance.Proofs.PrintedDates
import Concordance.Proofs.DefinedScores
import Concordance.Proofs.JsonValues
import Concordance.Proofs.Replies
