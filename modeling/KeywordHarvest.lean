import KeywordHarvest.Main
import KeywordHarvest.Session
import KeywordHarvest.FileTree.Change
import KeywordHarvest.Proofs.Call.Leftmost
import KeywordHarvest.Proofs.Call.Search
import KeywordHarvest.Proofs.Call.Unquoted
import KeywordHarvest.Proofs.Call.Planted
import KeywordHarvest.Proofs.Call.Concatenation
import KeywordHarvest.Proofs.Call.LongerMarker
import KeywordHarvest.Proofs.Text.RoundTrip
import KeywordHarvest.Proofs.Text.Decoded
import KeywordHarvest.Proofs.Text.Subparts
import KeywordHarvest.Proofs.Text.LowerCase
import KeywordHarvest.Proofs.Listing.Rescan
import KeywordHarvest.Proofs.Listing.NoNewCalls
import KeywordHarvest.Proofs.Listing.Unambiguous
import KeywordHarvest.Proofs.Listing.JsonGrammar
import KeywordHarvest.Proofs.Listing.ReadBack
import KeywordHarvest.Proofs.FileTree.Filling
import KeywordHarvest.Proofs.FileTree.Replacing
import KeywordHarvest.Proofs.Harvest.Outcome
import KeywordHarvest.Proofs.Harvest.Rerun
import KeywordHarvest.Proofs.Harvest.Commuting
import KeywordHarvest.Proofs.Harvest.OneFile
import KeywordHarvest.Proofs.Harvest.FirstFault
import KeywordHarvest.Proofs.Result
import KeywordHarvest.Proofs.Settings.Table
import KeywordHarvest.Proofs.Settings.Document
import KeywordHarvest.Proofs.Settings.Kind
import KeywordHarvest.Proofs.Settings.Mention
import KeywordHarvest.Proofs.Settings.LastWriter
import KeywordHarvest.Proofs.Settings.WrittenDocument
import KeywordHarvest.Proofs.Settings.Undisturbed
import KeywordHarvest.Proofs.Settings.FirstFault
import KeywordHarvest.Proofs.Settings.Redundant
import KeywordHarvest.Proofs.Settings.Change
import KeywordHarvest.Proofs.Settings.Settled
import KeywordHarvest.Proofs.Settings.Reading
import KeywordHarvest.Proofs.Settings.AnyOrder
import KeywordHarvest.Proofs.Settings.Repeated
import KeywordHarvest.Proofs.Settings.PathOverride
import KeywordHarvest.Proofs.CommandLine.Frame
import KeywordHarvest.Proofs.CommandLine.Switch
import KeywordHarvest.Proofs.CommandLine.Printing
import KeywordHarvest.Proofs.CommandLine.Logging
import KeywordHarvest.Proofs.CommandLine.AnyOrder
import KeywordHarvest.Proofs.CommandLine.ExitCode
import KeywordHarvest.Proofs.CommandLine.Idempotence
import KeywordHarvest.Proofs.Toml.BasicString
import KeywordHarvest.Proofs.Toml.KeyLines
import KeywordHarvest.Proofs.Toml.NormalForm
import KeywordHarvest.Proofs.Decimal.Shortest
import KeywordHarvest.Proofs.Session.Thinning
