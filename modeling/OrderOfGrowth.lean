import OrderOfGrowth.CommandLine.Run
import OrderOfGrowth.Curve
import OrderOfGrowth.Decimal.Layout
import OrderOfGrowth.Estimate
import OrderOfGrowth.FileTree.Edit
import OrderOfGrowth.FileTree.Path
import OrderOfGrowth.FileTree.Walk
import OrderOfGrowth.Glob.Expression
import OrderOfGrowth.Glob.Library
import OrderOfGrowth.Glob.Marks
import OrderOfGrowth.Glob.Parser
import OrderOfGrowth.Glob.Plan
import OrderOfGrowth.Idioms
import OrderOfGrowth.IgnoreSet
import OrderOfGrowth.Json.Decoder
import OrderOfGrowth.Json.Writer
import OrderOfGrowth.Label
import OrderOfGrowth.Line.Tags
import OrderOfGrowth.Log.Basic
import OrderOfGrowth.Log.Filter
import OrderOfGrowth.Main
import OrderOfGrowth.Outline.Basic
import OrderOfGrowth.Outline.Draft
import OrderOfGrowth.Outline.Event
import OrderOfGrowth.Report.Codec
import OrderOfGrowth.Settings.Codec
import OrderOfGrowth.Settings.Load
import OrderOfGrowth.Tally
import OrderOfGrowth.Text.Alphanumeric
import OrderOfGrowth.Text.Basic
import OrderOfGrowth.Text.Blank
import OrderOfGrowth.Text.Quoted
import OrderOfGrowth.Text.WordChar
import OrderOfGrowth.Proofs.OnePass
import OrderOfGrowth.Proofs.Reformatting
import OrderOfGrowth.Proofs.CallTracking
import OrderOfGrowth.Proofs.Composition
import OrderOfGrowth.Proofs.Names
import OrderOfGrowth.Proofs.Rendering
import OrderOfGrowth.Proofs.Scanning
import OrderOfGrowth.Proofs.Skipping
import OrderOfGrowth.Proofs.Forms
import OrderOfGrowth.Proofs.PartialRecords
import OrderOfGrowth.Proofs.PartialSettings
import OrderOfGrowth.Proofs.Spelling
import OrderOfGrowth.Proofs.SavedFile
import OrderOfGrowth.Proofs.SettingsFile
import OrderOfGrowth.Proofs.Siblings
import OrderOfGrowth.Proofs.Occurrences
import OrderOfGrowth.Proofs.SecondMention
import OrderOfGrowth.Proofs.PrintedPath
import OrderOfGrowth.Proofs.FileWalk
import OrderOfGrowth.Proofs.Reach
import OrderOfGrowth.Proofs.AnalysedFiles
import OrderOfGrowth.Proofs.Items
import OrderOfGrowth.Proofs.RefusedPatterns
import OrderOfGrowth.Proofs.ChosenSettings
import OrderOfGrowth.Proofs.ExitCode
import OrderOfGrowth.Proofs.CallWords
import OrderOfGrowth.Proofs.Edits
import OrderOfGrowth.Proofs.SelfCall
import OrderOfGrowth.Proofs.OutsideMentions
import OrderOfGrowth.Proofs.Curves
import OrderOfGrowth.Proofs.Braces
import OrderOfGrowth.Proofs.Constructors
import OrderOfGrowth.Proofs.GlobMarks
import OrderOfGrowth.Proofs.IgnoredDirectories
import OrderOfGrowth.Proofs.KeywordCoverage
import OrderOfGrowth.Proofs.Census
import OrderOfGrowth.Proofs.Description
import OrderOfGrowth.Proofs.NameGrammar
