import Triage.Analysis.Basic
import Triage.Analysis.Documents
import Triage.Analysis.Events
import Triage.Analysis.HostFacts
import Triage.Analysis.Pods
import Triage.Analysis.Runtimes
import Triage.Analysis.Texts
import Triage.Analysis.Workloads
import Triage.Analyzer.Basic
import Triage.Analyzer.Check
import Triage.Binary64.Basic
import Triage.Binary64.Reading
import Triage.Binary64.Shortest
import Triage.Clause.Basic
import Triage.Clause.Cluster
import Triage.Clause.Host
import Triage.Cluster.Listing
import Triage.Cluster.Objects
import Triage.Cluster.Pod
import Triage.Cluster.PodSummary
import Triage.Comparison
import Triage.Condition.Basic
import Triage.Condition.Error
import Triage.Config.Basic
import Triage.Config.Load
import Triage.Engine.Log
import Triage.Engine.Run
import Triage.Engine.Session
import Triage.Error
import Triage.Evidence.Directory
import Triage.Evidence.Fanout
import Triage.Evidence.FileTree
import Triage.Evidence.Glob
import Triage.Evidence.Layout
import Triage.Evidence.Store
import Triage.Host.Facts
import Triage.Json.Basic
import Triage.Json.Compact
import Triage.Json.Decode
import Triage.Json.Equality
import Triage.Json.Number
import Triage.Json.Select
import Triage.Json.Written
import Triage.JsonPath.Basic
import Triage.JsonPath.Node
import Triage.JsonPath.Reader
import Triage.JsonPath.Select
import Triage.JsonPath.Term
import Triage.JsonPath.Token
import Triage.Meta
import Triage.Outcome.Basic
import Triage.Quantity
import Triage.Regex.Budget
import Triage.Regex.CharClass
import Triage.Regex.Modes
import Triage.Regex.Node
import Triage.Regex.Octets
import Triage.Regex.Pattern
import Triage.Regex.Program
import Triage.Regex.Reader
import Triage.Regex.Search
import Triage.Resolution
import Triage.Result
import Triage.Template
import Triage.Text.Blank
import Triage.Text.Integer
import Triage.Text.Pieces
import Triage.Text.Utf8
import Triage.Toml.Basic
import Triage.Toml.Reader
import Triage.Toml.Scalar
import Triage.Toml.Text
import Triage.Unicode.Age
import Triage.Unicode.Break
import Triage.Unicode.CaseRun
import Triage.Unicode.Category
import Triage.Unicode.CharSet
import Triage.Unicode.Folding
import Triage.Unicode.LowerCase
import Triage.Unicode.Name
import Triage.Unicode.Property
import Triage.Unicode.PropertyTable
import Triage.Unicode.Runs
import Triage.Unicode.Script
import Triage.Version
import Triage.Yaml.Cursor
import Triage.Yaml.Document
import Triage.Yaml.Event
import Triage.Yaml.Scalar
import Triage.Yaml.ScalarText
import Triage.Yaml.Scanner
import Triage.Yaml.Token
import Triage.Proofs.Success
import Triage.Proofs.PathNames
import Triage.Proofs.Places
import Triage.Proofs.Reads
import Triage.Proofs.FoundFiles
import Triage.Proofs.Listing
import Triage.Proofs.Search
import Triage.Proofs.GlobMeaning
import Triage.Proofs.GlobPrefix
import Triage.Proofs.TreeFiles
import Triage.Proofs.SearchRefinement
import Triage.Proofs.ShortestDecimal
import Triage.Proofs.NumberText
import Triage.Proofs.CompactText
import Triage.Proofs.ArrayPairing
import Triage.Proofs.FirstMatch
import Triage.Proofs.Endings
import Triage.Proofs.FanOut
import Triage.Proofs.RunComposition
import Triage.Proofs.NearestDouble
import Triage.Proofs.NumberEquality
import Triage.Proofs.DocumentEquality
import Triage.Proofs.DocumentReading
import Triage.Proofs.RecordCodec
import Triage.Proofs.ManifestCodec
import Triage.Proofs.Repeats
import Triage.Proofs.GlobDialect
import Triage.Proofs.KeptEvents
import Triage.Proofs.PodReports
import Triage.Proofs.AbsentFiles
import Triage.Proofs.EmittedResults
import Triage.Proofs.RunLog
import Triage.Proofs.ListEnvelopes
import Triage.Proofs.Clauses
import Triage.Proofs.Quantities
import Triage.Proofs.Versions
import Triage.Proofs.Substitution
import Triage.Proofs.ConsistentConfig
import Triage.Proofs.StoppedContainers
import Triage.Proofs.PodReasons
import Triage.Proofs.ExplainedPods
import Triage.Proofs.MalformedOutcomes
import Triage.Proofs.PodClauses
import Triage.Proofs.ClauseLanguages
import Triage.Proofs.CapturedGroups
import Triage.Proofs.NamedFiles
import Triage.Proofs.AbsentObjects
import Triage.Proofs.MissingFields
import Triage.Proofs.SymmetricEquality
import Triage.Proofs.DocumentVerdicts
import Triage.Proofs.NamespaceScans
import Triage.Proofs.PlatformClauses
import Triage.Proofs.EventMessages
import Triage.Proofs.DefaultPodTexts
import Triage.Proofs.TextFiles
import Triage.Proofs.JobCompletion
import Triage.Proofs.ServiceClauses
import Triage.Proofs.DottedSelection
import Triage.Proofs.EncodedText
import Triage.Proofs.AppendedFiles
import Triage.Proofs.WholeNumbers
import Triage.Proofs.ReadBack
import Triage.Proofs.LogLines
import Triage.Proofs.PrintedClauses
import Triage.Proofs.PrunedSearch
import Triage.Proofs.ResourceFiles
