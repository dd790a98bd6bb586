import Triage.Text.Case
import Triage.Text.Pieces
import Triage.Text.Quoted
import Triage.Number.Layout
import Triage.Number.Reader
import Triage.Json.Decode
import Triage.Json.Printer
import Triage.Severity
import Triage.Priority
import Triage.Failure
import Triage.Finding.Basic
import Triage.Image
import Triage.Finding.Document
import Triage.Scoring
import Triage.Intel.Forecasts
import Triage.Inventory.Document
import Triage.Command.Report
import Triage.Service.Overview
import Triage.Inventory.Demo
import Triage.Time.LooseDate
import Triage.Cache.Manager
import Triage.Host.Url
import Triage.Intel.ExploitedCatalog
import Triage.Intel.Exploits
import Triage.Intel.Advisories
import Triage.Engine.Source
import Triage.Service.Handler
import Triage.Toml.Document
import Triage.Settings.File
import Triage.Settings.Environment
import Triage.Settings.Check
import Triage.Inventory.Cluster
import Triage.Inventory.Registry
import Triage.Inventory.Mode
import Triage.Command.Run
import Triage.Service.Instance
import Triage.Main
import Triage.Proofs.Engine.FanOut
import Triage.Proofs.Engine.OneByOne
import Triage.Proofs.Number.Order
import Triage.Proofs.Cvss
import Triage.Proofs.Ranking
import Triage.Proofs.Engine.Determinism
import Triage.Proofs.Engine.Records
import Triage.Proofs.Cve
import Triage.Proofs.Engine.GivingUp
import Triage.Proofs.Engine.Accounting
import Triage.Proofs.Cache.FetchThrough
import Triage.Proofs.Json.Escape
import Triage.Proofs.Json.Grammar
import Triage.Proofs.Json.Printing
import Triage.Proofs.Json.Members
import Triage.Proofs.Number.Digits
import Triage.Proofs.Time.Calendar
import Triage.Proofs.Cache.File
import Triage.Proofs.Text.Pieces
import Triage.Proofs.Host.Disk
import Triage.Proofs.Cache.Bucket
import Triage.Proofs.Cache.Refinement
import Triage.Proofs.Intel.Contributions
import Triage.Proofs.Scoring
import Triage.Proofs.Engine.Idempotence
import Triage.Proofs.Intel.OncePerRun
import Triage.Proofs.Intel.Calls
import Triage.Proofs.Engine.SameAnswers
import Triage.Proofs.Json.Written
import Triage.Proofs.Number.Literal
import Triage.Proofs.Json.Filling
import Triage.Proofs.Finding.RoundTrip
import Triage.Proofs.Inventory.ReadBack
import Triage.Proofs.Intel.OwnFields
import Triage.Proofs.Engine.SourceOrder
import Triage.Proofs.Cache.FailedReading
import Triage.Proofs.Engine.FreshRuns
import Triage.Proofs.Service.TwoReads
import Triage.Proofs.Text.Bytes
import Triage.Proofs.Service.Labels
import Triage.Proofs.Inventory.Scans
import Triage.Proofs.Intel.Overlapping
import Triage.Proofs.Intel.ForecastRange
import Triage.Proofs.Engine.Tiers
import Triage.Proofs.Number.Whole
import Triage.Proofs.Service.Selection
import Triage.Proofs.Command.Gate
import Triage.Proofs.Text.Case
import Triage.Proofs.Settings.Items
import Triage.Proofs.Settings.File
import Triage.Proofs.Settings.Precedence
import Triage.Proofs.Host.Address
import Triage.Proofs.Intel.Batches
import Triage.Proofs.Version
import Triage.Proofs.Intel.Remedy
import Triage.Proofs.Intel.ExploitLookup
import Triage.Proofs.Intel.CatalogLookup
import Triage.Proofs.Intel.TogetherOrSingly
import Triage.Proofs.Text.Folding
import Triage.Proofs.Intel.ExploitSummary
import Triage.Proofs.Intel.DegradedLookup
import Triage.Proofs.Service.Overview
import Triage.Proofs.Inventory.Attributes
import Triage.Proofs.Cve.Spelling
import Triage.Proofs.Inventory.RelatedIds
import Triage.Proofs.Version.Prerelease
import Triage.Proofs.Version.Smallest
import Triage.Proofs.Intel.RangeOrder
import Triage.Proofs.CvssShare
import Triage.Proofs.Engine.Unresolved
import Triage.Proofs.Image
