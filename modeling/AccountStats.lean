import AccountStats.Account.Repository
import AccountStats.Account.Stats
import AccountStats.Account.Wire
import AccountStats.Admin.Calls
import AccountStats.Admin.Command
import AccountStats.Admin.Help
import AccountStats.Admin.Run
import AccountStats.Banner.Basic
import AccountStats.Banner.Channel
import AccountStats.Banner.Publish
import AccountStats.Banner.Publisher
import AccountStats.Cache.Basic
import AccountStats.Cache.Memory
import AccountStats.Cache.Shared
import AccountStats.ErrorChain
import AccountStats.Failure
import AccountStats.Freshness
import AccountStats.GitHub.Calls
import AccountStats.GitHub.Client
import AccountStats.GitHub.Error
import AccountStats.GitHub.Fetch
import AccountStats.GitHub.Leasing
import AccountStats.GitHub.Link
import AccountStats.GitHub.Login
import AccountStats.GitHub.Pool
import AccountStats.GitHub.Quota
import AccountStats.GitHub.Tokens
import AccountStats.GitHub.Wire
import AccountStats.Http.Headers
import AccountStats.Http.Message
import AccountStats.Journal
import AccountStats.Json.Basic
import AccountStats.Json.Reader
import AccountStats.Json.Real
import AccountStats.Json.Shape
import AccountStats.Json.Writer
import AccountStats.Main
import AccountStats.Program
import AccountStats.Program.Tasks
import AccountStats.Proofs.Sweep.Accounting
import AccountStats.Proofs.Sweep.Order
import AccountStats.Proofs.Sweep.Reports
import AccountStats.Proofs.Sweep.Steps
import AccountStats.Proofs.Sweep.Termination
import AccountStats.Redis.Calls
import AccountStats.Redis.Keys
import AccountStats.Scenario.Cache
import AccountStats.Scenario.GitHub
import AccountStats.Scenario.Offline
import AccountStats.Scenario.Pool
import AccountStats.Scenario.Service
import AccountStats.Scenario.Sweep
import AccountStats.Settings.Basic
import AccountStats.Settings.Check
import AccountStats.Settings.Environment
import AccountStats.Settings.Shown
import AccountStats.Startup.Calls
import AccountStats.Startup.Connect
import AccountStats.Startup.Service
import AccountStats.Store.Calls
import AccountStats.Store.ConnectOptions
import AccountStats.Store.Failure
import AccountStats.Store.Read
import AccountStats.Store.Save
import AccountStats.Store.Statement
import AccountStats.Store.Tables
import AccountStats.Sweep.Config
import AccountStats.Sweep.Machine
import AccountStats.Sweep.Schedule
import AccountStats.Sync.Background
import AccountStats.Sync.Calls
import AccountStats.Sync.Lookup
import AccountStats.Sync.Pipeline
import AccountStats.Text.Blank
import AccountStats.Text.Case
import AccountStats.Text.Decimal
import AccountStats.Text.Folding
import AccountStats.Text.Invisible
import AccountStats.Text.Mark
import AccountStats.Text.Percent
import AccountStats.Text.Quoted
import AccountStats.Text.Runs
import AccountStats.Text.Split
import AccountStats.Text.Unprintable
import AccountStats.Text.Utf8
import AccountStats.Time.Calendar
import AccountStats.Time.Instant
import AccountStats.Time.Micros
import AccountStats.Time.Rfc3339
import AccountStats.Url.Address
import AccountStats.Url.Authority
import AccountStats.Url.Basic
import AccountStats.Url.Domain
import AccountStats.Url.Path
import AccountStats.Url.Punycode
import AccountStats.Url.Query
import AccountStats.Url.Reader
import AccountStats.Web.Banners
import AccountStats.Web.Calls
import AccountStats.Web.Health
import AccountStats.Web.Message
import AccountStats.Web.Router
import AccountStats.Web.Stats
import AccountStats.Proofs.Store.Listing
import AccountStats.Proofs.Store.Rows
import AccountStats.Proofs.Store.Saving
import AccountStats.Proofs.Store.Attempts
import AccountStats.Proofs.Store.Retrying
import AccountStats.Proofs.Store.Committing
import AccountStats.Proofs.Time.WholeMicros
import AccountStats.Proofs.Store.Reading
import AccountStats.Proofs.Store.History
import AccountStats.Proofs.Program.Interleaving
import AccountStats.Proofs.GitHub.Leasing
import AccountStats.Proofs.GitHub.Accounting
import AccountStats.Proofs.GitHub.Overspending
import AccountStats.Proofs.Account.Stats
import AccountStats.Proofs.Sync.Agreement
import AccountStats.Proofs.Text.Decimal
import AccountStats.Proofs.Time.Rfc3339
import AccountStats.Proofs.Json.Tokens
import AccountStats.Proofs.Json.RoundTrip
import AccountStats.Proofs.Json.Shape
import AccountStats.Proofs.Account.Wire
import AccountStats.Proofs.Banner.Wire
import AccountStats.Proofs.Association
import AccountStats.Proofs.Cache.Memory
import AccountStats.Proofs.Program.Running
import AccountStats.Proofs.Text.Utf8
import AccountStats.Proofs.Cache.Shared
import AccountStats.Proofs.Program.Layers
import AccountStats.Proofs.Sync.Failures
import AccountStats.Proofs.Web.Statuses
import AccountStats.Proofs.Sync.Requests
import AccountStats.Proofs.Sync.Refreshing
import AccountStats.Proofs.Sync.Sessions
import AccountStats.Proofs.Sync.WithoutCache
import AccountStats.Proofs.Sweep.Interleaved
import AccountStats.Proofs.Sync.Synchronizing
import AccountStats.Proofs.Sweep.Scheduling
import AccountStats.Proofs.Sweep.Timing
import AccountStats.Proofs.GitHub.Scanning
import AccountStats.Proofs.GitHub.Login
import AccountStats.Proofs.Http.Library
import AccountStats.Proofs.GitHub.Delivery
import AccountStats.Proofs.GitHub.Targets
import AccountStats.Proofs.Usernames
import AccountStats.Proofs.GitHub.Twins
import AccountStats.Proofs.GitHub.Secrecy
import AccountStats.Proofs.Settings.Masking
import AccountStats.Proofs.Text.Split
import AccountStats.Proofs.Settings.Secrets
import AccountStats.Proofs.Settings.Limits
import AccountStats.Proofs.Program.Related
import AccountStats.Proofs.Store.Wording
import AccountStats.Proofs.Sync.Wording
import AccountStats.Proofs.Web.Wording
import AccountStats.Proofs.Sync.Tiers
import AccountStats.Proofs.Freshness
import AccountStats.Proofs.Sync.Serving
import AccountStats.Proofs.Sync.Callers
import AccountStats.Proofs.GitHub.Fetching
import AccountStats.Proofs.GitHub.Paging
import AccountStats.Proofs.GitHub.Calling
import AccountStats.Proofs.GitHub.Settling
import AccountStats.Proofs.GitHub.Paying
import AccountStats.Proofs.Account.Totals
import AccountStats.Proofs.GitHub.FirstFit
import AccountStats.Proofs.Store.Sending
import AccountStats.Proofs.Web.Credentials
import AccountStats.Proofs.Text.Blank
import AccountStats.Proofs.Text.Numerals
import AccountStats.Proofs.GitHub.Link
import AccountStats.Proofs.GitHub.Grammar
import AccountStats.Proofs.GitHub.Reports
import AccountStats.Proofs.Settings.Passwords
import AccountStats.Proofs.GitHub.Wire
import AccountStats.Proofs.GitHub.Tokens
import AccountStats.Proofs.GitHub.Filling
import AccountStats.Proofs.Web.Publishing
import AccountStats.Proofs.Url.Host
import AccountStats.Proofs.Store.ConnectOptions
import AccountStats.Proofs.Startup.Connecting
