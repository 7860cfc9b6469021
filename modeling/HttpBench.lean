import HttpBench.Number.Scalar
import HttpBench.Json.Parser
import HttpBench.Json.Printer
import HttpBench.Json.Decode
import HttpBench.Time.Duration
import HttpBench.Timing.Phase
import HttpBench.Timing.Stopwatch
import HttpBench.Sample.Failure
import HttpBench.Sample.Basic
import HttpBench.Statistics.Run
import HttpBench.Diagnosis.Basic
import HttpBench.Url.Basic
import HttpBench.Http.Target
import HttpBench.Http.Response
import HttpBench.Toml.Parser
import HttpBench.Setup.Config
import HttpBench.Logging.Event
import HttpBench.Cache.Response
import HttpBench.Executor
import HttpBench.Run.Machine
import HttpBench.Run.Dispatch
import HttpBench.Report.Comparison
import HttpBench.Suite
import HttpBench.Simulation.CacheSession
import HttpBench.Simulation.Script
import HttpBench.Simulation.Bench
import HttpBench.Http.Connection
import HttpBench.Client.Basic
import HttpBench.Simulation.Network
import HttpBench.Simulation.Requests
import HttpBench.Program
import HttpBench.Main
import HttpBench.Proofs.Executor.Calls
import HttpBench.Proofs.History
import HttpBench.Proofs.Run.Steps
import HttpBench.Proofs.Run.Seats
import HttpBench.Proofs.Cache.Accounts
import HttpBench.Proofs.Cache.Entries
import HttpBench.Proofs.Cache.Fills
import HttpBench.Proofs.Cache.Freshness
import HttpBench.Proofs.Cache.Recency
import HttpBench.Proofs.Executor.OneFill
import HttpBench.Proofs.Executor.Overlaps
import HttpBench.Proofs.Run.Accounting
import HttpBench.Proofs.Run.Plans
import HttpBench.Proofs.Run.Progress
import HttpBench.Proofs.Run.Results
import HttpBench.Proofs.Run.SharedFetch
import HttpBench.Proofs.Run.InFlight
import HttpBench.Proofs.Client.Reuse
import HttpBench.Proofs.Executor.Histories
import HttpBench.Proofs.Executor.Provenance
import HttpBench.Proofs.Cache.FillSessions
import HttpBench.Proofs.Cache.Followers
import HttpBench.Proofs.Executor.Sessions
import HttpBench.Proofs.Executor.Resuming
import HttpBench.Proofs.Statistics.Reordering
import HttpBench.Proofs.Suite.Checks
import HttpBench.Proofs.Client.Origins
import HttpBench.Proofs.Run.Endings
import HttpBench.Proofs.Run.Fetches
import HttpBench.Proofs.Suite.Possibilities
import HttpBench.Proofs.Suite.Progress
import HttpBench.Proofs.Suite.Reports
import HttpBench.Proofs.Suite.Schedules
import HttpBench.Proofs.Executor.Lookups
import HttpBench.Proofs.Run.Balance
import HttpBench.Proofs.Run.Lookups
import HttpBench.Proofs.Run.Losses
import HttpBench.Proofs.Run.Warmup
import HttpBench.Proofs.Number.Exact
import HttpBench.Proofs.Json.Reading
import HttpBench.Proofs.Report.RoundTrip
import HttpBench.Proofs.Client.Requests
import HttpBench.Proofs.Timing.Stopwatch
import HttpBench.Proofs.Client.Phases
import HttpBench.Proofs.Client.Reconnecting
import HttpBench.Proofs.Client.Alike
import HttpBench.Proofs.Client.Stale
import HttpBench.Proofs.Executor.Clocks
import HttpBench.Proofs.Executor.Durations
import HttpBench.Proofs.Statistics.Summaries
import HttpBench.Proofs.Run.Totals
import HttpBench.Proofs.Statistics.Figures
import HttpBench.Proofs.Run.Deadlines
import HttpBench.Proofs.Statistics.Samples
import HttpBench.Proofs.Statistics.Tallies
import HttpBench.Proofs.Number.Shares
import HttpBench.Proofs.Number.Rounding
import HttpBench.Proofs.Number.Order
import HttpBench.Proofs.Number.Doubles
import HttpBench.Proofs.Number.Margins
import HttpBench.Proofs.Statistics.Series
import HttpBench.Proofs.Statistics.Counts
import HttpBench.Proofs.Statistics.Failures
import HttpBench.Proofs.Diagnosis.Findings
import HttpBench.Proofs.Diagnosis.Rules
import HttpBench.Proofs.Diagnosis.Limits
import HttpBench.Proofs.Diagnosis.Reuse
import HttpBench.Proofs.Diagnosis.Ranking
import HttpBench.Proofs.Cache.Keys
import HttpBench.Proofs.Http.Fields
import HttpBench.Proofs.Http.Requests
import HttpBench.Proofs.Logging.CleanUp
