import OoBot.Text
import OoBot.Domain.OoCounter
import OoBot.Lib.Wasm
import OoBot.Sandbox.Abi
import OoBot.Sandbox.Guest
import OoBot.Sandbox.GuestLoop
import OoBot.Sandbox.GuestRun
import OoBot.Domain.Detector
import OoBot.App.AnalyzeMessage
import OoBot.Sandbox.Host
import OoBot.Lib.F64
import OoBot.Lib.KeyMap
import OoBot.Security.Limiters
import OoBot.Security.CoreGovernor
import OoBot.Security.Decisions
import OoBot.Lib.Runs
import OoBot.Security.Mediation
import OoBot.Config
import OoBot.Sandbox.Agreement
import OoBot.Sandbox.FuelBudget
import OoBot.Security.Detection
import OoBot.Security.Refinement
import OoBot.Audit.Record
import OoBot.Lib.Sha256
import OoBot.Audit.Verify
import OoBot.Audit.History
import OoBot.Audit.Query
import OoBot.Security.Diagnostics
import OoBot.Audit.Tamper
import OoBot.Audit.Writers
import OoBot.Security.Breaker
import OoBot.Security.Transitions
import OoBot.Lib.Bucket
import OoBot.Security.Outbound
import OoBot.Security.Duplicates
import OoBot.Security.Inert
import OoBot.Security.Degradation
import OoBot.Security.SendLimit
import OoBot.Infra.DiscordHandler
import OoBot.Lib.Fallible
import OoBot.Lib.Files
import OoBot.Lib.FileOps
import OoBot.Config.Write
import OoBot.Config.Staging
import OoBot.Config.Load
import OoBot.Config.Install
import OoBot.Config.SaveLoad
import OoBot.Domain.LiteralCount
import OoBot.Lib.Overlap
import OoBot.Domain.TokenHits
import OoBot.Security.Suppression
import OoBot.Security.Spending
import OoBot.Security.Metrics
import OoBot.Security.Stamps
import OoBot.Security.WholeStamps
import OoBot.Config.Template
import OoBot.Lib.Substitution
import OoBot.Security.Templates
import OoBot.Audit.Caps
import OoBot.Audit.TimeFilter
import OoBot.Audit.Ranges
import OoBot.Audit.Atomic
import OoBot.Domain.ReadingNormalizer
import OoBot.Sandbox.Totals
import OoBot.Security.Wire
import OoBot.App.Exits
import OoBot.Security.Spikes
import OoBot.Lib.FirstPrefix
import OoBot.Security.Redaction
import OoBot.App.Replay
import OoBot.Tui.Fields
import OoBot.Tui.AuditView
import OoBot.Tui.ModeFilters
import OoBot.Tui.App
import OoBot.Tui.Stop
import OoBot.Tui.Failures
import OoBot.Config.Savable
import OoBot.Control
import OoBot.Lib.Streak
import OoBot.Security.Repetition
import OoBot.Security.Ledger
import OoBot.Security.SlidingRate
import OoBot.Security.Recovery
import OoBot.Control.Runtime
import OoBot.Audit.Stats
import OoBot.Infra.Accounts
import OoBot.Tui.Sound
import OoBot.Audit.Export
import OoBot.Lib.Arrivals
import OoBot.Control.Exchange
import OoBot.Security.Shift
