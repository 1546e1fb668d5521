import TabletUpkeep.Decimal.FloatText
import TabletUpkeep.Decimal.Shortest
import TabletUpkeep.Disk.Path
import TabletUpkeep.Disk.Usage
import TabletUpkeep.Duration
import TabletUpkeep.Duty.Compaction
import TabletUpkeep.Duty.Kind
import TabletUpkeep.Duty.Routine
import TabletUpkeep.Duty.Script
import TabletUpkeep.Duty.TrashSweep
import TabletUpkeep.Duty.Worker
import TabletUpkeep.Event
import TabletUpkeep.Failure
import TabletUpkeep.Fleet
import TabletUpkeep.Json.Settings
import TabletUpkeep.Json.Value
import TabletUpkeep.Json.Vocabulary
import TabletUpkeep.Loop.Basic
import TabletUpkeep.Loop.Rehearsal
import TabletUpkeep.Loop.Script
import TabletUpkeep.Loop.Tally
import TabletUpkeep.Record
import TabletUpkeep.Schedule.Basic
import TabletUpkeep.Schedule.Correction
import TabletUpkeep.Schedule.Sweep
import TabletUpkeep.Settings.Basic
import TabletUpkeep.Settings.Loading
import TabletUpkeep.Settings.Reading
import TabletUpkeep.Settings.Writing
import TabletUpkeep.State.Basic
import TabletUpkeep.State.Claims
import TabletUpkeep.State.SchemaChange
import TabletUpkeep.State.UsageGauge
import TabletUpkeep.StopLine
import TabletUpkeep.Supervisor.Basic
import TabletUpkeep.Supervisor.Crew
import TabletUpkeep.Supervisor.Plan
import TabletUpkeep.Tablet.Basic
import TabletUpkeep.Tablet.Codes
import TabletUpkeep.Tablet.ReadCounters
import TabletUpkeep.Tablet.Rowset
import TabletUpkeep.Text.Printing
import TabletUpkeep.Text.Quoted
import TabletUpkeep.Toml.Document
import TabletUpkeep.Toml.Lexeme
import TabletUpkeep.Toml.Number
import TabletUpkeep.Toml.Text
import TabletUpkeep.Toml.Tree
import TabletUpkeep.Toml.Value
import TabletUpkeep.Word
import TabletUpkeep.Proofs.ExclusiveClaims
import TabletUpkeep.Proofs.Startup
import TabletUpkeep.Proofs.LoopHistory
import TabletUpkeep.Proofs.LoopRounds
import TabletUpkeep.Proofs.LoopSteps
import TabletUpkeep.Proofs.FleetRuns
import TabletUpkeep.Proofs.FloatBits
import TabletUpkeep.Proofs.SweepFeedback
import TabletUpkeep.Proofs.Stopping
import TabletUpkeep.Proofs.SoloRuns
import TabletUpkeep.Proofs.Isolation
import TabletUpkeep.Duty.Claimant
import TabletUpkeep.Proofs.ClaimedCompaction
import TabletUpkeep.Proofs.FloatRounding
import TabletUpkeep.Proofs.FloatValues
import TabletUpkeep.Proofs.DurationScaling
import TabletUpkeep.Proofs.SweepInterval
import TabletUpkeep.Proofs.WaitBounds
import TabletUpkeep.Proofs.FloatOperations
import TabletUpkeep.Proofs.SchemaBalance
import TabletUpkeep.Loop.Observation
import TabletUpkeep.Proofs.Glances
import TabletUpkeep.Proofs.Publication
import TabletUpkeep.Proofs.SnapshotFields
import TabletUpkeep.Duty.Questions
import TabletUpkeep.Proofs.Completion
import TabletUpkeep.Proofs.FairTurns
import TabletUpkeep.Proofs.SupervisorEnd
import TabletUpkeep.Proofs.GuardOverflow
import TabletUpkeep.StopChannel
import TabletUpkeep.Proofs.StopAgreement
import TabletUpkeep.Proofs.ScheduleProjection
import TabletUpkeep.Proofs.SweepCurve
import TabletUpkeep.Proofs.ExactScaling
import TabletUpkeep.Proofs.CompactionPasses
import TabletUpkeep.Proofs.PathSpelling
import TabletUpkeep.Proofs.MountLookup
import TabletUpkeep.Proofs.PeakUsage
import TabletUpkeep.Proofs.UsageRatio
import TabletUpkeep.Proofs.CheckedSums
import TabletUpkeep.Proofs.RowsetTotals
import TabletUpkeep.Proofs.CounterMerging
import TabletUpkeep.Proofs.NamedValues
import TabletUpkeep.Proofs.RecordForms
import TabletUpkeep.Proofs.VocabularyForms
import TabletUpkeep.Proofs.DecimalReading
import TabletUpkeep.Proofs.SettingLines
import TabletUpkeep.Proofs.SettingsOverlay
import TabletUpkeep.Proofs.PrintedForms
import TabletUpkeep.Proofs.PrintedIdentities
