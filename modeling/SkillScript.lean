import SkillScript.Agent
import SkillScript.Cast.Caster
import SkillScript.Cast.Catalog
import SkillScript.Cast.Cooldown
import SkillScript.Cast.Basic
import SkillScript.Cast.Skill
import SkillScript.Category
import SkillScript.Content.Bundled
import SkillScript.Content.Files
import SkillScript.Content.Load
import SkillScript.Content.SettingsFile
import SkillScript.Entity
import SkillScript.Lifecycle
import SkillScript.Main
import SkillScript.Markup.Attribute
import SkillScript.Markup.Element
import SkillScript.Markup.Notation
import SkillScript.Node.Behaves
import SkillScript.Node.Behavior
import SkillScript.Node.Condition
import SkillScript.Node.Create
import SkillScript.Node.Each
import SkillScript.Node.Handle
import SkillScript.Node.Machine
import SkillScript.Node.Parallel
import SkillScript.Node.Sensor
import SkillScript.Node.Sequence
import SkillScript.Node.State
import SkillScript.Node.Task
import SkillScript.Node.Timer
import SkillScript.Node.Transition
import SkillScript.Number.Compact
import SkillScript.Number.Decimal
import SkillScript.Number.Fixed
import SkillScript.Number.Order
import SkillScript.Number.Rounding
import SkillScript.Number.Shortest
import SkillScript.Param
import SkillScript.Ron.Datum
import SkillScript.Ron.Decode
import SkillScript.Ron.Gap
import SkillScript.Ron.Numeral
import SkillScript.Ron.Quoted
import SkillScript.Script.Build
import SkillScript.Script.Comparison
import SkillScript.Script.Config
import SkillScript.Script.Error
import SkillScript.Script.Reader
import SkillScript.Script.Registry
import SkillScript.Settings
import SkillScript.Simulation.Arguments
import SkillScript.Simulation.Program
import SkillScript.Simulation.Report
import SkillScript.Simulation.Run
import SkillScript.Table
import SkillScript.Text.Ascii
import SkillScript.Text.Blank
import SkillScript.Text.Identifier
import SkillScript.Text.Printable
import SkillScript.Text.Quoted
import SkillScript.Text.Ranges
import SkillScript.Text.Scan
import SkillScript.Text.Whole
import SkillScript.Toml.Document
import SkillScript.Toml.Item
import SkillScript.Toml.Quoted
import SkillScript.Toml.Scalar
import SkillScript.Value.Basic
import SkillScript.Value.Literal
import SkillScript.Vars
import SkillScript.World.Bus
import SkillScript.World.Context
import SkillScript.World.Entities
import SkillScript.World.Notation
import SkillScript.Proofs.Tree.Each
import SkillScript.Proofs.Tree.Quiet
import SkillScript.Proofs.Tree.Pristine
import SkillScript.Proofs.Census.Account
import SkillScript.Proofs.Census.Release
import SkillScript.Proofs.Census.Still
import SkillScript.Proofs.Census.Create
import SkillScript.Proofs.Census.Ledger
import SkillScript.Proofs.Status.Condition
import SkillScript.Proofs.Status.State
import SkillScript.Proofs.Status.Composite
import SkillScript.Proofs.Status.Node
import SkillScript.Proofs.Status.Create
import SkillScript.Proofs.Status.ActivePath
import SkillScript.Proofs.Reentry.Condition
import SkillScript.Proofs.Reentry.Task
import SkillScript.Proofs.Reentry.Pairs
import SkillScript.Proofs.Reentry.State
import SkillScript.Proofs.Reentry.Composite
import SkillScript.Proofs.Reentry.Machine
import SkillScript.Proofs.Reentry.Node
import SkillScript.Proofs.Reentry.Create
import SkillScript.Proofs.Reentry.Replay
import SkillScript.Proofs.Instantiation.Sound
import SkillScript.Proofs.Instantiation.Create
import SkillScript.Proofs.Instantiation.Start
import SkillScript.Proofs.Tree.Holdings
import SkillScript.Proofs.Tree.Confined
import SkillScript.Proofs.Tree.Effects
import SkillScript.Proofs.World.Entities
import SkillScript.Proofs.World.Changes
import SkillScript.Proofs.World.Spawning
import SkillScript.Proofs.Casting.Agents
import SkillScript.Proofs.Casting.Calls
import SkillScript.Proofs.Casting.Sound
import SkillScript.Proofs.Casting.Cleanup
import SkillScript.Proofs.Casting.Attempts
import SkillScript.Proofs.Casting.Cooling
import SkillScript.Proofs.Casting.Countdown
import SkillScript.Proofs.Casting.Completion
import SkillScript.Proofs.Casting.Committed
import SkillScript.Proofs.Casting.Ownership
import SkillScript.Proofs.Casting.Locks
import SkillScript.Proofs.Number.Quanta
import SkillScript.Proofs.Timing.Schedule
import SkillScript.Proofs.Timing.Update
import SkillScript.Proofs.Timing.Ticks
import SkillScript.Proofs.Events.Delivery
import SkillScript.Proofs.Events.Latches
import SkillScript.Proofs.Events.Subscriptions
import SkillScript.Proofs.Tree.Newborn
import SkillScript.Proofs.Tree.Rows
import SkillScript.Proofs.Status.Finished
import SkillScript.Proofs.Status.Truthful
import SkillScript.Proofs.Status.Finality
import SkillScript.Proofs.Markup.WellFormed
import SkillScript.Proofs.Markup.Attributes
import SkillScript.Proofs.Markup.Places
import SkillScript.Proofs.Markup.Mirror
import SkillScript.Proofs.Markup.Accepted
import SkillScript.Proofs.Number.Sign
import SkillScript.Proofs.Footprint.Spawns
import SkillScript.Proofs.Footprint.Update
import SkillScript.Proofs.Footprint.Calls
import SkillScript.Proofs.Footprint.Casts
import SkillScript.Proofs.Simulation.Stages
import SkillScript.Proofs.Simulation.Runs
import SkillScript.Proofs.Machine.Watch
import SkillScript.Proofs.Machine.Step
import SkillScript.Proofs.Number.Difference
import SkillScript.Proofs.Number.Nearest
import SkillScript.Proofs.Number.Doubles
import SkillScript.Proofs.Number.Literals
import SkillScript.Proofs.Markup.Printed
import SkillScript.Proofs.Markup.Comparing
import SkillScript.Proofs.Tree.Below
import SkillScript.Proofs.Timing.Leftover
import SkillScript.Proofs.Tree.Conditions
import SkillScript.Proofs.Tree.Formulas
import SkillScript.Proofs.Machine.Ending
import SkillScript.Proofs.Events.Triggers
import SkillScript.Proofs.Tree.Images
import SkillScript.Proofs.Tree.Traces
import SkillScript.Proofs.Tree.Acts
import SkillScript.Proofs.Timing.Forward
import SkillScript.Proofs.Nesting.Likeness
import SkillScript.Proofs.Nesting.Runs
import SkillScript.Proofs.Nesting.Flat
import SkillScript.Proofs.Nesting.Reach
import SkillScript.Proofs.Nesting.Nodes
import SkillScript.Proofs.Nesting.Create
import SkillScript.Proofs.Nesting.Sequences
import SkillScript.Proofs.Timing.Throttle
import SkillScript.Proofs.Timing.Flows
import SkillScript.Proofs.Casting.Realm
import SkillScript.Proofs.Pausing.Receivers
import SkillScript.Proofs.Pausing.Nodes
import SkillScript.Proofs.Pausing.Pauses
import SkillScript.Proofs.Status.Resetting
import SkillScript.Proofs.Registering.Calls
import SkillScript.Proofs.Registering.Reading
