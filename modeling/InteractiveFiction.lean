import InteractiveFiction.Cast
import InteractiveFiction.Condition
import InteractiveFiction.Condition.Leaf
import InteractiveFiction.Condition.Operator
import InteractiveFiction.Condition.Validation
import InteractiveFiction.Decimal.Layout
import InteractiveFiction.Decimal.Reading
import InteractiveFiction.Decimal.Shortest
import InteractiveFiction.Document
import InteractiveFiction.Document.Coercion
import InteractiveFiction.Document.Reader
import InteractiveFiction.Document.Writer
import InteractiveFiction.Effect.Application
import InteractiveFiction.Effect.Bundle
import InteractiveFiction.Effect.Custom
import InteractiveFiction.Effect.Dispatcher
import InteractiveFiction.Effect.Expiry
import InteractiveFiction.Effect.Journal
import InteractiveFiction.Effect.Outcome
import InteractiveFiction.Engine.Basic
import InteractiveFiction.Engine.Config
import InteractiveFiction.Engine.Entry
import InteractiveFiction.Engine.Lifecycle
import InteractiveFiction.Engine.Passage
import InteractiveFiction.Engine.Play
import InteractiveFiction.Engine.Saving
import InteractiveFiction.Engine.Timers
import InteractiveFiction.Event
import InteractiveFiction.Event.Bus
import InteractiveFiction.Fault
import InteractiveFiction.Identity
import InteractiveFiction.Inventory
import InteractiveFiction.Inventory.Order
import InteractiveFiction.Inventory.Stack
import InteractiveFiction.Inventory.Use
import InteractiveFiction.Lantern
import InteractiveFiction.Main
import InteractiveFiction.Number
import InteractiveFiction.Number.Binary
import InteractiveFiction.Number.Rounding
import InteractiveFiction.OrderedMap
import InteractiveFiction.Proofs.Backdrop
import InteractiveFiction.Proofs.Bus
import InteractiveFiction.Proofs.Cast
import InteractiveFiction.Proofs.Condition.Accepted
import InteractiveFiction.Proofs.Condition.Asking
import InteractiveFiction.Proofs.Condition.Leaves
import InteractiveFiction.Proofs.Condition.Operators
import InteractiveFiction.Proofs.Condition.Rising
import InteractiveFiction.Proofs.Condition.Stray
import InteractiveFiction.Proofs.Course
import InteractiveFiction.Proofs.Demands
import InteractiveFiction.Proofs.Dispatcher.Batch
import InteractiveFiction.Proofs.Dispatcher.Bounds
import InteractiveFiction.Proofs.Dispatcher.Evolution
import InteractiveFiction.Proofs.Dispatcher.Order
import InteractiveFiction.Proofs.Dispatcher.Replay
import InteractiveFiction.Proofs.Dispatcher.Submission
import InteractiveFiction.Proofs.Dispatcher.Sweep
import InteractiveFiction.Proofs.Dispatcher.Trace
import InteractiveFiction.Proofs.Effect.Backdrop
import InteractiveFiction.Proofs.Effect.Casting
import InteractiveFiction.Proofs.Effect.Categories
import InteractiveFiction.Proofs.Effect.Changes
import InteractiveFiction.Proofs.Effect.Cues
import InteractiveFiction.Proofs.Effect.Demands
import InteractiveFiction.Proofs.Effect.Expiry
import InteractiveFiction.Proofs.Effect.Failing
import InteractiveFiction.Proofs.Effect.Frame
import InteractiveFiction.Proofs.Effect.Headings
import InteractiveFiction.Proofs.Effect.Heedless
import InteractiveFiction.Proofs.Effect.Moments
import InteractiveFiction.Proofs.Effect.Reports
import InteractiveFiction.Proofs.Effect.Rereading
import InteractiveFiction.Proofs.Effect.Stopping
import InteractiveFiction.Proofs.Effect.Teleport
import InteractiveFiction.Proofs.Effect.Vitals
import InteractiveFiction.Proofs.Effect.WellFormed
import InteractiveFiction.Proofs.Engine.Achievements
import InteractiveFiction.Proofs.Engine.Aftermath
import InteractiveFiction.Proofs.Engine.Blame
import InteractiveFiction.Proofs.Engine.Bookless
import InteractiveFiction.Proofs.Engine.Books
import InteractiveFiction.Proofs.Engine.Choosing
import InteractiveFiction.Proofs.Engine.Chosen
import InteractiveFiction.Proofs.Engine.Cues
import InteractiveFiction.Proofs.Engine.Entry
import InteractiveFiction.Proofs.Engine.Firing
import InteractiveFiction.Proofs.Engine.Frame
import InteractiveFiction.Proofs.Engine.Keys
import InteractiveFiction.Proofs.Engine.Loading
import InteractiveFiction.Proofs.Engine.Mishaps
import InteractiveFiction.Proofs.Engine.Movement
import InteractiveFiction.Proofs.Engine.Offer
import InteractiveFiction.Proofs.Engine.Opening
import InteractiveFiction.Proofs.Engine.Overdue
import InteractiveFiction.Proofs.Engine.Pace
import InteractiveFiction.Proofs.Engine.Presence
import InteractiveFiction.Proofs.Engine.Reach
import InteractiveFiction.Proofs.Engine.Record
import InteractiveFiction.Proofs.Engine.Refusal
import InteractiveFiction.Proofs.Engine.Replacement
import InteractiveFiction.Proofs.Engine.Route
import InteractiveFiction.Proofs.Engine.Run
import InteractiveFiction.Proofs.Engine.Saves
import InteractiveFiction.Proofs.Engine.Scores
import InteractiveFiction.Proofs.Engine.Shown
import InteractiveFiction.Proofs.Engine.Stance
import InteractiveFiction.Proofs.Engine.Targets
import InteractiveFiction.Proofs.Engine.Timing
import InteractiveFiction.Proofs.Engine.Unlocked
import InteractiveFiction.Proofs.Engine.Upkeep
import InteractiveFiction.Proofs.Engine.Visited
import InteractiveFiction.Proofs.Engine.Waiting
import InteractiveFiction.Proofs.Engine.WellFormed
import InteractiveFiction.Proofs.Faults
import InteractiveFiction.Proofs.Fields
import InteractiveFiction.Proofs.Heedless
import InteractiveFiction.Proofs.Inventory.Backdrop
import InteractiveFiction.Proofs.Inventory.Calls
import InteractiveFiction.Proofs.Inventory.Ends
import InteractiveFiction.Proofs.Inventory.Holdings
import InteractiveFiction.Proofs.Inventory.Limits
import InteractiveFiction.Proofs.Inventory.Quantity
import InteractiveFiction.Proofs.Inventory.Removal
import InteractiveFiction.Proofs.Inventory.Sorting
import InteractiveFiction.Proofs.Inventory.WellFormed
import InteractiveFiction.Proofs.Mishaps
import InteractiveFiction.Proofs.Number.Order
import InteractiveFiction.Proofs.OrderedMap
import InteractiveFiction.Proofs.Save.Agreement
import InteractiveFiction.Proofs.Save.Damage
import InteractiveFiction.Proofs.Save.Games
import InteractiveFiction.Proofs.Save.History
import InteractiveFiction.Proofs.Save.Holding
import InteractiveFiction.Proofs.Save.Keeping
import InteractiveFiction.Proofs.Save.Safekeeping
import InteractiveFiction.Proofs.Session
import InteractiveFiction.Proofs.Simulation
import InteractiveFiction.Proofs.State.Faults
import InteractiveFiction.Proofs.State.Reading
import InteractiveFiction.Proofs.State.WellFormed
import InteractiveFiction.Proofs.State.Writing
import InteractiveFiction.Proofs.Story.Demands
import InteractiveFiction.Proofs.Story.Requirement
import InteractiveFiction.Proofs.Story.Rereading
import InteractiveFiction.Proofs.Story.Resemblance
import InteractiveFiction.Proofs.Story.Stray
import InteractiveFiction.Proofs.Story.TimeLimit
import InteractiveFiction.Proofs.Story.Ways
import InteractiveFiction.Proofs.Story.WellFormed
import InteractiveFiction.Proofs.Template
import InteractiveFiction.Proofs.Terminal
import InteractiveFiction.Proofs.Text
import InteractiveFiction.Proofs.Timestamp
import InteractiveFiction.Proofs.Turn
import InteractiveFiction.Proofs.Upholding
import InteractiveFiction.Repository
import InteractiveFiction.Save
import InteractiveFiction.Save.Folder
import InteractiveFiction.Save.Memory
import InteractiveFiction.Save.Slot
import InteractiveFiction.Service
import InteractiveFiction.Service.Report
import InteractiveFiction.Service.Request
import InteractiveFiction.Session
import InteractiveFiction.Stage
import InteractiveFiction.State
import InteractiveFiction.State.Equipment
import InteractiveFiction.State.Flag
import InteractiveFiction.State.Item
import InteractiveFiction.State.Player
import InteractiveFiction.State.Progress
import InteractiveFiction.State.Settings
import InteractiveFiction.State.TimedEffect
import InteractiveFiction.Story
import InteractiveFiction.Story.Character
import InteractiveFiction.Story.Check
import InteractiveFiction.Story.Choice
import InteractiveFiction.Story.Decision
import InteractiveFiction.Story.Presentation
import InteractiveFiction.Story.Requirement
import InteractiveFiction.Story.Scene
import InteractiveFiction.Template
import InteractiveFiction.Terminal
import InteractiveFiction.Terminal.Arguments
import InteractiveFiction.Terminal.Console
import InteractiveFiction.Terminal.Demo
import InteractiveFiction.Terminal.Invocation
import InteractiveFiction.Terminal.Play
import InteractiveFiction.Terminal.Surroundings
import InteractiveFiction.Text.Blank
import InteractiveFiction.Text.Digit
import InteractiveFiction.Text.Lowercase
import InteractiveFiction.Text.Printable
import InteractiveFiction.Text.Quoted
import InteractiveFiction.Timestamp
import InteractiveFiction.Web.Route
import InteractiveFiction.Web.Socket
