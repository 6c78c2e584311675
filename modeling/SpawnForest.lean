import SpawnForest.Console.Reader
import SpawnForest.Console.Writer
import SpawnForest.Forest.Reader
import SpawnForest.Main
import SpawnForest.Table.Lemmas
import SpawnForest.Timer.Reader
import SpawnForest.Proofs.Forest.Links
import SpawnForest.Proofs.Forest.Subtree
import SpawnForest.Proofs.Forest.Building
import SpawnForest.Proofs.Forest.Capacity
import SpawnForest.Proofs.Forest.Optimum
import SpawnForest.Proofs.Forest.Counting
import SpawnForest.Proofs.Registry.Change
import SpawnForest.Proofs.Registry.Frame
import SpawnForest.Proofs.Random.Draws
import SpawnForest.Proofs.Registry.Spawning
import SpawnForest.Proofs.Registry.Operations
import SpawnForest.Proofs.Registry.Loading
import SpawnForest.Proofs.Registry.Tracking
import SpawnForest.Proofs.Registry.Soundness
import SpawnForest.Proofs.Registry.Ledger
import SpawnForest.Proofs.Registry.Limits
import SpawnForest.Proofs.Forest.Spending
import SpawnForest.Proofs.Registry.Filling
import SpawnForest.Proofs.Registry.Custody
import SpawnForest.Proofs.Timer.Pending
import SpawnForest.Proofs.Registry.Roots
import SpawnForest.Proofs.Registry.Replacement
import SpawnForest.Proofs.Forest.Hierarchy
import SpawnForest.Proofs.Timer.Coherence
import SpawnForest.Proofs.Timer.Selection
import SpawnForest.Proofs.Registry.TimerWrites
import SpawnForest.Proofs.Registry.TimerCauses
import SpawnForest.Proofs.Registry.Drainage
import SpawnForest.Proofs.Registry.Dormancy
import SpawnForest.Proofs.Registry.Reloading
import SpawnForest.Proofs.World.Events
import SpawnForest.Proofs.Timer.Refilling
import SpawnForest.Proofs.Json.Tokens
import SpawnForest.Proofs.Json.RoundTrip
import SpawnForest.Proofs.World.Restoring
import SpawnForest.Proofs.Timer.Refinement
import SpawnForest.Proofs.Registry.Accounting
import SpawnForest.Proofs.Registry.WellFormed
import SpawnForest.Proofs.Registry.Sparing
import SpawnForest.Proofs.Registry.Isolation
import SpawnForest.Proofs.Registry.RootTimers
import SpawnForest.Proofs.Registry.Reports
import SpawnForest.Proofs.Registry.Presence
import SpawnForest.Proofs.Registry.Scanning
import SpawnForest.Proofs.Registry.Respawning
import SpawnForest.Proofs.World.Ticking
import SpawnForest.Proofs.Registry.Faults
import SpawnForest.Proofs.Forest.Floors
import SpawnForest.Proofs.Forest.Shares
import SpawnForest.Proofs.Registry.Minimums
import SpawnForest.Proofs.Forest.Tally
import SpawnForest.Proofs.Registry.AllOrNothing
import SpawnForest.Proofs.Registry.Unclaimed
import SpawnForest.Proofs.Registry.Deaths
import SpawnForest.Proofs.Timer.Merging
import SpawnForest.Proofs.World.Merging
import SpawnForest.Proofs.Forest.Inheriting
import SpawnForest.Proofs.Registry.Inheriting
import SpawnForest.Proofs.Layers.Fields
import SpawnForest.Proofs.Layers.Overlay
import SpawnForest.Proofs.Registry.Regridding
import SpawnForest.Proofs.Timer.Throttling
import SpawnForest.Proofs.Report.Dumps
import SpawnForest.Proofs.Registry.Switches
import SpawnForest.Proofs.Registry.Emptying
import SpawnForest.Proofs.Binary.Rounding
import SpawnForest.Proofs.Binary.Order
import SpawnForest.Proofs.Random.Ranges
import SpawnForest.Proofs.Random.Selection
import SpawnForest.Proofs.Text.Words
import SpawnForest.Proofs.Console.Grammar
import SpawnForest.Proofs.World.Fingerprints
import SpawnForest.Proofs.Registry.Answers
import SpawnForest.Proofs.Console.Reporting
