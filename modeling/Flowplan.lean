import Flowplan.Log.Transcript
import Flowplan.Plan.Outline
import Flowplan.Registry.Document
import Flowplan.Settings.Source
import Flowplan.Simulation.Model
import Flowplan.Simulation.Script
import Flowplan.Proofs.Deploy.Pushes
import Flowplan.Proofs.Deploy.Upsert
import Flowplan.Proofs.Engine.Success
import Flowplan.Proofs.Generation.Budgets
import Flowplan.Proofs.Graph.Ties
import Flowplan.Proofs.Graph.Widening
import Flowplan.Proofs.Graph.Writing
import Flowplan.Proofs.Plan.Access
import Flowplan.Proofs.Plan.Declared
import Flowplan.Proofs.Plan.Depth
import Flowplan.Proofs.Plan.Objects
import Flowplan.Proofs.Plan.Outcome
import Flowplan.Proofs.Plan.Renaming
import Flowplan.Proofs.Plan.Sequence
import Flowplan.Proofs.Plan.Unguarded
import Flowplan.Proofs.Plan.Unique
import Flowplan.Proofs.Plan.Wire
import Flowplan.Proofs.Run.Count
import Flowplan.Proofs.Run.Observation
import Flowplan.Proofs.Run.Refresh
import Flowplan.Proofs.Run.Tick
import Flowplan.Proofs.Run.Timeline
import Flowplan.Proofs.Signature.Versions
import Flowplan.Proofs.Signature.Words
