import ZWave.Main
import ZWave.Network.Scripted
import ZWave.Frame.Wire
import ZWave.Frame.Printer
import ZWave.Proofs.Node.Operations
import ZWave.Proofs.CommandClass.Query
import ZWave.Proofs.Node.Events
import ZWave.Proofs.Controller.OneRequest
import ZWave.Proofs.Controller.Charge
import ZWave.Proofs.Controller.Locality
import ZWave.Proofs.Controller.Started
import ZWave.Proofs.Controller.Metrics
import ZWave.Proofs.CommandClass.Registry
import ZWave.Proofs.Node.Known
import ZWave.Proofs.Simulation.Answers
import ZWave.Proofs.Simulation.BringUp
import ZWave.Proofs.Simulation.Discovery
import ZWave.Proofs.Simulation.Isolation
import ZWave.Proofs.Simulation.CatchUp
import ZWave.Proofs.Simulation.Replies
import ZWave.Proofs.Node.Conservation
import ZWave.Proofs.Node.Transaction
import ZWave.Proofs.Node.BringUp
import ZWave.Proofs.Node.Order
import ZWave.Proofs.Node.Updates
import ZWave.Proofs.Node.Handlers
import ZWave.Proofs.Node.Gauge
import ZWave.Proofs.Node.Startup
import ZWave.Proofs.Node.Progress
import ZWave.Proofs.Frame.RoundTrip
import ZWave.Proofs.Frame.Grammar
import ZWave.Proofs.Simulation.Quiescence
import ZWave.Proofs.CommandClass.Refusal
import ZWave.Proofs.CommandClass.InPlace
import ZWave.Proofs.Node.Dispatch
import ZWave.Proofs.Device.Announced
import ZWave.Proofs.Device.Schedule
import ZWave.Proofs.Device.Reports
import ZWave.Proofs.Device.Requests
import ZWave.Proofs.Simulation.Validation
