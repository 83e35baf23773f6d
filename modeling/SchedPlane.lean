import SchedPlane.Selection
import SchedPlane.Config
import SchedPlane.Registry
import SchedPlane.Stats
import SchedPlane.Callout
import SchedPlane.CommandLine
import SchedPlane.Json.Reader
import SchedPlane.Main
import SchedPlane.Session.Answer
import SchedPlane.Session.Command
import SchedPlane.Session.Run
import SchedPlane.Worker
import SchedPlane.Proofs.EventRuns
import SchedPlane.Proofs.LineRuns
import SchedPlane.Proofs.PlacementRuns
import SchedPlane.Proofs.DispatchRuns
import SchedPlane.Proofs.KernelLife
import SchedPlane.Proofs.PollSettling
import SchedPlane.Proofs.LoadOutcome
import SchedPlane.Proofs.HandleLife
import SchedPlane.Proofs.ThreadSteps
import SchedPlane.Proofs.StoppedWorkers
import SchedPlane.Proofs.FairClosing
import SchedPlane.Proofs.HandleJournal
import SchedPlane.Proofs.HandleRuns
import SchedPlane.Proofs.EventRest
import SchedPlane.Proofs.DispatchCapacity
import SchedPlane.Proofs.KernelRuns
import SchedPlane.Proofs.HandleFinal
import SchedPlane.Proofs.CallFlow
import SchedPlane.Proofs.CallRuns
import SchedPlane.Proofs.LineLosses
import SchedPlane.Proofs.CloseTermination
import SchedPlane.Proofs.ObjectMoves
import SchedPlane.Proofs.ObjectRuns
import SchedPlane.Proofs.JsonText
import SchedPlane.Proofs.JsonForms
import SchedPlane.Proofs.RegistryScan
import SchedPlane.Proofs.RegistryContract
import SchedPlane.Proofs.RegistryOrder
import SchedPlane.Proofs.PlacementLosses
import SchedPlane.Proofs.RecordCodec
import SchedPlane.Proofs.EventClosing
import SchedPlane.Proofs.CalloutRuns
import SchedPlane.Proofs.NameResolution
import SchedPlane.Proofs.DecisionFields
