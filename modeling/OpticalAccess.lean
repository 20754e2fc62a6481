import OpticalAccess.Config.Json
import OpticalAccess.IngressQueue.Desk
import OpticalAccess.Main
import OpticalAccess.Network.Setup
import OpticalAccess.Proofs.Audit.Complete
import OpticalAccess.Proofs.Children.Histories
import OpticalAccess.Proofs.Children.Views
import OpticalAccess.Proofs.Configuration.Channels
import OpticalAccess.Proofs.Configuration.Components
import OpticalAccess.Proofs.Configuration.Keys
import OpticalAccess.Proofs.Configuration.Numbers
import OpticalAccess.Proofs.Configuration.Reading
import OpticalAccess.Proofs.Configuration.Restated
import OpticalAccess.Proofs.Configuration.RoundTrip
import OpticalAccess.Proofs.Configuration.Topology
import OpticalAccess.Proofs.Fanout
import OpticalAccess.Proofs.Frame.Reading
import OpticalAccess.Proofs.Frame.Truncation
import OpticalAccess.Proofs.Headend.Basic
import OpticalAccess.Proofs.Headend.ChildFrames
import OpticalAccess.Proofs.Headend.Conservation
import OpticalAccess.Proofs.Headend.Counting
import OpticalAccess.Proofs.Headend.Ending
import OpticalAccess.Proofs.Headend.Quiescence
import OpticalAccess.Proofs.Headend.Refusals
import OpticalAccess.Proofs.Headend.Steps
import OpticalAccess.Proofs.Hierarchy.Basic
import OpticalAccess.Proofs.Hierarchy.FlowRoute
import OpticalAccess.Proofs.Hierarchy.Roster
import OpticalAccess.Proofs.Hierarchy.StatsSurvey
import OpticalAccess.Proofs.Histogram
import OpticalAccess.Proofs.Json5.Numerals
import OpticalAccess.Proofs.Json5.Orders
import OpticalAccess.Proofs.Json5.Printed
import OpticalAccess.Proofs.Json5.Records
import OpticalAccess.Proofs.Json5.Rewriting
import OpticalAccess.Proofs.Location.Dialled
import OpticalAccess.Proofs.Location.Renderings
import OpticalAccess.Proofs.Number.Literals
import OpticalAccess.Proofs.Number.Rounding
import OpticalAccess.Proofs.Plant.Alone
import OpticalAccess.Proofs.Plant.FlowTables
import OpticalAccess.Proofs.Plant.Logging
import OpticalAccess.Proofs.Receiver.Turns
import OpticalAccess.Proofs.Recoding.Plants
import OpticalAccess.Proofs.Relay.Endings
import OpticalAccess.Proofs.Submission.Once
import OpticalAccess.Proofs.Wire.Messages
