import LaneFlow.Main
import LaneFlow.Queue.History
import LaneFlow.Proofs.Queue.SameStep
import LaneFlow.Proofs.Queue.Conservation
import LaneFlow.Proofs.Queue.StorageAccount
import LaneFlow.Proofs.Queue.Throughput
import LaneFlow.Proofs.Queue.Routing
import LaneFlow.Proofs.Queue.Filling
import LaneFlow.Proofs.Queue.Timetable
import LaneFlow.Proofs.Queue.Standstill
import LaneFlow.Proofs.Scenario.ByName
import LaneFlow.Proofs.Ids
import LaneFlow.Proofs.Indexed
import LaneFlow.Proofs.Road.Wiring
import LaneFlow.Proofs.Road.IndexedNetwork
import LaneFlow.Proofs.Scenario.NetworkLoading
import LaneFlow.Proofs.Scenario.LaneLoading
import LaneFlow.Proofs.Scenario.IndexedLoading
import LaneFlow.Proofs.Scenario.Agreement
import LaneFlow.Proofs.Capacity.Tabulation
import LaneFlow.Proofs.Capacity.IndexedTable
import LaneFlow.Proofs.Scenario.LaneShapes
import LaneFlow.Proofs.Scenario.NetworkExport
import LaneFlow.Proofs.Capacity.Findings
import LaneFlow.Proofs.IdRequests
import LaneFlow.Proofs.Capacity.Splits
import LaneFlow.Proofs.Scenario.FileOrder
import LaneFlow.Proofs.Scenario.NetworkReturn
import LaneFlow.Proofs.IdIndex
import LaneFlow.Proofs.Queue.Choice
import LaneFlow.Proofs.Capacity.Dependence
import LaneFlow.Proofs.Files
import LaneFlow.Proofs.Scenario.LanesOff
import LaneFlow.Proofs.Queue.Offers
import LaneFlow.Proofs.Queue.DeclaredLanes
import LaneFlow.Proofs.Capacity.ClosedForm
import LaneFlow.Proofs.Queue.Refills
import LaneFlow.Proofs.Overrides
import LaneFlow.Proofs.Capacity.Scaling
import LaneFlow.Proofs.Queue.Room
import LaneFlow.Proofs.Scenario.WrittenFiles
import LaneFlow.Proofs.Scenario.FileFolder
