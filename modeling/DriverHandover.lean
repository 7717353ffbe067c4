import DriverHandover.Claim.Feed
import DriverHandover.Cluster.Drain
import DriverHandover.Cluster.Node
import DriverHandover.Cluster.Scripted
import DriverHandover.Component.State
import DriverHandover.Drain.GpuPlan
import DriverHandover.Host.ModuleTable
import DriverHandover.Host.Mounts
import DriverHandover.Host.Scripted
import DriverHandover.Host.System
import DriverHandover.Host.Unload
import DriverHandover.Main
import DriverHandover.Pod.Decoding
import DriverHandover.Proofs.Claim.Membership
import DriverHandover.Proofs.Claim.Reservation
import DriverHandover.Proofs.Claim.Translation
import DriverHandover.Proofs.Cluster.Eviction
import DriverHandover.Proofs.Uninstall.Completion
import DriverHandover.Proofs.Uninstall.CrashRecovery
import DriverHandover.Proofs.Uninstall.Quiescence
import DriverHandover.Proofs.Uninstall.Service
import DriverHandover.Report
import DriverHandover.Uninstall.Rehearsal
import DriverHandover.Proofs.Claim.FirstListing
import DriverHandover.Proofs.Cluster.Conversation
import DriverHandover.Proofs.Cluster.Turns
import DriverHandover.Proofs.Cluster.Budget
import DriverHandover.Proofs.Cluster.Departure
import DriverHandover.Proofs.Cluster.Drained
import DriverHandover.Proofs.Claim.Foreign
import DriverHandover.Proofs.Uninstall.EarlyEnd
import DriverHandover.Proofs.Uninstall.RootCause
import DriverHandover.Proofs.Uninstall.Fallback
import DriverHandover.Proofs.Claim.EventLoop
import DriverHandover.Proofs.Uninstall.Reopening
import DriverHandover.Proofs.Uninstall.Policy
import DriverHandover.Proofs.Uninstall.SecondWriter
import DriverHandover.Proofs.Label.Codec
import DriverHandover.Proofs.Cluster.GpuDrains
import DriverHandover.Proofs.Cluster.Attempts
import DriverHandover.Proofs.Cluster.Independence
import DriverHandover.Proofs.Drain.Leniency
import DriverHandover.Proofs.Drain.GpuPlan
import DriverHandover.Proofs.Host.Unload
import DriverHandover.Proofs.Cluster.LabelRetry
import DriverHandover.Proofs.Cluster.PodWait
import DriverHandover.Proofs.Uninstall.MofedWait
import DriverHandover.Proofs.Label.Pieces
import DriverHandover.Proofs.Label.Rounds
import DriverHandover.Proofs.Uninstall.Stages
import DriverHandover.Proofs.Component.LabelSets
import DriverHandover.Proofs.Pod.Gpu
import DriverHandover.Proofs.Host.ModuleRows
import DriverHandover.Proofs.Host.MountListing
import DriverHandover.Proofs.Host.UnmountOrder
import DriverHandover.Proofs.Claim.Coding
