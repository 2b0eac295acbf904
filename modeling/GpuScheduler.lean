import GpuScheduler.StepRunsProofs
import GpuScheduler.GoStringsProofs
import GpuScheduler.GoUtf8Proofs
import GpuScheduler.GoMapsProofs
import GpuScheduler.GoSortProofs
import GpuScheduler.GoLoopsProofs
import GpuScheduler.GoHeapProofs
import GpuScheduler.GoIntProofs
import GpuScheduler.InputsProofs
import GpuScheduler.FairnessProofs
import GpuScheduler.CompatProofs
import GpuScheduler.PreemptionProofs
import GpuScheduler.SelectionProofs
import GpuScheduler.CycleProofs
import GpuScheduler.BatchVictimsProofs
import GpuScheduler.BatchDrainProofs
import GpuScheduler.PlacementProofs
import GpuScheduler.SimulatorProofs
import GpuScheduler.FleetProofs
import GpuScheduler.AggregationProofs
import GpuScheduler.RealiseProofs
import GpuScheduler.WorkloadProofs
import GpuScheduler.SchedulerStateProofs
import GpuScheduler.SubmitterProofs
import GpuScheduler.VersionedStoreProofs
import GpuScheduler.ClaimProofs
import GpuScheduler.ClusterProofs
import GpuScheduler.TenantCapProofs
import GpuScheduler.MirrorProofs
import GpuScheduler.WakeupProofs
import GpuScheduler.InProcessProofs
import GpuScheduler.OvercommitProofs
import GpuScheduler.RunHistoryProofs
import GpuScheduler.SimMemoryProofs
import GpuScheduler.SimFrameProofs
import GpuScheduler.QuotaMirrorProofs
import GpuScheduler.IsolationProofs
import GpuScheduler.RoundRobinProofs
import GpuScheduler.AdmissionOrderProofs
import GpuScheduler.WordsProofs
import GpuScheduler.CRNameProofs
import GpuScheduler.CRDProofs
import GpuScheduler.RequestProofs
import GpuScheduler.OrphanProofs
import GpuScheduler.LifecycleProofs
import GpuScheduler.EvictionProofs
import GpuScheduler.GreedyPrefixProofs
import GpuScheduler.VictimsProofs
import GpuScheduler.IntVictimsProofs
import GpuScheduler.StartOrderProofs
import GpuScheduler.SelectionLawsProofs
import GpuScheduler.IntAdmissionProofs
import GpuScheduler.ClosedFormProofs
import GpuScheduler.AdmissionWriteProofs
import GpuScheduler.LazyCompletionProofs
import GpuScheduler.LiveRunProofs
import GpuScheduler.OrderIndependenceProofs
import GpuScheduler.PlacementLawsProofs
import GpuScheduler.SpreadLawsProofs
import GpuScheduler.FleetUsageProofs
import GpuScheduler.ProfileTextProofs
import GpuScheduler.GoFmtProofs
import GpuScheduler.CRNameBytesProofs
import GpuScheduler.ErrorTextProofs
import GpuScheduler.StoredStartProofs
import GpuScheduler.DurationProofs
import GpuScheduler.ExecuteAdmissionProofs
import GpuScheduler.CompletionCountProofs
import GpuScheduler.ReconcilerProofs
import GpuScheduler.GoPathProofs
import GpuScheduler.GoJsonProofs
import GpuScheduler.StatusCodeProofs
import GpuScheduler.WireProofs
import GpuScheduler.HttpProofs
import GpuScheduler.SimClientProofs
import GpuScheduler.WorkerRunProofs
import GpuScheduler.DiscoveryProofs
import GpuScheduler.RegistrarProofs
import GpuScheduler.GoRandProofs
import GpuScheduler.GeneratorProofs
