import ClusterAgent.Stack.Reconcile
import ClusterAgent.StackResource.Stops
import ClusterAgent.StackResource.JobRuns
import ClusterAgent.StackResource.RestartRuns
import ClusterAgent.ImageBuild.PushRuns
import ClusterAgent.StackResource.ServedRuns
import ClusterAgent.StackResource.BuildReferences
import ClusterAgent.Postgres.UnlistedDatabases
import ClusterAgent.Postgres.AppliedDatabases
import ClusterAgent.Postgres.LifecycleRuns
import ClusterAgent.StackStorage.VolumeFrame
import ClusterAgent.WorkspaceUser.Access
import ClusterAgent.Workload.PortRuns
import ClusterAgent.Controller.PortVerifier
import ClusterAgent.Volume.MountGate
import ClusterAgent.Registry.Retention
import ClusterAgent.Postgres.Credentials
import ClusterAgent.StackResource.TLSReplica
import ClusterAgent.StackResource.TypeChanges
import ClusterAgent.StackResource.Requeue
import ClusterAgent.MapOrder
import ClusterAgent.Workload.Gates
import ClusterAgent.Containerd.ConfigFile
import ClusterAgent.Registry.Objects
import ClusterAgent.Workload.PullPolicy
import ClusterAgent.Builds.SubPath
