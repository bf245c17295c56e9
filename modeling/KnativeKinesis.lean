import KnativeKinesis.Apis.ConditionSet
import KnativeKinesis.Apis.KinesisTypes
import KnativeKinesis.Apis.Lifecycle
import KnativeKinesis.Resources.ReceiveAdapter
import KnativeKinesis.Adapter.Main
import KnativeKinesis.Adapter.Processor
import KnativeKinesis.Adapter.Lease
import KnativeKinesis.Reconciler.Equality
import KnativeKinesis.Reconciler.Client
import KnativeKinesis.Reconciler.Reconcile
import KnativeKinesis.Adapter.EnvContract
import KnativeKinesis.Reconciler.Converge
import KnativeKinesis.Reconciler.Cache
import KnativeKinesis.Reconciler.Interleaving
