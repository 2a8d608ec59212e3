import Juju.Core.GoString
import Juju.Core.ErrState
import Juju.Azure.Cloud
import Juju.Azure.Naming
import Juju.Azure.Instances
import Juju.Azure.Stop
import Juju.Azure.Create
import Juju.Azure.Layout
import Juju.Azure.CreateOutcome
import Juju.Azure.Listing
import Juju.Azure.StopEffect
import Juju.Azure.Provisioning
import Juju.Azure.StopFaults
import Juju.Azure.StateServers
import Juju.Azure.StorageKey
import Juju.Singular.Monitor
import Juju.Singular.Agents
import Juju.Azure.Bootstrap
import Juju.Azure.Teardown
import Juju.Azure.Isolation
import Juju.Singular.Driver
import Juju.Azure.Capabilities
import Juju.Singular.ReplicaSet
