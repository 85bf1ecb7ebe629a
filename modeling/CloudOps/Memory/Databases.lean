import CloudOps.Catalog
import CloudOps.Memory.Record

/-!
# A catalogue of databases in memory

* `CatalogMemory`: the entries in the order in which they were added.
* `CatalogMemory.answer`: the answer to a call.
-/

namespace CloudOps

/-- The name of a call in a record of calls. -/
def CatalogCall.text : CatalogCall → String
  | .parameterGroups => "describe_parameter_groups"
  | .clusters => "describe_clusters"

/-- A catalogue. -/
structure CatalogMemory where
  record : CallRecord CatalogCall
  groups : List ParameterGroup
  clusters : List Cluster

namespace CatalogMemory

/-- A catalogue without entries. -/
def empty : CatalogMemory := ⟨.empty, [], []⟩

/-- The catalogue with one more parameter group. -/
def addGroup (store : CatalogMemory) (group : ParameterGroup) : CatalogMemory :=
  { store with groups := store.groups ++ [group] }

/-- The catalogue with one more cluster. -/
def addCluster (store : CatalogMemory) (cluster : Cluster) : CatalogMemory :=
  { store with clusters := store.clusters ++ [cluster] }

/-- The catalogue in which a call fails. -/
def failOn (store : CatalogMemory) (call : CatalogCall) (fault : Fault) : CatalogMemory :=
  { store with record := store.record.setFault call fault }

/-- What a call gives when it has no fault. -/
def perform (store : CatalogMemory) : (c : CatalogCall) → c.Answer
  | .parameterGroups => .ok store.groups
  | .clusters => .ok store.clusters

/-- The answer to a call and the catalogue after it. -/
def answer (c : CatalogCall) (store : CatalogMemory) : c.Answer × CatalogMemory :=
  let entered := { store with record := store.record.enter c }
  match entered.record.fault? c with
  | some fault => (.error fault.error, entered)
  | none => (entered.perform c, entered)

end CatalogMemory

end CloudOps
