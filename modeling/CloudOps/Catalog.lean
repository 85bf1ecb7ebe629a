import CloudOps.Program
import CloudOps.Text.Quoted

/-!
# The catalogue of databases

* `ParameterGroup`, `Cluster`: the entries of the catalogue, and their texts.
* `CatalogCall`: the calls that a catalogue answers.
* `listParameterGroups`, `describeClusters`: the operations on it.
-/

namespace CloudOps

/-- A group of database parameters. -/
structure ParameterGroup where
  name : String
  family : String
  description : String
  deriving DecidableEq, Repr

/-- A database cluster with its availability zones. -/
structure Cluster where
  databaseName : Option String
  identifier : Option String
  zones : List String
  deriving DecidableEq, Repr

/-- A parameter group on three lines. -/
def ParameterGroup.text (group : ParameterGroup) : String :=
  "Name:        " ++ group.name ++ "\nFamily:      " ++ group.family ++ "\nDescription: "
    ++ group.description ++ "\n"

/-- A cluster on three lines. -/
def Cluster.text (cluster : Cluster) : String :=
  "Name:  " ++ cluster.databaseName.getD "Unknown" ++ "\nID:    "
    ++ cluster.identifier.getD "Unknown" ++ "\nZones: " ++ Text.quotedList cluster.zones ++ "\n"

/-- What a catalogue can be asked. -/
inductive CatalogCall
  | parameterGroups
  | clusters
  deriving DecidableEq, Repr

/-- What a catalogue gives when a call succeeds. -/
def CatalogCall.Result : CatalogCall → Type
  | .parameterGroups => List ParameterGroup
  | .clusters => List Cluster

/-- The answer to a call. -/
abbrev CatalogCall.Answer : CatalogCall → Type := fun c => Except Error c.Result

/-- An operation on a catalogue. -/
abbrev CatalogAction (α : Type) := Action CatalogCall CatalogCall.Answer α

/-- Every parameter group of the catalogue. -/
def listParameterGroups : CatalogAction (List ParameterGroup) :=
  Action.perform CatalogCall.parameterGroups

/-- Every cluster of the catalogue. -/
def describeClusters : CatalogAction (List Cluster) :=
  Action.perform CatalogCall.clusters

end CloudOps
