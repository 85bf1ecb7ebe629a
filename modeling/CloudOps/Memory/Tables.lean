import CloudOps.Memory.Record
import CloudOps.Movie.Lookup
import Std.Data.ExtTreeMap

/-!
# An item store in memory

* `TableMemory`: named tables, each with its items in the order in which they were put.
* `TableMemory.answer`: the answer to a call: the earliest item that has every attribute of the
  key.
-/

namespace CloudOps

/-- The only method of an item store. -/
inductive TableMethod
  | getItem
  deriving DecidableEq, Repr

/-- The name of a method in a record of calls. -/
def TableMethod.text : TableMethod → String
  | .getItem => "get_item"

/-- An item store. -/
structure TableMemory where
  record : CallRecord TableMethod
  tables : Std.ExtTreeMap String (List Item)

namespace TableMemory

/-- A store without tables. -/
def empty : TableMemory := ⟨.empty, ∅⟩

/-- The items of a table; none if it does not exist. -/
def items (store : TableMemory) (table : String) : List Item := (store.tables[table]?).getD []

/-- The store with a table of that name, empty unless it was there. -/
def addTable (store : TableMemory) (table : String) : TableMemory :=
  { store with tables := store.tables.insert table (store.items table) }

/-- The store with one more item in a table. -/
def put (store : TableMemory) (table : String) (item : Item) : TableMemory :=
  { store with tables := store.tables.insert table (store.items table ++ [item]) }

/-- The store in which a method fails. -/
def failOn (store : TableMemory) (method : TableMethod) (fault : Fault) : TableMemory :=
  { store with record := store.record.setFault method fault }

/-- The table does not exist. -/
def noSuchTable : Error :=
  .service .notFound (some "ResourceNotFoundException") (.text "Requested resource not found")

/-- What a call gives when its method has no fault. -/
def perform (store : TableMemory) : (c : TableCall) → c.Answer
  | .getItem table key =>
    match store.tables[table]? with
    | none => .error noSuchTable
    | some items => .ok (items.find? fun item => item.matches key)

/-- The answer to a call and the store after it. -/
def answer (c : TableCall) (store : TableMemory) : c.Answer × TableMemory :=
  let entered := { store with record := store.record.enter .getItem }
  match entered.record.fault? .getItem with
  | some fault => (.error fault.error, entered)
  | none => (entered.perform c, entered)

end TableMemory

end CloudOps
