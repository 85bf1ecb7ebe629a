import CloudOps.Error

/-!
# What a store in memory remembers of its calls

* `Fault`: a failure that calls to one method shall end with.
* `CallRecord`: the methods called so far and the faults that are set. `CallRecord.enter` writes a
  call down and gives the fault of its method, if one is set.
-/

namespace CloudOps

/-- A failure that calls to a method shall end with. -/
structure Fault where
  kind : ErrorKind
  code : Option String
  message : String
  deriving DecidableEq, Repr

/-- The failure that a fault makes. -/
def Fault.error (fault : Fault) : Error := .service fault.kind fault.code (.text fault.message)

/-- The methods called so far, in order, and the faults that are set, the newest first. -/
structure CallRecord (M : Type) where
  log : List M
  faults : List (M × Fault)

namespace CallRecord

variable {M : Type}

/-- No calls and no faults. -/
def empty : CallRecord M := ⟨[], []⟩

/-- A fault for a method, which takes the place of an earlier one. -/
def setFault (record : CallRecord M) (method : M) (fault : Fault) : CallRecord M :=
  { record with faults := (method, fault) :: record.faults }

/-- The record with one more call. -/
def enter (record : CallRecord M) (method : M) : CallRecord M :=
  { record with log := record.log ++ [method] }

variable [BEq M]

/-- The fault of a method. -/
def fault? (record : CallRecord M) (method : M) : Option Fault := record.faults.lookup method

/-- How often a method was called. -/
def count (record : CallRecord M) (method : M) : Nat := record.log.count method

omit [BEq M] in
@[simp] theorem faults_enter (record : CallRecord M) (method : M) :
    (record.enter method).faults = record.faults := rfl

end CallRecord

end CloudOps
