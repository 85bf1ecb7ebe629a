import CloudOps.Movie.Lookup
import CloudOps.Service.Request

/-!
# The table service

`TableService.carryOut` carries out the call of an item store by a request.
-/

namespace CloudOps

namespace TableService

/-- The call of an item store carried out by a request. -/
def carryOut : (c : TableCall) → ServiceProgram c.Answer
  | .getItem table key => (ServiceRequest.getItem table key).send.run

/-- An operation on an item store carried out by requests. -/
def run {α : Type} (action : TableAction α) : ServiceAction α :=
  ExceptT.mk (action.run.handle carryOut)

end TableService

end CloudOps
