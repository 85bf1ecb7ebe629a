import CloudOps.Service.Request

/-!
# The database service

`DatabaseService.carryOut` carries out the calls of a catalogue by requests, one for each page. The
marker of a page goes into the next request. A page is the last one when it has no marker, an empty
one, or the one that was just sent.
-/

namespace CloudOps

/-- A parameter group of a listing. What is missing is empty. -/
def ListedGroup.group (group : ListedGroup) : ParameterGroup :=
  ⟨group.name.getD "", group.family.getD "", group.description.getD ""⟩

/-- The marker to go on with, if the page is not the last one. -/
def MarkedPage.next? {α : Type} (page : MarkedPage α) (sent : Option String) : Option String :=
  match page.marker with
  | none => none
  | some marker => if marker.isEmpty ∨ sent = some marker then none else some marker

namespace DatabaseService

/-- The entries of all pages from a marker on, put behind those of the pages before, with at most
so many requests. -/
def entriesFrom {α : Type} (fetch : Option String → ServiceAction (MarkedPage α)) :
    Nat → List α → Option String → ServiceAction (List α)
  | 0, _, _ => Action.halt .pagesExceeded
  | pages + 1, before, sent => do
    let page ← fetch sent
    let entries := before ++ page.entries
    match page.next? sent with
    | none => return entries
    | some marker => entriesFrom fetch pages entries (some marker)

/-- One page of parameter groups. -/
def groupPage (marker : Option String) : ServiceAction (MarkedPage ListedGroup) :=
  (ServiceRequest.describeParameterGroups marker).send

/-- One page of clusters. -/
def clusterPage (marker : Option String) : ServiceAction (MarkedPage Cluster) :=
  (ServiceRequest.describeClusters marker).send

/-- A call of a catalogue as an operation over services. -/
def perform (pages : Nat) : (c : CatalogCall) → ServiceAction c.Result
  | .parameterGroups => do
    let groups ← entriesFrom groupPage pages [] none
    return groups.map ListedGroup.group
  | .clusters => entriesFrom clusterPage pages [] none

/-- A call of a catalogue carried out by requests. -/
def carryOut (pages : Nat) (c : CatalogCall) : ServiceProgram c.Answer := (perform pages c).run

/-- An operation on a catalogue carried out by requests. -/
def run {α : Type} (pages : Nat) (action : CatalogAction α) : ServiceAction α :=
  ExceptT.mk (action.run.handle (carryOut pages))

end DatabaseService

end CloudOps
