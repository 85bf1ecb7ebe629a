import CloudOps.Movie
import CloudOps.Program

/-!
# Looking up movies

* `TableCall`: the call that an item store answers.
* `getMovie`: the movie with a year and a title. An item that is absent, or present without any
  attribute, is no movie and no failure.
-/

namespace CloudOps

/-- The table that holds the movies by default. -/
def moviesTable : String := "Movies"

/-- A call to an item store. -/
inductive TableCall
  /-- The item that has all attributes of the key. -/
  | getItem (table : String) (key : Item)

/-- What a call gives when it succeeds. -/
def TableCall.Result : TableCall → Type
  | .getItem .. => Option Item

/-- The answer to a call. -/
abbrev TableCall.Answer : TableCall → Type := fun c => Except Error c.Result

/-- An operation over table calls. -/
abbrev TableAction (α : Type) := Action TableCall TableCall.Answer α

/-- The operation that makes one call and fails with it. -/
def TableCall.perform (c : TableCall) : TableAction c.Result := Action.perform c

/-- The movie that a store found. -/
def Movie.ofFound : Option Item → Except Error (Option Movie)
  | none => .ok none
  | some [] => .ok none
  | some item => ((Movie.ofItem item).mapError Movie.Defect.error).map some

/-- The movie with a year and a title. -/
def getMovie (table : String) (year : Int32) (title : String) : TableAction (Option Movie) := do
  Action.log .debug
    ("getting " ++ Text.quoted title ++ " (" ++ yearNumeral year ++ ") from " ++ table)
  let found : Option Item ← TableCall.perform (.getItem table (Movie.key year title))
  ExceptT.mk (.done (Movie.ofFound found))

end CloudOps
