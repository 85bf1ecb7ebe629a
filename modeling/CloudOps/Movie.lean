import CloudOps.Error
import CloudOps.Item
import CloudOps.Number.Shortest
import CloudOps.Text.Quoted

/-!
# Movies

The items of the movie table and what they stand for.

* `Movie.key`: the primary key of a movie. `Movie.item`: the item that stores it.
* `Movie.ofItem`: the movie that an item stores, or the first defect of the item in the order year,
  title, plot, rating. Attributes that a movie does not have are not looked at.
* `Movie.describe`: the outcome of a lookup in words.
-/

namespace CloudOps

/-- What is known about a movie. -/
structure MovieInfo where
  plot : String
  rating : Binary64
  deriving DecidableEq

/-- What stands for the information that an item does not have. -/
def MovieInfo.empty : MovieInfo := ⟨"", .zero⟩

/-- A movie. Year and title make up its key. -/
structure Movie where
  year : Int32
  title : String
  info : MovieInfo
  deriving DecidableEq

/-- The decimal form of a year. -/
def yearNumeral (year : Int32) : String := Text.integerText year.toInt

/-- The year that a numeral stands for. -/
def readYear? (text : String) : Option Int32 :=
  (Text.readInteger? Int32.minValue.toInt Int32.maxValue.toInt text).map Int32.ofInt

namespace Movie

/-- What is wrong with an attribute. -/
inductive Defect
  | missing (name : String)
  | notString (name : String)
  | notNumber (name : String)
  | notMap (name : String)
  /-- A number attribute whose text is not a number of the kind. -/
  | badNumber (name text : String)
  deriving DecidableEq, Repr

/-- The wording of a defect. -/
def Defect.reason : Defect → String
  | .missing name => "missing attribute " ++ name
  | .notString name => "attribute " ++ name ++ " is not a string"
  | .notNumber name => "attribute " ++ name ++ " is not a number"
  | .notMap name => "attribute " ++ name ++ " is not a map"
  | .badNumber name text => "attribute " ++ name ++ " has bad number " ++ Text.quoted text

/-- A defect as a failure of the library. -/
def Defect.error (defect : Defect) : Error := .decode "movie" defect.reason

/-- The primary key of a movie. -/
def key (year : Int32) (title : String) : Item :=
  [("year", .number (yearNumeral year)), ("title", .string title)]

/-- The item that stores a movie. -/
def item (movie : Movie) : Item :=
  key movie.year movie.title ++
    [("info", .map [("plot", .string movie.info.plot),
      ("rating", .number movie.info.rating.toText)])]

/-- The text of an attribute, if the item has it. -/
def text? (item : Item) (name : String) : Except Defect (Option String) :=
  match item.get? name with
  | none => .ok none
  | some (.string value) => .ok (some value)
  | some _ => .error (.notString name)

/-- The number of an attribute as `read?` reads it, if the item has it. -/
def number? {α : Type} (read? : String → Option α) (item : Item) (name : String) :
    Except Defect (Option α) :=
  match item.get? name with
  | none => .ok none
  | some (.number text) =>
    match read? text with
    | some value => .ok (some value)
    | none => .error (.badNumber name text)
  | some _ => .error (.notNumber name)

/-- An attribute that an item has to have. -/
def required {α : Type} (name : String) : Option α → Except Defect α
  | some value => .ok value
  | none => .error (.missing name)

/-- The information of an item. What is missing is empty. -/
def infoOfItem (item : Item) : Except Defect MovieInfo :=
  match item.get? "info" with
  | none => .ok .empty
  | some (.map info) => do
    let plot ← text? info "plot"
    let rating ← number? Binary64.ofText? info "rating"
    return ⟨plot.getD "", rating.getD .zero⟩
  | some _ => .error (.notMap "info")

/-- The movie that an item stores. -/
def ofItem (item : Item) : Except Defect Movie := do
  let year ← required "year" (← number? readYear? item "year")
  let title ← required "title" (← text? item "title")
  let info ← infoOfItem item
  return ⟨year, title, info⟩

/-- What was found for a year and a title. -/
def describe (year : Int32) (title : String) : Option Movie → String
  | none => "Could not find '" ++ title ++ "' (" ++ yearNumeral year ++ ")"
  | some movie =>
    "Found item:\nYear:   " ++ yearNumeral movie.year ++ "\nTitle:  " ++ movie.title
      ++ "\nPlot:   " ++ movie.info.plot ++ "\nRating: " ++ movie.info.rating.toText

@[simp] theorem item_year (movie : Movie) :
    movie.item.get? "year" = some (.number (yearNumeral movie.year)) := rfl

@[simp] theorem item_title (movie : Movie) :
    movie.item.get? "title" = some (.string movie.title) := rfl

end Movie

end CloudOps
