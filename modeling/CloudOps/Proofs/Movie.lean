import CloudOps.Movie
import CloudOps.Proofs.Number.Shortest

/-!
# Movies survive their items

* `readYear?_yearNumeral`: every year is read back, the extreme ones too.
* `Movie.ofItem_item`: a movie is what its item stores, if its rating is a number;
  `Movie.ofItem_item_of_isNaN`: all but the bits of the rating, if it is not.
* `Movie.items_recover`: both, and what was once decoded is decoded again.
-/

namespace CloudOps

/-- Every year is read back. -/
@[simp] theorem readYear?_yearNumeral (year : Int32) :
    readYear? (yearNumeral year) = some year := by
  rw [readYear?, yearNumeral,
    Text.readInteger?_integerText year.minValue_le_toInt year.toInt_le, Option.map_some,
    Int32.ofInt_toInt]

namespace Movie

/-! ## Attributes -/

theorem text?_of_get? {item : Item} {name value : String}
    (stored : item.get? name = some (.string value)) : text? item name = .ok (some value) := by
  rw [text?, stored]

theorem number?_of_get? {α : Type} {read? : String → Option α} {item : Item} {name text : String}
    {value : α} (stored : item.get? name = some (.number text)) (read : read? text = some value) :
    number? read? item name = .ok (some value) := by
  simp only [number?, stored, read]

/-- The attributes behind the information of a movie. -/
def infoItem (movie : Movie) : Item :=
  [("plot", .string movie.info.plot), ("rating", .number movie.info.rating.toText)]

theorem item_info (movie : Movie) : movie.item.get? "info" = some (.map movie.infoItem) := rfl

/-- The information that an item stores, as its rating is read. -/
theorem infoOfItem_item {movie : Movie} {rating : Binary64}
    (read : Binary64.ofText? movie.info.rating.toText = some rating) :
    infoOfItem movie.item = .ok { movie.info with rating } := by
  have plot : text? movie.infoItem "plot" = .ok (some movie.info.plot) := text?_of_get? rfl
  have number : number? Binary64.ofText? movie.infoItem "rating" = .ok (some rating) :=
    number?_of_get? rfl read
  simp only [infoOfItem, item_info, plot, number]
  rfl

/-! ## Movies -/

/-- The movie that an item stores, as its rating is read. -/
theorem ofItem_item_of_rating {movie : Movie} {rating : Binary64}
    (read : Binary64.ofText? movie.info.rating.toText = some rating) :
    ofItem movie.item = .ok { movie with info.rating := rating } := by
  rw [ofItem, number?_of_get? (item_year movie) (readYear?_yearNumeral movie.year),
    text?_of_get? (item_title movie), infoOfItem_item read]
  rfl

/-- A movie with a number for a rating is what its item stores. -/
theorem ofItem_item {movie : Movie} (number : movie.info.rating.isNaN = false) :
    ofItem movie.item = .ok movie :=
  ofItem_item_of_rating (Binary64.ofText?_toText number)

/-- A movie without one comes back with a NaN. -/
theorem ofItem_item_of_isNaN {movie : Movie} (nan : movie.info.rating.isNaN = true) :
    ofItem movie.item = .ok { movie with info.rating := .nan false } :=
  ofItem_item_of_rating (Binary64.ofText?_toText_of_isNaN nan)

/-- What comes back of a movie: all of it, except that one NaN may stand for another. -/
structure Recovers (movie back : Movie) : Prop where
  year : back.year = movie.year
  title : back.title = movie.title
  plot : back.info.plot = movie.info.plot
  /-- A rating comes back bit by bit, -/
  rating : movie.info.rating.isNaN = false → back.info.rating.toBits = movie.info.rating.toBits
  /-- or as a NaN if it is one. -/
  nan : movie.info.rating.isNaN = true → back.info.rating.isNaN = true

theorem ofItem_recovers (movie : Movie) :
    ∃ back, ofItem movie.item = .ok back ∧ Recovers movie back := by
  cases nan : movie.info.rating.isNaN with
  | false => exact ⟨movie, ofItem_item nan, rfl, rfl, rfl, fun _ => rfl, id⟩
  | true =>
    refine ⟨_, ofItem_item_of_isNaN nan, rfl, rfl, rfl, fun number => ?_, fun _ => rfl⟩
    rw [nan] at number
    cases number

/-- **Movies survive their items.** Every movie is recovered from its item, and so is every movie
that was decoded from any item. -/
theorem items_recover :
    (∀ movie : Movie, ∃ back, ofItem movie.item = .ok back ∧ Recovers movie back) ∧
      ∀ (item : Item) (movie : Movie), ofItem item = .ok movie →
        ∃ back, ofItem movie.item = .ok back ∧ Recovers movie back :=
  ⟨ofItem_recovers, fun _ movie _ => ofItem_recovers movie⟩

/-- A movie of the first year, without a title, rated a negative zero. -/
def earliest : Movie := ⟨Int32.minValue, "", ⟨"", Binary64.zero.neg⟩⟩

theorem items_recover_earliest :
    earliest.item.get? "year" = some (.number "-2147483648") ∧
      earliest.infoItem.get? "rating" = some (.number "-0") ∧
      (∃ back, ofItem earliest.item = .ok back ∧ Recovers earliest back) ∧
      ofItem [("title", .string "Her"), ("year", .number "+2013")] = .ok ⟨2013, "Her", .empty⟩ ∧
      ∃ back, ofItem (item ⟨2013, "Her", .empty⟩) = .ok back ∧
        Recovers ⟨2013, "Her", .empty⟩ back := by
  have year : earliest.item.get? "year" = some (.number "-2147483648") := rfl
  have rating : earliest.infoItem.get? "rating" = some (.number "-0") := rfl
  have decoded : ofItem [("title", .string "Her"), ("year", .number "+2013")] =
      .ok ⟨2013, "Her", .empty⟩ := rfl
  exact ⟨year, rating, items_recover.1 earliest, decoded, items_recover.2 _ _ decoded⟩

end Movie

end CloudOps
