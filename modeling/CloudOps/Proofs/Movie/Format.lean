import CloudOps.Movie
import CloudOps.Proofs.Number.Literal
import CloudOps.Proofs.Program.Steps
import CloudOps.Proofs.Text.Quoted

/-!
# The format of movies

Which items store a movie, and what is wrong with the others.

* `Movie.Stores`: the item is in the format, and stores this movie.
* `Movie.Offends`: an attribute of the item is not in the format. `Movie.FirstDefect`: the defect of
  the first such attribute, in the order in which they are looked at.
* `Movie.ofItem_eq_ok_iff`, `Movie.ofItem_eq_error_iff`: decoding an item tells exactly these.
* `Movie.Defect.reason_injective`: the wording of a defect tells it from every other one.
* `Movie.Agrees`, `Movie.ofItem_congr`: items with the same attributes of a movie decode alike.
* `Movie.ofItem_decides`: all of it together.
-/

namespace CloudOps

/-- The years are the whole numbers of their width. -/
theorem readYear?_eq_some_iff {text : String} {year : Int32} :
    readYear? text = some year ↔ Text.IntegerLiteral text.toList year.toInt := by
  rw [readYear?, Option.map_eq_some_iff]
  constructor
  · rintro ⟨n, read, rfl⟩
    obtain ⟨literal, low, high⟩ := Text.readInteger?_eq_some_iff.1 read
    have same : (Int32.ofInt n).toInt = n := Int32.toInt_ofInt_of_le low (Int.lt_add_one_of_le high)
    rwa [same]
  · intro literal
    exact ⟨year.toInt,
      Text.readInteger?_eq_some_iff.2 ⟨literal, year.minValue_le_toInt, year.toInt_le⟩,
      Int32.ofInt_toInt year⟩

namespace AttributeValue

/-- The value is a text. -/
def IsString (value : AttributeValue) : Prop := ∃ text, value = .string text

/-- The value is a number. -/
def IsNumber (value : AttributeValue) : Prop := ∃ text, value = .number text

/-- The value is a map. -/
def IsMap (value : AttributeValue) : Prop := ∃ entries, value = .map entries

end AttributeValue

/-- An item has an attribute, but of another kind. -/
def Item.Strays (item : Item) (name : String) (kind : AttributeValue → Prop) : Prop :=
  ∃ value, item.get? name = some value ∧ ¬ kind value

namespace Movie

open AttributeValue (IsString IsNumber IsMap)

/-! ## The format -/

/-- The attributes of a movie, the last two of them inside `info`. -/
inductive Attribute
  | year
  | title
  | info
  | plot
  | rating
  deriving DecidableEq

/-- What is looked at before an attribute. -/
def Attribute.earlier : Attribute → List Attribute
  | year => []
  | title => [year]
  | info => [year, title]
  | plot => [year, title, info]
  | rating => [year, title, info, plot]

/-- The plot that `info` stores. -/
inductive StoresPlot (info : Item) : String → Prop
  | absent (missing : info.get? "plot" = none) : StoresPlot info ""
  | present {plot : String} (stored : info.get? "plot" = some (.string plot)) :
      StoresPlot info plot

/-- The rating that `info` stores. -/
inductive StoresRating (info : Item) : Binary64 → Prop
  | absent (missing : info.get? "rating" = none) : StoresRating info .zero
  | present {text : String} {rating : Binary64} (stored : info.get? "rating" = some (.number text))
      (literal : Binary64.Literal text.toList rating) : StoresRating info rating

/-- The information that an item stores. -/
inductive StoresInfo (item : Item) : MovieInfo → Prop
  | absent (missing : item.get? "info" = none) : StoresInfo item ⟨"", .zero⟩
  | present {info : Item} {plot : String} {rating : Binary64}
      (held : item.get? "info" = some (.map info)) (told : StoresPlot info plot)
      (rated : StoresRating info rating) : StoresInfo item ⟨plot, rating⟩

/-- The item is in the format of movies, and stores this one. -/
structure Stores (item : Item) (movie : Movie) : Prop where
  year : ∃ text, item.get? "year" = some (.number text) ∧
    Text.IntegerLiteral text.toList movie.year.toInt
  title : item.get? "title" = some (.string movie.title)
  info : StoresInfo item movie.info

/-- An attribute of the item is not in the format. -/
inductive Offends (item : Item) : Attribute → Defect → Prop
  | noYear (absent : item.get? "year" = none) : Offends item .year (.missing "year")
  | yearKind (strays : item.Strays "year" IsNumber) : Offends item .year (.notNumber "year")
  | yearText {text : String} (stored : item.get? "year" = some (.number text))
      (bad : ∀ year : Int32, ¬ Text.IntegerLiteral text.toList year.toInt) :
      Offends item .year (.badNumber "year" text)
  | noTitle (absent : item.get? "title" = none) : Offends item .title (.missing "title")
  | titleKind (strays : item.Strays "title" IsString) : Offends item .title (.notString "title")
  | infoKind (strays : item.Strays "info" IsMap) : Offends item .info (.notMap "info")
  | plotKind {info : Item} (held : item.get? "info" = some (.map info))
      (strays : info.Strays "plot" IsString) : Offends item .plot (.notString "plot")
  | ratingKind {info : Item} (held : item.get? "info" = some (.map info))
      (strays : info.Strays "rating" IsNumber) : Offends item .rating (.notNumber "rating")
  | ratingText {info : Item} {text : String} (held : item.get? "info" = some (.map info))
      (stored : info.get? "rating" = some (.number text))
      (bad : ∀ rating, ¬ Binary64.Literal text.toList rating) :
      Offends item .rating (.badNumber "rating" text)

/-- The defect of the first attribute that is not in the format. -/
def FirstDefect (item : Item) (defect : Defect) : Prop :=
  ∃ first, Offends item first defect ∧
    ∀ earlier ∈ first.earlier, ∀ other, ¬ Offends item earlier other

/-! ## Attributes -/

section Attributes

variable {item : Item} {name : String} {defect : Defect}

theorem text?_eq_ok_iff {found : Option String} :
    text? item name = .ok found ↔ item.get? name = found.map .string := by
  fun_cases text? item name
  case case1 absent => cases found <;> simp [absent]
  case case2 value stored => cases found <;> simp [stored]
  case case3 value strays stored =>
    cases found with
    | none => simp [stored]
    | some text => simpa [stored] using strays text

theorem text?_eq_error_iff :
    text? item name = .error defect ↔ item.Strays name IsString ∧ defect = .notString name := by
  fun_cases text? item name
  case case1 absent => simp [Item.Strays, absent]
  case case2 value stored => simp [Item.Strays, stored, IsString]
  case case3 value strays stored =>
    have other : ¬ IsString value := by
      rintro ⟨text, same⟩
      exact strays text same
    simp [Item.Strays, stored, other, eq_comm]

variable {α : Type} {read? : String → Option α}

theorem number?_eq_ok_iff {found : Option α} :
    number? read? item name = .ok found ↔ item.get? name = none ∧ found = none ∨
      ∃ text value, item.get? name = some (.number text) ∧ read? text = some value ∧
        found = some value := by
  fun_cases number? read? item name
  case case1 absent => simp [absent, eq_comm]
  case case2 text stored value read => simp [stored, read, eq_comm]
  case case3 text stored unread => simp [stored, unread]
  case case4 value strays stored =>
    have other : ∀ text, value ≠ .number text := strays
    simp [stored, other]

theorem number?_eq_error_iff :
    number? read? item name = .error defect ↔
      item.Strays name IsNumber ∧ defect = .notNumber name ∨
        ∃ text, item.get? name = some (.number text) ∧ read? text = none ∧
          defect = .badNumber name text := by
  fun_cases number? read? item name
  case case1 absent => simp [Item.Strays, absent]
  case case2 text stored value read => simp [Item.Strays, stored, read, IsNumber]
  case case3 text stored unread => simp [Item.Strays, stored, unread, IsNumber, eq_comm]
  case case4 value strays stored =>
    have other : ∀ text, value ≠ .number text := strays
    simp [Item.Strays, IsNumber, stored, other, eq_comm]

theorem required_eq_ok_iff {found : Option α} {value : α} :
    required name found = .ok value ↔ found = some value := by
  cases found <;> simp [required]

theorem required_eq_error_iff {found : Option α} :
    required name found = .error defect ↔ found = none ∧ defect = .missing name := by
  cases found <;> simp [required, eq_comm]

end Attributes

/-! ## The parts of a movie -/

section Parts

variable {item info : Item} {defect : Defect}

theorem readYear?_eq_none_iff {text : String} :
    readYear? text = none ↔ ∀ year : Int32, ¬ Text.IntegerLiteral text.toList year.toInt := by
  rw [Option.eq_none_iff_forall_ne_some]
  exact forall_congr' fun year => not_congr readYear?_eq_some_iff

theorem ofText?_eq_none_iff {text : String} :
    Binary64.ofText? text = none ↔ ∀ rating, ¬ Binary64.Literal text.toList rating := by
  rw [Option.eq_none_iff_forall_ne_some]
  exact forall_congr' fun rating => not_congr Binary64.ofText?_eq_some_iff

/-- The year of an item. -/
def yearOf (item : Item) : Except Defect Int32 :=
  number? readYear? item "year" >>= required "year"

theorem yearOf_eq_ok_iff {year : Int32} :
    yearOf item = .ok year ↔ ∃ text, item.get? "year" = some (.number text) ∧
      Text.IntegerLiteral text.toList year.toInt := by
  simp [yearOf, bind_eq_ok_iff, required_eq_ok_iff, number?_eq_ok_iff, readYear?_eq_some_iff]

theorem yearOf_eq_error_iff : yearOf item = .error defect ↔ Offends item .year defect := by
  simp only [yearOf, bind_eq_error_iff, required_eq_error_iff, number?_eq_error_iff,
    number?_eq_ok_iff, readYear?_eq_none_iff]
  constructor
  · rintro ((⟨strays, rfl⟩ | ⟨text, stored, bad, rfl⟩) | ⟨_, ⟨absent, rfl⟩ | found, none, rfl⟩)
    · exact .yearKind strays
    · exact .yearText stored bad
    · exact .noYear absent
    · simp [none] at found
  · rintro (absent | strays | ⟨stored, bad⟩)
    · exact .inr ⟨none, .inl ⟨absent, rfl⟩, rfl, rfl⟩
    · exact .inl (.inl ⟨strays, rfl⟩)
    · exact .inl (.inr ⟨_, stored, bad, rfl⟩)

/-- The title of an item. -/
def titleOf (item : Item) : Except Defect String := text? item "title" >>= required "title"

theorem titleOf_eq_ok_iff {title : String} :
    titleOf item = .ok title ↔ item.get? "title" = some (.string title) := by
  simp [titleOf, bind_eq_ok_iff, required_eq_ok_iff, text?_eq_ok_iff]

theorem titleOf_eq_error_iff : titleOf item = .error defect ↔ Offends item .title defect := by
  simp only [titleOf, bind_eq_error_iff, required_eq_error_iff, text?_eq_error_iff,
    text?_eq_ok_iff]
  constructor
  · rintro (⟨strays, rfl⟩ | ⟨_, absent, rfl, rfl⟩)
    · exact .titleKind strays
    · exact .noTitle absent
  · rintro (_ | _ | _ | absent | strays)
    · exact .inr ⟨none, absent, rfl, rfl⟩
    · exact .inl ⟨strays, rfl⟩

/-- The plot inside `info`. -/
def plotOf (info : Item) : Except Defect String := do
  let plot ← text? info "plot"
  return plot.getD ""

theorem plotOf_eq_ok_iff {plot : String} : plotOf info = .ok plot ↔ StoresPlot info plot := by
  simp only [plotOf, bind_eq_ok_iff, text?_eq_ok_iff]
  constructor
  · rintro ⟨_ | plot, stored, ⟨⟩⟩
    · exact .absent stored
    · exact .present stored
  · rintro (absent | stored)
    · exact ⟨none, absent, rfl⟩
    · exact ⟨some _, stored, rfl⟩

theorem plotOf_eq_error_iff (held : item.get? "info" = some (.map info)) :
    plotOf info = .error defect ↔ Offends item .plot defect := by
  simp only [plotOf, bind_eq_error_iff, text?_eq_error_iff]
  constructor
  · rintro (⟨strays, rfl⟩ | ⟨_, _, ⟨⟩⟩)
    exact .plotKind held strays
  · rintro ⟨⟩
    case plotKind info' held' strays =>
      cases held.symm.trans held'
      exact .inl ⟨strays, rfl⟩

/-- The rating inside `info`. -/
def ratingOf (info : Item) : Except Defect Binary64 := do
  let rating ← number? Binary64.ofText? info "rating"
  return rating.getD .zero

theorem ratingOf_eq_ok_iff {rating : Binary64} :
    ratingOf info = .ok rating ↔ StoresRating info rating := by
  simp only [ratingOf, bind_eq_ok_iff, number?_eq_ok_iff, Binary64.ofText?_eq_some_iff]
  constructor
  · rintro ⟨_, ⟨absent, rfl⟩ | ⟨text, value, stored, literal, rfl⟩, ⟨⟩⟩
    · exact .absent absent
    · exact .present stored literal
  · rintro (absent | ⟨stored, literal⟩)
    · exact ⟨none, .inl ⟨absent, rfl⟩, rfl⟩
    · exact ⟨some _, .inr ⟨_, _, stored, literal, rfl⟩, rfl⟩

theorem ratingOf_eq_error_iff (held : item.get? "info" = some (.map info)) :
    ratingOf info = .error defect ↔ Offends item .rating defect := by
  simp only [ratingOf, bind_eq_error_iff, number?_eq_error_iff, ofText?_eq_none_iff]
  constructor
  · rintro ((⟨strays, rfl⟩ | ⟨text, stored, bad, rfl⟩) | ⟨_, _, ⟨⟩⟩)
    · exact .ratingKind held strays
    · exact .ratingText held stored bad
  · rintro ⟨⟩
    case ratingKind info' held' strays =>
      cases held.symm.trans held'
      exact .inl (.inl ⟨strays, rfl⟩)
    case ratingText info' text held' stored bad =>
      cases held.symm.trans held'
      exact .inl (.inr ⟨text, stored, bad, rfl⟩)

theorem infoOfItem_of_map (held : item.get? "info" = some (.map info)) :
    infoOfItem item =
      plotOf info >>= fun plot => ratingOf info >>= fun rating => .ok ⟨plot, rating⟩ := by
  simp only [infoOfItem, held, plotOf, ratingOf, bind_assoc, pure_bind]
  rfl

/-- An attribute `info` that is no map. -/
theorem infoOfItem_of_strays (strays : item.Strays "info" IsMap) :
    infoOfItem item = .error (.notMap "info") := by
  obtain ⟨value, stored, other⟩ := strays
  rw [infoOfItem, stored]
  cases value with
  | map entries => exact absurd ⟨entries, rfl⟩ other
  | _ => rfl

/-- What an item can have for `info`. -/
theorem info_cases (item : Item) :
    item.get? "info" = none ∨ item.Strays "info" IsMap ∨
      ∃ info, item.get? "info" = some (.map info) := by
  cases stored : item.get? "info" with
  | none => exact .inl rfl
  | some value =>
    by_cases map : value.IsMap
    · obtain ⟨info, rfl⟩ := map
      exact .inr (.inr ⟨info, rfl⟩)
    · exact .inr (.inl ⟨value, stored, map⟩)

theorem infoOfItem_eq_ok_iff {stored : MovieInfo} :
    infoOfItem item = .ok stored ↔ StoresInfo item stored := by
  constructor
  · intro read
    rcases info_cases item with absent | strays | ⟨info, held⟩
    · rw [infoOfItem, absent] at read
      cases read
      exact .absent absent
    · rw [infoOfItem_of_strays strays] at read
      cases read
    · rw [infoOfItem_of_map held] at read
      simp only [bind_eq_ok_iff, plotOf_eq_ok_iff, ratingOf_eq_ok_iff] at read
      obtain ⟨plot, told, rating, rated, ⟨⟩⟩ := read
      exact .present held told rated
  · rintro (absent | ⟨held, told, rated⟩)
    · rw [infoOfItem, absent]
      rfl
    · rw [infoOfItem_of_map held, plotOf_eq_ok_iff.2 told, ratingOf_eq_ok_iff.2 rated]
      rfl

theorem offends_info_iff :
    Offends item .info defect ↔ item.Strays "info" IsMap ∧ defect = .notMap "info" := by
  constructor
  · rintro ⟨⟩
    case infoKind strays => exact ⟨strays, rfl⟩
  · rintro ⟨strays, rfl⟩
    exact .infoKind strays

theorem not_offends_info (held : item.get? "info" = some (.map info)) :
    ¬ Offends item .info defect := by
  rw [offends_info_iff]
  rintro ⟨⟨value, stored, stray⟩, _⟩
  exact stray ⟨info, Option.some.inj (stored.symm.trans held)⟩

/-- An attribute inside `info` can only offend if `info` is a map. -/
theorem Offends.map {first : Attribute} (inside : .info ∈ first.earlier)
    (offends : Offends item first defect) : ∃ info, item.get? "info" = some (.map info) := by
  cases offends with
  | plotKind held => exact ⟨_, held⟩
  | ratingKind held => exact ⟨_, held⟩
  | ratingText held => exact ⟨_, held⟩
  | _ => exact absurd inside (by decide)

theorem infoOfItem_eq_error_iff :
    infoOfItem item = .error defect ↔
      Offends item .info defect ∨ Offends item .plot defect ∨
        (∀ other, ¬ Offends item .plot other) ∧ Offends item .rating defect := by
  rcases info_cases item with absent | strays | ⟨info, held⟩
  · have outside : ∀ first : Attribute, .info ∈ first.earlier → ¬ Offends item first defect :=
      fun first inside offends => by simpa [absent] using offends.map inside
    have read : infoOfItem item = .ok .empty := by rw [infoOfItem, absent]
    simp [read, offends_info_iff, Item.Strays, absent, outside .plot (by decide),
      outside .rating (by decide)]
  · have outside : ∀ first : Attribute, .info ∈ first.earlier → ¬ Offends item first defect := by
      intro first inside offends
      obtain ⟨value, stored, other⟩ := strays
      obtain ⟨info, held⟩ := offends.map inside
      exact other ⟨info, Option.some.inj (stored.symm.trans held)⟩
    simp [infoOfItem_of_strays strays, offends_info_iff, strays,
      outside .plot (by decide), outside .rating (by decide), eq_comm]
  · have behind : ∀ plot : String, (ratingOf info >>= fun rating => Except.ok ⟨plot, rating⟩) =
        (.error defect : Except Defect MovieInfo) ↔ Offends item .rating defect := by
      intro plot
      simp [bind_eq_error_iff, ratingOf_eq_error_iff held]
    simp only [infoOfItem_of_map held, bind_eq_error_iff_of_forall behind, ne_eq,
      plotOf_eq_error_iff held, not_offends_info held, false_or]

end Parts

/-! ## Items -/

section Items

variable {item : Item} {movie : Movie} {defect : Defect}

theorem ofItem_eq (item : Item) :
    ofItem item = yearOf item >>= fun year => titleOf item >>= fun title =>
      infoOfItem item >>= fun info => .ok ⟨year, title, info⟩ := by
  simp only [ofItem, yearOf, titleOf, bind_assoc]
  rfl

/-- **What is accepted.** -/
theorem ofItem_eq_ok_iff : ofItem item = .ok movie ↔ Stores item movie := by
  simp only [ofItem_eq, bind_eq_ok_iff, yearOf_eq_ok_iff, titleOf_eq_ok_iff,
    infoOfItem_eq_ok_iff, Except.ok.injEq]
  constructor
  · rintro ⟨year, numeral, title, named, info, told, rfl⟩
    exact ⟨numeral, named, told⟩
  · rintro ⟨numeral, named, told⟩
    exact ⟨_, numeral, _, named, _, told, rfl⟩

theorem ofItem_eq_error_iff_steps :
    ofItem item = .error defect ↔
      Offends item .year defect ∨ (∀ other, ¬ Offends item .year other) ∧
        (Offends item .title defect ∨ (∀ other, ¬ Offends item .title other) ∧
          (Offends item .info defect ∨ Offends item .plot defect ∨
            (∀ other, ¬ Offends item .plot other) ∧ Offends item .rating defect)) := by
  have last : ∀ year title, (infoOfItem item >>= fun info => Except.ok ⟨year, title, info⟩) =
      (.error defect : Except Defect Movie) ↔ infoOfItem item = .error defect := by
    simp [bind_eq_error_iff]
  have second : ∀ year, (titleOf item >>= fun title => infoOfItem item >>= fun info =>
      Except.ok ⟨year, title, info⟩) = (.error defect : Except Defect Movie) ↔
        Offends item .title defect ∨ (∀ other, ¬ Offends item .title other) ∧
          infoOfItem item = .error defect := by
    intro year
    simp only [bind_eq_error_iff_of_forall (last year), ne_eq, titleOf_eq_error_iff]
  simp only [ofItem_eq, bind_eq_error_iff_of_forall second, ne_eq, yearOf_eq_error_iff,
    infoOfItem_eq_error_iff]

/-- If an attribute inside `info` offends, `info` itself does not. -/
theorem Offends.proper {first : Attribute} {other : Defect}
    (inside : .info ∈ first.earlier) (offends : Offends item first defect) :
    ¬ Offends item .info other :=
  (offends.map inside).elim fun _ held => not_offends_info held

/-- **What is refused, and why.** -/
theorem ofItem_eq_error_iff : ofItem item = .error defect ↔ FirstDefect item defect := by
  rw [ofItem_eq_error_iff_steps]
  constructor
  · rintro (year | ⟨noYear, title | ⟨noTitle, info | plot | ⟨noPlot, rating⟩⟩⟩)
    · exact ⟨.year, year, by simp [Attribute.earlier]⟩
    · exact ⟨.title, title, by simpa [Attribute.earlier] using noYear⟩
    · exact ⟨.info, info, by simpa [Attribute.earlier] using ⟨noYear, noTitle⟩⟩
    -- Decoding does not get to the plot or the rating unless `info` is a map.
    · have noInfo : ∀ other, ¬ Offends item .info other := fun _ =>
        plot.proper (by decide)
      exact ⟨.plot, plot, by simpa [Attribute.earlier] using ⟨noYear, noTitle, noInfo⟩⟩
    · have noInfo : ∀ other, ¬ Offends item .info other := fun _ =>
        rating.proper (by decide)
      exact ⟨.rating, rating, by simpa [Attribute.earlier] using ⟨noYear, noTitle, noInfo, noPlot⟩⟩
  · rintro ⟨first, offends, clean⟩
    cases first with
    | year => exact .inl offends
    | title =>
      simp only [Attribute.earlier, List.forall_mem_singleton] at clean
      exact .inr ⟨clean, .inl offends⟩
    | info =>
      simp only [Attribute.earlier, List.forall_mem_cons] at clean
      exact .inr ⟨clean.1, .inr ⟨clean.2.1, .inl offends⟩⟩
    | plot =>
      simp only [Attribute.earlier, List.forall_mem_cons] at clean
      exact .inr ⟨clean.1, .inr ⟨clean.2.1, .inr (.inl offends)⟩⟩
    | rating =>
      simp only [Attribute.earlier, List.forall_mem_cons] at clean
      exact .inr ⟨clean.1, .inr ⟨clean.2.1, .inr (.inr ⟨clean.2.2.2.1, offends⟩)⟩⟩

end Items

/-! ## The wording of a defect -/

namespace Defect

/-- The attribute that a defect names. -/
def name : Defect → String
  | .missing name | .notString name | .notNumber name | .notMap name | .badNumber name _ => name

/-- What a defect says of an attribute that is there. -/
def complaint? : Defect → Option String
  | .missing _ => none
  | .notString _ => some "is not a string"
  | .notNumber _ => some "is not a number"
  | .notMap _ => some "is not a map"
  | .badNumber _ text => some ("has bad number " ++ Text.quoted text)

/-- A complaint tells the kind of a defect, and the text of a number. -/
theorem eq_of_complaint? {defect other : Defect} (named : defect.name = other.name)
    (same : defect.complaint? = other.complaint?) : defect = other := by
  -- What is said of a bad number begins with another letter than all else.
  have unlike : ∀ text kind, kind ∈ ["is not a string", "is not a number", "is not a map"] →
      "has bad number " ++ text ≠ kind := by
    intro text kind member h
    have heads := congrArg (·.toList.head?) h
    revert heads
    simp only [List.mem_cons, List.not_mem_nil, or_false] at member
    rcases member with rfl | rfl | rfl <;> simp
  cases defect <;> cases other <;> simp_all [complaint?, name, eq_comm]
  case badNumber.badNumber => exact Text.quoted_injective same

theorem reason_eq (defect : Defect) :
    defect.reason = defect.complaint?.elim ("missing attribute " ++ defect.name)
      fun complaint => "attribute " ++ (defect.name ++ (" " ++ complaint)) := by
  have spaced (name complaint more : String) (begun : more = " " ++ complaint) :
      "attribute " ++ name ++ more = "attribute " ++ (name ++ (" " ++ complaint)) := by
    rw [begun, String.append_assoc]
  cases defect with
  | missing name => rfl
  | notString name => exact spaced name "is not a string" " is not a string" rfl
  | notNumber name => exact spaced name "is not a number" " is not a number" rfl
  | notMap name => exact spaced name "is not a map" " is not a map" rfl
  | badNumber name text =>
    refine (String.append_assoc ..).trans (spaced name _ _ ?_)
    exact @String.append_assoc " " "has bad number " _

/-- The wording tells everything about a defect, if its attribute has a name of one word. -/
theorem reason_injective {defect other : Defect} (word : ' ' ∉ defect.name.toList)
    (word' : ' ' ∉ other.name.toList) (same : defect.reason = other.reason) :
    defect = other := by
  rw [reason_eq, reason_eq] at same
  cases said : defect.complaint? with
  | none =>
    cases said' : other.complaint? with
    | none =>
      rw [said, said', Option.elim_none, Option.elim_none, String.append_right_inj] at same
      exact eq_of_complaint? same (said.trans said'.symm)
    | some complaint =>
      rw [said, said'] at same
      have heads := congrArg (·.toList.head?) same
      simp at heads
  | some complaint =>
    cases said' : other.complaint? with
    | none =>
      rw [said, said'] at same
      have heads := congrArg (·.toList.head?) same
      simp at heads
    | some complaint' =>
      rw [said, said', Option.elim_some, Option.elim_some, String.append_right_inj] at same
      -- The first space ends the name.
      have cut := congrArg (Text.cutAt ' ' ·.toList) same
      have space : " ".toList = [' '] := rfl
      simp only [String.toList_append, space, List.singleton_append, Text.cutAt_append word,
        Text.cutAt_append word', Prod.mk.injEq, Option.some.injEq, String.toList_inj] at cut
      refine eq_of_complaint? cut.1 ?_
      rw [said, said', cut.2]

end Defect

/-- The attributes of a movie have names of one word. -/
theorem Offends.word {item : Item} {first : Attribute} {defect : Defect}
    (offends : Offends item first defect) : ' ' ∉ defect.name.toList := by
  cases offends <;> simp [Defect.name]

/-! ## Other attributes -/

/-- What two items have for `info` is the same to a movie. -/
inductive InfoAgrees : Option AttributeValue → Option AttributeValue → Prop
  | same (found : Option AttributeValue) : InfoAgrees found found
  | maps {info other : Item} (plot : info.get? "plot" = other.get? "plot")
      (rating : info.get? "rating" = other.get? "rating") :
      InfoAgrees (some (.map info)) (some (.map other))

/-- Two items have the same attributes of a movie. What else they have is left open. -/
structure Agrees (item other : Item) : Prop where
  year : item.get? "year" = other.get? "year"
  title : item.get? "title" = other.get? "title"
  info : InfoAgrees (item.get? "info") (other.get? "info")

section Agreement

variable {item other : Item}

theorem infoOfItem_congr (agrees : InfoAgrees (item.get? "info") (other.get? "info")) :
    infoOfItem item = infoOfItem other := by
  generalize found : item.get? "info" = held at agrees
  generalize found' : other.get? "info" = held' at agrees
  cases agrees with
  | same => rw [infoOfItem, infoOfItem, found, found']
  | maps plot rating =>
    rw [infoOfItem_of_map found, infoOfItem_of_map found', plotOf, plotOf, ratingOf, ratingOf,
      text?, text?, number?, number?, plot, rating]

/-- **Other attributes are not looked at.** -/
theorem ofItem_congr (agrees : Agrees item other) : ofItem item = ofItem other := by
  rw [ofItem_eq, ofItem_eq, yearOf, yearOf, titleOf, titleOf, number?, number?, text?, text?,
    agrees.year, agrees.title, infoOfItem_congr agrees.info]

end Agreement

/-! ## Decoding -/

/-- **Decoding an item.** It gives the movie that the item stores in the format, and otherwise a
failure that tells the first defect. The wording of defects tells them apart, and attributes that
no movie has change nothing. -/
theorem ofItem_decides (item : Item) :
    (∀ movie, (ofItem item).mapError Defect.error = .ok movie ↔ Stores item movie) ∧
      (∀ error, (ofItem item).mapError Defect.error = .error error ↔
        ∃ defect, FirstDefect item defect ∧ error = .decode "movie" defect.reason) ∧
      (∀ other defect defect', FirstDefect item defect → FirstDefect other defect' →
        (defect.reason = defect'.reason ↔ defect = defect')) ∧
      ∀ other, Agrees item other → ofItem other = ofItem item := by
  refine ⟨fun movie => ?_, fun error => ?_, ?_, fun other agrees => (ofItem_congr agrees).symm⟩
  · rw [mapError_eq_ok_iff, ofItem_eq_ok_iff]
  · simp only [mapError_eq_error_iff, ofItem_eq_error_iff, Defect.error]
  · rintro other defect defect' ⟨_, offends, _⟩ ⟨_, offends', _⟩
    exact ⟨Defect.reason_injective offends.word offends'.word, congrArg Defect.reason⟩

/-- An item with two defects. -/
def confused : Item :=
  [("year", .number "nineteen"), ("title", .string "Odd"), ("info", .map [("rating", .null true)])]

/-- It is still that with attributes of other names. -/
def crowded : Item :=
  [("Year", .number "1999"), ("title", .string "Odd"), ("rating", .number "1"),
    ("info", .map [("votes", .number "none"), ("rating", .null true)]),
    ("year", .number "nineteen")]

theorem ofItem_decides_confused :
    FirstDefect confused (.badNumber "year" "nineteen") ∧
      (ofItem crowded).mapError Defect.error =
        .error (.decode "movie" (Defect.badNumber "year" "nineteen").reason) ∧
      Stores (key 1999 "Bare") ⟨1999, "Bare", .empty⟩ ∧
      (Defect.badNumber "year" "nineteen").reason ≠ (Defect.missing "title").reason := by
  have first : FirstDefect confused (.badNumber "year" "nineteen") := ofItem_eq_error_iff.1 rfl
  have crowd : ofItem crowded = ofItem confused :=
    (ofItem_decides confused).2.2.2 crowded ⟨rfl, rfl, .maps rfl rfl⟩
  have untitled : FirstDefect [("year", .number "-7")] (.missing "title") :=
    ofItem_eq_error_iff.1 rfl
  refine ⟨first, ?_, (ofItem_decides _).1 _ |>.1 rfl, fun same => ?_⟩
  · rw [crowd]
    exact ((ofItem_decides confused).2.1 _).2 ⟨_, first, rfl⟩
  · cases ((ofItem_decides confused).2.2.1 _ _ _ first untitled).1 same

end Movie

end CloudOps
