import CloudOps.Memory.Tables
import CloudOps.Proofs.Movie
import CloudOps.Proofs.Movie.Format
import CloudOps.Proofs.Program.Actions

/-!
# Looking up movies in a store in memory

* `Filling`: the steps that fill a store. `filled`: the store behind some steps; `puts`: the items
  that they put in a table. `getElem?_tables_filled` relates them.
* `Keyed`: an item has a year and a title. `Earliest`: the first member of a list of some kind.
* `LooksUp`: what looking up a movie gives behind some steps; `getMovie_looksUp`: it does.
-/

namespace CloudOps

/-- The first member of a list that is of some kind. -/
def Earliest {α : Type} (kind : α → Prop) (members : List α) (first : α) : Prop :=
  kind first ∧ ∃ before after, members = before ++ first :: after ∧ ∀ other ∈ before, ¬ kind other

theorem find?_eq_some_iff_earliest {α : Type} {test : α → Bool} {kind : α → Prop}
    (tests : ∀ a, test a = true ↔ kind a) {members : List α} {first : α} :
    members.find? test = some first ↔ Earliest kind members first := by
  have fails : ∀ a, (!test a) = true ↔ ¬ kind a := fun a => by simp [← tests]
  simp only [List.find?_eq_some_iff_append, Earliest, tests, fails]

theorem find?_eq_none_iff_forall {α : Type} {test : α → Bool} {kind : α → Prop}
    (tests : ∀ a, test a = true ↔ kind a) {members : List α} :
    members.find? test = none ↔ ∀ a ∈ members, ¬ kind a := by
  simp only [List.find?_eq_none, tests]

theorem Earliest.mem {α : Type} {kind : α → Prop} {members : List α} {first : α}
    (earliest : Earliest kind members first) : first ∈ members := by
  obtain ⟨-, before, after, rfl, -⟩ := earliest
  simp

/-- The first image of some kind is the image of the first member of that kind. -/
theorem Earliest.of_map {α β : Type} {f : α → β} {kind : β → Prop} {members : List α} {first : β}
    (earliest : Earliest kind (members.map f) first) :
    ∃ member, f member = first ∧ Earliest (fun a => kind (f a)) members member := by
  obtain ⟨proper, before, after, split, others⟩ := earliest
  obtain ⟨front, rest, rfl, rfl, behind⟩ := List.map_eq_append_iff.1 split
  obtain ⟨member, back, rfl, rfl, rfl⟩ := List.map_eq_cons_iff.1 behind
  exact ⟨member, rfl, proper, front, back, rfl,
    fun a earlier => others _ (List.mem_map_of_mem earlier)⟩

namespace TableMemory

/-! ## Filling a store -/

/-- A step that fills a store. -/
inductive Filling
  | addTable (table : String)
  | put (table : String) (item : Item)
  | putMovie (table : String) (movie : Movie)

namespace Filling

/-- The table that a step names. -/
def table : Filling → String
  | addTable table | put table _ | putMovie table _ => table

/-- What a step puts in its table. -/
def items : Filling → List Item
  | addTable _ => []
  | put _ item => [item]
  | putMovie _ movie => [movie.item]

/-- The movies that a step puts in its table as such. -/
def movies : Filling → List Movie
  | putMovie _ movie => [movie]
  | _ => []

/-- The store behind a step. -/
def apply (store : TableMemory) : Filling → TableMemory
  | addTable table => store.addTable table
  | put table item => store.put table item
  | putMovie table movie => store.put table movie.item

end Filling

/-- The store behind some steps. -/
def filled (steps : List Filling) : TableMemory := steps.foldl Filling.apply empty

/-- A step names the table. -/
def Created (steps : List Filling) (table : String) : Prop := ∃ step ∈ steps, step.table = table

/-- The steps that name the table. -/
def stepsOn (steps : List Filling) (table : String) : List Filling :=
  steps.filter (·.table = table)

/-- What was put in the table, in order. -/
def puts (steps : List Filling) (table : String) : List Item :=
  (stepsOn steps table).flatMap Filling.items

/-- The movies that were put in the table as such, in order. -/
def putMovies (steps : List Filling) (table : String) : List Movie :=
  (stepsOn steps table).flatMap Filling.movies

/-- What one step makes of a table. -/
theorem getElem?_tables_apply (store : TableMemory) (step : Filling) (table : String) :
    (step.apply store).tables[table]? =
      if step.table = table then some (store.items table ++ step.items)
      else store.tables[table]? := by
  have inserted (items : List Item) :
      (step.apply store).tables = store.tables.insert step.table items →
        items = store.items step.table ++ step.items →
          (step.apply store).tables[table]? =
            if step.table = table then some (store.items table ++ step.items)
            else store.tables[table]? := by
    rintro tables rfl
    rw [tables, Std.ExtTreeMap.getElem?_insert]
    by_cases same : step.table = table <;> simp [same]
  cases step with
  | addTable name => exact inserted _ rfl (List.append_nil _).symm
  | put name item => exact inserted _ rfl rfl
  | putMovie name movie => exact inserted _ rfl rfl

theorem items_apply (store : TableMemory) (step : Filling) (table : String) :
    (step.apply store).items table =
      store.items table ++ if step.table = table then step.items else [] := by
  rw [items, getElem?_tables_apply]
  by_cases same : step.table = table <;> simp [same, items]

theorem puts_cons (step : Filling) (steps : List Filling) (table : String) :
    puts (step :: steps) table =
      (if step.table = table then step.items else []) ++ puts steps table := by
  by_cases same : step.table = table <;> simp [puts, stepsOn, same]

/-- What some steps make of a table. -/
theorem items_foldl (store : TableMemory) (steps : List Filling) (table : String) :
    (steps.foldl Filling.apply store).items table = store.items table ++ puts steps table := by
  induction steps generalizing store with
  | nil => simp [puts, stepsOn]
  | cons step steps ih =>
    rw [List.foldl_cons, ih, items_apply, puts_cons, List.append_assoc]

theorem isSome_tables_foldl (store : TableMemory) (steps : List Filling) (table : String) :
    (steps.foldl Filling.apply store).tables[table]?.isSome ↔
      store.tables[table]?.isSome ∨ Created steps table := by
  induction steps generalizing store with
  | nil => simp [Created]
  | cons step steps ih =>
    rw [List.foldl_cons, ih, getElem?_tables_apply]
    by_cases same : step.table = table <;> simp [same, Created]

/-- A table is there if a step named it, and holds what was put in it. -/
theorem getElem?_tables_filled {steps : List Filling} {table : String}
    (created : Created steps table) :
    (filled steps).tables[table]? = some (puts steps table) := by
  have there : (filled steps).tables[table]?.isSome := (isSome_tables_foldl _ _ _).2 (.inr created)
  obtain ⟨held, found⟩ := Option.isSome_iff_exists.1 there
  have items : (filled steps).items table = puts steps table := items_foldl empty steps table
  rw [TableMemory.items, found, Option.getD_some] at items
  rw [found, items]

theorem getElem?_tables_filled_of_not {steps : List Filling} {table : String}
    (missing : ¬ Created steps table) : (filled steps).tables[table]? = none := by
  rw [← Option.not_isSome_iff_eq_none, filled, isSome_tables_foldl, not_or]
  exact ⟨by simp [empty], missing⟩

/-- No step sets a fault. -/
theorem faults_filled (steps : List Filling) : (filled steps).record.faults = [] := by
  have kept (store : TableMemory) :
      (steps.foldl Filling.apply store).record.faults = store.record.faults := by
    induction steps generalizing store with
    | nil => rfl
    | cons step steps ih =>
      rw [List.foldl_cons, ih]
      cases step <;> rfl
  exact kept empty

/-! ## Items with a key -/

/-- The item has the year and the title. -/
def Keyed (year : Int32) (title : String) (item : Item) : Prop :=
  item.get? "year" = some (.number (yearNumeral year)) ∧ item.get? "title" = some (.string title)

theorem sameIn_number_iff {text : String} {found : Option AttributeValue} :
    AttributeValue.sameIn (.number text) found = true ↔ some (.number text) = found := by
  rcases found with _ | value
  · simp [AttributeValue.sameIn]
  · cases value <;> simp [AttributeValue.sameIn, AttributeValue.same]

theorem sameIn_string_iff {text : String} {found : Option AttributeValue} :
    AttributeValue.sameIn (.string text) found = true ↔ some (.string text) = found := by
  rcases found with _ | value
  · simp [AttributeValue.sameIn]
  · cases value <;> simp [AttributeValue.sameIn, AttributeValue.same]

theorem matches_key_iff (year : Int32) (title : String) (item : Item) :
    item.matches (Movie.key year title) = true ↔ Keyed year title item := by
  simp only [Item.matches, Movie.key, AttributeValue.sameEntries, Bool.and_eq_true,
    sameIn_number_iff, sameIn_string_iff, and_true]
  exact and_congr eq_comm eq_comm

theorem yearNumeral_injective {year other : Int32} (same : yearNumeral year = yearNumeral other) :
    year = other := by
  have read := congrArg readYear? same
  rwa [readYear?_yearNumeral, readYear?_yearNumeral, Option.some.injEq] at read

/-- The item of a movie has the key of the movie. -/
theorem keyed_item_iff {year : Int32} {title : String} {movie : Movie} :
    Keyed year title movie.item ↔ movie.year = year ∧ movie.title = title := by
  rw [Keyed, Movie.item_year, Movie.item_title]
  simp only [Option.some.injEq, AttributeValue.number.injEq, AttributeValue.string.injEq]
  exact and_congr_left' ⟨yearNumeral_injective, congrArg yearNumeral⟩

/-- What is decoded from an item has the key of the item. -/
theorem Keyed.of_ofItem {year : Int32} {title : String} {item : Item} {movie : Movie}
    (keyed : Keyed year title item) (decoded : Movie.ofItem item = .ok movie) :
    movie.year = year ∧ movie.title = title := by
  have stores := Movie.ofItem_eq_ok_iff.1 decoded
  obtain ⟨text, stored, literal⟩ := stores.year
  have same : text = yearNumeral year := by
    simpa using stored.symm.trans keyed.1
  have read : readYear? text = some movie.year := readYear?_eq_some_iff.2 literal
  rw [same, readYear?_yearNumeral, Option.some.injEq] at read
  have titled := stores.title.symm.trans keyed.2
  simp only [Option.some.injEq, AttributeValue.string.injEq] at titled
  exact ⟨read.symm, titled⟩

/-- Neither year nor title of such an item offends. -/
theorem Keyed.offends {year : Int32} {title : String} {item : Item} {first : Movie.Attribute}
    {defect : Movie.Defect} (keyed : Keyed year title item)
    (offends : Movie.Offends item first defect) : first ∈ [.info, .plot, .rating] := by
  have year_ok : Movie.yearOf item = .ok year := Movie.yearOf_eq_ok_iff.2
    ⟨_, keyed.1, readYear?_eq_some_iff.1 (readYear?_yearNumeral year)⟩
  have title_ok : Movie.titleOf item = .ok title := Movie.titleOf_eq_ok_iff.2 keyed.2
  cases first with
  | year => cases year_ok.symm.trans (Movie.yearOf_eq_error_iff.2 offends)
  | title => cases title_ok.symm.trans (Movie.titleOf_eq_error_iff.2 offends)
  | info => simp
  | plot => simp
  | rating => simp

/-! ## Looking up -/

/-- How looking up a movie in a store ends. -/
def lookUp (store : TableMemory) (table : String) (year : Int32) (title : String) :
    Program.Ending (Except Error (Option Movie)) :=
  ((getMovie table year title).run.run answer store).ending

/-- A store without faults is asked once. -/
theorem lookUp_eq {store : TableMemory} (quiet : store.record.faults = []) (table : String)
    (year : Int32) (title : String) :
    lookUp store table year title =
      .value (store.perform (.getItem table (Movie.key year title)) >>= Movie.ofFound) := by
  have logged (text : String) : (Action.log .debug text : TableAction Unit).run.run answer store =
      ⟨[.note ⟨.debug, text⟩], .value (.ok ()), store⟩ := rfl
  have answered : (answer (.getItem table (Movie.key year title)) store).1 =
      store.perform (.getItem table (Movie.key year title)) := by
    simp [answer, CallRecord.fault?, quiet, perform]
  have asked : (TableCall.perform (.getItem table (Movie.key year title))).run.run answer store =
      ⟨[.call _ (answer (.getItem table (Movie.key year title)) store).1],
        .value (answer (.getItem table (Movie.key year title)) store).1,
        (answer (.getItem table (Movie.key year title)) store).2⟩ := rfl
  rw [answered] at asked
  cases found : store.perform (.getItem table (Movie.key year title)) with
  | error e =>
    rw [found] at asked
    exact congrArg Program.Trace.ending
      (Action.run_bind_ok (logged _) (Action.run_bind_error asked))
  | ok item =>
    rw [found] at asked
    exact congrArg Program.Trace.ending
      (Action.run_bind_ok (logged _) (Action.run_bind_ok asked rfl))

theorem puts_of_not {steps : List Filling} {table : String} (missing : ¬ Created steps table) :
    puts steps table = [] := by
  have none : stepsOn steps table = [] := by
    simpa [stepsOn, Created] using missing
  rw [puts, none, List.flatMap_nil]

/-- If all that was put in a table are movies, it holds their items. -/
theorem puts_eq_map {steps : List Filling} {table : String}
    (only : ∀ item, .put table item ∉ steps) :
    puts steps table = (putMovies steps table).map Movie.item := by
  rw [puts, putMovies, List.map_flatMap]
  refine List.flatMap_congr fun step member => ?_
  obtain ⟨taken, named⟩ := List.mem_filter.1 member
  cases step with
  | addTable => rfl
  | put name item =>
    have same : name = table := of_decide_eq_true named
    exact absurd (same ▸ taken) (only item)
  | putMovie => rfl

/-- An item with a key is not empty. -/
theorem Keyed.ofFound {year : Int32} {title : String} {item : Item}
    (keyed : Keyed year title item) :
    Movie.ofFound (some item) = ((Movie.ofItem item).mapError Movie.Defect.error).map some := by
  cases item with
  | nil => cases keyed.1
  | cons => rfl

/-- What a lookup finds when its table is there. -/
theorem lookUp_filled {steps : List Filling} {table : String} (created : Created steps table)
    (year : Int32) (title : String) :
    lookUp (filled steps) table year title =
      .value (Movie.ofFound ((puts steps table).find? (·.matches (Movie.key year title)))) := by
  rw [lookUp_eq (faults_filled steps), perform, getElem?_tables_filled created]
  rfl

theorem lookUp_filled_of_not {steps : List Filling} {table : String}
    (missing : ¬ Created steps table) (year : Int32) (title : String) :
    lookUp (filled steps) table year title = .value (.error noSuchTable) := by
  rw [lookUp_eq (faults_filled steps), perform, getElem?_tables_filled_of_not missing]
  rfl

/-- What looking up a movie gives behind some steps. -/
structure LooksUp (steps : List Filling) (table : String) (year : Int32) (title : String)
    (result : Except Error (Option Movie)) : Prop where
  /-- The table is missing exactly if no step named it. -/
  missing : (∃ e, result = .error e ∧ e.isNotFound = true) ↔ ¬ Created steps table
  /-- Nothing is found exactly if the table is there, and no item in it has the key. -/
  absent : result = .ok none ↔
    Created steps table ∧ ∀ item ∈ puts steps table, ¬ Keyed year title item
  /-- If items have the key, the earliest one counts. -/
  found : (∃ item ∈ puts steps table, Keyed year title item) →
    ∃ first, Earliest (Keyed year title) (puts steps table) first ∧
      result = ((Movie.ofItem first).mapError Movie.Defect.error).map some
  /-- A movie that is found is the one that was asked for. -/
  key : ∀ movie, result = .ok (some movie) → movie.year = year ∧ movie.title = title
  /-- An item with the key has no defect in it. -/
  defect : ∀ what reason, result = .error (.decode what reason) →
    ∃ item defect, Earliest (Keyed year title) (puts steps table) item ∧
      (∃ first ∈ [.info, .plot, .rating], Movie.Offends item first defect) ∧
        Error.decode what reason = defect.error
  /-- If nothing but movies was put in the table, the first one with the key comes back. -/
  movies : (∀ item, .put table item ∉ steps) → Created steps table →
    result = .ok none ∧
        (∀ movie ∈ putMovies steps table, ¬ (movie.year = year ∧ movie.title = title)) ∨
      ∃ movie back, Earliest (fun movie => movie.year = year ∧ movie.title = title)
          (putMovies steps table) movie ∧
        result = .ok (some back) ∧ movie.Recovers back

section LooksUp

variable {steps : List Filling} {table : String} {year : Int32} {title : String}

theorem looksUp_of_missing (missing : ¬ Created steps table) :
    LooksUp steps table year title (.error noSuchTable) where
  missing := iff_of_true ⟨_, rfl, rfl⟩ missing
  absent := by simp [missing]
  found := by simp [puts_of_not missing]
  key := by simp
  defect := by simp [noSuchTable]
  movies := fun _ created => absurd created missing

theorem looksUp_of_absent (created : Created steps table)
    (absent : ∀ item ∈ puts steps table, ¬ Keyed year title item) :
    LooksUp steps table year title (.ok none) where
  missing := by simp [created]
  absent := iff_of_true rfl ⟨created, absent⟩
  found := by
    rintro ⟨item, member, keyed⟩
    exact absurd keyed (absent item member)
  key := by simp
  defect := by simp
  movies := by
    intro only _
    refine .inl ⟨rfl, fun movie member same => ?_⟩
    rw [puts_eq_map only] at absent
    exact absent _ (List.mem_map_of_mem member) (keyed_item_iff.2 same)

theorem looksUp_of_earliest (created : Created steps table) {item : Item}
    (earliest : Earliest (Keyed year title) (puts steps table) item) :
    LooksUp steps table year title
      (((Movie.ofItem item).mapError Movie.Defect.error).map some) where
  missing := by
    refine iff_of_false ?_ (not_not_intro created)
    rintro ⟨e, failed, missing⟩
    obtain ⟨defect, -, rfl⟩ := mapError_eq_error_iff.1 (map_eq_error_iff.1 failed)
    exact absurd missing (by simp [Movie.Defect.error, Error.isNotFound, Error.kind])
  absent := by
    refine iff_of_false (fun empty => ?_) fun bare => bare.2 item earliest.mem earliest.1
    obtain ⟨movie, -, none⟩ := map_eq_ok_iff.1 empty
    cases none
  found := fun _ => ⟨item, earliest, rfl⟩
  key := by
    intro movie given
    obtain ⟨_, decoded, ⟨⟩⟩ := map_eq_ok_iff.1 given
    exact earliest.1.of_ofItem (mapError_eq_ok_iff.1 decoded)
  defect := by
    intro what reason failed
    obtain ⟨defect, refused, same⟩ := mapError_eq_error_iff.1 (map_eq_error_iff.1 failed)
    obtain ⟨first, offends, -⟩ := Movie.ofItem_eq_error_iff.1 refused
    exact ⟨item, defect, earliest, ⟨first, earliest.1.offends offends, offends⟩, same⟩
  movies := by
    intro only _
    rw [puts_eq_map only] at earliest
    obtain ⟨movie, rfl, first⟩ := earliest.of_map
    obtain ⟨back, decoded, recovers⟩ := Movie.ofItem_recovers movie
    simp only [keyed_item_iff] at first
    exact .inr ⟨movie, back, first, by rw [decoded]; rfl, recovers⟩

end LooksUp

/-- **Lookups.** Looking up a movie behind any steps that fill a store. -/
theorem getMovie_looksUp (steps : List Filling) (table : String) (year : Int32) (title : String) :
    ∃ result, lookUp (filled steps) table year title = .value result ∧
      LooksUp steps table year title result := by
  by_cases created : Created steps table
  case neg => exact ⟨_, lookUp_filled_of_not created year title, looksUp_of_missing created⟩
  case pos =>
    refine ⟨_, lookUp_filled created year title, ?_⟩
    cases found : (puts steps table).find? (·.matches (Movie.key year title)) with
    | none =>
      exact looksUp_of_absent created
        ((find?_eq_none_iff_forall (matches_key_iff year title)).1 found)
    | some item =>
      have earliest := (find?_eq_some_iff_earliest (matches_key_iff year title)).1 found
      have keyed : Keyed year title item := earliest.1
      rw [keyed.ofFound]
      exact looksUp_of_earliest created earliest

/-- Two movies with one key, the first of them rated with a NaN, and a table without items. -/
def shelf : List Filling :=
  [.putMovie "Movies" ⟨2013, "Her", ⟨"", .nan true⟩⟩, .addTable "Films",
    .putMovie "Movies" ⟨2013, "Her", .empty⟩]

theorem getMovie_looksUp_shelf :
    (∃ back, lookUp (filled shelf) "Movies" 2013 "Her" = .value (.ok (some back)) ∧
        back.info.rating.isNaN = true) ∧
      lookUp (filled shelf) "Films" 2013 "Her" = .value (.ok none) ∧
      ∃ e, lookUp (filled shelf) "Books" 2013 "Her" = .value (.error e) ∧
        e.isNotFound = true := by
  refine ⟨?_, ?_, ?_⟩
  · obtain ⟨result, run, looks⟩ := getMovie_looksUp shelf "Movies" 2013 "Her"
    have only : ∀ item, .put "Movies" item ∉ shelf := by simp [shelf]
    have listed : putMovies shelf "Movies" =
        [⟨2013, "Her", ⟨"", .nan true⟩⟩, ⟨2013, "Her", .empty⟩] := rfl
    have given := looks.movies only ⟨_, List.mem_cons_self, rfl⟩
    rw [listed] at given
    rcases given with ⟨-, others⟩ | ⟨movie, back, ⟨-, before, after, split, others⟩, rfl, recovers⟩
    · exact absurd ⟨rfl, rfl⟩ (others _ List.mem_cons_self)
    · cases before with
      | nil =>
        cases split
        exact ⟨back, run, recovers.nan rfl⟩
      | cons earlier before =>
        obtain ⟨rfl, -⟩ := List.cons.inj split
        exact absurd ⟨rfl, rfl⟩ (others _ List.mem_cons_self)
  · obtain ⟨result, run, looks⟩ := getMovie_looksUp shelf "Films" 2013 "Her"
    have bare : puts shelf "Films" = [] := rfl
    rw [looks.absent.2 ⟨⟨.addTable "Films", by simp [shelf], rfl⟩, by simp [bare]⟩] at run
    exact run
  · obtain ⟨result, run, looks⟩ := getMovie_looksUp shelf "Books" 2013 "Her"
    obtain ⟨e, rfl, missing⟩ := looks.missing.2 (by simp [Created, shelf, Filling.table])
    exact ⟨e, run, missing⟩

end TableMemory

end CloudOps
