import CloudOps.Proofs.Json.Skipping
import CloudOps.Proofs.Program.Steps
import CloudOps.Settings.Test

/-!
# Test settings are read from every text that holds them

* `Shows`: the value of a field is null or stands for a text. `readOptionalText_eq_ok_iff`: the
  reader takes these values and no others.
* `Collects`: what a reader makes of the members of an object, one after another.
  `decode_eq_ok_iff`: that is what a whole text comes to.
* `Represents`: the members hold these settings, in whatever order. `collects_iff_represents`: a
  reader collects what they hold.
* `ofFile_object`: a file with the text of an object gives the settings that its members hold, and
  none if a field stands twice or is no text.
-/

namespace CloudOps

namespace TestSettings

open Json

/-! ## The value of a field -/

/-- The value shows this for a field: null shows nothing, and a string shows the text that it stands
for. -/
def Shows (value : List Char) : Option String → Prop
  | none => value = ['n', 'u', 'l', 'l']
  | some text => ∃ inside, value = quotes inside ∧ Spells text.toList inside

theorem wrongType_ne_ok {α : Type} (expected : String) (text : List Char) (a : α) :
    wrongType expected text ≠ .ok a := by
  have fails {β : Type} (x : Except Stop β) (cause : β → Json.Cause) (rest : β → List Char) :
      (x.bind fun b => (cause b).before (rest b)) ≠ .ok a := by
    cases x <;> simp [Except.bind, Cause.before]
  unfold wrongType
  cases text with
  | nil => simp [Cause.on]
  | cons c rest =>
    simp only
    split
    · exact fails _ _ _
    split
    · exact fails _ _ _
    split
    · exact fails _ _ _
    split
    · exact fails _ _ _
    split
    · exact fails _ _ _
    (repeat' split) <;> simp [Cause.before, Cause.on]

section Value

variable {value gap rest after : List Char} {shown : Option String}

section Other

variable {c : Char} {more : List Char} (notNull : c ≠ 'n') (notString : c ≠ '"')

include notNull notString

/-- A value that is neither null nor a string shows nothing for a field. -/
theorem not_shows_other : ¬ Shows (c :: more) shown := by
  cases shown with
  | none =>
    rintro ⟨⟩
    exact notNull rfl
  | some text =>
    rintro ⟨inside, same, -⟩
    exact notString (List.cons.inj same).1

/-- It is not read either. -/
theorem readOptionalText_other (blanks : Blanks gap) (solid : isBlank c = false) :
    readOptionalText (gap ++ (c :: more ++ rest)) ≠ .ok (shown, after) := by
  rw [List.cons_append, readOptionalText, skipBlanks_append_cons blanks solid]
  simp only [if_neg notNull, if_neg notString]
  exact wrongType_ne_ok _ _ _

end Other

/-- **The value of a field** is read exactly as what it shows. -/
theorem readOptionalText_eq_ok_iff (form : ValueForm value) (blanks : Blanks gap) :
    readOptionalText (gap ++ (value ++ rest)) = .ok (shown, after) ↔
      Shows value shown ∧ after = rest := by
  have other {c : Char} {more : List Char} (solid : isBlank c = false) (notNull : c ≠ 'n')
      (notString : c ≠ '"') :
      readOptionalText (gap ++ (c :: more ++ rest)) = .ok (shown, after) ↔
        Shows (c :: more) shown ∧ after = rest := by
    exact iff_of_false (readOptionalText_other notNull notString blanks solid)
      fun h => not_shows_other notNull notString h.1
  cases form with
  | null =>
    have read : readOptionalText (gap ++ (['n', 'u', 'l', 'l'] ++ rest)) = .ok (none, rest) := by
      rw [List.cons_append, readOptionalText, skipBlanks_append_cons blanks rfl]
      rfl
    rw [read]
    cases shown with
    | none => simp [Shows, eq_comm]
    | some text => simp [Shows, quotes]
  | string form =>
    rename_i inside
    have read : readOptionalText (gap ++ (quotes inside ++ rest)) =
        (readString (inside ++ '"' :: rest)).map fun p => (some p.1, p.2) := by
      rw [quotes, List.cons_append, readOptionalText, skipBlanks_append_cons blanks rfl,
        List.append_assoc]
      rfl
    rw [read, map_eq_ok_iff]
    cases shown with
    | none => simp [Shows, quotes]
    | some text =>
      constructor
      · rintro ⟨⟨_, _⟩, same, ⟨⟩⟩
        obtain ⟨spells, rfl⟩ := (readString_eq_ok_iff form).1 same
        exact ⟨⟨inside, rfl, spells⟩, rfl⟩
      · rintro ⟨⟨inside', same, spells⟩, rfl⟩
        obtain rfl : inside = inside' := by simpa [quotes] using same
        exact ⟨(text, after), (readString_eq_ok_iff form).2 ⟨spells, rfl⟩, rfl⟩
  | isTrue | isFalse => exact other rfl (by decide) (by decide)
  | empty bracket _ | filled bracket _ _ =>
    cases bracket <;> exact other rfl (by decide) (by decide)
  | number form =>
    obtain ⟨_, _, same, solid, -⟩ := (ValueForm.number form).opens
    obtain ⟨c, more, rfl, head⟩ := form.head
    obtain ⟨rfl, rfl⟩ := List.cons.inj same
    refine other solid ?_ ?_ <;> rintro rfl <;> rcases head with h | h <;> cases h

end Value

/-! ## The members of an object -/

theorem ofName?_eq_some_iff {name : String} {field : Field} :
    Field.ofName? name = some field ↔ name = field.name := by
  unfold Field.ofName?
  cases field <;> split_ifs <;> simp_all [Field.name]

/-- What a reader makes of members, one after another: those of other names are passed over, and a
field is taken that was not read before. -/
def Collects (draft : Draft) : List Member → Draft → Prop
  | [], last => last = draft
  | member :: members, last =>
    match Field.ofName? member.name with
    | none => Collects draft members last
    | some field => draft.get? field = none ∧ ∃ shown, Shows member.value shown ∧
      Collects (draft.set field shown) members last

/-- A member behind its opening quote, and what follows it. -/
def behindKeyQuote (member : Member) (rest : List Char) : List Char :=
  member.key ++ '"' :: (member.beforeColon ++ ':' ::
    (member.behindColon ++ (member.value ++ (member.behind ++ rest))))

theorem text_append (member : Member) (rest : List Char) :
    member.text ++ rest = member.before ++ '"' :: behindKeyQuote member rest := by
  simp [Member.text, quotes, behindKeyQuote]

section Members

variable {member : Member} {members : List Member} {count : Nat} {draft last : Draft}
  {rest after : List Char}

theorem nextKey_first (formed : member.Formed) (rest : List Char) :
    nextKey true (member.text ++ rest) = .ok (some (behindKeyQuote member rest)) := by
  rw [text_append, nextKey, skipBlanks_append_cons formed.before rfl]
  rfl

theorem nextKey_next (formed : member.Formed) {behind : List Char} (blanks : Blanks behind)
    (rest : List Char) :
    nextKey false (behind ++ ',' :: (member.text ++ rest)) =
      .ok (some (behindKeyQuote member rest)) := by
  have comma := skipBlanks_append_cons blanks (c := ',') rfl (member.text ++ rest)
  have quote := skipBlanks_append_cons formed.before (c := '"') rfl (behindKeyQuote member rest)
  rw [text_append] at comma ⊢
  simp [nextKey, comma, quote]

theorem duplicate_ne_ok {α : Type} (field : Field) (behindKey : List Char) (a : α) :
    duplicate field behindKey ≠ .ok a := by
  unfold duplicate
  split <;> simp [Cause.before]

section OneMember

variable {first : Bool} {text : List Char} (formed : member.Formed) (ends : ValueEnds rest)
  (next : nextKey first text = .ok (some (behindKeyQuote member rest)))

include formed ends next

/-- A member of another name is passed over. -/
theorem readMembers_other (unknown : Field.ofName? member.name = none) :
    TestSettings.readMembers (count + 1) first draft text =
      TestSettings.readMembers count false draft (member.behind ++ rest) := by
  have colon := readColon_append formed.beforeColon
    (member.behindColon ++ (member.value ++ (member.behind ++ rest)))
  have skipped := skipValue_valueForm formed.value formed.behindColon (ends.behind formed.behind)
  rw [TestSettings.readMembers, next]
  simp only [bind, Except.bind, behindKeyQuote, readString_spells formed.key, unknown, colon,
    skipped]

omit ends in
/-- A field is read once. -/
theorem readMembers_field {field : Field} (known : Field.ofName? member.name = some field) :
    TestSettings.readMembers (count + 1) first draft text = .ok (last, after) ↔
      draft.get? field = none ∧ ∃ shown, Shows member.value shown ∧
        TestSettings.readMembers count false (draft.set field shown) (member.behind ++ rest) =
          .ok (last, after) := by
  have colon := readColon_append formed.beforeColon
    (member.behindColon ++ (member.value ++ (member.behind ++ rest)))
  have value (shown : Option String) (behind : List Char) :
      readOptionalText (member.behindColon ++ (member.value ++ (member.behind ++ rest))) =
        .ok (shown, behind) ↔ Shows member.value shown ∧ behind = member.behind ++ rest :=
    readOptionalText_eq_ok_iff formed.value formed.behindColon
  cases fresh : draft.get? field with
  | some read =>
    have step : TestSettings.readMembers (count + 1) first draft text =
        duplicate field (member.beforeColon ++ ':' ::
          (member.behindColon ++ (member.value ++ (member.behind ++ rest)))) := by
      rw [TestSettings.readMembers, next]
      simp only [bind, Except.bind, behindKeyQuote, readString_spells formed.key, known, fresh,
        Option.isSome_some, if_true]
    rw [step]
    exact iff_of_false (duplicate_ne_ok field _ _) fun h => nomatch h.1
  | none =>
    have step : TestSettings.readMembers (count + 1) first draft text =
        readOptionalText (member.behindColon ++ (member.value ++ (member.behind ++ rest))) >>=
          fun p => TestSettings.readMembers count false (draft.set field p.1) p.2 := by
      rw [TestSettings.readMembers, next]
      simp only [bind, Except.bind, behindKeyQuote, readString_spells formed.key, known, fresh,
        colon]
      rfl
    rw [step, bind_eq_ok_iff]
    constructor
    · rintro ⟨⟨shown, behind⟩, read, later⟩
      obtain ⟨shows, rfl⟩ := (value shown behind).1 read
      exact ⟨rfl, shown, shows, later⟩
    · rintro ⟨-, shown, shows, later⟩
      exact ⟨_, (value shown _).2 ⟨shows, rfl⟩, later⟩

end OneMember

/-- Reading a member and those behind it comes to collecting them. -/
theorem readMembers_cons {first : Bool} {text : List Char} {P : Prop} (formed : member.Formed)
    (ends : ValueEnds rest) (next : nextKey first text = .ok (some (behindKeyQuote member rest)))
    (more : ∀ draft, TestSettings.readMembers count false draft (member.behind ++ rest) =
      .ok (last, after) ↔ Collects draft members last ∧ P) :
    TestSettings.readMembers (count + 1) first draft text = .ok (last, after) ↔
      Collects draft (member :: members) last ∧ P := by
  rw [Collects]
  cases known : Field.ofName? member.name with
  | none =>
    rw [readMembers_other formed ends next known]
    exact more draft
  | some field =>
    rw [readMembers_field formed next known]
    simp only [more, ← and_assoc, exists_and_right]

/-- At the closing brace there are no more members. -/
theorem readMembers_closing {first : Bool} {text : List Char}
    (closing : skipBlanks text = '\x7d' :: rest) :
    TestSettings.readMembers (count + 1) first draft text = .ok (draft, rest) := by
  have last : nextKey first text = .ok none := by simp [nextKey, closing]
  have ended : endMembers text = .ok rest := by simp [endMembers, closing]
  rw [TestSettings.readMembers, last]
  simp only [bind, Except.bind, ended]
  rfl

/-- The members behind the first one. -/
theorem readMembers_more (formed : ∀ m ∈ members, m.Formed) (enough : members.length < count)
    {behind : List Char} (blanks : Blanks behind) :
    TestSettings.readMembers count false draft
        (behind ++ (commaLed (members.map Member.text) ++ '\x7d' :: rest)) = .ok (last, after) ↔
      Collects draft members last ∧ after = rest := by
  induction members generalizing count draft behind with
  | nil =>
    obtain ⟨count, rfl⟩ := Nat.exists_eq_succ_of_ne_zero (Nat.ne_zero_of_lt enough)
    have closing := skipBlanks_append_cons blanks (c := '\x7d') rfl rest
    show TestSettings.readMembers (count + 1) false draft (behind ++ '\x7d' :: rest) = _ ↔ _
    rw [readMembers_closing closing, Collects]
    simp [eq_comm]
  | cons member members ih =>
    obtain ⟨count, rfl⟩ := Nat.exists_eq_succ_of_ne_zero (Nat.ne_zero_of_lt enough)
    obtain ⟨own, others⟩ := List.forall_mem_cons.1 formed
    have split : commaLed ((member :: members).map Member.text) ++ '\x7d' :: rest =
        ',' :: (member.text ++ (commaLed (members.map Member.text) ++ '\x7d' :: rest)) := by
      simp [commaLed]
    rw [split]
    exact readMembers_cons own (valueEnds_commaLed .object _ rest) (nextKey_next own blanks _)
      fun _ => ih others (Nat.lt_of_succ_lt_succ enough) own.behind

/-- The members of an object, from its opening brace on. -/
theorem readMembers_object (formed : ∀ m ∈ members, m.Formed) (enough : members.length < count)
    {gap : List Char} (blanks : Blanks gap) :
    TestSettings.readMembers count true draft (membersText gap members ++ '\x7d' :: rest) =
        .ok (last, after) ↔
      Collects draft members last ∧ after = rest := by
  obtain ⟨count, rfl⟩ := Nat.exists_eq_succ_of_ne_zero (Nat.ne_zero_of_lt enough)
  cases members with
  | nil =>
    have closing := skipBlanks_append_cons blanks (c := '\x7d') rfl rest
    rw [membersText, readMembers_closing closing, Collects]
    simp [eq_comm]
  | cons member members =>
    obtain ⟨own, others⟩ := List.forall_mem_cons.1 formed
    rw [membersText, List.append_assoc]
    exact readMembers_cons own (valueEnds_commaLed .object _ rest) (nextKey_first own _)
      fun _ => readMembers_more others (Nat.lt_of_succ_lt_succ enough) own.behind

end Members

theorem length_le_membersText (gap : List Char) (members : List Member) :
    members.length ≤ (membersText gap members).length := by
  cases members with
  | nil => exact Nat.zero_le _
  | cons member members =>
    have more : (members.map Member.text).length ≤ (commaLed (members.map Member.text)).length :=
      length_le_flatMap (fun _ => List.cons_ne_nil _ _) _
    have own : 0 < member.text.length := by simp [Member.text, quotes]
    rw [List.length_map] at more
    rw [membersText, List.length_append, List.length_cons]
    omega

/-- **A whole text** comes to what a reader makes of its members. -/
theorem decode_eq_ok_iff {members : List Member} {text : String}
    (form : ObjectForm members text.toList) {settings : TestSettings} :
    decode text = .ok settings ↔ ∃ draft, Collects .blank members draft ∧
      draft.settings = settings := by
  obtain ⟨formed, before, gap, behind, blank, blank', blank'', written⟩ := form
  have enough : members.length < (membersText gap members ++ '\x7d' :: behind).length + 1 := by
    have := length_le_membersText gap members
    rw [List.length_append]
    omega
  have whole {draft : Draft} {after : List Char} :
      TestSettings.readMembers ((membersText gap members ++ '\x7d' :: behind).length + 1) true
          .blank (membersText gap members ++ '\x7d' :: behind) = .ok (draft, after) ↔
        Collects .blank members draft ∧ after = behind :=
    readMembers_object formed enough blank'
  have opened : TestSettings.read text.toList =
      (TestSettings.readMembers ((membersText gap members ++ '\x7d' :: behind).length + 1) true
        .blank (membersText gap members ++ '\x7d' :: behind)).map
          fun p => (p.1.settings, p.2) := by
    rw [written, TestSettings.read, skipBlanks_append_cons blank rfl]
    rfl
  have ended : skipBlanks behind = [] := by
    rw [← List.append_nil behind, skipBlanks_append blank'']
    rfl
  rw [decode, runReader, mapError_eq_ok_iff, readWhole, bind_eq_ok_iff]
  constructor
  · rintro ⟨⟨read, after⟩, first, last⟩
    rw [opened, map_eq_ok_iff] at first
    obtain ⟨⟨draft, after⟩, collected, ⟨⟩⟩ := first
    obtain ⟨collects, rfl⟩ := whole.1 collected
    simp only [ended, Except.ok.injEq] at last
    exact ⟨draft, collects, last⟩
  · rintro ⟨draft, collects, rfl⟩
    refine ⟨(draft.settings, behind), ?_, by simp only [ended]⟩
    rw [opened, whole.2 ⟨collects, rfl⟩]
    rfl

/-! ## One field among the members -/

/-- The value of a field. -/
def get (settings : TestSettings) : Field → Option String
  | .bucket => settings.bucket
  | .filename => settings.filename
  | .key => settings.key

/-- The members with the name of a field. -/
def named (field : Field) (members : List Member) : List Member :=
  members.filter (·.name = field.name)

/-- The members with the name of a field hold this value: there is one that shows it, or, for no
value, there may be none at all. -/
def Holds (members : List Member) : Option String → Prop
  | some text => ∃ member, members = [member] ∧ Shows member.value (some text)
  | none => members = [] ∨ ∃ member, members = [member] ∧ Shows member.value none

/-- The members of an object hold the settings. Members with other names do not matter, and neither
does the order. -/
def Represents (members : List Member) (settings : TestSettings) : Prop :=
  ∀ field, Holds (named field members) (settings.get field)

theorem name_injective : Function.Injective Field.name := by
  intro field field' same
  have known : Field.ofName? field.name = some field := ofName?_eq_some_iff.2 rfl
  rw [same, ofName?_eq_some_iff.2 rfl] at known
  exact (Option.some.inj known).symm

theorem get?_set (draft : Draft) (field : Field) (value : Option String) (field' : Field) :
    (draft.set field value).get? field' =
      if field' = field then some value else draft.get? field' := by
  cases field <;> cases field' <;> rfl

theorem ext_get? {draft draft' : Draft} (h : ∀ field, draft.get? field = draft'.get? field) :
    draft = draft' := by
  cases draft
  cases draft'
  obtain ⟨rfl, rfl, rfl⟩ := And.intro (h .bucket) (And.intro (h .filename) (h .key))
  rfl

theorem get_settings (draft : Draft) (field : Field) :
    draft.settings.get field = (draft.get? field).join := by
  cases field <;> rfl

/-- What a reader makes of the members with the name of one field. -/
def Finds (start : Option (Option String)) : List Member → Option (Option String) → Prop
  | [], last => last = start
  | member :: members, last =>
    start = none ∧ ∃ shown, Shows member.value shown ∧ Finds (some shown) members last

/-- Members are collected field by field. -/
theorem collects_iff_finds {draft last : Draft} {members : List Member} :
    Collects draft members last ↔
      ∀ field, Finds (draft.get? field) (named field members) (last.get? field) := by
  induction members generalizing draft with
  | nil => exact ⟨fun same _ => same ▸ rfl, ext_get?⟩
  | cons member members ih =>
    rw [Collects]
    cases known : Field.ofName? member.name with
    | none =>
      have others (field : Field) : named field (member :: members) = named field members := by
        have : member.name ≠ field.name := fun same => by
          rw [ofName?_eq_some_iff.2 same] at known
          cases known
        simp [named, this]
      simp only [others]
      exact ih
    | some field =>
      have name := ofName?_eq_some_iff.1 known
      have own : named field (member :: members) = member :: named field members := by
        simp [named, name]
      have others {field' : Field} (other : field' ≠ field) :
          named field' (member :: members) = named field' members := by
        have : field.name ≠ field'.name := fun same => other (name_injective same.symm)
        simp [named, name, this]
      constructor
      · rintro ⟨fresh, shown, shows, rest⟩ field'
        have found := ih.1 rest field'
        rw [get?_set] at found
        by_cases same : field' = field
        · subst same
          rw [if_pos rfl] at found
          rw [own]
          exact ⟨fresh, shown, shows, found⟩
        · rw [if_neg same] at found
          rwa [others same]
      · intro finds
        have first := finds field
        rw [own] at first
        obtain ⟨fresh, shown, shows, rest⟩ := first
        refine ⟨fresh, shown, shows, ih.2 fun field' => ?_⟩
        rw [get?_set]
        by_cases same : field' = field
        · subst same
          rwa [if_pos rfl]
        · rw [if_neg same, ← others same]
          exact finds field'

/-- A field is found once or not at all. -/
theorem finds_none_iff {members : List Member} {last : Option (Option String)} :
    Finds none members last ↔ (members = [] ∧ last = none) ∨
      ∃ member shown, members = [member] ∧ Shows member.value shown ∧ last = some shown := by
  cases members with
  | nil => simp [Finds]
  | cons member more =>
    cases more with
    | nil => simp [Finds]
    | cons next more => simp [Finds]

theorem holds_iff_finds {members : List Member} {value : Option String} :
    Holds members value ↔ ∃ last, Finds none members last ∧ last.join = value := by
  simp only [finds_none_iff]
  cases value with
  | none =>
    constructor
    · rintro (absent | ⟨member, one, shows⟩)
      · exact ⟨none, .inl ⟨absent, rfl⟩, rfl⟩
      · exact ⟨some none, .inr ⟨member, none, one, shows, rfl⟩, rfl⟩
    · rintro ⟨_, ⟨absent, -⟩ | ⟨member, shown, one, shows, rfl⟩, same⟩
      · exact .inl absent
      · exact .inr ⟨member, one, same ▸ shows⟩
  | some text =>
    constructor
    · rintro ⟨member, one, shows⟩
      exact ⟨some (some text), .inr ⟨member, some text, one, shows, rfl⟩, rfl⟩
    · rintro ⟨_, ⟨_, rfl⟩ | ⟨member, shown, one, shows, rfl⟩, same⟩
      · cases same
      · exact ⟨member, one, same ▸ shows⟩

/-- **Collecting.** A reader makes of members the settings that they hold. -/
theorem collects_iff_represents {members : List Member} {settings : TestSettings} :
    (∃ draft, Collects .blank members draft ∧ draft.settings = settings) ↔
      Represents members settings := by
  simp only [Represents, holds_iff_finds, collects_iff_finds]
  have blank (field : Field) : Draft.blank.get? field = none := by cases field <;> rfl
  simp only [blank]
  constructor
  · rintro ⟨draft, finds, rfl⟩ field
    exact ⟨draft.get? field, finds field, (get_settings draft field).symm⟩
  · intro holds
    choose last finds shown using holds
    let draft : Draft := ⟨last .bucket, last .filename, last .key⟩
    have same (field : Field) : draft.get? field = last field := by cases field <;> rfl
    refine ⟨draft, fun field => same field ▸ finds field, ?_⟩
    have all (field : Field) : draft.settings.get field = settings.get field := by
      rw [get_settings, same, shown]
    cases settings
    exact congr (congr (congrArg TestSettings.mk (all .bucket)) (all .filename)) (all .key)

/-! ## The law -/

/-- What a file comes to that holds the text of an object with these members. -/
structure Decodes (files : Files) (path : String) (members : List Member) : Prop where
  /-- It gives the settings that the members hold, and no others. -/
  exactly : ∀ settings, ofFile files path = .ok settings ↔ Represents members settings
  /-- A field that stands twice is a failure. -/
  once : ∀ (field : Field) (member member' : Member), [member, member'].Sublist members →
    member.name = field.name → member'.name = field.name →
    ∃ failure, ofFile files path = .error (.json failure) ∧ (Error.json failure).kind = .fatal
  /-- So is a field that is neither null nor a string. -/
  text : ∀ field : Field, ∀ member ∈ members, member.name = field.name →
    member.value ≠ ['n', 'u', 'l', 'l'] → (∀ inside, member.value ≠ quotes inside) →
    ∃ failure, ofFile files path = .error (.json failure) ∧ (Error.json failure).kind = .fatal

section File

variable {files : Files} {path text : String} (found : files.readText path = .ok text)

include found

theorem ofFile_eq_ok_iff {settings : TestSettings} :
    ofFile files path = .ok settings ↔ decode text = .ok settings := by
  rw [ofFile, found]
  exact mapError_eq_ok_iff

/-- A text that holds no settings is a failure of its own kind. -/
theorem ofFile_error (none : ∀ settings, decode text ≠ .ok settings) :
    ∃ failure, ofFile files path = .error (.json failure) ∧
      (Error.json failure).kind = .fatal := by
  cases decoded : decode text with
  | ok settings => exact absurd decoded (none settings)
  | error failure =>
    refine ⟨failure, ?_, rfl⟩
    rw [ofFile, found]
    show (decode text).mapError Error.json = _
    rw [decoded]
    rfl

end File

theorem Represents.length_named {members : List Member} {settings : TestSettings}
    (represents : Represents members settings) (field : Field) :
    (named field members).length ≤ 1 := by
  have holds := represents field
  cases value : settings.get field with
  | none =>
    rw [value] at holds
    rcases holds with absent | ⟨_, one, -⟩
    · simp [absent]
    · simp [one]
  | some _ =>
    rw [value] at holds
    obtain ⟨_, one, -⟩ := holds
    simp [one]

theorem Represents.shows {members : List Member} {settings : TestSettings}
    (represents : Represents members settings) {field : Field} {member : Member}
    (listed : member ∈ members) (name : member.name = field.name) :
    Shows member.value (settings.get field) := by
  have among : member ∈ named field members := by simp [named, listed, name]
  have holds := represents field
  cases value : settings.get field with
  | none =>
    rw [value] at holds
    rcases holds with absent | ⟨other, one, shows⟩
    · simp [absent] at among
    · obtain rfl : member = other := by simpa [one] using among
      exact shows
  | some _ =>
    rw [value] at holds
    obtain ⟨other, one, shows⟩ := holds
    obtain rfl : member = other := by simpa [one] using among
    exact shows

/-- **Test settings in files.** They are read from every text of an object that holds them, however
it is written and whatever else is in it. -/
theorem ofFile_object {files : Files} {path text : String} {members : List Member}
    (found : files.readText path = .ok text) (form : ObjectForm members text.toList) :
    Decodes files path members := by
  have exactly {settings : TestSettings} :
      decode text = .ok settings ↔ Represents members settings :=
    (decode_eq_ok_iff form).trans collects_iff_represents
  constructor
  case exactly => exact fun settings => (ofFile_eq_ok_iff found).trans exactly
  case once =>
    intro field member member' both name name'
    refine ofFile_error found fun settings decoded => ?_
    have few := (exactly.1 decoded).length_named field
    have two := (both.filter (·.name = field.name)).length_le
    simp only [name, name', decide_true, List.filter_cons_of_pos, List.filter_nil,
      List.length_cons, List.length_nil] at two
    exact absurd (two.trans few) (by decide)
  case text =>
    intro field member listed name notNull notString
    refine ofFile_error found fun settings decoded => ?_
    have shows := (exactly.1 decoded).shows listed name
    cases value : settings.get field with
    | none =>
      rw [value] at shows
      exact notNull shows
    | some _ =>
      rw [value] at shows
      obtain ⟨inside, same, -⟩ := shows
      exact notString inside same

/-! ## A text with escapes -/

/-- A folder with one file. -/
def folderOf (text : String) : Files := [("t.json", .file text.toUTF8)]

theorem splitOn_plain : "t.json".splitOn "/" = ["t.json"] := by
  rw [String.splitOn, if_neg (by decide)]
  iterate 6 rw [String.splitOnAux, if_neg (by decide), if_neg (by decide)]
  rw [String.splitOnAux, if_pos (by decide)]
  decide

theorem readText_folderOf (text : String) : (folderOf text).readText "t.json" = .ok text := by
  have bytes : (folderOf text).read "t.json" = .ok text.toUTF8 := by
    have solid : "t.json".contains '\x00' = false := by cbv
    rw [Files.read, solid, if_neg (by decide), if_neg (by decide), if_neg (by decide),
      splitOn_plain]
    rfl
  have decoded : String.fromUTF8? text.toUTF8 = some text := by
    rw [String.fromUTF8?, String.toUTF8_eq_toByteArray, dif_pos text.isValidUTF8]
    rfl
  rw [Files.readText, bytes]
  simp only [decoded]

/-- A null, a nested value with another name, and a field with escapes in its name and its value. -/
def escapedMembers : List Member :=
  [{ name := "Key", before := [' '], key := "Key".toList, beforeColon := [' '],
     behindColon := ['\t'], value := "null".toList, behind := ['\n'] },
   { name := "Tags", before := [], key := "Tags".toList, beforeColon := [], behindColon := [' '],
     value := "[\x7b\x7d,\"\\udead\"]".toList, behind := [] },
   { name := "Bucket", before := ['\n'], key := "\\u0042ucket".toList, beforeColon := [],
     behindColon := [], value := "\"\\ud83E\\udd80\"".toList, behind := [] }]

/-- These members as they are written. -/
def escapedText : String :=
  "\x7b \"Key\" :\tnull\n,\"Tags\": [\x7b\x7d,\"\\udead\"]," ++
    "\n\"\\u0042ucket\":\"\\ud83E\\udd80\"\x7d"

theorem tags_valueForm : ValueForm "[\x7b\x7d,\"\\udead\"]".toList := by
  have blanks : Blanks [] := by decide
  have object : ValueForm ['\x7b', '\x7d'] := .empty .object blanks
  have surrogate : Inside "\\udead".toList :=
    .code (.digits (i := 13) (j := 14) (k := 10) (l := 13) (by decide) (by decide) (by decide)
      (by decide)) .nil
  have items : ∀ i ∈ [⟨[], [], [], "\x7b\x7d".toList, []⟩, ⟨[], [], [], "\"\\udead\"".toList, []⟩],
      Item.Placed .list i ∧ ValueForm i.value := by
    have placed (value : List Char) : Item.Placed .list ⟨[], [], [], value, []⟩ :=
      ⟨blanks, .none, blanks, blanks⟩
    simp only [List.forall_mem_cons]
    exact ⟨⟨placed _, object⟩, ⟨placed _, .string surrogate⟩, nofun⟩
  exact .filled .list (fun i hi => (items i hi).1) (fun i hi => (items i hi).2)

theorem crab_spells : Spells "🦀".toList "\\ud83E\\udd80".toList := by
  have crab : CharForm '🦀' "\\ud83E\\udd80".toList :=
    .pair
      (.digits (i := 13) (j := 8) (k := 3) (l := 14) (by decide) (by decide) (by decide)
        (by decide))
      (.digits (i := 13) (j := 13) (k := 8) (l := 0) (by decide) (by decide) (by decide)
        (by decide))
      ⟨by decide, by decide⟩ ⟨by decide, by decide⟩ (by decide)
  exact .cons crab .nil

theorem bucket_spells : Spells "Bucket".toList "\\u0042ucket".toList := by
  have first : CharForm 'B' "\\u0042".toList :=
    .code (.digits (i := 0) (j := 0) (k := 4) (l := 2) (by decide) (by decide) (by decide)
      (by decide))
  have rest : Spells "ucket".toList "ucket".toList := spells_of_plain (by decide)
  exact .cons first rest

theorem escapedText_objectForm : ObjectForm escapedMembers escapedText.toList := by
  refine ⟨?_, [], [], [], by decide, by decide, by decide, by decide⟩
  simp only [escapedMembers, List.forall_mem_cons]
  refine ⟨?key, ?tags, ?bucket, nofun⟩
  case key =>
    exact ⟨by decide, spells_of_plain (by decide), by decide, by decide, .null, by decide⟩
  case tags =>
    exact ⟨by decide, spells_of_plain (by decide), by decide, by decide, tags_valueForm, by decide⟩
  case bucket =>
    exact ⟨by decide, bucket_spells, by decide, by decide, .string crab_spells.inside, by decide⟩

/-- What is not a field is passed over, even with a surrogate that is alone. -/
theorem ofFile_object_escaped : ObjectForm escapedMembers escapedText.toList ∧
    ofFile (folderOf escapedText) "t.json" =
      .ok { bucket := some "🦀", filename := none, key := none } := by
  refine ⟨escapedText_objectForm, ?_⟩
  refine ((ofFile_object (readText_folderOf escapedText) escapedText_objectForm).exactly _).2 ?_
  intro field
  cases field with
  | bucket => exact ⟨_, rfl, _, rfl, crab_spells⟩
  | filename => exact .inl rfl
  | key => exact .inr ⟨_, rfl, rfl⟩

end TestSettings

end CloudOps
