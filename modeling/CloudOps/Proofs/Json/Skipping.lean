import CloudOps.Proofs.Json.RoundTrip

/-!
# Values are passed over

* `skipNumber_numberForm`: a number is passed over, up to a character that may follow a value.
* `skipToken_opening`, …: the first token of a value.
* `Skips`: a value is passed over, whatever brackets are open around it. `skipFrom_items` says it of
  the items between two brackets, `skips_valueForm` of every value.
-/

namespace CloudOps

namespace Json

/-! ## Blanks -/

theorem isBlank_iff {c : Char} : isBlank c = true ↔ c ∈ [' ', '\n', '\t', '\r'] := by
  simp [isBlank, or_assoc]

section Blanks

variable {gap : List Char} (blanks : Blanks gap)

include blanks

theorem skipBlanks_append (text : List Char) : skipBlanks (gap ++ text) = skipBlanks text :=
  List.dropWhile_append_of_pos fun c h => isBlank_iff.2 (blanks c h)

theorem skipBlanks_append_cons {c : Char} (solid : isBlank c = false) (rest : List Char) :
    skipBlanks (gap ++ c :: rest) = c :: rest := by
  rw [skipBlanks_append blanks, skipBlanks_of_not_blank solid]

theorem readColon_append (rest : List Char) : readColon (gap ++ ':' :: rest) = .ok rest := by
  rw [readColon, skipBlanks_append_cons blanks rfl]
  rfl

theorem Blanks.append {more : List Char} (blanks' : Blanks more) : Blanks (gap ++ more) :=
  List.forall_mem_append.2 ⟨blanks, blanks'⟩

end Blanks

/-- The text does not go on with a character that could belong to a value in front of it. -/
def ValueEnds (text : List Char) : Prop :=
  ∀ c more, text = c :: more → c ∈ [' ', '\n', '\t', '\r', ',', ']', '\x7d']

theorem valueEnds_cons {c : Char} (h : c ∈ [',', ']', '\x7d']) (rest : List Char) :
    ValueEnds (c :: rest) := by
  rintro _ _ ⟨⟩
  exact List.mem_append_right [' ', '\n', '\t', '\r'] h

theorem ValueEnds.behind {rest : List Char} (ends : ValueEnds rest) {gap : List Char}
    (blanks : Blanks gap) : ValueEnds (gap ++ rest) := by
  cases gap with
  | nil => exact ends
  | cons c gap =>
    rintro _ _ ⟨⟩
    exact List.mem_append_left [',', ']', '\x7d'] (blanks c List.mem_cons_self)

/-! ## Numbers -/

/-- The text does not go on with a digit. -/
def NoDigit (text : List Char) : Prop := ∀ c more, text = c :: more → Text.isDigit c = false

theorem ValueEnds.noDigit {rest : List Char} (ends : ValueEnds rest) : NoDigit rest := by
  intro c more same
  have digits : [' ', '\n', '\t', '\r', ',', ']', '\x7d'].all (Text.isDigit · = false) := by decide
  exact of_decide_eq_true (List.all_eq_true.1 digits c (ends c more same))

theorem PowerForm.noDigit {power rest : List Char} (form : PowerForm power)
    (ends : ValueEnds rest) : NoDigit (power ++ rest) := by
  cases form with
  | absent => exact ends.noDigit
  | power marked _ =>
    rintro _ _ ⟨⟩
    rcases marked with rfl | rfl <;> rfl

theorem FractionForm.noDigit {fraction power rest : List Char} (form : FractionForm fraction)
    (form' : PowerForm power) (ends : ValueEnds rest) : NoDigit (fraction ++ (power ++ rest)) := by
  cases form with
  | absent => exact form'.noDigit ends
  | digits _ =>
    rintro _ _ ⟨⟩
    rfl

theorem skipDigits_append {digits rest : List Char} (all : ∀ c ∈ digits, Text.isDigit c = true)
    (stop : NoDigit rest) : skipDigits (digits ++ rest) = rest := by
  rw [skipDigits, List.dropWhile_append_of_pos all]
  cases rest with
  | nil => rfl
  | cons c more => rw [List.dropWhile_cons_of_neg (by simp [stop c more rfl])]

theorem skipExponent_append {sign : Text.Sign} {digits rest : List Char}
    (solid : Text.IsDigits digits) (stop : NoDigit rest) :
    skipExponent (sign.chars ++ (digits ++ rest)) = .ok rest := by
  obtain ⟨nonempty, all⟩ := solid
  obtain ⟨c, more, rfl⟩ := List.exists_cons_of_ne_nil nonempty
  obtain ⟨digit, others⟩ := List.forall_mem_cons.1 all
  have unsigned : (readSign (sign.chars ++ (c :: more ++ rest))).2 = c :: (more ++ rest) := by
    cases sign with
    | plus | minus => rfl
    | none =>
      have : c ≠ '+' ∧ c ≠ '-' := by constructor <;> rintro rfl <;> cases digit
      simp [Text.Sign.chars, readSign, this]
  simp only [skipExponent, unsigned, digit, if_true, skipDigits_append others stop]

theorem skipTail_append {power rest : List Char} (form : PowerForm power) (ends : ValueEnds rest) :
    skipTail (power ++ rest) = .ok rest := by
  cases form with
  | absent =>
    cases rest with
    | nil => rfl
    | cons c more =>
      have others : [' ', '\n', '\t', '\r', ',', ']', '\x7d'].all fun c =>
          ¬ (c = 'e' ∨ c = 'E') := by decide
      exact if_neg (of_decide_eq_true (List.all_eq_true.1 others c (ends c more rfl)))
  | power marked solid =>
    rw [List.cons_append, List.append_assoc, skipTail, if_pos marked]
    exact skipExponent_append solid ends.noDigit

theorem skipAfterWhole_append {fraction power rest : List Char} (form : FractionForm fraction)
    (form' : PowerForm power) (ends : ValueEnds rest) :
    skipAfterWhole (fraction ++ (power ++ rest)) = .ok rest := by
  cases form with
  | absent =>
    have pointless : ∀ more, power ++ rest ≠ '.' :: more := by
      intro more same
      cases form' with
      | absent => exact absurd (ends _ _ same) (by decide)
      | power marked _ =>
        cases same
        rcases marked with h | h <;> cases h
    rw [List.nil_append, skipAfterWhole]
    · exact skipTail_append form' ends
    · exact pointless
  | @digits digits solid =>
    have some : (List.takeWhile Text.isDigit (digits ++ (power ++ rest))).isEmpty = false := by
      obtain ⟨c, more, rfl⟩ := List.exists_cons_of_ne_nil solid.1
      simp [solid.2 c List.mem_cons_self]
    rw [List.cons_append, skipAfterWhole, some, if_neg (by decide),
      skipDigits_append solid.2 (form'.noDigit ends)]
    exact skipTail_append form' ends

theorem skipUnsigned_append {text rest : List Char} (form : UnsignedForm text)
    (ends : ValueEnds rest) : skipUnsigned (text ++ rest) = .ok rest := by
  cases form with
  | @parts whole fraction power first second third =>
    rw [List.append_assoc, List.append_assoc]
    have stop : NoDigit (fraction ++ (power ++ rest)) := second.noDigit third ends
    have tail := skipAfterWhole_append second third ends
    generalize fraction ++ (power ++ rest) = after at stop tail
    rcases first with rfl | ⟨⟨nonempty, all⟩, noZero⟩
    · cases after with
      | nil => exact tail
      | cons c more =>
        show (if Text.isDigit c then _ else skipAfterWhole (c :: more)) = _
        rw [stop c more rfl]
        exact tail
    · obtain ⟨c, more, rfl⟩ := List.exists_cons_of_ne_nil nonempty
      obtain ⟨digit, others⟩ := List.forall_mem_cons.1 all
      have notZero : c ≠ '0' := by simpa using noZero
      rw [List.cons_append, skipUnsigned.eq_def]
      simp only [if_neg notZero, if_pos digit, skipDigits_append others stop]
      exact tail

theorem UnsignedForm.head {text : List Char} (form : UnsignedForm text) :
    ∃ c more, text = c :: more ∧ Text.isDigit c = true := by
  cases form with
  | parts first _ _ =>
    rcases first with rfl | ⟨⟨nonempty, all⟩, -⟩
    · exact ⟨_, _, rfl, rfl⟩
    · obtain ⟨c, more, rfl⟩ := List.exists_cons_of_ne_nil nonempty
      exact ⟨_, _, rfl, all c List.mem_cons_self⟩

theorem NumberForm.head {text : List Char} (form : NumberForm text) :
    ∃ c more, text = c :: more ∧ (c = '-' ∨ Text.isDigit c = true) := by
  cases form with
  | positive form =>
    obtain ⟨c, more, same, digit⟩ := form.head
    exact ⟨c, more, same, .inr digit⟩
  | negative _ => exact ⟨_, _, rfl, .inl rfl⟩

/-- **Numbers.** -/
theorem skipNumber_numberForm {text rest : List Char} (form : NumberForm text)
    (ends : ValueEnds rest) : skipNumber (text ++ rest) = .ok rest := by
  cases form with
  | negative form => exact skipUnsigned_append form ends
  | positive form =>
    obtain ⟨c, more, rfl, digit⟩ := form.head
    have unsigned : ∀ after, c :: more ++ rest ≠ '-' :: after := by
      rintro after ⟨⟩
      cases digit
    rw [skipNumber]
    · exact skipUnsigned_append form ends
    · exact unsigned

/-! ## The first token of a value -/

theorem skipToken_number {text rest : List Char} (form : NumberForm text) (ends : ValueEnds rest) :
    skipToken (text ++ rest) = .ok (none, rest) := by
  have skipped := skipNumber_numberForm form ends
  obtain ⟨c, more, rfl, head⟩ := form.head
  have word {d : Char} (h : d ≠ '-' ∧ Text.isDigit d = false) : c ≠ d := by
    rintro rfl
    rcases head with rfl | digit
    · exact h.1 rfl
    · rw [h.2] at digit
      cases digit
  rw [List.cons_append] at skipped ⊢
  rw [skipToken, if_neg (word (by decide)), if_neg (word (by decide)), if_neg (word (by decide)),
    if_pos head, skipped]
  rfl

theorem skipToken_string {inside : List Char} (form : Inside inside) (rest : List Char) :
    skipToken (quotes inside ++ rest) = .ok (none, rest) := by
  have skipped := skipString_inside form rest
  rw [quotes, List.cons_append, List.append_assoc, List.singleton_append]
  show (skipString (inside ++ '"' :: rest)).map _ = _
  rw [skipped]
  rfl

theorem skipToken_opening (bracket : Bracket) (rest : List Char) :
    skipToken (bracket.opening :: rest) = .ok (some bracket, rest) := by
  cases bracket <;> rfl

/-- A value begins with a character that is no blank and closes nothing. -/
theorem ValueForm.opens {text : List Char} (form : ValueForm text) : Opens text := by
  cases form with
  | null | isTrue | isFalse | string _ => exact ⟨_, _, rfl, rfl, by decide⟩
  | empty bracket _ | filled bracket _ _ =>
    cases bracket <;> exact ⟨_, _, rfl, rfl, by decide⟩
  | number form =>
    obtain ⟨c, more, rfl, head⟩ := form.head
    refine ⟨c, more, rfl, ?_, ?_⟩
    · rw [Bool.eq_false_iff]
      intro blank
      have others : [' ', '\n', '\t', '\r'].all fun c => c ≠ '-' ∧ Text.isDigit c = false := by
        decide
      obtain ⟨minus, digit⟩ := of_decide_eq_true (List.all_eq_true.1 others c (isBlank_iff.1 blank))
      rcases head with h | h
      · exact minus h
      · rw [digit] at h
        cases h
    · rintro rfl
      rcases head with h | h <;> cases h

/-! ## One step among nested values -/

section Steps

variable {bracket : Bracket} {brackets outer : List Bracket} {text rest more item : List Char}

theorem skipFrom_token (h : skipToken (skipBlanks text) = .ok (none, rest)) :
    skipFrom .value brackets text = skipFrom .closed brackets rest := by
  rw [skipFrom]
  split <;> simp_all

theorem skipFrom_opening (h : skipToken (skipBlanks text) = .ok (some bracket, rest)) :
    skipFrom .value brackets text = skipFrom .opened (bracket :: brackets) rest := by
  rw [skipFrom]
  split <;> simp_all

theorem skipFrom_opened_closing (h : skipBlanks text = bracket.closing :: rest) :
    skipFrom .opened (bracket :: outer) text = skipFrom .closed outer rest := by
  rw [skipFrom]
  split <;> simp_all

theorem skipFrom_opened_item {c : Char} (h : skipBlanks text = c :: more)
    (other : c ≠ bracket.closing) (key : skipKey bracket (c :: more) = .ok item) :
    skipFrom .opened (bracket :: outer) text = skipFrom .value (bracket :: outer) item := by
  conv_lhs => rw [skipFrom]
  split
  case h_1 blank => simp_all
  case h_2 d after same =>
    rw [h] at same
    cases same
    rw [if_neg other]
    split <;> simp_all

theorem skipFrom_closed_comma (h : skipBlanks text = ',' :: more)
    (key : skipKey bracket more = .ok item) :
    skipFrom .closed (bracket :: outer) text = skipFrom .value (bracket :: outer) item := by
  conv_lhs => rw [skipFrom]
  split
  case h_1 blank => simp_all
  case h_2 d after same =>
    rw [h] at same
    cases same
    rw [if_pos rfl]
    split <;> simp_all

theorem skipFrom_closed_closing (h : skipBlanks text = bracket.closing :: rest) :
    skipFrom .closed (bracket :: outer) text = skipFrom .closed outer rest := by
  have other : bracket.closing ≠ ',' := by cases bracket <;> decide
  conv_lhs => rw [skipFrom]
  split <;> simp_all

end Steps

/-! ## Values -/

/-- The value is passed over, whatever brackets are open around it. -/
def Skips (value : List Char) : Prop :=
  ∀ {gap rest : List Char} (brackets : List Bracket), Blanks gap → ValueEnds rest →
    skipFrom .value brackets (gap ++ (value ++ rest)) = skipFrom .closed brackets rest

/-- A value of one token. -/
theorem skips_of_token {value : List Char} (opens : Opens value)
    (token : ∀ rest, ValueEnds rest → skipToken (value ++ rest) = .ok (none, rest)) :
    Skips value := by
  intro gap rest brackets blanks ends
  refine skipFrom_token ?_
  obtain ⟨c, more, rfl, solid, -⟩ := opens
  rw [List.cons_append, skipBlanks_append_cons blanks solid, ← List.cons_append]
  exact token rest ends

/-- A key is passed over up to its value. -/
theorem skipKey_key {before inside blanks : List Char} (blank : Blanks before)
    (form : Inside inside) (blank' : Blanks blanks) (rest : List Char) :
    skipKey .object (before ++ (quotes inside ++ (blanks ++ [':']) ++ rest)) = .ok rest := by
  have key : before ++ (quotes inside ++ (blanks ++ [':']) ++ rest) =
      before ++ '"' :: (inside ++ '"' :: (blanks ++ ':' :: rest)) := by
    simp [quotes]
  rw [key]
  simp only [skipKey, skipBlanks_append_cons blank (c := '"') rfl, if_true, skipString_inside form]
  exact readColon_append blank' rest

section Items

variable {bracket : Bracket} {outer : List Bracket} {item : Item} {rest : List Char}

theorem Item.text_append (item : Item) (rest : List Char) :
    item.text ++ rest =
      item.before ++ (item.lead ++ (item.gap ++ (item.value ++ (item.behind ++ rest)))) := by
  simp [Item.text]

/-- The first item behind a bracket. -/
theorem skipFrom_first (placed : item.Placed bracket) (opens : Opens item.value)
    (skips : Skips item.value) (ends : ValueEnds rest) :
    skipFrom .opened (bracket :: outer) (item.text ++ rest) =
      skipFrom .closed (bracket :: outer) (item.behind ++ rest) := by
  obtain ⟨before, lead, gap, behind⟩ := placed
  have ends' := ends.behind behind
  rw [item.text_append]
  generalize item.lead = leadText at lead
  cases lead with
  | none =>
    obtain ⟨c, more, written, solid, notClosing⟩ := opens
    have start : skipBlanks
        (item.before ++ ([] ++ (item.gap ++ (item.value ++ (item.behind ++ rest))))) =
        c :: (more ++ (item.behind ++ rest)) := by
      rw [List.nil_append, skipBlanks_append before, written, List.cons_append,
        skipBlanks_append_cons gap solid]
    have noKey : skipKey .list (c :: (more ++ (item.behind ++ rest))) =
        .ok ([] ++ (item.value ++ (item.behind ++ rest))) := by
      rw [written]
      rfl
    have other : c ≠ Bracket.list.closing := notClosing
    rw [skipFrom_opened_item start other noKey]
    exact skips _ (List.forall_mem_nil _) ends'
  | @key inside blanks form blank =>
    have own := skipKey_key (List.forall_mem_nil _) form blank
      (item.gap ++ (item.value ++ (item.behind ++ rest)))
    have start : skipBlanks (item.before ++ (quotes inside ++ (blanks ++ [':']) ++
        (item.gap ++ (item.value ++ (item.behind ++ rest))))) =
        '"' :: (inside ++ ['"'] ++ (blanks ++ [':']) ++
          (item.gap ++ (item.value ++ (item.behind ++ rest)))) :=
      skipBlanks_append_cons before rfl _
    rw [skipFrom_opened_item start (by decide) own]
    exact skips _ gap ends'

/-- An item behind a comma. -/
theorem skipFrom_next (placed : item.Placed bracket) (skips : Skips item.value)
    (ends : ValueEnds rest) {behind : List Char} (blank : Blanks behind) :
    skipFrom .closed (bracket :: outer) (behind ++ ',' :: (item.text ++ rest)) =
      skipFrom .closed (bracket :: outer) (item.behind ++ rest) := by
  have comma := skipBlanks_append_cons blank (c := ',') rfl (item.text ++ rest)
  obtain ⟨before, lead, gap, behind⟩ := placed
  have ends' := ends.behind behind
  rw [item.text_append] at comma ⊢
  generalize item.lead = leadText at lead comma
  cases lead with
  | none =>
    rw [skipFrom_closed_comma comma rfl, List.nil_append, ← List.append_assoc]
    exact skips _ (before.append gap) ends'
  | key form blank =>
    rw [skipFrom_closed_comma comma (skipKey_key before form blank _)]
    exact skips _ gap ends'

/-- What follows an item. -/
theorem valueEnds_commaLed (bracket : Bracket) (texts : List (List Char)) (rest : List Char) :
    ValueEnds (commaLed texts ++ bracket.closing :: rest) := by
  cases texts with
  | nil => cases bracket <;> exact valueEnds_cons (by decide) rest
  | cons text texts => exact valueEnds_cons (by decide) _

/-- **Items.** They are passed over up to the closing bracket. -/
theorem skipFrom_items {items : List Item} (placed : ∀ i ∈ items, i.Placed bracket)
    (skips : ∀ i ∈ items, Skips i.value) {behind : List Char} (blank : Blanks behind) :
    skipFrom .closed (bracket :: outer)
        (behind ++ (commaLed (items.map Item.text) ++ bracket.closing :: rest)) =
      skipFrom .closed outer rest := by
  induction items generalizing behind with
  | nil =>
    have solid : isBlank bracket.closing = false := by cases bracket <;> rfl
    exact skipFrom_closed_closing (skipBlanks_append_cons blank solid rest)
  | cons item items ih =>
    obtain ⟨own, others⟩ := List.forall_mem_cons.1 placed
    obtain ⟨first, more⟩ := List.forall_mem_cons.1 skips
    have split : commaLed ((item :: items).map Item.text) ++ bracket.closing :: rest =
        ',' :: (item.text ++ (commaLed (items.map Item.text) ++ bracket.closing :: rest)) := by
      simp [commaLed]
    rw [split, skipFrom_next own first (valueEnds_commaLed bracket _ rest) blank]
    exact ih others more own.behind

end Items

/-- **Values** are passed over, as deep as they are nested. -/
theorem skips_valueForm {value : List Char} (form : ValueForm value) : Skips value := by
  induction form with
  | null | isTrue | isFalse =>
    exact skips_of_token ⟨_, _, rfl, rfl, by decide⟩ fun _ _ => rfl
  | number form =>
    exact skips_of_token (ValueForm.number form).opens fun _ ends => skipToken_number form ends
  | string form =>
    exact skips_of_token (ValueForm.string form).opens fun rest _ => skipToken_string form rest
  | empty bracket blank =>
    intro gap rest brackets blanks _
    have solid : isBlank bracket.opening = false := by cases bracket <;> rfl
    have solid' : isBlank bracket.closing = false := by cases bracket <;> rfl
    rw [List.cons_append, List.append_assoc, List.singleton_append,
      skipFrom_opening (by rw [skipBlanks_append_cons blanks solid]; exact skipToken_opening _ _)]
    exact skipFrom_opened_closing (skipBlanks_append_cons blank solid' rest)
  | @filled bracket item items placed values ih =>
    intro gap rest brackets blanks _
    obtain ⟨own, others⟩ := List.forall_mem_cons.1 placed
    obtain ⟨value, _⟩ := List.forall_mem_cons.1 values
    obtain ⟨first, more⟩ := List.forall_mem_cons.1 ih
    have solid : isBlank bracket.opening = false := by cases bracket <;> rfl
    rw [List.cons_append, List.append_assoc, List.append_assoc, List.singleton_append,
      skipFrom_opening (by rw [skipBlanks_append_cons blanks solid]; exact skipToken_opening _ _),
      skipFrom_first own value.opens first (valueEnds_commaLed bracket _ rest)]
    exact skipFrom_items others more own.behind

theorem skipValue_valueForm {value gap rest : List Char} (form : ValueForm value)
    (blanks : Blanks gap) (ends : ValueEnds rest) :
    skipValue (gap ++ (value ++ rest)) = .ok rest := by
  rw [skipValue, skips_valueForm form [] blanks ends, skipFrom]
  simp

end Json

end CloudOps
