import CloudOps.Proofs.Json.Spelling
import Mathlib.Algebra.BigOperators.Group.List.Basic
import Mathlib.Tactic.IntervalCases

/-!
# What is written is read back

A written value is read back whatever follows it, so the lemmas about the parts of a value combine.

* `readString_behindQuote`: strings, character by character.
* `readItems_writeItems`, `readMembers_writeMembers`: the items of an array and the members of an
  object.
* `Readable depth value`: the value is read back. `Fits depth value`: it holds no numbers and is
  nested at most so deep. `Fits.readable`: then it is read back.
* `parse_render`: the value that the compact text of a value holds. `render_injective`: values with
  the same text are the same.
-/

namespace CloudOps

namespace Json

/-! ## Strings -/

/-- The character is written as an escape. -/
def Escaped (c : Char) : Prop := c = '"' ∨ c = '\\' ∨ c.toNat < 0x20

/-- An escape is read back behind its backslash. -/
theorem writeChar_of_escaped {c : Char} (escaped : Escaped c) :
    ∃ text, writeChar c = '\\' :: text ∧ ∀ rest, readEscape (text ++ rest) = .ok (c, rest) := by
  rcases escaped with rfl | rfl | control
  · exact ⟨_, rfl, fun _ => rfl⟩
  · exact ⟨_, rfl, fun _ => rfl⟩
  · obtain ⟨n, small, rfl⟩ : ∃ n, n < 0x20 ∧ c = Char.ofNat n :=
      ⟨c.toNat, control, (Char.ofNat_toNat c).symm⟩
    clear control
    -- the control characters one by one: some have escapes of their own
    interval_cases n <;> exact ⟨_, rfl, fun _ => rfl⟩

theorem writeChar_of_not_escaped {c : Char} (plain : ¬ Escaped c) : writeChar c = [c] := by
  simp only [Escaped, not_or] at plain
  obtain ⟨quote, slash, printable⟩ := plain
  have control {d : Char} (h : d.toNat < 0x20) : c ≠ d := by
    rintro rfl
    exact printable h
  rw [writeChar, if_neg quote, if_neg slash, if_neg (control (by decide)),
    if_neg (control (by decide)), if_neg (control (by decide)), if_neg (control (by decide)),
    if_neg (control (by decide)), if_neg printable]

/-- **Characters.** Whatever a character is written as, it is read back. -/
theorem readStringFrom_writeChar (c : Char) (before rest : List Char) :
    readStringFrom before (writeChar c ++ rest) = readStringFrom (c :: before) rest := by
  by_cases escaped : Escaped c
  · obtain ⟨text, written, escape⟩ := writeChar_of_escaped escaped
    rw [written, List.cons_append, readStringFrom_backslash, escape]
    rfl
  · rw [writeChar_of_not_escaped escaped, List.singleton_append]
    simp only [Escaped, not_or, Nat.not_lt] at escaped
    exact readStringFrom_plain ⟨escaped.1, escaped.2.1, escaped.2.2⟩ before rest

theorem readStringFrom_writeChars (text before rest : List Char) :
    readStringFrom before (text.flatMap writeChar ++ '"' :: rest) =
      .ok (String.ofList (before.reverse ++ text), rest) := by
  induction text generalizing before with
  | nil =>
    rw [List.append_nil, List.flatMap_nil, List.nil_append, readStringFrom, if_pos rfl]
  | cons c text ih =>
    rw [List.flatMap_cons, List.append_assoc, readStringFrom_writeChar, ih, List.reverse_cons,
      List.append_assoc, List.singleton_append]

/-- A string as it is written, behind its opening quote. -/
def behindQuote (text : String) : List Char := text.toList.flatMap writeChar ++ ['"']

/-- **Strings.** A string is read back behind its opening quote. -/
theorem readString_behindQuote (text : String) (rest : List Char) :
    readString (behindQuote text ++ rest) = .ok (text, rest) := by
  rw [readString, behindQuote, List.append_assoc, List.singleton_append, readStringFrom_writeChars,
    List.reverse_nil, List.nil_append, String.ofList_toList]

/-! ## Values -/

/-- The text begins with a character that is no blank and does not close an array. -/
def Opens (text : List Char) : Prop :=
  ∃ c more, text = c :: more ∧ isBlank c = false ∧ c ≠ ']'

/-- The value is read back, whatever follows it. -/
structure Readable (depth : Nat) (value : Json) : Prop where
  opens : Opens value.write
  reads : ∀ rest, readValue depth (value.write ++ rest) = .ok (value, rest)

theorem skipBlanks_of_not_blank {c : Char} (h : isBlank c = false) (rest : List Char) :
    skipBlanks (c :: rest) = c :: rest := by
  simp [skipBlanks, h]

theorem readable_null (depth : Nat) : Readable depth .null :=
  ⟨⟨_, _, rfl, rfl, by decide⟩, fun rest => by rw [readValue.eq_def]; rfl⟩

theorem readable_boolean (depth : Nat) (value : Bool) : Readable depth (.boolean value) := by
  cases value <;> exact ⟨⟨_, _, rfl, rfl, by decide⟩, fun rest => by rw [readValue.eq_def]; rfl⟩

theorem readable_string (depth : Nat) (text : String) : Readable depth (.string text) := by
  refine ⟨⟨_, _, rfl, rfl, by decide⟩, fun rest => ?_⟩
  rw [readValue.eq_def]
  show Except.map _ (readString (behindQuote text ++ rest)) = _
  rw [readString_behindQuote]
  rfl

/-- There are no more parts than characters, if no part is empty. -/
theorem length_le_flatMap {α : Type} {f : α → List Char} (nonempty : ∀ x, f x ≠ [])
    (parts : List α) : parts.length ≤ (parts.flatMap f).length := by
  rw [List.length_flatMap, ← List.length_map fun x => (f x).length]
  refine List.length_le_sum_of_one_le _ fun n hn => ?_
  obtain ⟨x, -, rfl⟩ := List.mem_map.1 hn
  exact List.length_pos_iff.2 (nonempty x)

/-! ## Arrays -/

/-- The items of an array behind its first item. -/
def moreItems (items : List Json) : List Char := items.flatMap fun item => ',' :: item.write

theorem writeItems_cons (item : Json) (items : List Json) :
    writeItems (item :: items) = item.write ++ moreItems items := by
  induction items generalizing item with
  | nil => rw [writeItems, moreItems, List.flatMap_nil, List.append_nil]
  | cons next items ih =>
    rw [writeItems, ih, moreItems, moreItems, List.flatMap_cons, List.cons_append]

theorem nextItem_of_close (first : Bool) (rest : List Char) :
    nextItem first (']' :: rest) = .ok none := rfl

theorem nextItem_of_opens {text : List Char} (opens : Opens text) (rest : List Char) :
    nextItem true (text ++ rest) = .ok (some (text ++ rest)) ∧
      nextItem false (',' :: (text ++ rest)) = .ok (some (text ++ rest)) := by
  obtain ⟨c, more, rfl, blank, close⟩ := opens
  have solid := skipBlanks_of_not_blank blank (more ++ rest)
  constructor
  · simp [nextItem, solid]
  · simp [nextItem, skipBlanks_of_not_blank (c := ',') rfl, solid, close]

section Items

variable {depth count : Nat} {items : List Json}

/-- One item. -/
theorem readItems_step {item : Json} (readable : Readable depth item) {before : List Json}
    {text after : List Char}
    (next : nextItem before.isEmpty text = .ok (some (item.write ++ after))) :
    readItems (readValue depth) (count + 1) before text =
      readItems (readValue depth) count (item :: before) after := by
  rw [readItems, next]
  simp only [bind, Except.bind, readable.reads]

/-- The items behind the first one. -/
theorem readItems_moreItems (readable : ∀ item ∈ items, Readable depth item)
    (enough : items.length < count) {before : List Json} (later : before ≠ []) (rest : List Char) :
    readItems (readValue depth) count before (moreItems items ++ ']' :: rest) =
      .ok (before.reverse ++ items, rest) := by
  induction items generalizing count before with
  | nil =>
    obtain ⟨count, rfl⟩ := Nat.exists_eq_succ_of_ne_zero (Nat.ne_zero_of_lt enough)
    rw [moreItems, List.flatMap_nil, List.nil_append, readItems, nextItem_of_close, List.append_nil]
    rfl
  | cons item items ih =>
    obtain ⟨count, rfl⟩ := Nat.exists_eq_succ_of_ne_zero (Nat.ne_zero_of_lt enough)
    obtain ⟨own, others⟩ := List.forall_mem_cons.1 readable
    have text : moreItems (item :: items) ++ ']' :: rest =
        ',' :: (item.write ++ (moreItems items ++ ']' :: rest)) := by
      simp [moreItems]
    have next : nextItem before.isEmpty (',' :: (item.write ++ (moreItems items ++ ']' :: rest))) =
        .ok (some (item.write ++ (moreItems items ++ ']' :: rest))) := by
      have notFirst : before.isEmpty = false := by simpa using later
      rw [notFirst, (nextItem_of_opens own.opens _).2]
    rw [text, readItems_step own next,
      ih others (Nat.lt_of_succ_lt_succ enough) (List.cons_ne_nil _ _)]
    simp

/-- **Items.** The items of an array are read back up to its closing bracket. -/
theorem readItems_writeItems (readable : ∀ item ∈ items, Readable depth item)
    (enough : items.length < count) (rest : List Char) :
    readItems (readValue depth) count [] (writeItems items ++ ']' :: rest) = .ok (items, rest) := by
  obtain ⟨count, rfl⟩ := Nat.exists_eq_succ_of_ne_zero (Nat.ne_zero_of_lt enough)
  cases items with
  | nil => rfl
  | cons item items =>
    obtain ⟨own, others⟩ := List.forall_mem_cons.1 readable
    have next : nextItem ([] : List Json).isEmpty (item.write ++ (moreItems items ++ ']' :: rest)) =
        .ok (some (item.write ++ (moreItems items ++ ']' :: rest))) :=
      (nextItem_of_opens own.opens _).1
    rw [writeItems_cons, List.append_assoc, readItems_step own next,
      readItems_moreItems others (Nat.lt_of_succ_lt_succ enough) (List.cons_ne_nil _ _)]
    rfl

theorem length_le_writeItems (readable : ∀ item ∈ items, Readable depth item) :
    items.length ≤ (writeItems items).length := by
  cases items with
  | nil => exact Nat.zero_le _
  | cons item items =>
    obtain ⟨c, more, written, -⟩ := (readable item List.mem_cons_self).opens
    have : items.length ≤ (moreItems items).length :=
      length_le_flatMap (fun _ => List.cons_ne_nil _ _) items
    rw [writeItems_cons, written, List.length_append, List.length_cons, List.length_cons]
    omega

theorem readable_array (readable : ∀ item ∈ items, Readable depth item) :
    Readable (depth + 1) (.array items) := by
  refine ⟨⟨_, _, rfl, rfl, by decide⟩, fun rest => ?_⟩
  have fits := length_le_writeItems readable
  rw [write, List.cons_append, List.append_assoc, List.singleton_append, readValue.eq_def]
  show Except.map _ (readItems (readValue depth) ((writeItems items ++ ']' :: rest).length + 1) []
    (writeItems items ++ ']' :: rest)) = _
  rw [readItems_writeItems readable (by rw [List.length_append]; omega)]
  rfl

end Items

/-! ## Objects -/

/-- The members of an object behind its first member. -/
def moreMembers (members : List (String × Json)) : List Char :=
  members.flatMap fun member => ',' :: (writeString member.1 ++ ':' :: member.2.write)

theorem writeMembers_cons (member : String × Json) (members : List (String × Json)) :
    writeMembers (member :: members) =
      writeString member.1 ++ ':' :: (member.2.write ++ moreMembers members) := by
  induction members generalizing member with
  | nil => rw [writeMembers, moreMembers, List.flatMap_nil, List.append_nil]
  | cons next members ih =>
    rw [writeMembers, ih, moreMembers, moreMembers, List.flatMap_cons, List.cons_append,
      List.append_assoc, List.cons_append]

section Members

variable {depth count : Nat} {members : List (String × Json)}

/-- One member whose opening quote was read. -/
theorem readMembers_step {key : String} {item : Json} (readable : Readable depth item)
    {before : List (String × Json)} {text after : List Char}
    (next : nextKey before.isEmpty text =
      .ok (some (behindQuote key ++ ':' :: (item.write ++ after)))) :
    readMembers (readValue depth) (count + 1) before text =
      readMembers (readValue depth) count ((key, item) :: before) after := by
  have colon : readColon (':' :: (item.write ++ after)) = .ok (item.write ++ after) := rfl
  rw [readMembers, next]
  simp only [bind, Except.bind, readString_behindQuote, colon, readable.reads]

/-- The members behind the first one. -/
theorem readMembers_moreMembers (readable : ∀ member ∈ members, Readable depth member.2)
    (enough : members.length < count) {before : List (String × Json)} (later : before ≠ [])
    (rest : List Char) :
    readMembers (readValue depth) count before (moreMembers members ++ '\x7d' :: rest) =
      .ok (before.reverse ++ members, rest) := by
  induction members generalizing count before with
  | nil =>
    obtain ⟨count, rfl⟩ := Nat.exists_eq_succ_of_ne_zero (Nat.ne_zero_of_lt enough)
    have close : nextKey before.isEmpty ('\x7d' :: rest) = .ok none := rfl
    rw [moreMembers, List.flatMap_nil, List.nil_append, readMembers, close, List.append_nil]
    rfl
  | cons member members ih =>
    obtain ⟨count, rfl⟩ := Nat.exists_eq_succ_of_ne_zero (Nat.ne_zero_of_lt enough)
    obtain ⟨own, others⟩ := List.forall_mem_cons.1 readable
    have notFirst : before.isEmpty = false := by simpa using later
    have text : moreMembers (member :: members) ++ '\x7d' :: rest =
        ',' :: '"' :: (behindQuote member.1 ++ ':' ::
          (member.2.write ++ (moreMembers members ++ '\x7d' :: rest))) := by
      simp [moreMembers, writeString, behindQuote]
    rw [text, readMembers_step own (by rw [notFirst]; rfl),
      ih others (Nat.lt_of_succ_lt_succ enough) (List.cons_ne_nil _ _)]
    simp

/-- **Members.** The members of an object are read back up to its closing brace. -/
theorem readMembers_writeMembers (readable : ∀ member ∈ members, Readable depth member.2)
    (enough : members.length < count) (rest : List Char) :
    readMembers (readValue depth) count [] (writeMembers members ++ '\x7d' :: rest) =
      .ok (members, rest) := by
  obtain ⟨count, rfl⟩ := Nat.exists_eq_succ_of_ne_zero (Nat.ne_zero_of_lt enough)
  cases members with
  | nil => rfl
  | cons member members =>
    obtain ⟨own, others⟩ := List.forall_mem_cons.1 readable
    have text : writeMembers (member :: members) ++ '\x7d' :: rest =
        '"' :: (behindQuote member.1 ++ ':' ::
          (member.2.write ++ (moreMembers members ++ '\x7d' :: rest))) := by
      simp [writeMembers_cons, writeString, behindQuote]
    rw [text, readMembers_step own rfl,
      readMembers_moreMembers others (Nat.lt_of_succ_lt_succ enough) (List.cons_ne_nil _ _)]
    rfl

theorem length_le_writeMembers : members.length ≤ (writeMembers members).length := by
  cases members with
  | nil => exact Nat.zero_le _
  | cons member members =>
    have : members.length ≤ (moreMembers members).length :=
      length_le_flatMap (fun _ => List.cons_ne_nil _ _) members
    simp only [writeMembers_cons, List.length_append, List.length_cons]
    omega

theorem readable_object (readable : ∀ member ∈ members, Readable depth member.2) :
    Readable (depth + 1) (.object members) := by
  refine ⟨⟨_, _, rfl, rfl, by decide⟩, fun rest => ?_⟩
  have fits : members.length ≤ (writeMembers members).length := length_le_writeMembers
  rw [write, List.cons_append, List.append_assoc, List.singleton_append, readValue.eq_def]
  show Except.map _ (readMembers (readValue depth)
    ((writeMembers members ++ '\x7d' :: rest).length + 1) []
    (writeMembers members ++ '\x7d' :: rest)) = _
  rw [readMembers_writeMembers readable (by rw [List.length_append]; omega)]
  rfl

end Members

/-! ## The law -/

/-- The value holds no numbers, and its arrays and objects are nested at most so deep. -/
inductive Fits : Nat → Json → Prop
  | null (depth : Nat) : Fits depth .null
  | boolean (depth : Nat) (value : Bool) : Fits depth (.boolean value)
  | string (depth : Nat) (text : String) : Fits depth (.string text)
  | array {depth : Nat} {items : List Json} (each : ∀ item ∈ items, Fits depth item) :
    Fits (depth + 1) (.array items)
  | object {depth : Nat} {members : List (String × Json)}
      (each : ∀ member ∈ members, Fits depth member.2) : Fits (depth + 1) (.object members)

theorem Fits.readable {depth : Nat} {value : Json} (fits : Fits depth value) :
    Readable depth value := by
  induction fits with
  | null depth => exact readable_null depth
  | boolean depth value => exact readable_boolean depth value
  | string depth text => exact readable_string depth text
  | array _ each => exact readable_array each
  | object _ each => exact readable_object each

/-- **Round trip.** A value is what its compact text holds. -/
theorem parse_render {value : Json} (fits : Fits depthLimit value) :
    parse value.render = .ok value := by
  have read := fits.readable.reads []
  rw [List.append_nil] at read
  simp only [parse, runReader, readWhole, render, String.toList_ofList, read, bind, Except.bind]
  rfl

/-- Values with the same compact text are the same. -/
theorem render_injective {value other : Json} (fits : Fits depthLimit value)
    (fits' : Fits depthLimit other) (same : value.render = other.render) : value = other := by
  have read := parse_render fits
  rw [same, parse_render fits'] at read
  exact (Except.ok.inj read).symm

end Json

end CloudOps
