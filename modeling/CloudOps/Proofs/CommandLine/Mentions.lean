import CloudOps.CommandLine.Reading
import CloudOps.Proofs.Program.Steps
import Mathlib.Tactic.Common

/-!
# What a command line mentions

* `Parameter.NamedBy`: a token gives a parameter by its long name.
* `Mentions`: a command line has such a token in front of `--`.
* `Reading.Holds`, `Reading.Gains`: the parameters that were read so far, and what one function of
  the reader adds to them.
* `Reading.token_reads`, `Reading.tokens_hold`: what one token adds, and what several do.
* `Arguments.has_iff_mentions`: a command line that is read gives exactly the parameters that it
  mentions. `Arguments.companion_given`: each of them together with its companion.
-/

namespace CloudOps

/-! ## Tokens -/

namespace Parameter

/-- The token gives the parameter by its long name, alone or with a value behind an equals sign. -/
def NamedBy (p : Parameter) (token : String) : Prop :=
  ∃ name, p.long? = some name ∧
    (token = "--" ++ name ∨ ∃ value, token = "--" ++ name ++ "=" ++ value)

/-- Only its long name gives the parameter. -/
def OnlyLong (p : Parameter) : Prop := p.short? = none ∧ p.shape ≠ .operand

/-- No name has an equals sign in it. -/
theorem long?_no_equals : ∀ {p : Parameter} {name : String}, p.long? = some name →
    '=' ∉ name.toList := by
  intro p name h
  cases p <;> cases h <;> decide

/-- No name is empty. -/
theorem long?_ne_empty : ∀ {p : Parameter} {name : String}, p.long? = some name → name ≠ "" := by
  intro p name h
  cases p <;> cases h <;> decide

end Parameter

namespace Text

/-- Nothing is lost when a text is cut at its first mark. -/
theorem cutAt_parts (mark : Char) (text : List Char) :
    (cutAt mark text).1 ++ ((cutAt mark text).2.map (mark :: ·)).getD [] = text := by
  induction text with
  | nil => rfl
  | cons c rest ih =>
    rw [cutAt]
    split
    · next same =>
      rw [same]
      rfl
    · rw [List.cons_append, ih]

end Text

namespace Parameter

/-- The name that a token with two dashes is read with. -/
theorem namedBy_iff {p : Parameter} {rest : List Char} {token : String}
    (dashes : token.toList = '-' :: '-' :: rest) :
    p.NamedBy token ↔ p.long? = some (String.ofList (Text.cutAt '=' rest).1) := by
  constructor
  · rintro ⟨name, named, rfl | ⟨value, rfl⟩⟩
    · have : rest = name.toList := by simpa using dashes.symm
      rw [this, Text.cutAt_of_not_mem (long?_no_equals named), named, String.ofList_toList]
    · have : rest = name.toList ++ '=' :: value.toList := by simpa using dashes.symm
      rw [this, Text.cutAt_append (long?_no_equals named), named, String.ofList_toList]
  · intro named
    have parts := Text.cutAt_parts '=' rest
    refine ⟨_, named, ?_⟩
    generalize (Text.cutAt '=' rest).1 = name at parts
    rw [← String.toList_inj, dashes]
    cases attached : (Text.cutAt '=' rest).2 with
    | none =>
      rw [attached] at parts
      left
      simp [← parts]
    | some value =>
      rw [attached] at parts
      right
      refine ⟨String.ofList value, ?_⟩
      rw [← String.toList_inj, dashes]
      simp [← parts]

/-- A token without two dashes names nothing. -/
theorem dashes_of_namedBy {p : Parameter} {token : String} (named : p.NamedBy token) :
    ∃ c rest, token.toList = '-' :: '-' :: c :: rest := by
  obtain ⟨name, long, h⟩ := named
  have : name.toList ≠ [] := by simpa using long?_ne_empty long
  obtain ⟨c, more, hname⟩ := List.exists_cons_of_ne_nil this
  rcases h with rfl | ⟨value, rfl⟩
  · exact ⟨c, more, by simp [hname]⟩
  · exact ⟨c, more ++ '=' :: value.toList, by simp [hname]⟩

end Parameter

/-- The command line has a token in front of `--` that gives the parameter by its long name. -/
def Mentions (texts : List String) (p : Parameter) : Prop :=
  ∃ token ∈ texts.takeWhile (· ≠ "--"), p.NamedBy token

theorem mentions_cons {text : String} {texts : List String} {p : Parameter} :
    Mentions (text :: texts) p ↔ p.NamedBy text ∨ (text ≠ "--" ∧ Mentions texts p) := by
  rw [Mentions, List.takeWhile_cons]
  by_cases escape : text = "--"
  · have nameless : ¬ p.NamedBy text := fun named => by
      obtain ⟨c, rest, dashes⟩ := Parameter.dashes_of_namedBy named
      rw [escape] at dashes
      cases dashes
    simp [escape ▸ nameless, escape]
  · simp [escape, Mentions]

/-! ## Readings -/

namespace Reading

/-- The parameter has come, with its value or in front of it. -/
def Holds (r : Reading) (p : Parameter) : Prop :=
  r.given.has p = true ∨ ∃ value?, r.pending = some (p, value?)

/-- The reading went on. It holds what it held, and the parameters that were added. -/
structure Gains (r r' : Reading) (added : Parameter → Prop) : Prop where
  holds : ∀ p, r'.Holds p ↔ r.Holds p ∨ added p
  operandsOnly : r'.operandsOnly = r.operandsOnly
  operands : ∀ p ∈ r'.operands, p ∈ r.operands

theorem Gains.refl (r : Reading) : Gains r r fun _ => False := by
  constructor <;> simp

theorem Gains.trans {r r' r'' : Reading} {added added' : Parameter → Prop} (h : Gains r r' added)
    (h' : Gains r' r'' added') : Gains r r'' fun p => added p ∨ added' p where
  holds p := by rw [h'.holds, h.holds, or_assoc]
  operandsOnly := h'.operandsOnly.trans h.operandsOnly
  operands p hp := h.operands p (h'.operands p hp)

theorem Gains.congr {r r' : Reading} {added added' : Parameter → Prop} (h : Gains r r' added)
    (same : ∀ p, added p ↔ added' p) : Gains r r' added' where
  holds p := by rw [h.holds, same]
  operandsOnly := h.operandsOnly
  operands := h.operands

end Reading

theorem Arguments.has_set {a : Arguments} {p q : Parameter} {value : p.Value} :
    (a.set p value).has q = true ↔ p = q ∨ a.has q = true := by
  rw [has, has]
  by_cases same : p = q
  · subst same
    simp
  · simp [value?_set_of_ne, same]

namespace Reading

variable {parameters : List Parameter} {r r' : Reading} {p : Parameter} {text : String}

/-! ### One function of the reader -/

theorem assign_gains (read : r.assign p text = .ok r') : Gains r r' (p = ·) := by
  simp only [assign] at read
  split at read
  · cases read
  split at read
  · cases read
  split at read
  · cases read
  cases read
  refine ⟨fun q => ?_, rfl, fun _ h => h⟩
  simp only [Holds, Arguments.has_set]
  tauto

/-- Settling the value of the last parameter adds nothing. -/
theorem settle_gains (read : r.settle = .ok r') :
    r'.pending = none ∧ Gains r r' fun _ => False := by
  obtain ⟨given, pending, operands, only⟩ := r
  match pending, read with
  | none, read =>
    cases read
    exact ⟨rfl, .refl _⟩
  | some (p, some text), read =>
    have assigned : assign ⟨given, none, operands, only⟩ p text = .ok r' := read
    have gains := assign_gains assigned
    refine ⟨?_, fun q => ?_, gains.operandsOnly, gains.operands⟩
    · simp only [assign] at assigned
      split at assigned
      · cases assigned
      split at assigned
      · cases assigned
      split at assigned
      · cases assigned
      cases assigned
      rfl
    · rw [gains.holds]
      simp only [Holds, Option.some.injEq, Prod.mk.injEq, exists_and_left, exists_eq', and_true,
        reduceCtorEq, exists_const, or_false]

theorem switch_gains (read : r.switch p = .ok r') : Gains r r' (p = ·) := by
  obtain ⟨settled, settles, read⟩ := bind_eq_ok_iff.1 read
  split at read
  · cases read
  · exact ((settle_gains settles).2.trans (assign_gains read)).congr (by simp)

/-- A reading in which a parameter waits. -/
theorem wait_gains {r : Reading} (settled : r.pending = none) (p : Parameter)
    (value? : Option String) : Gains r { r with pending := some (p, value?) } (p = ·) := by
  refine ⟨fun q => ?_, rfl, fun _ h => h⟩
  simp only [Holds, settled, Option.some.injEq, Prod.mk.injEq, exists_and_left, exists_eq',
    and_true, reduceCtorEq, exists_const, or_false]

theorem option_gains {value? : Option String} (read : r.option p value? = .ok r') :
    Gains r r' (p = ·) := by
  obtain ⟨settled, settles, read⟩ := bind_eq_ok_iff.1 read
  obtain ⟨none, gains⟩ := settle_gains settles
  cases value? with
  | some text => exact (gains.trans (assign_gains read)).congr (by simp)
  | none =>
    cases read
    exact (gains.trans (wait_gains none p _)).congr (by simp)

theorem operand_gains (read : r.operand text = .ok r') : ∃ p ∈ r.operands, Gains r r' (p = ·) := by
  rw [operand] at read
  split at read
  · cases read
  · next p others own =>
    obtain ⟨settled, settles, read⟩ := bind_eq_ok_iff.1 read
    cases read
    obtain ⟨none, gains⟩ := settle_gains settles
    have waits := (gains.trans (wait_gains none p (some text))).congr fun q =>
      Iff.of_eq (false_or (p = q))
    refine ⟨p, by simp [own], waits.holds, waits.operandsOnly, fun q hq => ?_⟩
    rw [own]
    exact List.mem_cons_of_mem _ hq

theorem plain_gains (read : r.plain text = .ok r') :
    ∃ added, Gains r r' added ∧ ∀ p, added p → p ∈ r.operands := by
  rw [plain] at read
  split at read
  · next p waits =>
    cases read
    refine ⟨fun _ => False, ⟨fun q => ?_, rfl, fun _ h => h⟩, fun _ h => h.elim⟩
    simp [Holds, waits]
  · obtain ⟨p, own, gains⟩ := operand_gains read
    exact ⟨_, gains, by rintro _ rfl; exact own⟩

theorem long_gains {rest : List Char} {token : String}
    (dashes : token.toList = '-' :: '-' :: rest) (read : r.long parameters rest = .ok r') :
    Gains r r' (·.NamedBy token) := by
  simp only [long] at read
  split at read
  · cases read
  · next p found =>
    have named : p.long? = some (String.ofList (Text.cutAt '=' rest).1) := by
      simpa using List.find?_some found
    have same (q : Parameter) : p = q ↔ q.NamedBy token := by
      rw [Parameter.namedBy_iff dashes]
      constructor
      · rintro rfl
        exact named
      · intro h
        exact Parameter.eq_of_long? (by rw [named]; rfl) (named.trans h.symm)
    split at read
    · exact (option_gains read).congr same
    split at read
    · cases read
    · exact (switch_gains read).congr same

theorem letters_gains {cs : List Char} (read : r.letters parameters cs = .ok r') :
    ∃ added, Gains r r' added ∧ ∀ p, added p → p.short? ≠ none := by
  induction cs generalizing r with
  | nil =>
    cases read
    exact ⟨_, .refl _, fun _ h => h.elim⟩
  | cons c rest ih =>
    rw [letters] at read
    split at read
    · cases read
    · next p found =>
      have lettered : p.short? ≠ none := by
        have : p.short? = some c := by simpa using List.find?_some found
        simp [this]
      split at read
      · exact ⟨_, option_gains read, by rintro _ rfl; exact lettered⟩
      · obtain ⟨switched, switches, read⟩ := bind_eq_ok_iff.1 read
        obtain ⟨added, gains, more⟩ := ih read
        refine ⟨_, (switch_gains switches).trans gains, fun q h => ?_⟩
        rcases h with rfl | h
        · exact lettered
        · exact more q h

/-! ### Tokens in a row -/

/-- The operands that may still come are given without a name. -/
def OperandsUnnamed (r : Reading) : Prop := ∀ p ∈ r.operands, p.shape = .operand

/-- What one more token is read as: in front of `--` it adds the parameter that it names. -/
structure ReadsToken (r : Reading) (text : String) (r' : Reading) : Prop where
  unnamed : r'.OperandsUnnamed
  inFront : r'.operandsOnly = false ↔ r.operandsOnly = false ∧ text ≠ "--"
  holds : ∀ p : Parameter, p.OnlyLong →
    (r'.Holds p ↔ r.Holds p ∨ (r.operandsOnly = false ∧ p.NamedBy text))

section Token

variable {added : Parameter → Prop} (unnamed : r.OperandsUnnamed)

include unnamed

/-- A token that names a parameter. -/
theorem ReadsToken.of_named {c : Char} {rest : List Char}
    (dashes : text.toList = '-' :: '-' :: c :: rest) (before : r.operandsOnly = false)
    (gains : Gains r r' (·.NamedBy text)) : ReadsToken r text r' where
  unnamed p h := unnamed p (gains.operands p h)
  inFront := by
    rw [gains.operandsOnly, iff_self_and]
    rintro - rfl
    cases dashes
  holds p _ := by simp [gains.holds, before]

/-- A token that adds at most an operand or a parameter with a letter. -/
theorem ReadsToken.of_unnamed (gains : Gains r r' added)
    (others : ∀ p, added p → p ∈ r.operands ∨ p.short? ≠ none)
    (nameless : r.operandsOnly = true ∨ ¬ ∃ rest, text.toList = '-' :: '-' :: rest) :
    ReadsToken r text r' where
  unnamed p h := unnamed p (gains.operands p h)
  inFront := by
    rw [gains.operandsOnly, iff_self_and]
    rintro before rfl
    rcases nameless with behind | plain
    · simp [before] at behind
    · exact plain ⟨[], rfl⟩
  holds p only := by
    have idle : ¬ added p := fun h => (others p h).elim (only.2 <| unnamed p ·) (· only.1)
    have silent : ¬ (r.operandsOnly = false ∧ p.NamedBy text) := by
      rintro ⟨before, named⟩
      obtain ⟨c, rest, dashes⟩ := Parameter.dashes_of_namedBy named
      rcases nameless with behind | plain
      · simp [before] at behind
      · exact plain ⟨_, dashes⟩
    rw [gains.holds, or_iff_left idle, or_iff_left silent]

/-- **One token.** -/
theorem token_reads (read : r.token parameters text = .ok r') : ReadsToken r text r' := by
  rw [token] at read
  split at read
  case isTrue behind =>
    obtain ⟨p, own, gains⟩ := operand_gains read
    exact .of_unnamed unnamed gains (by rintro _ rfl; exact .inl own) (.inl behind)
  case isFalse before =>
    have before : r.operandsOnly = false := Bool.eq_false_iff.2 before
    split at read
    case h_1 dash =>
      obtain ⟨added, gains, own⟩ := plain_gains read
      exact .of_unnamed unnamed gains (fun p h => .inl (own p h)) (.inr (by simp [dash]))
    case h_2 dashes =>
      cases read
      have escape : text = "--" := String.toList_inj.1 dashes
      refine ⟨unnamed, by simp [escape], fun p _ => (or_iff_left ?_).symm⟩
      rintro ⟨-, named⟩
      obtain ⟨c, rest, h⟩ := Parameter.dashes_of_namedBy named
      rw [dashes] at h
      cases h
    case h_3 rest nonempty dashes =>
      obtain ⟨c, more, rfl⟩ := List.exists_cons_of_ne_nil nonempty
      exact .of_named unnamed dashes before (long_gains dashes read)
    case h_4 rest _ single dash =>
      obtain ⟨added, gains, lettered⟩ := letters_gains read
      refine .of_unnamed unnamed gains (fun p h => .inr (lettered p h)) (.inr ?_)
      rintro ⟨more, dashes⟩
      rw [dash] at dashes
      cases dashes
      exact single more rfl
    case h_5 _ _ _ dashless =>
      obtain ⟨added, gains, own⟩ := plain_gains read
      refine .of_unnamed unnamed gains (fun p h => .inl (own p h)) (.inr ?_)
      rintro ⟨more, dashes⟩
      exact dashless _ dashes

/-- **Tokens in a row.** Together they add the parameters that they mention. -/
theorem tokens_hold {texts : List String} (read : r.tokens parameters texts = .ok r') :
    ∀ p : Parameter, p.OnlyLong →
      (r'.Holds p ↔ r.Holds p ∨ (r.operandsOnly = false ∧ Mentions texts p)) := by
  induction texts generalizing r with
  | nil =>
    cases read
    simp [Mentions]
  | cons text texts ih =>
    rw [tokens, List.foldlM_cons] at read
    obtain ⟨next, first, rest⟩ := bind_eq_ok_iff.1 read
    have reads := token_reads unnamed first
    intro p only
    rw [ih reads.unnamed rest p only, reads.holds p only, reads.inFront, mentions_cons]
    tauto

end Token

end Reading

/-! ## Command lines -/

namespace Arguments

variable {parameters : List Parameter} {texts : List String} {arguments : Arguments}

/-- A command line that is read as a whole. -/
theorem parse_ok (parsed : parse parameters texts = .ok arguments) :
    ∃ read settled : Reading, (Reading.start parameters).tokens parameters texts = .ok read ∧
      read.settle = .ok settled ∧ settled.given = arguments ∧
      ∀ p ∈ parameters, arguments.lacks parameters p = false := by
  obtain ⟨read, reads, rest⟩ := bind_eq_ok_iff.1 parsed
  obtain ⟨settled, settles, rest⟩ := bind_eq_ok_iff.1 rest
  split at rest
  · next complete =>
    cases rest
    exact ⟨read, settled, reads, settles, rfl, by simpa using complete⟩
  · cases rest

/-- **A command line gives what it mentions.** -/
theorem has_iff_mentions (parsed : parse parameters texts = .ok arguments) {p : Parameter}
    (only : p.OnlyLong) : arguments.has p = true ↔ Mentions texts p := by
  obtain ⟨read, settled, reads, settles, rfl, -⟩ := parse_ok parsed
  have unnamed : (Reading.start parameters).OperandsUnnamed := fun p h => by
    simpa using (List.mem_filter.1 h).2
  have nothing : ¬ (Reading.start parameters).Holds p := by
    rintro (given | ⟨_, pending⟩)
    · cases given
    · cases pending
  obtain ⟨none, gains⟩ := Reading.settle_gains settles
  calc settled.given.has p = true
      ↔ settled.Holds p := by simp [Reading.Holds, none]
    _ ↔ read.Holds p := by rw [gains.holds, or_false]
    _ ↔ Mentions texts p := by
      rw [Reading.tokens_hold unnamed reads p only, or_iff_right nothing]
      exact and_iff_right rfl

/-- **Companions.** A parameter that is given has its companion with it. -/
theorem companion_given (parsed : parse parameters texts = .ok arguments) {p q : Parameter}
    (known : p ∈ parameters) (known' : q ∈ parameters) (companion : p.companion? = some q)
    (given : arguments.has p = true) : arguments.has q = true := by
  obtain ⟨-, -, -, -, -, complete⟩ := parse_ok parsed
  have whole := complete q known'
  simp only [lacks, Bool.and_eq_false_iff, Bool.not_eq_false', Bool.or_eq_false_iff] at whole
  refine whole.resolve_right fun ⟨_, alone⟩ => ?_
  have := List.any_eq_false.1 alone p known
  simp [given, companion] at this

end Arguments

end CloudOps
