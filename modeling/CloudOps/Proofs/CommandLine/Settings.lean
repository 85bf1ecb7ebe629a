import CloudOps.Proofs.CommandLine.Mentions
import CloudOps.Proofs.Movie

/-!
# Settings on a command line

A parameter with a value is written as `--name=value`, or as `--name` if it is a switch, and an
operand is written behind `--`.

* `Parameter.write`: the text of a value; `Parameter.read?_write` reads it back.
* `Setting`: a parameter with a value. `Setting.token` writes it, and `Reading.token_setting` says
  what the reader makes of that token.
* `Reading.tokens_settings`, `Reading.tokens_operands`: settings in a row.
* `Arguments.named`, `Arguments.operands`: the settings that make up some arguments.
* `Arguments.parse_settings`: arguments are read back from their settings in any order.
-/

namespace CloudOps

/-! ## Settings -/

namespace Parameter

/-- The text of a value. A switch has none. -/
def write : (p : Parameter) → p.Value → String
  | help, _ => ""
  | verbose, _ => ""
  | empty, _ => ""
  | directoryAdmin, _ => ""
  | maxWaitSecs, seconds => seconds.toNat.repr
  | year, y => yearNumeral y
  | region, text => text
  | profile, text => text
  | endpointUrl, text => text
  | bucket, text => text
  | accountId, text => text
  | bucketOperand, text => text
  | key, text => text
  | file, text => text
  | table, text => text
  | title, text => text

/-- Every value is read back from its text. -/
theorem read?_write (p : Parameter) (value : p.Value) : p.read? (p.write value) = some value := by
  cases p
  case maxWaitSecs =>
    have bound : UInt64.toNat value ≤ UInt64.size - 1 := Nat.le_sub_one_of_lt (UInt64.toNat_lt _)
    rw [read?, write, Text.readNatural?_repr bound, Option.map_some, UInt64.ofNat_toNat]
  case year => exact readYear?_yearNumeral value
  all_goals rfl

/-- A switch is read from no text. -/
theorem write_of_switch {p : Parameter} (switch : p.shape = .switch) (value : p.Value) :
    p.write value = "" := by
  cases p <;> first | rfl | cases switch

/-- All parameters but operands have a name. -/
theorem exists_long? {p : Parameter} (named : p.shape ≠ .operand) :
    ∃ name, p.long? = some name := by
  cases p
  case bucketOperand => exact absurd rfl named
  all_goals exact ⟨_, rfl⟩

end Parameter

/-- A parameter with a value. -/
structure Setting where
  parameter : Parameter
  value : parameter.Value

namespace Setting

/-- The text of the value. -/
def text (s : Setting) : String := s.parameter.write s.value

/-- The token that gives the parameter the value. -/
def token (s : Setting) : String :=
  match s.parameter.shape with
  | .switch => "--" ++ s.parameter.long?.getD ""
  | .option => "--" ++ s.parameter.long?.getD "" ++ "=" ++ s.text
  | .operand => s.text

/-- The text is a value at all. -/
def Accepted (s : Setting) : Prop := s.parameter.accepts s.text = true

end Setting

namespace Arguments

/-- The arguments with one more setting. -/
def give (a : Arguments) (s : Setting) : Arguments := a.set s.parameter s.value

/-- The setting of a parameter, if it is given. -/
def setting? (a : Arguments) (p : Parameter) : Option Setting := (a.value? p).map (Setting.mk p)

/-- The settings of those parameters that have a name. -/
def named (a : Arguments) (parameters : List Parameter) : List Setting :=
  (parameters.filter fun p => p.shape ≠ .operand).filterMap a.setting?

/-- The settings of the operands. -/
def operands (a : Arguments) (parameters : List Parameter) : List Setting :=
  (parameters.filter fun p => p.shape = .operand).filterMap a.setting?

theorem has_give {a : Arguments} {s : Setting} {p : Parameter} :
    (a.give s).has p = true ↔ s.parameter = p ∨ a.has p = true := has_set

end Arguments

namespace Reading

variable {parameters : List Parameter} {r : Reading} {s : Setting}

/-! ## One setting -/

/-- A text is read as the value that it was written for. -/
theorem assign_text (free : r.given.has s.parameter = false) (accepted : s.Accepted) :
    r.assign s.parameter s.text = .ok { r with given := r.given.give s } := by
  have accepts : s.parameter.accepts s.text = true := accepted
  have read : s.parameter.read? s.text = some s.value := s.parameter.read?_write s.value
  simp [assign, free, accepts, read, Arguments.give]

theorem settle_of_settled (settled : r.pending = none) : r.settle = .ok r := by
  rw [settle, settled]

/-- A name leads to its parameter. -/
theorem find?_long? {p : Parameter} {name : String} (known : p ∈ parameters)
    (long : p.long? = some name) :
    (parameters.find? fun q => q.long? = some name) = some p := by
  cases found : parameters.find? fun q => q.long? = some name with
  | none => exact absurd long (by simpa using List.find?_eq_none.1 found p known)
  | some q =>
    have same : q.long? = some name := by simpa using List.find?_some found
    rw [Parameter.eq_of_long? (by rw [long]; rfl) (long.trans same.symm)]

/-- A token with two dashes and more behind them. -/
theorem token_of_dashes {text : String} {rest : List Char} (front : r.operandsOnly = false)
    (dashes : text.toList = '-' :: '-' :: rest) (more : rest ≠ []) :
    r.token parameters text = r.long parameters rest := by
  obtain ⟨c, rest, rfl⟩ := List.exists_cons_of_ne_nil more
  simp [token, front, dashes]

/-- **One setting.** The reader takes it, in front of `--` and where no value is waited for. -/
theorem token_setting (settled : r.pending = none) (front : r.operandsOnly = false)
    (known : s.parameter ∈ parameters) (named : s.parameter.shape ≠ .operand)
    (quiet : s.parameter ≠ .help) (free : r.given.has s.parameter = false)
    (accepted : s.Accepted) :
    r.token parameters s.token = .ok { r with given := r.given.give s } := by
  obtain ⟨name, long⟩ := Parameter.exists_long? named
  have nonempty : name.toList ≠ [] := by simpa using Parameter.long?_ne_empty long
  have unmarked := Parameter.long?_no_equals long
  have found := find?_long? known long
  have assigned := assign_text free accepted
  cases shape : s.parameter.shape with
  | operand => exact absurd shape named
  | switch =>
    have token : s.token.toList = '-' :: '-' :: name.toList := by
      simp [Setting.token, shape, long]
    have blank : s.text = "" := Parameter.write_of_switch shape s.value
    rw [token_of_dashes front token nonempty, Reading.long, Text.cutAt_of_not_mem unmarked]
    rw [blank] at assigned
    simp [found, shape, switch, settle_of_settled settled, quiet, assigned, bind, Except.bind]
  | option =>
    have token : s.token.toList = '-' :: '-' :: (name.toList ++ '=' :: s.text.toList) := by
      simp [Setting.token, shape, long]
    rw [token_of_dashes front token (by simp), Reading.long, Text.cutAt_append unmarked]
    simp [found, shape, option, settle_of_settled settled, assigned, bind, Except.bind]

/-! ## Settings in a row -/

theorem has_give_eq_false {a : Arguments} {p : Parameter} (free : a.has p = false)
    (other : s.parameter ≠ p) : (a.give s).has p = false := by
  rw [← Bool.not_eq_true, Arguments.has_give, not_or, Bool.not_eq_true]
  exact ⟨other, free⟩

/-- What a setting has to be for its token to be read. -/
structure Readable (parameters : List Parameter) (s : Setting) : Prop where
  known : s.parameter ∈ parameters
  named : s.parameter.shape ≠ .operand
  quiet : s.parameter ≠ .help
  accepted : s.Accepted

/-- Settings of different parameters are taken one after the other. -/
theorem tokens_settings {settings : List Setting} (settled : r.pending = none)
    (front : r.operandsOnly = false) (readable : ∀ s ∈ settings, Readable parameters s)
    (distinct : (settings.map Setting.parameter).Nodup)
    (free : ∀ s ∈ settings, r.given.has s.parameter = false) :
    r.tokens parameters (settings.map Setting.token) =
      .ok { r with given := settings.foldl Arguments.give r.given } := by
  induction settings generalizing r with
  | nil => rfl
  | cons s more ih =>
    obtain ⟨known, named, quiet, accepted⟩ := readable s List.mem_cons_self
    rw [List.map_cons, List.nodup_cons] at distinct
    have taken := token_setting settled front known named quiet (free s List.mem_cons_self) accepted
    have others : ∀ t ∈ more, (r.given.give s).has t.parameter = false := fun t within =>
      has_give_eq_false (free t (List.mem_cons_of_mem s within)) fun same =>
        distinct.1 (same ▸ List.mem_map_of_mem within)
    rw [List.map_cons, tokens, List.foldlM_cons, taken]
    exact ih settled front (fun t within => readable t (List.mem_cons_of_mem s within)) distinct.2
      others

theorem tokens_append {front back : List String} {read : Reading}
    (reads : r.tokens parameters front = .ok read) :
    r.tokens parameters (front ++ back) = read.tokens parameters back := by
  rw [tokens] at reads
  rw [tokens, List.foldlM_append, reads]
  rfl

/-- Behind two dashes there are operands. -/
theorem tokens_escape {texts : List String} (front : r.operandsOnly = false) :
    r.tokens parameters ("--" :: texts) =
      Reading.tokens parameters { r with operandsOnly := true } texts := by
  have escaped : r.token parameters "--" = .ok { r with operandsOnly := true } := by
    simp [token, front]
  rw [tokens, List.foldlM_cons, escaped]
  rfl

variable (parameters) in
/-- Operands are taken in their order. The last one waits until it is settled. -/
theorem tokens_operands {given : Arguments} {settings : List Setting}
    (behind : r.operandsOnly = true) (own : r.operands = settings.map Setting.parameter)
    (settles : r.settle = .ok ⟨given, none, settings.map Setting.parameter, true⟩)
    (readable : ∀ s ∈ settings, s.parameter.shape = .operand ∧ s.Accepted)
    (distinct : (settings.map Setting.parameter).Nodup)
    (free : ∀ s ∈ settings, given.has s.parameter = false) :
    ∃ read, r.tokens parameters (settings.map Setting.token) = .ok read ∧
      read.settle = .ok ⟨settings.foldl Arguments.give given, none, [], true⟩ := by
  induction settings generalizing r given with
  | nil => exact ⟨r, rfl, settles⟩
  | cons s more ih =>
    obtain ⟨shape, accepted⟩ := readable s List.mem_cons_self
    rw [List.map_cons, List.nodup_cons] at distinct
    have token : s.token = s.text := by rw [Setting.token, shape]
    -- the operand in front of this one is settled, and this one waits
    let waiting : Reading :=
      ⟨given, some (s.parameter, some s.text), more.map Setting.parameter, true⟩
    have taken : r.token parameters s.token = .ok waiting := by
      rw [Reading.token, if_pos behind, token, operand, own, List.map_cons, settles]
      rfl
    have settled : waiting.settle =
        .ok ⟨given.give s, none, more.map Setting.parameter, true⟩ :=
      assign_text (r := ⟨given, none, more.map Setting.parameter, true⟩)
        (free s List.mem_cons_self) accepted
    have others : ∀ t ∈ more, (given.give s).has t.parameter = false := fun t within =>
      has_give_eq_false (free t (List.mem_cons_of_mem s within)) fun same =>
        distinct.1 (same ▸ List.mem_map_of_mem within)
    obtain ⟨read, reads, ends⟩ := ih rfl rfl settled
      (fun t within => readable t (List.mem_cons_of_mem s within)) distinct.2 others
    refine ⟨read, ?_, ends⟩
    rw [List.map_cons, tokens, List.foldlM_cons, taken]
    exact reads

end Reading

/-! ## Arguments -/

namespace Arguments

variable {parameters : List Parameter} {a : Arguments} {s : Setting} {p : Parameter}

/-- Arguments that a command with these parameters can be given. -/
structure Writable (parameters : List Parameter) (a : Arguments) : Prop where
  known : ∀ p, a.has p = true → p ∈ parameters
  /-- Nobody asks for help. -/
  quiet : a.has .help = false
  accepted : ∀ p value, a.value? p = some value → p.accepts (p.write value) = true
  complete : ∀ p ∈ parameters, a.lacks parameters p = false

theorem setting?_eq_some : a.setting? p = some s ↔
    s.parameter = p ∧ a.value? s.parameter = some s.value := by
  obtain ⟨q, value⟩ := s
  constructor
  · intro given
    obtain ⟨v, found, same⟩ := Option.map_eq_some_iff.1 given
    cases same
    exact ⟨rfl, found⟩
  · rintro ⟨rfl, given⟩
    exact Option.map_eq_some_iff.2 ⟨value, given, rfl⟩

/-- The parameters of the settings. -/
theorem map_parameter_filterMap (a : Arguments) (list : List Parameter) :
    (list.filterMap a.setting?).map Setting.parameter = list.filter a.has := by
  induction list with
  | nil => rfl
  | cons p more ih =>
    cases given : a.value? p with
    | none => simp [setting?, has, given, ih]
    | some value => simp [setting?, has, given, ih]

theorem has_foldl_give {settings : List Setting} {given : Arguments} :
    (settings.foldl give given).has p = true ↔
      given.has p = true ∨ p ∈ settings.map Setting.parameter := by
  induction settings generalizing given with
  | nil => simp
  | cons s more ih =>
    rw [List.foldl_cons, ih, has_give, List.map_cons, List.mem_cons]
    tauto

/-- Giving all settings gives the arguments, whatever the order. -/
theorem foldl_give {settings : List Setting}
    (own : ∀ s ∈ settings, a.value? s.parameter = some s.value)
    (all : ∀ p, a.has p = true → p ∈ settings.map Setting.parameter) :
    settings.foldl give .none = a := by
  suffices values : ∀ given : Arguments, ∀ p, (settings.foldl give given).value? p =
      if p ∈ settings.map Setting.parameter then a.value? p else given.value? p by
    ext p : 1
    rw [values]
    split
    · rfl
    · next absent =>
      have : a.has p = false := Bool.not_eq_true _ ▸ mt (all p) absent
      rw [value?_none, eq_comm, ← Option.not_isSome_iff_eq_none]
      simpa [has] using this
  clear all
  induction settings with
  | nil => simp
  | cons s more ih =>
    intro given p
    rw [List.foldl_cons, ih (fun t within => own t (List.mem_cons_of_mem s within)), List.map_cons]
    by_cases later : p ∈ more.map Setting.parameter
    · simp [later]
    · by_cases now : s.parameter = p
      · subst now
        simp [later, give, own s List.mem_cons_self]
      · simp [later, Ne.symm now, give, value?_set_of_ne _ _ now]

theorem mem_filterMap_setting? {list : List Parameter} :
    s ∈ list.filterMap a.setting? ↔ s.parameter ∈ list ∧ a.value? s.parameter = some s.value := by
  simp only [List.mem_filterMap, setting?_eq_some]
  constructor
  · rintro ⟨_, known, rfl, given⟩
    exact ⟨known, given⟩
  · rintro ⟨known, given⟩
    exact ⟨_, known, rfl, given⟩

theorem mem_named : s ∈ a.named parameters ↔
    s.parameter ∈ parameters ∧ s.parameter.shape ≠ .operand ∧
      a.value? s.parameter = some s.value := by
  rw [named, mem_filterMap_setting?, List.mem_filter, decide_eq_true_eq, and_assoc]

theorem mem_operands : s ∈ a.operands parameters ↔
    s.parameter ∈ parameters ∧ s.parameter.shape = .operand ∧
      a.value? s.parameter = some s.value := by
  rw [operands, mem_filterMap_setting?, List.mem_filter, decide_eq_true_eq, and_assoc]

/-- The settings with a name and the operands are of different parameters. -/
theorem nodup_parameters (distinct : parameters.Nodup) (choice : Parameter → Bool) :
    (((parameters.filter choice).filterMap a.setting?).map Setting.parameter).Nodup := by
  rw [map_parameter_filterMap]
  exact (distinct.filter _).filter _

namespace Writable

/-- The settings of parameters with a name can be read. -/
theorem readable (writable : a.Writable parameters) (own : s ∈ a.named parameters) :
    Reading.Readable parameters s where
  known := (mem_named.1 own).1
  named := (mem_named.1 own).2.1
  quiet same := by
    have given : a.has s.parameter = true := by simp [has, (mem_named.1 own).2.2]
    rw [same, writable.quiet] at given
    cases given
  accepted := writable.accepted _ _ (mem_named.1 own).2.2

/-- Every operand of the command is given. -/
theorem parameters_operands (writable : a.Writable parameters) :
    (a.operands parameters).map Setting.parameter =
      parameters.filter fun p => p.shape = .operand := by
  rw [operands, map_parameter_filterMap, List.filter_eq_self]
  intro p operand
  obtain ⟨known, shape⟩ := List.mem_filter.1 operand
  have required : p.isRequired = true := by
    cases p <;> first | rfl | exact absurd shape (by decide)
  simpa [lacks, required] using writable.complete p known

end Writable

/-- A command line that is read to its end and gives complete arguments. -/
theorem parse_of_reads {texts : List String} {read last : Reading}
    (reads : (Reading.start parameters).tokens parameters texts = .ok read)
    (settles : read.settle = .ok last)
    (complete : ∀ p ∈ parameters, last.given.lacks parameters p = false) :
    parse parameters texts = .ok last.given := by
  have whole : parameters.filter (last.given.lacks parameters) = [] := by simpa using complete
  simp [parse, reads, settles, whole, bind, Except.bind, pure, Except.pure]

section Settings

variable {settings : List Setting} (order : settings.Perm (a.named parameters))

include order

/-- The settings and the operands are all of the arguments. -/
theorem foldl_give_operands (known : ∀ p, a.has p = true → p ∈ parameters) :
    (a.operands parameters).foldl give (settings.foldl give .none) = a := by
  rw [← List.foldl_append]
  apply foldl_give
  · intro s within
    rcases List.mem_append.1 within with named | operand
    · exact (mem_named.1 (order.subset named)).2.2
    · exact (mem_operands.1 operand).2.2
  · intro p given
    obtain ⟨value, found⟩ := Option.isSome_iff_exists.1 given
    refine List.mem_map.2 ⟨⟨p, value⟩, List.mem_append.2 ?_, rfl⟩
    by_cases shape : p.shape = .operand
    · exact .inr (mem_operands.2 ⟨known p given, shape, found⟩)
    · exact .inl (order.symm.subset (mem_named.2 ⟨known p given, shape, found⟩))

/-- The settings give no operand. -/
theorem has_foldl_give_operand (operand : s ∈ a.operands parameters) :
    (settings.foldl give .none).has s.parameter = false := by
  rw [← Bool.not_eq_true, has_foldl_give, not_or]
  refine ⟨Bool.false_ne_true, fun named => ?_⟩
  obtain ⟨t, within, same⟩ := List.mem_map.1 named
  have shape := (mem_named.1 (order.subset within)).2.1
  rw [same] at shape
  exact shape (mem_operands.1 operand).2.1

/-- **Arguments are read back** from the tokens of their settings in any order, with the operands
behind `--`. Without operands, nothing need follow the other tokens. -/
theorem parse_settings (distinct : parameters.Nodup) (writable : a.Writable parameters)
    {tail : List String}
    (behind : tail = "--" :: (a.operands parameters).map Setting.token ∨
      tail = [] ∧ a.operands parameters = []) :
    parse parameters (settings.map Setting.token ++ tail) = .ok a := by
  have whole := foldl_give_operands order writable.known
  have reads : (Reading.start parameters).tokens parameters (settings.map Setting.token) =
      .ok ⟨settings.foldl give .none, Option.none, (Reading.start parameters).operands, false⟩ :=
    Reading.tokens_settings rfl rfl (fun s within => writable.readable (order.subset within))
      ((order.map _).nodup_iff.2 (nodup_parameters distinct _)) (fun _ _ => rfl)
  rcases behind with rfl | ⟨rfl, bare⟩
  · have own := writable.parameters_operands
    obtain ⟨read, reads', settles⟩ := Reading.tokens_operands parameters
      (r := ⟨settings.foldl give .none, Option.none, (Reading.start parameters).operands, true⟩)
      rfl own.symm (by rw [own]; rfl)
      (fun s within => ⟨(mem_operands.1 within).2.1,
        writable.accepted _ _ (mem_operands.1 within).2.2⟩)
      (nodup_parameters distinct _) (fun s operand => has_foldl_give_operand order operand)
    rw [whole] at settles
    refine parse_of_reads ?_ settles writable.complete
    rw [Reading.tokens_append reads, Reading.tokens_escape rfl, reads']
  · rw [bare, List.foldl_nil] at whole
    rw [whole] at reads
    rw [List.append_nil]
    exact parse_of_reads reads (Reading.settle_of_settled rfl) writable.complete

end Settings

end Arguments

end CloudOps
