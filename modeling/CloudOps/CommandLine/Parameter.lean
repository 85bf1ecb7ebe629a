import CloudOps.Text.Numeral

/-!
# Parameters of the commands

* `Parameter`: everything that a command line can set. A parameter has one meaning in all commands.
* `Parameter.Value`: the type of its values; `Parameter.read?` reads one from its text.
* `Parameter.shape`: whether it is a switch, an option with a value, or an operand without a name.
* `Parameter.usage`: how it is named to the user.
-/

namespace CloudOps

/-- Something that a command line can set. -/
inductive Parameter
  /-- Asks for the help text. -/
  | help
  | region
  | profile
  | endpointUrl
  | maxWaitSecs
  | bucket
  | verbose
  | empty
  | directoryAdmin
  | accountId
  /-- A bucket that is given without a name in front. -/
  | bucketOperand
  | key
  | file
  | table
  | year
  | title
  deriving DecidableEq, Repr

namespace Parameter

/-- How a parameter is given. -/
inductive Shape
  /-- By its name alone. -/
  | switch
  /-- By its name and a value. -/
  | option
  /-- By its value alone. -/
  | operand
  deriving DecidableEq, Repr

/-- How a parameter is given. -/
def shape : Parameter → Shape
  | help => .switch
  | verbose => .switch
  | empty => .switch
  | directoryAdmin => .switch
  | bucketOperand => .operand
  | _ => .option

/-- The name behind two dashes; an operand has none. -/
def long? : Parameter → Option String
  | help => some "help"
  | region => some "region"
  | profile => some "profile"
  | endpointUrl => some "endpoint-url"
  | maxWaitSecs => some "max-wait-secs"
  | bucket => some "bucket"
  | verbose => some "verbose"
  | empty => some "empty"
  | directoryAdmin => some "directory-admin"
  | accountId => some "account-id"
  | bucketOperand => none
  | key => some "key"
  | file => some "file"
  | table => some "table"
  | year => some "year"
  | title => some "title"

/-- The letter behind one dash. -/
def short? : Parameter → Option Char
  | help => some 'h'
  | region => some 'r'
  | bucket => some 'b'
  | verbose => some 'v'
  | key => some 'k'
  | file => some 'f'
  | _ => none

/-- What the value is called. -/
def valueName : Parameter → String
  | region => "REGION"
  | profile => "PROFILE"
  | endpointUrl => "ENDPOINT_URL"
  | maxWaitSecs => "MAX_WAIT_SECS"
  | bucket => "BUCKET"
  | accountId => "ACCOUNT_ID"
  | bucketOperand => "BUCKET"
  | key => "KEY"
  | file => "FILE"
  | table => "TABLE"
  | year => "YEAR"
  | title => "TITLE"
  | _ => ""

/-- How the parameter is named to the user. -/
def usage (p : Parameter) : String :=
  match p.shape with
  | .switch => "--" ++ p.long?.getD ""
  | .option => "--" ++ p.long?.getD "" ++ " <" ++ p.valueName ++ ">"
  | .operand => "<" ++ p.valueName ++ ">"

/-- Whether a command that has the parameter cannot do without it. -/
def isRequired : Parameter → Bool
  | bucket => true
  | bucketOperand => true
  | key => true
  | file => true
  | _ => false

/-- The parameter that has to be given along with this one. -/
def companion? : Parameter → Option Parameter
  | directoryAdmin => some accountId
  | accountId => some directoryAdmin
  | _ => none

/-- The values of a parameter. A switch has one value: it is given. -/
abbrev Value : Parameter → Type
  | help => Unit
  | verbose => Unit
  | empty => Unit
  | directoryAdmin => Unit
  | maxWaitSecs => UInt64
  | year => Int32
  | _ => String

/-- Whether a text is a value at all. A path is not empty. -/
def accepts : Parameter → String → Bool
  | file, text => !text.isEmpty
  | _, _ => true

/-- The value that a text stands for. -/
def read? : (p : Parameter) → String → Option p.Value
  | help, _ => some ()
  | verbose, _ => some ()
  | empty, _ => some ()
  | directoryAdmin, _ => some ()
  | maxWaitSecs, text => (Text.readNatural? (UInt64.size - 1) text).map UInt64.ofNat
  | year, text =>
    (Text.readInteger? Int32.minValue.toInt Int32.maxValue.toInt text).map Int32.ofInt
  | region, text => some text
  | profile, text => some text
  | endpointUrl, text => some text
  | bucket, text => some text
  | accountId, text => some text
  | bucketOperand, text => some text
  | key, text => some text
  | file, text => some text
  | table, text => some text
  | title, text => some text

/-- Parameters are told apart by their names. -/
theorem eq_of_long? : ∀ {p q : Parameter}, p.long?.isSome = true → p.long? = q.long? → p = q := by
  intro p q
  cases p <;> cases q <;> decide

end Parameter

/-- The values of the parameters that are given. -/
structure Arguments where
  value? : (p : Parameter) → Option p.Value

namespace Arguments

/-- Nothing is given. -/
def none : Arguments := ⟨fun _ => Option.none⟩

/-- The arguments with one more value. -/
def set (arguments : Arguments) (p : Parameter) (value : p.Value) : Arguments :=
  ⟨fun q => if h : p = q then some (h ▸ value) else arguments.value? q⟩

/-- Whether a parameter is given. -/
def has (arguments : Arguments) (p : Parameter) : Bool := (arguments.value? p).isSome

@[ext] theorem ext {a b : Arguments} (h : ∀ p, a.value? p = b.value? p) : a = b := by
  cases a; cases b; congr; funext p; exact h p

@[simp] theorem value?_none (p : Parameter) : Arguments.none.value? p = Option.none := rfl

@[simp] theorem value?_set_self (a : Arguments) (p : Parameter) (value : p.Value) :
    (a.set p value).value? p = some value := by
  simp [set]

theorem value?_set_of_ne (a : Arguments) {p q : Parameter} (value : p.Value) (h : p ≠ q) :
    (a.set p value).value? q = a.value? q := by
  simp [set, h]

end Arguments

end CloudOps
