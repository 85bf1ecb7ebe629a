import CloudOps.Error

/-!
# Programs over calls

An operation is a `Program`: a tree that makes calls, goes on with their answers, notes what it
does, and ends. What answers the calls is not part of it.

* `Program.Run p events ending`: the program can make these calls with these answers, note these
  entries, and end so. It speaks of every possible sequence of answers at once.
* `Program.run`: the run in which a handler with a state gives the answers;
  `Program.run_isRun` says that it is one of the runs.
* `Program.handle`: the program in which every call is carried out by a program over other calls.
* `Action`: a program that may fail.

A program ends with a value, or it halts: a walk over pages halts when there are more pages than
it was allowed to ask for, and a count panics when it would fall below zero.
-/

namespace CloudOps

/-- How important a log entry is. -/
inductive Level
  | debug
  | info
  | error
  deriving DecidableEq, Repr

/-- The name of a level. -/
def Level.text : Level → String
  | .debug => "DEBUG"
  | .info => "INFO"
  | .error => "ERROR"

/-- An entry of the log. -/
structure LogEntry where
  level : Level
  text : String
  deriving DecidableEq, Repr

/-- An entry as a line. -/
def LogEntry.line (entry : LogEntry) : String := entry.level.text ++ " " ++ entry.text

/-- Why a program cannot go on. -/
inductive Halt
  /-- There are more pages than the program was allowed to ask for. -/
  | pagesExceeded
  /-- Something went wrong that the program does not handle. -/
  | panic (message : String)
  deriving DecidableEq, Repr

/-- The end of a program whose count would fall below zero: more failures were reported than objects
were to be deleted. -/
abbrev Halt.countBelowZero : Halt := .panic "attempt to subtract with overflow"

/-- A program that makes calls in `C`, where `R c` is the type of the answers to `c`. -/
inductive Program (C : Type) (R : C → Type) (α : Type)
  | done (value : α)
  | halt (reason : Halt)
  | note (entry : LogEntry) (next : Program C R α)
  | call (c : C) (next : R c → Program C R α)

namespace Program

variable {C : Type} {R : C → Type} {α β γ : Type}

/-- One program after another. -/
def bind : Program C R α → (α → Program C R β) → Program C R β
  | .done a, f => f a
  | .halt reason, _ => .halt reason
  | .note entry next, f => .note entry (next.bind f)
  | .call c next, f => .call c fun r => (next r).bind f

instance : Monad (Program C R) where
  pure := .done
  bind := .bind

/-- The program that makes one call and gives its answer. -/
def ask (c : C) : Program C R (R c) := .call c .done

/-- The program that writes one entry. -/
def log (level : Level) (text : String) : Program C R Unit := .note ⟨level, text⟩ (.done ())

@[simp] theorem pure_eq (a : α) : (pure a : Program C R α) = .done a := rfl
@[simp] theorem bind_eq (p : Program C R α) (f : α → Program C R β) : p >>= f = p.bind f := rfl
@[simp] theorem done_bind (a : α) (f : α → Program C R β) : (done a).bind f = f a := rfl
@[simp] theorem halt_bind (h : Halt) (f : α → Program C R β) :
    (halt h : Program C R α).bind f = .halt h := rfl
@[simp] theorem note_bind (e : LogEntry) (p : Program C R α) (f : α → Program C R β) :
    (note e p).bind f = .note e (p.bind f) := rfl
@[simp] theorem call_bind (c : C) (k : R c → Program C R α) (f : α → Program C R β) :
    (call c k).bind f = .call c fun r => (k r).bind f := rfl

@[simp] theorem bind_done (p : Program C R α) : p.bind .done = p := by
  induction p with
  | done => rfl
  | halt => rfl
  | note e p ih => rw [note_bind, ih]
  | call c k ih => rw [call_bind]; congr; funext r; exact ih r

theorem bind_assoc (p : Program C R α) (f : α → Program C R β) (g : β → Program C R γ) :
    (p.bind f).bind g = p.bind fun a => (f a).bind g := by
  induction p with
  | done => rfl
  | halt => rfl
  | note e p ih => simp only [note_bind, ih]
  | call c k ih => simp only [call_bind, ih]

instance : LawfulMonad (Program C R) :=
  LawfulMonad.mk' _ bind_done (fun _ _ => rfl) bind_assoc

/-! ## Runs -/

/-- What happens while a program runs. -/
inductive Event (C : Type) (R : C → Type)
  /-- A call and the answer to it. -/
  | call (c : C) (answer : R c)
  /-- An entry in the log. -/
  | note (entry : LogEntry)

/-- How a run ends. -/
inductive Ending (α : Type)
  | value (a : α)
  | halted (reason : Halt)
  deriving DecidableEq

/-- The calls among some events, with their answers. -/
def Event.calls : List (Event C R) → List ((c : C) × R c)
  | [] => []
  | .call c r :: events => ⟨c, r⟩ :: calls events
  | .note _ :: events => calls events

/-- The log entries among some events. -/
def Event.entries : List (Event C R) → List LogEntry
  | [] => []
  | .call _ _ :: events => entries events
  | .note entry :: events => entry :: entries events

/-- The program can run through these events to this ending. -/
inductive Run : Program C R α → List (Event C R) → Ending α → Prop
  | done (a : α) : Run (.done a) [] (.value a)
  | halt (h : Halt) : Run (.halt h) [] (.halted h)
  | note {p : Program C R α} {events : List (Event C R)} {ending : Ending α} (e : LogEntry)
      (rest : Run p events ending) : Run (.note e p) (.note e :: events) ending
  | call {c : C} {k : R c → Program C R α} {events : List (Event C R)} {ending : Ending α}
      (r : R c) (rest : Run (k r) events ending) : Run (.call c k) (.call c r :: events) ending

/-- The events, the ending and the last state of a run. -/
structure Trace (C : Type) (R : C → Type) (σ α : Type) where
  events : List (Event C R)
  ending : Ending α
  state : σ

/-- A handler answers a call out of a state and changes the state. -/
abbrev Handler (C : Type) (R : C → Type) (σ : Type) := (c : C) → σ → R c × σ

/-- The run in which a handler gives the answers. -/
def run {σ : Type} (handler : Handler C R σ) : Program C R α → σ → Trace C R σ α
  | .done a, s => ⟨[], .value a, s⟩
  | .halt h, s => ⟨[], .halted h, s⟩
  | .note e p, s =>
    let rest := p.run handler s
    ⟨.note e :: rest.events, rest.ending, rest.state⟩
  | .call c k, s =>
    let (r, s') := handler c s
    let rest := (k r).run handler s'
    ⟨.call c r :: rest.events, rest.ending, rest.state⟩

/-- What a handler makes of a program is one of the program's runs. -/
theorem run_isRun {σ : Type} (handler : Handler C R σ) (p : Program C R α) (s : σ) :
    Run p (p.run handler s).events (p.run handler s).ending := by
  induction p generalizing s with
  | done a => exact .done a
  | halt h => exact .halt h
  | note e p ih => exact .note e (ih s)
  | call c k ih => exact .call _ (ih _ _)

/-- A run of two programs in a row is a run of the first that halts, or a run of the first and
one of the second. -/
theorem run_bind_iff {p : Program C R α} {f : α → Program C R β} {events : List (Event C R)}
    {ending : Ending β} :
    Run (p.bind f) events ending ↔
      (∃ h, Run p events (.halted h) ∧ ending = .halted h) ∨
      ∃ a before after, Run p before (.value a) ∧ Run (f a) after ending ∧
        events = before ++ after := by
  induction p generalizing events with
  | done a =>
    constructor
    · intro h
      exact .inr ⟨a, [], events, .done a, h, rfl⟩
    · rintro (⟨h, hp, -⟩ | ⟨b, before, after, hp, hf, rfl⟩)
      · cases hp
      · cases hp; exact hf
  | halt reason =>
    constructor
    · intro h
      cases h
      exact .inl ⟨reason, .halt reason, rfl⟩
    · rintro (⟨h, hp, rfl⟩ | ⟨b, before, after, hp, hf, rfl⟩)
      · cases hp; exact .halt reason
      · cases hp
  | note e p ih =>
    constructor
    · intro h
      cases h with
      | note _ rest =>
        rcases ih.1 rest with ⟨reason, hp, rfl⟩ | ⟨a, before, after, hp, hf, rfl⟩
        · exact .inl ⟨reason, .note e hp, rfl⟩
        · exact .inr ⟨a, _, after, .note e hp, hf, rfl⟩
    · rintro (⟨h, hp, rfl⟩ | ⟨b, before, after, hp, hf, rfl⟩)
      · cases hp with
        | note _ rest => exact .note e (ih.2 (.inl ⟨h, rest, rfl⟩))
      · cases hp with
        | note _ rest => exact .note e (ih.2 (.inr ⟨b, _, after, rest, hf, rfl⟩))
  | call c k ih =>
    constructor
    · intro h
      cases h with
      | call r rest =>
        rcases (ih r).1 rest with ⟨reason, hp, rfl⟩ | ⟨a, before, after, hp, hf, rfl⟩
        · exact .inl ⟨reason, .call r hp, rfl⟩
        · exact .inr ⟨a, _, after, .call r hp, hf, rfl⟩
    · rintro (⟨h, hp, rfl⟩ | ⟨b, before, after, hp, hf, rfl⟩)
      · cases hp with
        | call r rest => exact .call r ((ih r).2 (.inl ⟨h, rest, rfl⟩))
      · cases hp with
        | call r rest => exact .call r ((ih r).2 (.inr ⟨b, _, after, rest, hf, rfl⟩))

/-! ## Calls carried out by other calls -/

variable {C' : Type} {R' : C' → Type}

/-- The program in which every call is carried out by a program over other calls. -/
def handle (f : (c : C) → Program C' R' (R c)) : Program C R α → Program C' R' α
  | .done a => .done a
  | .halt h => .halt h
  | .note e p => .note e (p.handle f)
  | .call c k => (f c).bind fun r => (k r).handle f

end Program

/-- A program that gives a value or fails. -/
abbrev Action (C : Type) (R : C → Type) (α : Type) := ExceptT Error (Program C R) α

namespace Action

variable {C : Type} {R : C → Type} {α : Type}

/-- The action that makes one call, where a call may fail, and fails with it. -/
def perform {Result : C → Type} (c : C) :
    Action C (fun c => Except Error (Result c)) (Result c) := Program.ask c

/-- The action that writes one entry. -/
def log (level : Level) (text : String) : Action C R Unit :=
  ExceptT.lift (Program.log level text)

/-- The action that halts. -/
def halt (reason : Halt) : Action C R α := ExceptT.lift (.halt reason)

end Action

end CloudOps
