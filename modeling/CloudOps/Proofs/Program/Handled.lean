import CloudOps.Proofs.Program.Actions

/-!
# Calls that are carried out by other calls

* `Program.Returns`: no run of the program halts.
* `Program.CarriedOut`: the events of a program, and those of a run in which its calls are carried
  out by programs over other calls.
* `Program.run_handle_iff`: the runs of a handled program are those of the program with each call
  carried out, and they end alike.
-/

namespace CloudOps

namespace Program

variable {C C' : Type} {R : C → Type} {R' : C' → Type} {α β : Type}

/-- The program always gives a value. -/
def Returns (p : Program C R α) : Prop :=
  ∀ events ending, Run p events ending → ∃ a, ending = .value a

theorem returns_done (a : α) : Returns (.done a : Program C R α) := by
  intro events ending run
  exact ⟨a, (run_done_iff.1 run).2⟩

theorem returns_note {entry : LogEntry} {p : Program C R α} (rest : p.Returns) :
    (Program.note entry p).Returns := by
  intro events ending run
  cases run with
  | note _ run => exact rest _ _ run

theorem returns_call {c : C} {k : R c → Program C R α} (rest : ∀ r, (k r).Returns) :
    Returns (.call c k) := by
  intro events ending run
  cases run with
  | call r run => exact rest r _ _ run

theorem Returns.bind {p : Program C R α} {f : α → Program C R β} (first : p.Returns)
    (rest : ∀ a, (f a).Returns) : (p.bind f).Returns := by
  intro events ending run
  rcases run_bind_iff.1 run with ⟨reason, run, -⟩ | ⟨a, _, _, -, run, -⟩
  · obtain ⟨_, h⟩ := first _ _ run
    cases h
  · exact rest a _ _ run

/-- Two actions in a row. -/
theorem Returns.action_bind {a : Action C R α} {f : α → Action C R β} (first : a.run.Returns)
    (rest : ∀ x, (f x).run.Returns) : (a >>= f).run.Returns := by
  rw [ExceptT.run_bind, bind_eq]
  refine first.bind fun result => ?_
  cases result with
  | ok x => exact rest x
  | error e => exact returns_done _

/-- One of two actions. -/
theorem returns_ite {condition : Prop} [Decidable condition] {a b : Action C R α}
    (first : a.run.Returns) (second : b.run.Returns) :
    (if condition then a else b).run.Returns := by
  split
  · exact first
  · exact second

/-- The second events are the first ones with every call carried out. -/
inductive CarriedOut (f : (c : C) → Program C' R' (R c)) :
    List (Event C R) → List (Event C' R') → Prop
  | nil : CarriedOut f [] []
  | note {outer : List (Event C R)} {inner : List (Event C' R')} (entry : LogEntry)
      (rest : CarriedOut f outer inner) : CarriedOut f (.note entry :: outer) (.note entry :: inner)
  | call {c : C} {r : R c} {own inner : List (Event C' R')} {outer : List (Event C R)}
      (run : Run (f c) own (.value r)) (rest : CarriedOut f outer inner) :
      CarriedOut f (.call c r :: outer) (own ++ inner)

/-- **Handled runs.** -/
theorem run_handle_iff {f : (c : C) → Program C' R' (R c)} (returns : ∀ c, (f c).Returns)
    {p : Program C R α} {inner : List (Event C' R')} {ending : Ending α} :
    Run (p.handle f) inner ending ↔ ∃ outer, Run p outer ending ∧ CarriedOut f outer inner := by
  induction p generalizing inner with
  | done a =>
    constructor
    · intro run
      obtain ⟨rfl, rfl⟩ := run_done_iff.1 run
      exact ⟨[], .done a, .nil⟩
    · rintro ⟨outer, run, carried⟩
      obtain ⟨rfl, rfl⟩ := run_done_iff.1 run
      cases carried
      exact .done a
  | halt reason =>
    constructor
    · intro run
      cases run
      exact ⟨[], .halt reason, .nil⟩
    · rintro ⟨outer, run, carried⟩
      cases run
      cases carried
      exact .halt reason
  | note entry p ih =>
    constructor
    · intro run
      cases run with
      | note _ run =>
        obtain ⟨outer, run, carried⟩ := ih.1 run
        exact ⟨_, .note entry run, .note entry carried⟩
    · rintro ⟨outer, run, carried⟩
      cases run with
      | note _ run =>
        cases carried with
        | note _ carried => exact .note entry (ih.2 ⟨_, run, carried⟩)
  | call c k ih =>
    constructor
    · intro run
      rcases run_bind_iff.1 run with ⟨reason, halted, -⟩ | ⟨r, own, rest, first, later, rfl⟩
      · obtain ⟨_, h⟩ := returns c _ _ halted
        cases h
      · obtain ⟨outer, later, carried⟩ := (ih r).1 later
        exact ⟨_, .call r later, .call first carried⟩
    · rintro ⟨outer, run, carried⟩
      cases run with
      | call r run =>
        cases carried with
        | call first carried =>
          exact run_bind_iff.2 (.inr ⟨r, _, _, first, (ih r).2 ⟨_, run, carried⟩, rfl⟩)

end Program

end CloudOps
