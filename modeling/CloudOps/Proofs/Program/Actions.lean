import CloudOps.Program

/-!
# Runs of actions

* `Action.run_bind_iff`, `Action.run_perform_iff`, `Action.run_log_iff`, …: the runs of an action
  in terms of the runs of its parts. A proof about an operation takes it apart with them and does
  not unfold the monad.
* `Action.Emits P a`: every event of every run of `a` satisfies `P`.
* `Program.run_bind`, `Action.run_bind_ok`, `Action.run_bind_error`: the same for the one run in
  which a handler gives the answers.
* `Program.run_invariant`: what every answer of a handler keeps, a whole run keeps.
  `Program.run_related` compares two runs, under two handlers or from two states.
-/

namespace CloudOps

open Program

variable {C : Type} {R : C → Type} {α β : Type}

namespace Program

/-! ## Events -/

@[simp] theorem Event.calls_append (before after : List (Event C R)) :
    Event.calls (before ++ after) = Event.calls before ++ Event.calls after := by
  induction before with
  | nil => rfl
  | cons event before ih => cases event <;> simp [Event.calls, ih]

@[simp] theorem Event.entries_append (before after : List (Event C R)) :
    Event.entries (before ++ after) = Event.entries before ++ Event.entries after := by
  induction before with
  | nil => rfl
  | cons event before ih => cases event <;> simp [Event.entries, ih]

theorem Event.mem_calls {events : List (Event C R)} {x : (c : C) × R c} :
    x ∈ Event.calls events ↔ .call x.1 x.2 ∈ events := by
  induction events with
  | nil => simp [Event.calls]
  | cons event events ih =>
    cases event with
    | note entry => simp [Event.calls, ih]
    | call c r =>
      rw [Event.calls, List.mem_cons, List.mem_cons, ih, Event.call.injEq]
      refine or_congr_left ⟨?_, ?_⟩
      · rintro rfl
        exact ⟨rfl, HEq.rfl⟩
      · rintro ⟨rfl, h⟩
        rw [← eq_of_heq h]

theorem Event.mem_entries {events : List (Event C R)} {entry : LogEntry} :
    entry ∈ Event.entries events ↔ .note entry ∈ events := by
  induction events with
  | nil => simp [Event.entries]
  | cons event events ih => cases event <;> simp [Event.entries, ih]

theorem run_done_iff {a : α} {events : List (Event C R)} {ending : Ending α} :
    Run (.done a) events ending ↔ events = [] ∧ ending = .value a := by
  constructor
  · intro h
    cases h
    exact ⟨rfl, rfl⟩
  · rintro ⟨rfl, rfl⟩
    exact .done _

end Program

/-! ## Runs -/

namespace Action

/-- A run of two actions in a row is a run of the first that halts or fails, or a run of the first
that gives a value and one of the second. -/
theorem run_bind_iff {a : Action C R α} {f : α → Action C R β} {events : List (Event C R)}
    {ending : Ending (Except Error β)} :
    Run (a >>= f).run events ending ↔
      (∃ h, Run a.run events (.halted h) ∧ ending = .halted h) ∨
      (∃ e, Run a.run events (.value (.error e)) ∧ ending = .value (.error e)) ∨
      ∃ x before after, Run a.run before (.value (.ok x)) ∧ Run (f x).run after ending ∧
        events = before ++ after := by
  rw [ExceptT.run_bind, Program.bind_eq, Program.run_bind_iff]
  refine or_congr_right ⟨?_, ?_⟩
  · rintro ⟨x | x, before, after, ha, hf, rfl⟩
    · cases hf
      exact .inl ⟨x, by rwa [List.append_nil], rfl⟩
    · exact .inr ⟨x, before, after, ha, hf, rfl⟩
  · rintro (⟨e, ha, rfl⟩ | ⟨x, before, after, ha, hf, rfl⟩)
    · exact ⟨.error e, events, [], ha, .done _, (List.append_nil _).symm⟩
    · exact ⟨.ok x, before, after, ha, hf, rfl⟩

theorem run_pure_iff {a : α} {events : List (Event C R)} {ending : Ending (Except Error α)} :
    Run (pure a : Action C R α).run events ending ↔ events = [] ∧ ending = .value (.ok a) :=
  run_done_iff

theorem run_log_iff {level : Level} {text : String} {events : List (Event C R)}
    {ending : Ending (Except Error Unit)} :
    Run (Action.log level text : Action C R Unit).run events ending ↔
      events = [.note ⟨level, text⟩] ∧ ending = .value (.ok ()) := by
  constructor
  · intro h
    cases h with
    | note _ rest => cases rest; exact ⟨rfl, rfl⟩
  · rintro ⟨rfl, rfl⟩
    exact .note _ (.done _)

theorem run_halt_iff {reason : Halt} {events : List (Event C R)}
    {ending : Ending (Except Error α)} :
    Run (Action.halt reason : Action C R α).run events ending ↔
      events = [] ∧ ending = .halted reason := by
  constructor
  · intro h
    cases h
    exact ⟨rfl, rfl⟩
  · rintro ⟨rfl, rfl⟩
    exact .halt _

theorem run_perform_iff {Result : C → Type} {c : C}
    {events : List (Event C fun c => Except Error (Result c))}
    {ending : Ending (Except Error (Result c))} :
    Run (Action.perform c : Action C (fun c => Except Error (Result c)) (Result c)).run events
        ending ↔
      ∃ answer, events = [.call c answer] ∧ ending = .value answer := by
  constructor
  · intro h
    cases h with
    | call answer rest => cases rest; exact ⟨answer, rfl, rfl⟩
  · rintro ⟨answer, rfl, rfl⟩
    exact .call _ (.done _)

/-- An action that writes an entry first. -/
theorem run_log_bind_iff {level : Level} {text : String} {f : Unit → Action C R α}
    {events : List (Event C R)} {ending : Ending (Except Error α)} :
    Run (Action.log level text >>= f).run events ending ↔
      ∃ rest, events = .note ⟨level, text⟩ :: rest ∧ Run (f ()).run rest ending := by
  constructor
  · intro h
    cases h with
    | note _ rest => exact ⟨_, rfl, rest⟩
  · rintro ⟨rest, rfl, h⟩
    exact .note _ h

/-- An action that makes a call first: it ends when the call fails. -/
theorem run_perform_bind_iff {Result : C → Type} {c : C}
    {f : Result c → Action C (fun c => Except Error (Result c)) α}
    {events : List (Event C fun c => Except Error (Result c))}
    {ending : Ending (Except Error α)} :
    Run (Action.perform c >>= f).run events ending ↔
      (∃ e, events = [.call c (.error e)] ∧ ending = .value (.error e)) ∨
      ∃ result rest, events = .call c (.ok result) :: rest ∧ Run (f result).run rest ending := by
  constructor
  · intro h
    cases h with
    | call answer rest =>
      cases answer with
      | error e => cases rest; exact .inl ⟨e, rfl, rfl⟩
      | ok result => exact .inr ⟨result, _, rfl, rest⟩
  · rintro (⟨e, rfl, rfl⟩ | ⟨result, rest, rfl, h⟩)
    · exact .call _ (.done _)
    · exact .call _ h

/-! ## What an action may emit -/

/-- Every event of every run of the action satisfies `P`. -/
def Emits (P : Event C R → Prop) (a : Action C R α) : Prop :=
  ∀ events ending, Run a.run events ending → ∀ event ∈ events, P event

variable {P : Event C R → Prop}

theorem Emits.mono {Q : Event C R → Prop} {a : Action C R α} (emits : Emits P a)
    (weaker : ∀ event, P event → Q event) : Emits Q a :=
  fun events ending run event h => weaker event (emits events ending run event h)

theorem Emits.bind {a : Action C R α} {f : α → Action C R β} (ha : Emits P a)
    (hf : ∀ x, Emits P (f x)) : Emits P (a >>= f) := by
  intro events ending h
  rcases run_bind_iff.1 h with ⟨_, h₁, -⟩ | ⟨_, h₁, -⟩ | ⟨x, before, after, h₁, h₂, rfl⟩
  · exact ha _ _ h₁
  · exact ha _ _ h₁
  · intro event hm
    rcases List.mem_append.1 hm with hm | hm
    · exact ha _ _ h₁ _ hm
    · exact hf x _ _ h₂ _ hm

theorem Emits.pure (a : α) : Emits P (Pure.pure a : Action C R α) := by
  intro events ending h
  rw [(run_pure_iff.1 h).1]
  simp

theorem Emits.halt (reason : Halt) : Emits P (Action.halt reason : Action C R α) := by
  intro events ending h
  rw [(run_halt_iff.1 h).1]
  simp

theorem Emits.log {level : Level} {text : String} (h : P (.note ⟨level, text⟩)) :
    Emits P (Action.log level text : Action C R Unit) := by
  intro events ending hr
  rw [(run_log_iff.1 hr).1]
  simpa using h

theorem Emits.perform {Result : C → Type} {P : Event C (fun c => Except Error (Result c)) → Prop}
    {c : C} (h : ∀ answer, P (.call c answer)) :
    Emits P (Action.perform c : Action C (fun c => Except Error (Result c)) (Result c)) := by
  intro events ending hr
  obtain ⟨answer, rfl, -⟩ := run_perform_iff.1 hr
  simpa using h answer

end Action

/-! ## The run under a handler -/

section Handler

variable {σ : Type} {handler : Handler C R σ}

/-- Under a handler, two programs in a row run one after the other. -/
theorem Program.run_bind {p : Program C R α} {f : α → Program C R β} {s s₁ s₂ : σ} {a : α}
    {before after : List (Event C R)} {ending : Ending β}
    (hp : p.run handler s = ⟨before, .value a, s₁⟩)
    (hf : (f a).run handler s₁ = ⟨after, ending, s₂⟩) :
    (p.bind f).run handler s = ⟨before ++ after, ending, s₂⟩ := by
  induction p generalizing s before with
  | done b =>
    simp only [Program.run, Trace.mk.injEq, Ending.value.injEq] at hp
    obtain ⟨rfl, rfl, rfl⟩ := hp
    exact hf
  | halt reason => simp [Program.run] at hp
  | note e p ih =>
    simp only [Program.run, Trace.mk.injEq] at hp
    obtain ⟨rfl, he, rfl⟩ := hp
    simp only [note_bind, Program.run, List.cons_append]
    rw [ih (show p.run handler s = ⟨_, .value a, (p.run handler s).state⟩ by rw [← he])]
  | call c k ih =>
    simp only [Program.run, Trace.mk.injEq] at hp
    obtain ⟨rfl, he, rfl⟩ := hp
    simp only [call_bind, Program.run, List.cons_append]
    rw [ih _ (show (k (handler c s).1).run handler (handler c s).2 = ⟨_, .value a, _⟩ by rw [← he])]

/-- What every answer of a handler keeps, a whole run keeps. -/
theorem Program.run_invariant {I : σ → Prop} (step : ∀ c s, I s → I (handler c s).2)
    (p : Program C R α) {s : σ} (h : I s) : I (p.run handler s).state := by
  induction p generalizing s with
  | done => exact h
  | halt => exact h
  | note e p ih => exact ih h
  | call c k ih => exact ih _ (step c s h)

/-- Two handlers whose states are related answer alike, as long as the events are of one kind: then
the whole runs are alike, and end in related states. -/
theorem Program.run_related {τ : Type} {handler' : Handler C R τ} {I : σ → τ → Prop}
    {P : Event C R → Prop}
    (step : ∀ c s t, I s t → P (.call c (handler c s).1) →
      (handler' c t).1 = (handler c s).1 ∧ I (handler c s).2 (handler' c t).2)
    (p : Program C R α) {s : σ} {t : τ} (related : I s t)
    (events : ∀ event ∈ (p.run handler s).events, P event) :
    (p.run handler' t).events = (p.run handler s).events ∧
      (p.run handler' t).ending = (p.run handler s).ending ∧
      I (p.run handler s).state (p.run handler' t).state := by
  induction p generalizing s t with
  | done => exact ⟨rfl, rfl, related⟩
  | halt => exact ⟨rfl, rfl, related⟩
  | note e p ih =>
    obtain ⟨events', ending, state⟩ := ih related (List.forall_mem_cons.1 events).2
    refine ⟨?_, ending, state⟩
    simp only [Program.run, events']
  | call c k ih =>
    obtain ⟨own, rest⟩ := List.forall_mem_cons.1 events
    obtain ⟨answer, related'⟩ := step c s t related own
    obtain ⟨events', ending, state⟩ := ih (handler c s).1 related' rest
    simp only [Program.run, answer]
    exact ⟨congrArg _ events', ending, state⟩

/-- What every answer keeps while the events are of one kind, a whole run of such events keeps. -/
theorem Program.run_keeps {I : σ → Prop} {P : Event C R → Prop}
    (step : ∀ c s, I s → P (.call c (handler c s).1) → I (handler c s).2)
    (p : Program C R α) {s : σ} (h : I s)
    (events : ∀ event ∈ (p.run handler s).events, P event) : I (p.run handler s).state := by
  have step' : ∀ c s t, t = s ∧ I s → P (.call c (handler c s).1) →
      (handler c t).1 = (handler c s).1 ∧ (handler c t).2 = (handler c s).2 ∧ I (handler c s).2 := by
    rintro c s _ ⟨rfl, kept⟩ own
    exact ⟨rfl, rfl, step c _ kept own⟩
  exact (p.run_related step' ⟨rfl, h⟩ events).2.2.2

theorem Action.run_bind_ok {a : Action C R α} {f : α → Action C R β} {s s₁ s₂ : σ} {x : α}
    {before after : List (Event C R)} {ending : Ending (Except Error β)}
    (ha : a.run.run handler s = ⟨before, .value (.ok x), s₁⟩)
    (hf : (f x).run.run handler s₁ = ⟨after, ending, s₂⟩) :
    (a >>= f).run.run handler s = ⟨before ++ after, ending, s₂⟩ := by
  rw [ExceptT.run_bind, Program.bind_eq]
  exact Program.run_bind ha hf

/-- Under a handler, nothing follows a failure. -/
theorem Action.run_bind_error {a : Action C R α} {f : α → Action C R β} {s s₁ : σ} {e : Error}
    {before : List (Event C R)} (ha : a.run.run handler s = ⟨before, .value (.error e), s₁⟩) :
    (a >>= f).run.run handler s = ⟨before, .value (.error e), s₁⟩ := by
  rw [ExceptT.run_bind, Program.bind_eq, ← List.append_nil before]
  exact Program.run_bind ha rfl

end Handler

end CloudOps
