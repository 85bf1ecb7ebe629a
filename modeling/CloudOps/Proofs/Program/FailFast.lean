import CloudOps.Proofs.Program.Actions

/-!
# Actions that stop at the first failure

* `Accepted`: a call succeeded. `FailedLast`: the last call failed, and no call before it did.
* `Action.FailsFast`: in every run, an action that fails does so with its last call, or with a
  failure of its own behind calls that all succeeded; and an action does not go on behind a call
  that failed. The rules for the parts of an action say that it is so for the whole.
-/

namespace CloudOps

open Program

variable {C : Type} {Result : C → Type} {α β : Type}

/-! ## Calls -/

/-- The call succeeded. -/
def Accepted (x : (c : C) × Except Error (Result c)) : Prop := ∃ result, x.2 = .ok result

/-- The last call failed with this failure, and no call before it failed. -/
def FailedLast (calls : List ((c : C) × Except Error (Result c))) (e : Error) : Prop :=
  ∃ before c, calls = before ++ [⟨c, .error e⟩] ∧ ∀ x ∈ before, Accepted x

theorem not_accepted_error (c : C) (e : Error) :
    ¬ Accepted (⟨c, .error e⟩ : (c : C) × Except Error (Result c)) := by
  rintro ⟨_, h⟩
  cases h

section Calls

variable {calls before : List ((c : C) × Except Error (Result c))} {e : Error}

theorem FailedLast.not_accepted (failed : FailedLast calls e) : ¬ ∀ x ∈ calls, Accepted x := by
  obtain ⟨before, c, rfl, -⟩ := failed
  exact fun all => not_accepted_error c e (all _ (by simp))

/-- The only failure among the calls is the last one. -/
theorem FailedLast.eq_of_mem (failed : FailedLast calls e)
    {x : (c : C) × Except Error (Result c)} (hx : x ∈ calls) {e' : Error} (h : x.2 = .error e') :
    e' = e := by
  obtain ⟨before, c, rfl, accepted⟩ := failed
  rcases List.mem_append.1 hx with hx | hx
  · obtain ⟨_, ok⟩ := accepted x hx
    rw [h] at ok
    cases ok
  · cases List.mem_singleton.1 hx
    exact (Except.error.inj h).symm

theorem FailedLast.append (accepted : ∀ x ∈ before, Accepted x) (failed : FailedLast calls e) :
    FailedLast (before ++ calls) e := by
  obtain ⟨front, c, rfl, accepted'⟩ := failed
  exact ⟨before ++ front, c, by simp, List.forall_mem_append.2 ⟨accepted, accepted'⟩⟩

end Calls

namespace Action

/-! ## Actions -/

/-- What the calls show when an action ends: it fails with its last call, or behind calls that all
succeeded, and then in a way of its own. -/
def FaithfulEnd (own : List ((c : C) × Except Error (Result c)) → Error → Prop)
    (calls : List ((c : C) × Except Error (Result c))) : Ending (Except Error α) → Prop
  | .value (.error e) => FailedLast calls e ∨ ((∀ x ∈ calls, Accepted x) ∧ own calls e)
  | _ => ∀ x ∈ calls, Accepted x

/-- Every run of the action ends so. -/
def FailsFast (own : Error → Prop) (a : Action C (fun c => Except Error (Result c)) α) : Prop :=
  ∀ events ending, Run a.run events ending → FaithfulEnd (fun _ => own) (Event.calls events) ending

section Rules

variable {own : Error → Prop}

theorem FailsFast.pure (a : α) :
    FailsFast own (Pure.pure a : Action C (fun c => Except Error (Result c)) α) := by
  intro events ending run
  obtain ⟨rfl, rfl⟩ := run_pure_iff.1 run
  exact List.forall_mem_nil _

theorem FailsFast.halt (reason : Halt) :
    FailsFast own (Action.halt reason : Action C (fun c => Except Error (Result c)) α) := by
  intro events ending run
  obtain ⟨rfl, rfl⟩ := run_halt_iff.1 run
  exact List.forall_mem_nil _

theorem FailsFast.log (level : Level) (text : String) :
    FailsFast own (Action.log level text : Action C (fun c => Except Error (Result c)) Unit) := by
  intro events ending run
  obtain ⟨rfl, rfl⟩ := run_log_iff.1 run
  exact List.forall_mem_nil _

/-- A call fails with its own failure. -/
theorem FailsFast.perform (c : C) :
    FailsFast own
      (Action.perform c : Action C (fun c => Except Error (Result c)) (Result c)) := by
  intro events ending run
  obtain ⟨answer, rfl, rfl⟩ := run_perform_iff.1 run
  cases answer with
  | error e => exact .inl ⟨[], c, rfl, List.forall_mem_nil _⟩
  | ok result => exact List.forall_mem_singleton.2 ⟨result, rfl⟩

/-- A result that needs no call. -/
theorem FailsFast.result {result : Except Error α} (h : ∀ e, result = .error e → own e) :
    FailsFast own (ExceptT.mk (.done result) : Action C (fun c => Except Error (Result c)) α) := by
  intro events ending run
  obtain ⟨rfl, rfl⟩ := run_done_iff.1 run
  cases result with
  | error e => exact .inr ⟨List.forall_mem_nil _, h e rfl⟩
  | ok a => exact List.forall_mem_nil _

/-- Two actions in a row: the second is reached only when every call of the first succeeded. -/
theorem FailsFast.bind {a : Action C (fun c => Except Error (Result c)) α}
    {f : α → Action C (fun c => Except Error (Result c)) β} (ha : FailsFast own a)
    (hf : ∀ x, FailsFast own (f x)) : FailsFast own (a >>= f) := by
  intro events ending run
  rcases run_bind_iff.1 run with ⟨_, first, rfl⟩ | ⟨_, first, rfl⟩ |
    ⟨x, before, after, first, second, rfl⟩
  · exact ha _ _ first
  · exact ha _ _ first
  have accepted : ∀ x ∈ Event.calls before, Accepted x := ha _ _ first
  rw [Event.calls_append]
  match ending, hf x _ _ second with
  | .value (.error e), .inl failed => exact .inl (failed.append accepted)
  | .value (.error e), .inr ⟨accepted', h⟩ =>
    exact .inr ⟨List.forall_mem_append.2 ⟨accepted, accepted'⟩, h⟩
  | .value (.ok b), accepted' => exact List.forall_mem_append.2 ⟨accepted, accepted'⟩
  | .halted reason, accepted' => exact List.forall_mem_append.2 ⟨accepted, accepted'⟩

end Rules

section Ends

variable {own : List ((c : C) × Except Error (Result c)) → Error → Prop}
  {calls : List ((c : C) × Except Error (Result c))} {ending : Ending (Except Error α)}

theorem FaithfulEnd.mono {own' : List ((c : C) × Except Error (Result c)) → Error → Prop}
    (ends : FaithfulEnd own calls ending)
    (weaker : ∀ e, (∀ x ∈ calls, Accepted x) → own calls e → own' calls e) :
    FaithfulEnd own' calls ending := by
  match ending, ends with
  | .value (.error e), .inl failed => exact .inl failed
  | .value (.error e), .inr ⟨accepted, h⟩ => exact .inr ⟨accepted, weaker e accepted h⟩
  | .value (.ok b), accepted => exact accepted
  | .halted reason, accepted => exact accepted

/-- Behind a call that failed the action fails with it. -/
theorem FaithfulEnd.of_failed (ends : FaithfulEnd own calls ending)
    {x : (c : C) × Except Error (Result c)} (hx : x ∈ calls) {e : Error} (h : x.2 = .error e) :
    ending = .value (.error e) := by
  have some_failed : ¬ ∀ x ∈ calls, Accepted x := by
    intro accepted
    obtain ⟨_, ok⟩ := accepted x hx
    rw [h] at ok
    cases ok
  match ending, ends with
  | .value (.error e'), .inl failed => rw [failed.eq_of_mem hx h]
  | .value (.error e'), .inr ⟨accepted, _⟩ => exact absurd accepted some_failed
  | .value (.ok b), accepted => exact absurd accepted some_failed
  | .halted reason, accepted => exact absurd accepted some_failed

end Ends

end Action

end CloudOps
