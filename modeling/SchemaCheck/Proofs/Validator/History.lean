import SchemaCheck.Validator

/-!
The outcome of a validation and the memory that it leaves. `Recalls` describes the memories in which
a validation can start: the initial one, and those left by any earlier validations, with any
instances and settings, successful or failed, and with any depth limit.
-/

namespace SchemaCheck

/-- A fetcher that always fails. -/
def Fetcher.offline : Fetcher :=
  fun u => .error (.fetch u.write "offline")

theorem Fetcher.offline_ne_ok (u : Url) (bytes : Utf8.Bytes) : Fetcher.offline u ≠ .ok bytes := by
  rintro ⟨⟩

/-- If the options have no registry, the validator uses that of its draft. -/
theorem Options.registry_assemble {o : Options} (h : o.registry = none) (schema : Json) (base : Url) :
    (o.assemble schema base).setting.registry = .ofDraft o.draft := by
  show o.registry.getD (.ofDraft o.draft) = .ofDraft o.draft
  rw [h, Option.getD_none]

namespace Checking

variable {α β : Type}

/-- The result of a computation that starts in the given memory. -/
def outcome (x : Checking α) (memory : Memory) : Except Failure α :=
  (x.run.run memory).run.1

/-- The memory that the computation leaves. -/
def leaves (x : Checking α) (memory : Memory) : Memory :=
  (x.run.run memory).run.2

theorem outcome_map (x : Checking α) (f : α → β) (memory : Memory) :
    outcome (do return f (← x)) memory = (x.outcome memory).map f := by
  simp only [outcome, ExceptT.run_bind, StateT.run_bind, Id.run_bind, ExceptT.run_pure]
  cases (x.run.run memory).run.1 <;> rfl

theorem leaves_map (x : Checking α) (f : α → β) (memory : Memory) :
    leaves (do return f (← x)) memory = x.leaves memory := by
  simp only [leaves, ExceptT.run_bind, StateT.run_bind, Id.run_bind, ExceptT.run_pure]
  cases (x.run.run memory).run.1 <;> rfl

end Checking

namespace Validator

/-- The validator with another limit on the depth. -/
def withDepth (depth : Nat) (v : Validator) : Validator :=
  { v with depth }

/-- The memories in which a validation can start. -/
inductive Recalls (v : Validator) : Memory → Prop
  | first : Recalls v v.memory
  | later {memory : Memory} (h : Recalls v memory) (instance_ : Json) (config : Config)
      (depth : Nat) :
      Recalls v (((v.withDepth depth).violations instance_ config).leaves memory)

variable (v : Validator) (instance_ : Json) (config : Config) (memory : Memory)

theorem outcome_isValid :
    (v.isValid instance_ config).outcome memory =
      ((v.violations instance_ config).outcome memory).map List.isEmpty :=
  Checking.outcome_map ..

end Validator

end SchemaCheck
