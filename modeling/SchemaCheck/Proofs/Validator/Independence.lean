import Mathlib.Data.List.Induction
import SchemaCheck.Proofs.Report
import SchemaCheck.Proofs.Validator.History
import SchemaCheck.Proofs.Visit.Independence

/-!
Validations are independent of each other. After any calls of any entry points, with any instances
and settings and any outcomes, the next answer is that of a newly built validator. It follows that
the entry points agree with each other even if they are called at different times.
-/

namespace SchemaCheck

namespace Validator

variable (v : Validator) (instance_ : Json) (config : Config) (memory : Memory)

theorem outcome_report :
    (v.report instance_ config).outcome memory =
      ((v.violations instance_ config).outcome memory).map .sorted :=
  Checking.outcome_map ..

theorem outcome_verdict :
    (v.verdict instance_ config).outcome memory =
      ((v.violations instance_ config).outcome memory).map fun vs => (Report.sorted vs).verdict := by
  have hmap : (v.verdict instance_ config).outcome memory =
      ((v.report instance_ config).outcome memory).map Report.verdict := Checking.outcome_map ..
  rw [hmap, outcome_report]
  cases (v.violations instance_ config).outcome memory <;> rfl

/-- The entry points of a validator. -/
inductive Entry where
  | violations
  | report
  | isValid
  | verdict

/-- The answers of the entry points. -/
inductive Answer where
  | violations (vs : List Violation)
  | report (r : Report)
  | isValid (holds : Bool)
  | verdict (result : Except Invalid Unit)

structure Call where
  entry : Entry
  instance_ : Json
  config : Config

namespace Call

def run (v : Validator) (call : Call) : Checking Answer :=
  match call.entry with
  | .violations => do return .violations (← v.violations call.instance_ call.config)
  | .report => do return .report (← v.report call.instance_ call.config)
  | .isValid => do return .isValid (← v.isValid call.instance_ call.config)
  | .verdict => do return .verdict (← v.verdict call.instance_ call.config)

/-- The answer of a call, computed from the violations in the order of the walk. -/
def answer (call : Call) (vs : List Violation) : Answer :=
  match call.entry with
  | .violations => .violations vs
  | .report => .report (.sorted vs)
  | .isValid => .isValid vs.isEmpty
  | .verdict => .verdict (Report.sorted vs).verdict

theorem outcome_run (call : Call) :
    (call.run v).outcome memory =
      ((v.violations call.instance_ call.config).outcome memory).map call.answer := by
  obtain ⟨entry, instance_, config⟩ := call
  cases entry with
  | violations => exact Checking.outcome_map ..
  | report =>
      refine (Checking.outcome_map ..).trans ?_
      rw [outcome_report]
      cases (v.violations instance_ config).outcome memory <;> rfl
  | isValid =>
      refine (Checking.outcome_map ..).trans ?_
      rw [outcome_isValid]
      cases (v.violations instance_ config).outcome memory <;> rfl
  | verdict =>
      refine (Checking.outcome_map ..).trans ?_
      rw [outcome_verdict]
      cases (v.violations instance_ config).outcome memory <;> rfl

theorem leaves_run (call : Call) :
    (call.run v).leaves memory = (v.violations call.instance_ call.config).leaves memory := by
  obtain ⟨entry, instance_, config⟩ := call
  cases entry with
  | violations => exact Checking.leaves_map ..
  | report => exact (Checking.leaves_map ..).trans (Checking.leaves_map ..)
  | isValid => exact (Checking.leaves_map ..).trans (Checking.leaves_map ..)
  | verdict =>
      exact ((Checking.leaves_map ..).trans (Checking.leaves_map ..)).trans
        (Checking.leaves_map ..)

end Call

/-- The memory of a newly built validator after a sequence of calls. -/
def after (v : Validator) (history : List Call) : Memory :=
  history.foldl (fun memory call => (call.run v).leaves memory) v.memory

/-- A sequence of calls is a sequence of validations. -/
theorem recalls_after (history : List Call) : v.Recalls (v.after history) := by
  induction history using List.reverseRecOn with
  | nil => exact .first
  | append_singleton rest call ih =>
      have hlast : v.after (rest ++ [call]) =
          ((v.withDepth v.depth).violations call.instance_ call.config).leaves (v.after rest) := by
        rw [after, List.foldl_append, List.foldl_cons, List.foldl_nil, Call.leaves_run]
        rfl
      rw [hlast]
      exact .later ih call.instance_ call.config v.depth

variable {v : Validator}

/-- A validation keeps the memory sound, and its result is the same for every sound memory. -/
theorem sound_violations (ht : v.setting.registry.Lawful)
    (hbase : v.setting.resolver.base.Regular) {memory : Memory} (instance_ : Json)
    (config : Config) (hm : memory.Sound v.setting.resolver v.schema) :
    (v.violations instance_ config).outcome memory =
        (v.violations instance_ config).outcome v.memory ∧
      ((v.violations instance_ config).leaves memory).Sound v.setting.resolver v.schema := by
  have hfirst : v.memory.Sound v.setting.resolver v.schema :=
    ⟨Resolver.sound_seed _ _, fun _ hentry => nomatch hentry⟩
  have hlinked := Setting.alike_visit ht v.schema v.depth (s := v.start config memory)
    (.ofBase hbase) (.root instance_) v.schema none
  exact (hlinked memory v.memory ⟨hm, hfirst⟩).of_alike

theorem regular_defaultBase : defaultBase.Regular := by
  have hparse : Url.parse "memory:///schema.json" = .ok defaultBase := by decide +kernel
  exact Url.parse_regular hparse

/-- The memory of a validator is always sound. -/
theorem Recalls.sound (ht : v.setting.registry.Lawful) (hbase : v.setting.resolver.base.Regular)
    {memory : Memory} (h : v.Recalls memory) : memory.Sound v.setting.resolver v.schema := by
  induction h with
  | first => exact ⟨Resolver.sound_seed _ _, fun _ hentry => nomatch hentry⟩
  | later _ instance_ config depth ih =>
      have hlast := sound_violations (v := v.withDepth depth) ht hbase instance_ config ih
      exact hlast.2

theorem violations_after (ht : v.setting.registry.Lawful)
    (hbase : v.setting.resolver.base.Regular) (history : List Call) (instance_ : Json)
    (config : Config) :
    (v.violations instance_ config).outcome (v.after history) =
      (v.violations instance_ config).outcome v.memory :=
  (sound_violations ht hbase instance_ config ((v.recalls_after history).sound ht hbase)).1

/-- Answers that are computed from the same violations agree. -/
theorem agree_of_violations (violations : Except Failure (List Violation)) :
    let report := violations.map Report.sorted
    let valid := violations.map List.isEmpty
    let verdict := violations.map fun vs => (Report.sorted vs).verdict
    ((∃ r, report = .ok r ∧ r.violations = []) ↔ valid = .ok true) ∧
      (valid = .ok true ↔ verdict = .ok (.ok ())) ∧
      (∀ n, 0 < n →
        ((∃ r, report = .ok r ∧ r.size = n) ↔
          ∃ invalid, verdict = .ok (.error invalid) ∧ invalid.count = n)) ∧
      ∀ e, (violations = .error e ↔ report = .error e) ∧ (report = .error e ↔ valid = .error e) ∧
        (valid = .error e ↔ verdict = .error e) := by
  intro report valid verdict
  cases violations with
  | error e => simp [report, valid, verdict, Except.map]
  | ok vs =>
      have hempty : (Report.sorted vs).violations = [] ↔ vs = [] := by
        rw [← List.length_eq_zero_iff, ← List.length_eq_zero_iff]
        exact iff_of_eq (congrArg (· = 0) (Report.size_sorted vs))
      simp only [report, valid, verdict, Except.map, Report.verdict_sorted, Except.ok.injEq,
        exists_eq_left', hempty, Report.size_sorted]
      refine ⟨by simp, ?_, fun n hn => ?_, by simp⟩
      · by_cases hvs : vs = [] <;> simp [hvs]
      · by_cases hvs : vs = []
        · simp [hvs, Nat.ne_of_lt hn]
        · simp [hvs]

end Validator

/-- After any sequence of calls, every answer of a validator is the one that a newly built validator
gives. Hence the entry points agree, whenever each of them is called: the report is empty iff the
instance is valid iff the verdict is positive, a nonempty report has as many entries as a negative
verdict counts, and all fail with the same failure. The registry may contain any keywords that use
their walkers only by the operations of walkers, and the base is regular, as all parsed locators
are. -/
theorem Options.outcome_after (o : Options)
    (hvocabulary : ∀ registry, o.registry = some registry → registry.Lawful)
    (schema : Json) (base : Url) (hbase : base.Regular) :
    let v := o.assemble schema base
    (∀ history (call : Validator.Call),
      (call.run v).outcome (v.after history) = (call.run v).outcome v.memory) ∧
      ∀ instance_ config (before : Validator.Entry → List Validator.Call),
        let violations := (v.violations instance_ config).outcome (v.after (before .violations))
        let report := (v.report instance_ config).outcome (v.after (before .report))
        let valid := (v.isValid instance_ config).outcome (v.after (before .isValid))
        let verdict := (v.verdict instance_ config).outcome (v.after (before .verdict))
        ((∃ r, report = .ok r ∧ r.violations = []) ↔ valid = .ok true) ∧
          (valid = .ok true ↔ verdict = .ok (.ok ())) ∧
          (∀ n, 0 < n →
            ((∃ r, report = .ok r ∧ r.size = n) ↔
              ∃ invalid, verdict = .ok (.error invalid) ∧ invalid.count = n)) ∧
          ∀ e, (violations = .error e ↔ report = .error e) ∧ (report = .error e ↔ valid = .error e) ∧
            (valid = .error e ↔ verdict = .error e) := by
  intro v
  have ht : v.setting.registry.Lawful := by
    cases hregistry : o.registry with
    | none =>
        have hdraft : v.setting.registry = .ofDraft o.draft := by simp [v, assemble, hregistry]
        rw [hdraft]
        exact (Registry.preset_ofDraft o.draft).lawful
    | some registry =>
        have hown : v.setting.registry = registry := by simp [v, assemble, hregistry]
        rw [hown]
        exact hvocabulary registry hregistry
  have hafter := Validator.violations_after ht hbase
  refine ⟨fun history call => ?_, fun instance_ config before => ?_⟩
  · rw [Validator.Call.outcome_run, Validator.Call.outcome_run, hafter]
  · intro violations report valid verdict
    -- All of them are computed from the violations that a new validator finds.
    have hviolations : violations = (v.violations instance_ config).outcome v.memory := hafter ..
    have hreport : report = ((v.violations instance_ config).outcome v.memory).map .sorted := by
      rw [← hafter (before .report)]
      exact v.outcome_report ..
    have hvalid : valid = ((v.violations instance_ config).outcome v.memory).map List.isEmpty := by
      rw [← hafter (before .isValid)]
      exact v.outcome_isValid ..
    have hverdict : verdict = ((v.violations instance_ config).outcome v.memory).map
        fun vs => (Report.sorted vs).verdict := by
      rw [← hafter (before .verdict)]
      exact v.outcome_verdict ..
    rw [hviolations, hreport, hvalid, hverdict]
    exact Validator.agree_of_violations _

/-- A document that cannot be loaded, a pattern that does not compile and a pointer that leads
nowhere do not affect later answers, also with a keyword that reports the scope it is applied in. -/
theorem Options.outcome_after_failures :
    let probe : Keyword := fun _ _ _ _ => do
      let s ← Walk.read
      return [.ofMessage s.scopes.current.write]
    let o : Options :=
      { standard .offline with registry := some (Registry.draft4.register "probe" probe), depth := 9 }
    let schema : Json := .object [("properties", .object
      [("a", .object [("$ref", .string "gone.json")]), ("b", .object [("pattern", .string "(")]),
        ("c", .object [("$ref", .string "#/nowhere")]), ("d", .object [("probe", .null)])])]
    let v := o.assemble schema Validator.defaultBase
    let call (entry : Validator.Entry) (key : String) : Validator.Call :=
      ⟨entry, .object [(key, .string "x")], .permissive⟩
    let history := [call .report "a", call .isValid "b", call .verdict "c"]
    (history.map fun call => ((v.violations call.instance_ .permissive).outcome v.memory).map
        List.length) =
        [.error (.schema (.fetch "memory:///gone.json" "offline")),
          .error (.schema (.invalidPattern "(")),
          .error (.schema (.unresolvableFragment "memory:///schema.json" "/nowhere"))] ∧
      ∃ invalid, (v.verdict (call .verdict "d").instance_ .permissive).outcome (v.after history) =
        .ok (.error invalid) ∧ invalid.count = 1 := by
  intro probe o schema v call history
  have hfailures : (history.map fun call =>
      ((v.violations call.instance_ .permissive).outcome v.memory).map List.length) =
        [.error (.schema (.fetch "memory:///gone.json" "offline")),
          .error (.schema (.invalidPattern "(")),
          .error (.schema (.unresolvableFragment "memory:///schema.json" "/nowhere"))] := by
    decide +kernel
  have hprobe : probe.Lawful := fun _ _ _ =>
    .look fun scopes _ _ => .pure [Violation.ofMessage scopes.current.write]
  have hvocabulary (registry : Registry) (h : o.registry = some registry) : registry.Lawful := by
    cases h
    exact (Registry.preset_ofDraft .draft4).lawful.register hprobe "probe"
  have hparse : Url.parse "memory:///schema.json" = .ok Validator.defaultBase := by decide +kernel
  obtain ⟨-, hagree⟩ := o.outcome_after hvocabulary schema _ (Url.parse_regular hparse)
  -- The report of a new validator, and the verdict of one after three failures.
  have hreport : ((v.report (call .verdict "d").instance_ .permissive).outcome v.memory).map
      Report.size = .ok 1 := by decide +kernel
  obtain ⟨-, -, hcount, -⟩ := hagree (call .verdict "d").instance_ .permissive fun
    | .report => []
    | _ => history
  refine ⟨hfailures, (hcount 1 Nat.one_pos).mp ?_⟩
  revert hreport
  show ((v.report _ _).outcome v.memory).map Report.size = .ok 1 →
    ∃ r, (v.report _ _).outcome v.memory = .ok r ∧ r.size = 1
  cases (v.report (call .verdict "d").instance_ .permissive).outcome v.memory with
  | error e => exact fun h => nomatch h
  | ok r => exact fun h => ⟨r, rfl, Except.ok.inj h⟩

end SchemaCheck
