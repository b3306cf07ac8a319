import SchemaCheck.Keyword.Combinator
import SchemaCheck.Proofs.Json.Part

/-!
The programs that keywords consist of. A keyword uses its walker by a few operations only, and a
`Program` is a computation that is built from them, so that a property of walks is proved by
induction on programs, once for all keywords. A program has a reach: the schemas it may apply, to
its subject and its parts, the references it may follow, those it may look up without following
them, and whether it may take the remainder that does not exist.
-/

namespace SchemaCheck

/-- The subject itself, or a direct part of it. -/
inductive Subject.Near (s : Subject) : Subject → Prop
  | here : Near s s
  | member {key : String} {value : Json} {object : Json.Members} :
      s.value = .object object → (key, value) ∈ object → Near s (s.child (.key key) value)
  | item {i : Nat} {value : Json} {items : List Json} :
      s.value = .array items → items[i]? = some value → Near s (s.child (.index i) value)

theorem Subject.Near.part {s t : Subject} (h : s.Near t) : Json.PartOf t.value s.value := by
  cases h with
  | here => exact .whole
  | member hvalue hmem => exact hvalue ▸ .of_mem_members hmem
  | item hvalue hget => exact hvalue ▸ .of_mem_items (List.mem_of_getElem? hget)

/-- The failure reports a reference cycle. -/
def Failure.ReportsCycle (e : Failure) : Prop :=
  ∃ reference, e = .schema (.invalidReference reference "reference cycle")

/-- A failure of a keyword itself: neither a reference cycle nor the depth limit. -/
def Failure.Plain (e : Failure) : Prop :=
  e ≠ .tooDeep ∧ ¬ e.ReportsCycle

namespace Walk

/-- The reach of a program. -/
structure Reach where
  subject : Subject
  schemas : Json → Prop
  references : String → Prop
  /-- The references whose targets are looked up but not applied. -/
  looks : String → Prop
  /-- The least signed integer may be divided by minus one. -/
  overflows : Prop

/-- The reach that is restricted by the subject only. -/
def Reach.free (subject : Subject) : Reach :=
  ⟨subject, fun _ => True, fun _ => True, fun _ => True, True⟩

/-- The reach of computations on the subject, which apply and look up nothing. -/
def Reach.none (subject : Subject) : Reach :=
  ⟨subject, fun _ => False, fun _ => False, fun _ => False, True⟩

/-- A failure that a program of the reach may raise itself. -/
structure Reach.Raises (r : Reach) (e : Failure) : Prop where
  plain : e.Plain
  overflow : e = .remainderOverflow → r.overflows

variable {α β : Type}

/-- The computation uses its walker by these operations only. -/
inductive Program (r : Reach) : {α : Type} → (Walker → Walk α) → Prop
  | pure {α : Type} (a : α) : Program r fun _ => (Pure.pure a : Walk α)
  | bind {α β : Type} {x : Walker → Walk α} {f : α → Walker → Walk β} :
      Program r x → (∀ a, Program r (f a)) → Program r fun w => x w >>= fun a => f a w
  | fail {α : Type} {e : Failure} : r.Raises e → Program r fun _ => (Walk.fail e : Walk α)
  | regex (pattern : String) : Program r fun _ => Walk.regex pattern
  | resolve {reference : String} :
      r.looks reference → Program r fun w => w.resolve reference
  | descend {subject : Subject} {schema : Json} :
      r.subject.Near subject → r.schemas schema → Program r fun w => w.descend subject schema
  | branch {schema : Json} :
      r.schemas schema → Program r fun w => w.applyBranch r.subject schema
  | refer {reference : String} :
      r.references reference → Program r fun w => w.refer reference r.subject

namespace Program

variable {r : Reach} {x : Walker → Walk α} {subject : Subject} {schema : Json}

theorem map (hx : Program r x) (f : α → β) : Program r fun w => do return f (← x w) :=
  .bind hx fun a => .pure (f a)

theorem nil : Program r fun _ => (return [] : Walk (List α)) :=
  .pure []

/-- A program of one reach is a program of every wider one. -/
theorem mono {q : Reach} (hx : Program q x) (hsubject : q.subject = r.subject)
    (hschemas : ∀ schema, q.schemas schema → r.schemas schema)
    (hreferences : ∀ reference, q.references reference → r.references reference)
    (hlooks : ∀ reference, q.looks reference → r.looks reference)
    (hoverflows : q.overflows → r.overflows) : Program r x := by
  induction hx with
  | pure a => exact .pure a
  | bind _ _ ihx ihf => exact .bind ihx ihf
  | fail h => exact .fail ⟨h.plain, fun he => hoverflows (h.overflow he)⟩
  | regex pattern => exact .regex pattern
  | resolve hlook => exact .resolve (hlooks _ hlook)
  | descend hnear hschema => exact .descend (hsubject ▸ hnear) (hschemas _ hschema)
  | branch hschema => exact hsubject ▸ .branch (hschemas _ hschema)
  | refer href => exact hsubject ▸ .refer (hreferences _ href)

theorem free {subject : Subject} (hx : Program r x) (hsubject : r.subject = subject) :
    Program (.free subject) x :=
  hx.mono hsubject (fun _ _ => trivial) (fun _ _ => trivial) (fun _ _ => trivial) fun _ => trivial

theorem ite {c : Prop} [Decidable c] {y : Walker → Walk α} (hx : Program r x)
    (hy : Program r y) : Program r fun w => if c then x w else y w := by
  by_cases h : c
  · simpa only [if_pos h] using hx
  · simpa only [if_neg h] using hy

theorem failWith {e : SchemaError} (h : (Failure.schema e).Plain) :
    Program r fun _ => (Walk.failWith e : Walk α) :=
  .fail ⟨h, nofun⟩

theorem ofExcept {y : Except SchemaError α} (h : ∀ e, y = .error e → (Failure.schema e).Plain) :
    Program r fun _ => Walk.ofExcept y := by
  cases y with
  | ok a => exact .pure a
  | error e => exact .failWith (h e rfl)

theorem collect {f : β → Walker → Walk (List α)} {l : List β}
    (h : ∀ b ∈ l, Program r (f b)) : Program r fun w => Walk.collect (fun b => f b w) l := by
  induction l with
  | nil => exact .pure []
  | cons b rest ih =>
      have hrest := ih fun c hc => h c (List.mem_cons_of_mem _ hc)
      exact .bind (h b List.mem_cons_self) fun bs => hrest.map fun more => bs ++ more

theorem each {f : β → Walker → Walk α} {l : List β} (h : ∀ b ∈ l, Program r (f b)) :
    Program r fun w => Walk.each (fun b => f b w) l := by
  induction l with
  | nil => exact .pure []
  | cons b rest ih =>
      have hrest := ih fun c hc => h c (List.mem_cons_of_mem _ hc)
      exact .bind (h b List.mem_cons_self) fun a => hrest.map fun more => a :: more

theorem descendAt (hnear : r.subject.Near subject) (hschema : r.schemas schema)
    (path schemaPath : Option Step) :
    Program r fun w => w.descendAt subject schema path schemaPath :=
  (Program.descend hnear hschema).map _

theorem descendBranch (hschema : r.schemas schema) (i : Nat) :
    Program r fun w => w.descendBranch r.subject schema i :=
  (Program.branch hschema).map _

theorem isValid (hnear : r.subject.Near subject) (hschema : r.schemas schema) :
    Program r fun w => w.isValid subject schema :=
  (Program.descend hnear hschema).map _

end Program

end Walk

end SchemaCheck
