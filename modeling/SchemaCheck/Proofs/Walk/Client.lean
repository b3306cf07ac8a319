import SchemaCheck.Proofs.Url.Regular
import SchemaCheck.Proofs.Walk.Program

/-!
Keywords of any origin. A registry may contain keywords that are not of the drafts, which are only
assumed to use their walkers by the operations of walkers. A `Client` is a computation that is built
from these operations. Unlike a program it may apply any schema to any subject, read the scopes and
the flag in force, and enter scopes. It has no access to the memory except for resolving references
and compiling patterns.
-/

namespace SchemaCheck

/-- All locators of the stack are regular. -/
structure ScopeStack.Regular (s : ScopeStack) : Prop where
  base : s.base.Regular
  pushed : ∀ u ∈ s.pushed, u.Regular

namespace ScopeStack.Regular

variable {s : ScopeStack} {u : Url}

theorem current (h : s.Regular) : s.current.Regular := by
  unfold ScopeStack.current
  cases hhead : s.pushed.head? with
  | none => exact h.base
  | some u => exact h.pushed u (List.mem_of_mem_head? hhead)

theorem push (h : s.Regular) (hu : u.Regular) : (s.push u).Regular :=
  ⟨h.base, List.forall_mem_cons.mpr ⟨hu, h.pushed⟩⟩

theorem ofBase (hu : u.Regular) : (ScopeStack.ofBase u).Regular :=
  ⟨hu, fun _ h => nomatch h⟩

end ScopeStack.Regular

namespace Walk

variable {α β : Type}

/-- The computation uses its walker by these operations only. -/
inductive Client : {α : Type} → (Walker → Walk α) → Prop
  | pure {α : Type} (a : α) : Client fun _ => (Pure.pure a : Walk α)
  | bind {α β : Type} {x : Walker → Walk α} {f : α → Walker → Walk β} :
      Client x → (∀ a, Client (f a)) → Client fun w => x w >>= fun a => f a w
  | fail {α : Type} (e : Failure) : Client fun _ => (Walk.fail e : Walk α)
  | regex (pattern : String) : Client fun _ => Walk.regex pattern
  | resolve (reference : String) : Client fun w => w.resolve reference
  | look {α : Type} {f : ScopeStack → Bool → Walker → Walk α} :
      (∀ scopes ban, scopes.Regular → Client (f scopes ban)) →
      Client fun w => Walk.read >>= fun s => f s.scopes s.frame.ban w
  | inScope {α : Type} {x : Walker → Walk α} {u : Url} :
      u.Regular → Client x → Client fun w => Walk.inScope u (x w)
  | descend (subject : Subject) (schema : Json) : Client fun w => w.descend subject schema
  | branch (subject : Subject) (schema : Json) : Client fun w => w.applyBranch subject schema
  | refer (reference : String) (subject : Subject) : Client fun w => w.refer reference subject

theorem Client.map {x : Walker → Walk α} (hx : Client x) (f : α → β) :
    Client fun w => do return f (← x w) :=
  .bind hx fun a => .pure (f a)

theorem Client.collect {f : β → Walker → Walk (List α)} {l : List β}
    (h : ∀ b ∈ l, Client (f b)) : Client fun w => Walk.collect (fun b => f b w) l := by
  induction l with
  | nil => exact .pure []
  | cons b rest ih =>
      have hrest := ih fun c hc => h c (List.mem_cons_of_mem _ hc)
      exact .bind (h b List.mem_cons_self) fun bs => hrest.map fun more => bs ++ more

theorem Client.each {f : β → Walker → Walk α} {l : List β} (h : ∀ b ∈ l, Client (f b)) :
    Client fun w => Walk.each (fun b => f b w) l := by
  induction l with
  | nil => exact .pure []
  | cons b rest ih =>
      have hrest := ih fun c hc => h c (List.mem_cons_of_mem _ hc)
      exact .bind (h b List.mem_cons_self) fun a => hrest.map fun as => a :: as

/-- Every program is a client. -/
theorem Program.client {r : Reach} {x : Walker → Walk α} (hx : Program r x) : Client x := by
  induction hx with
  | pure a => exact .pure a
  | bind _ _ ihx ihf => exact .bind ihx ihf
  | fail _ => exact .fail _
  | regex pattern => exact .regex pattern
  | resolve _ => exact .resolve _
  | descend _ _ => exact .descend _ _
  | branch _ => exact .branch _ _
  | refer _ => exact .refer _ _

end Walk

end SchemaCheck
