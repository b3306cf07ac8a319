import SchemaCheck.Proofs.Keyword.Checked
import SchemaCheck.Proofs.Validator.Termination
import SchemaCheck.Proofs.Visit.Overflow

/-!
Validations that break off. The only operation of the keywords that can fail without a reported
error is one remainder: that of the least signed integer by minus one.
-/

namespace SchemaCheck

open Walk

namespace Options

/-- A validator of either draft with a sufficient depth ends each validation with violations or with
a reported error, if its documents can be loaded at finitely many locators only. Adding checks to
all partial operations of the keywords does not change the validator. There is one exception: a
validation breaks off at the remainder of the least signed integer by minus one, which requires that
the instance contains that integer and that the schema or a loaded document contains that
divisor. -/
theorem breaks_at_overflow_alone (o : Options) (hvocabulary : o.registry = none) (urls : List Url)
    (hfetcher : ∀ u bytes, o.fetcher u = .ok bytes → u ∈ urls) (schema : Json) (base : Url)
    (instance_ : Json) :
    let v := o.assemble schema base
    (∀ fault, { o with registry := some (.checked fault o.draft) }.assemble schema base = v) ∧
      ∃ n, ∀ config memory, v.Recalls memory → ∀ depth, n ≤ depth → ∀ e,
        ((v.withDepth depth).violations instance_ config).outcome memory = .error e →
          (∃ reported, e = .schema reported) ∨
            (e = .remainderOverflow ∧ Json.PartOf .leastSigned instance_ ∧
              ∃ document, (document = schema ∨
                ∃ u ∈ urls, (o.resolver base).fetched u = .ok document) ∧
                o.draft.DividesByMinusOne document) := by
  intro v
  have ht : v.setting.registry = .ofDraft o.draft := registry_assemble hvocabulary schema base
  refine ⟨fun fault => ?_, ?_⟩
  · simp only [v, assemble, Registry.checked_eq, hvocabulary, Option.getD_some, Option.getD_none]
    rfl
  obtain ⟨n, hn⟩ := o.exists_depth hvocabulary urls hfetcher schema base instance_
  refine ⟨n, fun config memory hmemory depth hdepth e herror => ?_⟩
  have hconfined := v.setting.resolver.confined_horizon hfetcher schema
  have hlinked := Setting.linked_visit_overflow ht rfl hconfined depth
    (s := v.start config memory) none (.of_document List.mem_cons_self)
    (.whole (j := (Subject.root instance_).value))
  have hwithin := hmemory.within ht hfetcher
  have hoverflows := (hlinked memory memory ⟨rfl, hwithin⟩).of_same.2 e herror
  cases e with
  | schema reported => exact .inl ⟨reported, rfl⟩
  | remainderOverflow =>
      obtain ⟨hleast, document, hdocument, hdivides⟩ := hoverflows rfl
      exact .inr ⟨rfl, hleast, document, Resolver.mem_documents_horizon hdocument, hdivides⟩
  | tooDeep => exact absurd herror (hn config memory hmemory depth hdepth).1

/-- An instance without the least integer, with a divisor of zero, one of minus one, more elements
than `items` has schemas, and a branch behind the first valid one. -/
theorem breaks_at_overflow_alone_safe :
    let zero : Json := .number (.integer ⟨0, by decide, by decide⟩)
    let seven : Json := .number (.integer ⟨7, by decide, by decide⟩)
    let schema : Json := .object [("additionalItems", .bool false),
      ("items", .array [.object [("multipleOf", zero)]]), ("minItems", zero),
      ("oneOf", .array [.object [("multipleOf", .minusOne)], .object []]), ("uniqueItems", .bool true)]
    let v := (standard .offline).assemble schema Validator.defaultBase
    let instance_ : Json := .array [seven, .string "7", seven]
    (((v.withDepth 9).violations instance_ .permissive).outcome v.memory).map List.length = .ok 3 ∧
      ∃ n, ∀ depth, n ≤ depth → ∀ e,
        ((v.withDepth depth).violations instance_ .permissive).outcome v.memory = .error e →
          ∃ reported, e = .schema reported := by
  intro zero seven schema v instance_
  obtain ⟨-, n, hn⟩ := (standard .offline).breaks_at_overflow_alone rfl []
    (fun u bytes h => absurd h (Fetcher.offline_ne_ok u bytes)) schema Validator.defaultBase instance_
  refine ⟨by decide +kernel, n, fun depth hdepth e herror => ?_⟩
  rcases hn .permissive v.memory .first depth hdepth e herror with hreported | ⟨-, hleast, -⟩
  · exact hreported
  · have hparts : Json.leastSigned ∈ [instance_, seven, .string "7", seven] := hleast.mem_parts
    simp [instance_, seven, Json.leastSigned] at hparts

/-- The divisor minus one breaks off the validation of the least integer: there are neither
violations nor a reported error. -/
theorem breaks_at_overflow :
    let schema : Json := .object [("multipleOf", .minusOne)]
    let v := (standard .offline).build schema Validator.defaultBase
    Validator.ofSchema .offline schema = .ok v ∧
      ((v.violations .leastSigned v.config).outcome v.memory).map List.length =
        .error .remainderOverflow := by
  intro schema v
  exact ⟨rfl, by decide +kernel⟩

end Options

end SchemaCheck
