import SchemaCheck.Proofs.Validator.Home
import SchemaCheck.Proofs.Visit.Entry

/-!
Validations with ids. The references of a document are joined with the scope that the document
declares by its `id` if the document was entered as a whole, and with the locator it was entered by
if that has a pointer.
-/

namespace SchemaCheck

open Classical in
/-- Every schema that a validation applies lies in the document that the innermost open reference
leads to. If this document has no `id` but the one at its top, the references of the schema are
joined with the scope declared by that `id` if the open reference leads to the whole document, and
with the target of the open reference if it leads to a part. -/
theorem Options.applies_as_entered (o : Options) (hvocabulary : o.registry = none) (schema : Json)
    (base : Url) (hbase : base.Regular) :
    let v := o.build schema base
    ∀ instance_ config memory, v.Recalls memory → ∀ depth e,
      (v.setting.visitWhere
        (fun s sub => ∃ u whole document, v.setting.Entered v.schema u whole document s sub) e depth
        (.root instance_) v.schema none (v.start config memory)).1 =
      ((v.withDepth depth).violations instance_ config).outcome memory := by
  intro v instance_ config memory hmemory depth e
  have ht : v.setting.registry = .ofDraft o.draft := by
    simp [v, build, assemble, hvocabulary]
  have hfound : v.setting.resolver.documentAt v.schema base = .ok v.schema :=
    v.setting.resolver.documentAt_base v.schema
  have hentered : v.setting.Entered v.schema base true v.schema (v.start config memory) v.schema :=
    .of_whole .root hfound rfl hbase
  have hlawful : v.setting.registry.Lawful := ht ▸ (Registry.preset_ofDraft o.draft).lawful
  have hsound := hmemory.sound hlawful hbase
  have hlinked := (Setting.passes_entered v.setting v.schema).linked ht rfl e depth
    ⟨base, true, v.schema, hentered⟩ (.root instance_) none
  exact (hlinked memory memory ⟨rfl, hsound⟩).of_same.1.symm

open Classical in
/-- A document with an `id` for another location, which is entered as a whole: its reference is
joined with the `id`. -/
theorem Options.applies_as_entered_whole :
    let base : Url :=
      ⟨"memory", some ⟨"", "", none⟩, .rooted ["store", "root.json"], none, none⟩
    let other : Url := { base with path := .rooted ["store", "other.json"] }
    let declared : Url := { base with path := .rooted ["home", "other.json"] }
    let sibling : Url := { declared with path := .rooted ["home", "sibling.json"] }
    let text : String := "\x7b\"id\":\"memory:///home/other.json\",
      \"properties\":\x7b\"v\":\x7b\"$ref\":\"sibling.json\"\x7d\x7d\x7d"
    let served : List (Url × String) := [(other, text), (sibling, "\x7b\"type\":\"integer\"\x7d")]
    let fetcher : Fetcher := fun u =>
      match served.find? (·.1 = u) with
      | some (_, text) => .ok (Utf8.encodeChars text.toList)
      | none => .error (.fetch u.write "offline")
    let o : Options := ⟨.draft4, true, .standard, none, fetcher, 9⟩
    let schema : Json := .object [("properties", .object [("x",
      .object [("$ref", .string "other.json")])])]
    let v := o.build schema base
    let instance_ : Json := .object [("x", .object [("v", .string "7")])]
    let x := v.violations instance_ .permissive
    (∃ document, Document.decode other (Utf8.encodeChars text.toList) = .ok document ∧
      document.Declares other declared) ∧
      (x.leaves v.memory).cache.requests = [sibling, other] ∧
      (x.outcome v.memory).map List.length = .ok 1 ∧
      ∀ e, (v.setting.visitWhere
        (fun s sub => ∃ u whole document, v.setting.Entered v.schema u whole document s sub) e 9
        (.root instance_) v.schema none (v.start .permissive v.memory)).1.map List.length =
          .ok 1 := by
  intro base other declared sibling text served fetcher o schema v instance_ x
  have hparse : Url.parse "memory:///store/root.json" = .ok base := by decide +kernel
  have hread : (Document.decode other (Utf8.encodeChars text.toList)).map
      (fun document => (document.idsBelow, (document.get? "id").bind Json.string?)) =
        .ok ([], some "memory:///home/other.json") := by decide +kernel
  have hjoin : other.join "memory:///home/other.json" = .ok declared := by decide +kernel
  have hrun : (x.leaves v.memory).cache.requests = [sibling, other] ∧
      (x.outcome v.memory).map List.length = .ok 1 := by decide +kernel
  refine ⟨Json.declares_of_map hread hjoin, hrun.1, hrun.2, fun e => ?_⟩
  have hentered := o.applies_as_entered rfl schema base (Url.parse_regular hparse) instance_
    .permissive v.memory .first 9 e
  exact (congrArg _ hentered).trans hrun.2

/-- The same document, entered at the part that contains the reference, which is joined with the
locator of the document and not with the `id`. -/
theorem Options.entered_below_id :
    let base : Url :=
      ⟨"memory", some ⟨"", "", none⟩, .rooted ["store", "root.json"], none, none⟩
    let other : Url := { base with path := .rooted ["store", "other.json"] }
    let neighbour : Url := { base with path := .rooted ["store", "sibling.json"] }
    let declared : Url := { base with path := .rooted ["home", "other.json"] }
    let sibling : Url := { declared with path := .rooted ["home", "sibling.json"] }
    let text : String := "\x7b\"id\":\"memory:///home/other.json\",
      \"definitions\":\x7b\"v\":\x7b\"$ref\":\"sibling.json\"\x7d\x7d\x7d"
    let served : List (Url × String) := [(other, text), (neighbour, "\x7b\"type\":\"string\"\x7d"),
      (sibling, "\x7b\"type\":\"integer\"\x7d")]
    let fetcher : Fetcher := fun u =>
      match served.find? (·.1 = u) with
      | some (_, text) => .ok (Utf8.encodeChars text.toList)
      | none => .error (.fetch u.write "offline")
    let o : Options := ⟨.draft4, true, .standard, none, fetcher, 9⟩
    let schema : Json := .object [("properties", .object [("x",
      .object [("$ref", .string "other.json#/definitions/v")])])]
    let v := o.build schema base
    let x := v.violations (.object [("x", .number (.integer ⟨7, by decide, by decide⟩))]) .permissive
    (∃ document, Document.decode other (Utf8.encodeChars text.toList) = .ok document ∧
      document.Declares other declared) ∧
      declared.join "sibling.json" = .ok sibling ∧ sibling ≠ neighbour ∧
      (x.leaves v.memory).cache.requests = [neighbour, other] ∧
      (x.outcome v.memory).map List.length = .ok 1 := by
  intro base other neighbour declared sibling text served fetcher o schema v x
  have hread : (Document.decode other (Utf8.encodeChars text.toList)).map
      (fun document => (document.idsBelow, (document.get? "id").bind Json.string?)) =
        .ok ([], some "memory:///home/other.json") := by decide +kernel
  have hjoin : other.join "memory:///home/other.json" = .ok declared := by decide +kernel
  exact ⟨Json.declares_of_map hread hjoin, by decide +kernel⟩

end SchemaCheck
