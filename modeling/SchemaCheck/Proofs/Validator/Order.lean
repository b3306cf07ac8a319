import SchemaCheck.Proofs.Validator.Circle
import SchemaCheck.Proofs.Visit.Rearranged
import SchemaCheck.Proofs.Visit.SelfContained

/-!
The order of the branches of an `anyOf` at the root. A validator that applies all branches has the
same outcome for every order. The validator that stops at the first valid branch has this outcome as
well, except that it may miss failures of later branches, depending on the order.
-/

namespace SchemaCheck

open Failure (Rated)
open Violation (Concur)

namespace Setting

variable {t : Setting} {root : Json}

/-- The tokens of the pointer in a reference. -/
def tokensIn? (reference : String) : Option (List (List Char)) :=
  Resolver.fragmentTokens?
    (((Url.fragmentIn reference).map fun f => Utf8.decodeLossy (Percent.decode f)).getD "")

/-- Choices are spared if no reference of a document that can be loaded has a pointer through the
choices. -/
theorem spares_of_documents (urls : List Url)
    (hfetcher : ∀ u bytes, t.resolver.fetcher u = .ok bytes → u ∈ urls)
    (hreferences : ∀ part ∈ (t.resolver.horizon root urls).library.parts,
      ∀ reference ∈ (part.get? "$ref").bind Json.string?,
        ∀ tokens ∈ tokensIn? reference, Json.Pointer.Spares tokens) : t.Spares root := by
  intro scope members hreach own hown reference hnames u hjoin hkey tokens htokens
  have hknown := hreach.known (t.resolver.confined_horizon hfetcher root)
    (t.resolver.within_seed root urls) List.mem_cons_self
  obtain ⟨part, hpart, hreference⟩ := part_of_names hknown hnames
  rw [Resolver.decodedFragment, Url.join_fragment hjoin] at htokens
  exact hreferences part hpart reference (by rw [hreference]; rfl) tokens htokens

end Setting

namespace Validator

/-- The validator that applies all branches of the marked lists. -/
def thorough (v : Validator) (marked : Json → Bool) : Validator :=
  { v with setting := v.setting.thorough marked }

/-- The classes of outcomes of a validation. -/
inductive Ending where
  | verdict (valid : Bool)
  /-- A structural failure of the schema is reported. -/
  | failure
  /-- A remainder overflows or the depth limit is exceeded. -/
  | breakOff
  deriving DecidableEq

namespace Ending

def valid? : Ending → Option Bool
  | verdict valid => some valid
  | _ => none

/-- The same class, except that one validation may break off before it meets the failure that the
other one reports. -/
def Alike (x y : Ending) : Prop :=
  x = y ∨ x = failure ∧ y = breakOff ∨ x = breakOff ∧ y = failure

theorem valid?_eq_some_iff {x : Ending} {valid : Bool} :
    x.valid? = some valid ↔ x = verdict valid := by
  cases x <;> simp [valid?]

/-- Two outcomes with the same verdict, if any, are alike. -/
theorem Alike.of_valid? {x y : Ending} (h : x.valid? = y.valid?) : x.Alike y := by
  cases x <;> cases y <;> simp_all [valid?, Alike]

end Ending

def ending (v : Validator) (instance_ : Json) (config : Config) (memory : Memory) : Ending :=
  match (v.isValid instance_ config).outcome memory with
  | .ok valid => .verdict valid
  | .error (.schema _) => .failure
  | .error .remainderOverflow => .breakOff
  | .error .tooDeep => .breakOff

/-- The verdict of a validation, if it has one. -/
def admits? (v : Validator) (instance_ : Json) (config : Config) (memory : Memory) : Option Bool :=
  (v.ending instance_ config memory).valid?

theorem admits?_eq_some_iff {v : Validator} {instance_ : Json} {config : Config} {memory : Memory}
    {valid : Bool} : v.admits? instance_ config memory = some valid ↔
      (v.isValid instance_ config).outcome memory = .ok valid := by
  unfold admits? ending
  split <;> simp_all [Ending.valid?]

theorem admits?_eq_none_of_error {v : Validator} {instance_ : Json} {config : Config}
    {memory : Memory} {e : Failure} (h : (v.isValid instance_ config).outcome memory = .error e) :
    v.admits? instance_ config memory = none := by
  unfold admits? ending
  rw [h]
  cases e <;> rfl

variable {v w : Validator} {instance_ : Json} {config : Config} {m n : Memory} {excused : Prop}

theorem thorough_never (hv : v.setting.registry = .draft4) : v.thorough (fun _ => false) = v := by
  rw [thorough, Setting.thorough_never hv]

/-- If the results of two validations correspond, their verdicts are the same. -/
theorem admits?_of_rated (h : Rated excused Concur ((v.violations instance_ config).outcome m)
      ((w.violations instance_ config).outcome n)) {valid : Bool}
    (hvalid : v.admits? instance_ config m = some valid) :
    w.admits? instance_ config n = some valid ∨
      excused ∧ w.admits? instance_ config n = none := by
  rw [admits?_eq_some_iff, outcome_isValid] at hvalid
  cases hviolations : (v.violations instance_ config).outcome m with
  | error e =>
      rw [hviolations] at hvalid
      cases hvalid
  | ok violations =>
      rw [hviolations] at hvalid
      cases hvalid
      rcases h violations hviolations with ⟨others, hothers, hconcur⟩ | ⟨hexcused, e, he⟩
      · refine .inl (admits?_eq_some_iff.mpr ?_)
        rw [outcome_isValid, hothers]
        refine congrArg Except.ok (Bool.eq_iff_iff.mpr ?_)
        rw [List.isEmpty_iff, List.isEmpty_iff]
        exact hconcur.symm
      · refine .inr ⟨hexcused, admits?_eq_none_of_error (e := e) ?_⟩
        rw [outcome_isValid, he]
        rfl

end Validator

namespace Options

variable {o : Options} {base : Url} {before after : Json.Members} {branches others : List Json}
variable {excused : Prop} {marked marked' : Json → Bool} {m n : Memory}

/-- The validator of a schema with the branches under `anyOf` at its root, among other members. -/
def choosing (o : Options) (base : Url) (before after : Json.Members) (branches : List Json) :
    Validator :=
  o.assemble (.object (before ++ ("anyOf", .array branches) :: after)) base

section Choosing

variable {instance_ : Json} {config : Config} {valid : Bool}
variable (hregistry : (o.choosing base before after branches).setting.registry = .draft4)
  (hbase : base.Regular)
  (hspares : (o.choosing base before after branches).setting.Spares
    (o.choosing base before after branches).schema)
  (hmarks : ∀ declared, marked' declared = true → marked declared = true)
  (hm : (o.choosing base before after branches).Recalls m)
  (hn : (o.choosing base before after others).Recalls n)

include hregistry hbase hspares hmarks hm hn

/-- A verdict of the validator for one list is a verdict of the validator for the other list. -/
theorem admits?_choosing (hreorders : Setting.Reorders excused marked branches others)
    (hvalid : ((o.choosing base before after branches).thorough marked).admits? instance_ config m =
      some valid) :
    ((o.choosing base before after others).thorough marked').admits? instance_ config n =
        some valid ∨
      excused ∧ ((o.choosing base before after others).thorough marked').admits? instance_
        config n = none := by
  have hlawful (l : List Json) : (o.choosing base before after l).setting.registry.Lawful :=
    Setting.lawful_draft4 hregistry
  have hstart : ((o.choosing base before after branches).start config m).scopes.Regular :=
    .ofBase hbase
  have htop := Json.Members.rearranged_of_choices hreorders before after
  have hpairs := Setting.pairs_visit hregistry hmarks htop hspares hstart .root (.object htop) o.depth
    (.root instance_) none
  refine Validator.admits?_of_rated ?_ hvalid
  exact (hpairs m n ⟨hm.sound (hlawful _) hbase, hn.sound (hlawful _) hbase⟩).rated

/-- A verdict of the thorough choice is the verdict for any order of the branches, with the thorough
choice and without it. -/
theorem admits?_of_marked (hsame : ∀ branch, branch ∈ branches ↔ branch ∈ others)
    (hmarked : marked (.array branches) = true)
    (hvalid : ((o.choosing base before after branches).thorough marked).admits? instance_ config m =
      some valid) :
    ((o.choosing base before after others).thorough marked').admits? instance_ config n =
      some valid := by
  have hreorders : Setting.Reorders False marked branches others := ⟨hsame, .inr hmarked⟩
  have hsaid := admits?_choosing hregistry hbase hspares hmarks hm hn hreorders hvalid
  exact hsaid.resolve_right And.left

end Choosing

/-- Reordering the branches of an `anyOf` at the root, where no reference points into them. The
validator with the thorough choice ends alike for both orders, and a verdict of it is the verdict of
the validator that stops at the first valid branch, in both orders. Otherwise the latter still ends
alike for both orders, unless the thorough one has no verdict and one of the two orders has none.
The memories may stem from any previous validations. -/
theorem order_of_choices (o : Options) (hdraft : o.draft = .draft4)
    (hvocabulary : o.registry = none) (before after : Json.Members) {branches others : List Json}
    (hperm : branches.Perm others) (base : Url) (hbase : base.Regular)
    (hspares : (o.choosing base before after branches).setting.Spares
      (o.choosing base before after branches).schema) :
    let v := o.choosing base before after branches
    let w := o.choosing base before after others
    ∀ marked : Json → Bool, marked (.array branches) = true → marked (.array others) = true →
      ∀ m n, v.Recalls m → w.Recalls n → ∀ instance_ config,
        ((v.thorough marked).ending instance_ config m).Alike
            ((w.thorough marked).ending instance_ config n) ∧
          (∀ valid, (v.thorough marked).ending instance_ config m = .verdict valid →
            v.ending instance_ config m = .verdict valid ∧
              w.ending instance_ config n = .verdict valid) ∧
          ((v.ending instance_ config m).Alike (w.ending instance_ config n) ∨
            ((v.thorough marked).ending instance_ config m).valid? = none ∧
              ((v.ending instance_ config m).valid? = none ∨
                (w.ending instance_ config n).valid? = none)) := by
  intro v w marked hmarked hmarked' m n hm hn instance_ config
  have hregistry (l : List Json) : (o.choosing base before after l).setting.registry = .draft4 := by
    refine (registry_assemble hvocabulary _ base).trans ?_
    rw [hdraft]
    rfl
  have hnever : v.thorough (fun _ => false) = v :=
    Validator.thorough_never (hregistry branches)
  have hnever' : w.thorough (fun _ => false) = w :=
    Validator.thorough_never (hregistry others)
  have hmem (branch : Json) : branch ∈ branches ↔ branch ∈ others := hperm.mem_iff
  have hspares' : w.setting.Spares w.schema :=
    hspares.of_rearranged (Json.Members.rearranged_of_choices hmem before after) fun _ _ h => h
  have hnone (declared : Json) (h : false = true) : marked declared = true := nomatch h
  -- A verdict of a thorough validation is the verdict of all others.
  have hthere {valid : Bool} (h : (v.thorough marked).admits? instance_ config m = some valid) :
      (w.thorough marked).admits? instance_ config n = some valid :=
    admits?_of_marked (hregistry _) hbase hspares (fun _ h => h) hm hn hmem hmarked h
  have hback {valid : Bool} (h : (w.thorough marked).admits? instance_ config n = some valid) :
      (v.thorough marked).admits? instance_ config m = some valid :=
    admits?_of_marked (hregistry _) hbase hspares' (fun _ h => h) hn hm
      (fun branch => (hmem branch).symm) hmarked' h
  have hfirst {valid : Bool} (h : (v.thorough marked).admits? instance_ config m = some valid) :
      v.admits? instance_ config m = some valid := by
    rw [← hnever]
    exact admits?_of_marked (hregistry _) hbase hspares hnone hm hm (fun _ => .rfl) hmarked h
  have hsecond {valid : Bool} (h : (v.thorough marked).admits? instance_ config m = some valid) :
      w.admits? instance_ config n = some valid := by
    rw [← hnever']
    exact admits?_of_marked (hregistry _) hbase hspares hnone hm hn hmem hmarked h
  -- Two validations with verdicts have the same one, whichever failures they have missed.
  have hboth {valid : Bool} (h : v.admits? instance_ config m = some valid) :
      w.admits? instance_ config n = some valid ∨ w.admits? instance_ config n = none := by
    rw [← hnever] at h
    rw [← hnever']
    have hexcused : Setting.Reorders True (fun _ => false) branches others := ⟨hmem, .inl trivial⟩
    have hsaid := admits?_choosing (hregistry _) hbase hspares (fun _ h => h) hm hn hexcused h
    exact hsaid.imp_right And.right
  have hsame : (v.thorough marked).admits? instance_ config m =
      (w.thorough marked).admits? instance_ config n := Option.ext fun valid => ⟨hthere, hback⟩
  refine ⟨.of_valid? hsame, fun valid h => ?_, ?_⟩
  · simp only [← Validator.Ending.valid?_eq_some_iff] at h ⊢
    exact ⟨hfirst h, hsecond h⟩
  cases hthorough : (v.thorough marked).admits? instance_ config m with
  | some valid => exact .inl (.of_valid? ((hfirst hthorough).trans (hsecond hthorough).symm))
  | none =>
      cases hverdict : v.admits? instance_ config m with
      | none => exact .inr ⟨hthorough, .inl hverdict⟩
      | some valid =>
          rcases hboth hverdict with hvalid | hnothing
          · exact .inl (.of_valid? (hverdict.trans hvalid.symm))
          · exact .inr ⟨hthorough, .inr hnothing⟩

/-- Branches with references to a definition and to the whole schema, in both orders. -/
theorem order_of_choices_nested :
    let o : Options := { standard .offline with depth := 9 }
    let refer (reference : String) : Json := .object [("$ref", .string reference)]
    let text : Json := .object [("type", .string "string")]
    let nested : Json :=
      .object [("type", .string "array"), ("items", refer "#")]
    let before : Json.Members := [("definitions", .object [("text", text)])]
    let branches : List Json := [refer "#/definitions/text", nested]
    let v := o.choosing Validator.defaultBase before [] branches
    let w := o.choosing Validator.defaultBase before [] branches.reverse
    let texts : Json := .array [.string "a", .array [.string "b"]]
    (v.thorough fun _ => true).ending texts .permissive v.memory = .verdict true ∧
      v.ending texts .permissive v.memory = .verdict true ∧
      w.ending texts .permissive w.memory = .verdict true := by
  intro o refer text nested before branches v w texts
  have hthorough : (v.thorough fun _ => true).ending texts .permissive v.memory = .verdict true := by
    decide +kernel
  have hspares : v.setting.Spares v.schema :=
    Setting.spares_of_documents []
      (fun u bytes h => absurd h (Fetcher.offline_ne_ok u bytes)) (by decide +kernel)
  have horder := o.order_of_choices rfl rfl before [] (List.reverse_perm branches).symm
    Validator.defaultBase Validator.regular_defaultBase hspares (fun _ => true) rfl rfl v.memory
    w.memory .first .first texts .permissive
  exact ⟨hthorough, horder.2.1 true hthorough⟩

/-- A branch with an unknown type is reported in front of a valid branch but not behind it. The
thorough choice reports it in both orders. -/
theorem passes_over_failure :
    let o : Options := { standard .offline with depth := 9 }
    let typed (name : String) : Json := .object [("type", .string name)]
    let v := o.choosing Validator.defaultBase [] [] [typed "string", typed "nonesuch"]
    let w := o.choosing Validator.defaultBase [] [] [typed "nonesuch", typed "string"]
    let check (v : Validator) := (v.isValid (.string "x") .permissive).outcome v.memory
    let failure : Failure := .schema (.unknownType "nonesuch")
    check v = .ok true ∧ check w = .error failure ∧
      check (v.thorough fun _ => true) = .error failure ∧
      check (w.thorough fun _ => true) = .error failure := by
  decide +kernel

end Options

end SchemaCheck
