import SchemaCheck.Proofs.Json.Pointer
import SchemaCheck.Proofs.Resolver.History
import SchemaCheck.Proofs.Text.Encoding

/-!
The target of a pointer in a fragment. A location in a document is escaped, written as a pointer and
percent-encoded. A resolver inverts these three steps and so finds the value at the location. It
strips all leading slashes of a fragment instead of only the first one, so that leading empty keys
of a location are lost.
-/

namespace SchemaCheck

open Json.Pointer (ofLocation ofStep)

/-- The locator with the pointer to a location as its fragment, in which the reserved characters are
encoded. -/
def Url.pointing (u : Url) (reserved : Char → Bool) (l : Location) : Url :=
  { u with fragment := some (Url.Parser.encoded reserved (ofLocation l)) }

namespace Resolver

variable {r : Resolver} {root : Json} {c : Cache} {u v : Url} {j part : Json} {l : Location}
  {reserved : Char → Bool}

theorem documentKey_pointing (u : Url) (reserved : Char → Bool) (l : Location) :
    documentKey (u.pointing reserved l) = documentKey u := by
  rw [documentKey, documentKey, ← Url.withoutFragment_bare, ← Url.withoutFragment_bare u]
  rfl

theorem decodedFragment_pointing (hpercent : reserved '%' = true) (u : Url) (l : Location) :
    decodedFragment (u.pointing reserved l) = String.ofList (ofLocation l) :=
  Percent.decodeLossy_decode_encode hpercent (ofLocation l)

theorem ofLocation_cons (step : Step) (rest : Location) :
    ofLocation (step :: rest) = '/' :: (ofStep step ++ ofLocation rest) :=
  List.flatMap_cons

theorem ofStep_eq_nil {step : Step} : ofStep step = [] ↔ step = .key "" := by
  rw [ofStep, Json.Pointer.escapeToken_eq_nil]
  cases step with
  | key name => simp [Step.write]
  | index i =>
      have hdigits : (Step.index i).write.toList = Nat.toDigits 10 i := Nat.toList_repr
      simp [hdigits, Nat.toDigits_ne_nil]

/-- The leading slashes of a pointer belong to its leading empty keys and to the step after them. -/
theorem fragmentTokens?_ofLocation (l : Location) :
    fragmentTokens? (String.ofList (ofLocation l)) =
      match l.dropWhile (· = .key "") with
      | [] => none
      | step :: rest => some ((step :: rest).map ofStep) := by
  rw [fragmentTokens?, String.toList_ofList]
  induction l with
  | nil => rfl
  | cons step rest ih =>
      rw [ofLocation_cons, List.dropWhile_cons_of_pos (by simp)]
      by_cases hempty : step = .key ""
      · rw [List.dropWhile_cons_of_pos (by simpa using hempty), ofStep_eq_nil.mpr hempty,
          List.nil_append, ih]
      · rw [List.dropWhile_cons_of_neg (by simpa using hempty)]
        dsimp only
        have htokens := Json.Pointer.tokens_ofStep_append step rest
        have hslash := Json.Pointer.slash_not_mem_ofStep step
        cases hstep : ofStep step with
        | nil => exact absurd (ofStep_eq_nil.mp hstep) hempty
        | cons d more =>
            rw [hstep] at htokens hslash
            have hd : d ≠ '/' := by
              rintro rfl
              exact hslash List.mem_cons_self
            rw [List.cons_append, List.dropWhile_cons_of_neg (by simpa using hd), ← htokens]
            rfl

/-- The pointer to a location leads where the location without its leading empty keys leads. -/
theorem pointed_pointing (hpercent : reserved '%' = true)
    (h : Location.follow? (l.dropWhile (· = .key "")) j = some part) :
    pointed (u.pointing reserved l) j = .ok part := by
  rw [pointed, decodedFragment_pointing hpercent, fragmentTokens?_ofLocation]
  cases hrest : l.dropWhile (· = .key "") with
  | nil =>
      rw [hrest] at h
      cases h
      rfl
  | cons step rest =>
      rw [hrest] at h
      dsimp only
      rw [Json.Pointer.walk?_ofLocation h]

theorem pointed_unique {k : Json} (hfragment : decodedFragment u = decodedFragment v)
    (hu : pointed u j = .ok part) (hv : pointed v j = .ok k) : part = k := by
  unfold pointed at hu hv
  rw [hfragment] at hu
  split at hu
  next htokens =>
    rw [htokens] at hv
    cases hu
    cases hv
    rfl
  next tokens htokens =>
    rw [htokens] at hv
    dsimp only at hv
    cases hwalk : Json.Pointer.walk? tokens j with
    | none =>
        rw [hwalk] at hu
        cases hu
    | some target =>
        rw [hwalk] at hu hv
        cases hu
        cases hv
        rfl

theorem documentAt_congr (r : Resolver) (root : Json) (h : u.withoutFragment = v.withoutFragment) :
    r.documentAt root u = r.documentAt root v := by
  rw [documentAt, documentAt, documentKey, documentKey, h]

/-- A document in a sound cache is the document at its locator. -/
theorem documentAt_of_cached (hc : c.Sound r root) (hu : u.Regular)
    (h : Cache.lookup? (documentKey u) c.documents = some j) : r.documentAt root u = .ok j := by
  rw [← run_document_seed, hc.documents u hu j h]

/-- After any calls, the locator of a cached document, with the pointer to a location as its
fragment, leads to the value at the location, unless the location begins with an empty key. The keys
can be any strings, and the set of encoded characters can be any that contains the percent sign.
Also, after any two sequences of calls the same document and pointer lead to the same value. -/
theorem reaches_pointed (r : Resolver) (root : Json) (history : List Call)
    (hregular : ∀ call ∈ history, call.Regular) (u : Url) (hu : u.Regular) :
    (∀ j, Cache.lookup? (documentKey u) (r.after root history).documents = some j →
      ∀ (l : Location) (part : Json), l.follow? j = some part → l.head? ≠ some (.key "") →
        ∀ reserved : Char → Bool, reserved '%' = true →
          ((r.resolveUrl (u.pointing reserved l)).run (r.after root history)).1 = .ok part) ∧
    ∀ others : List Call, (∀ call ∈ others, call.Regular) → ∀ v : Url, v.Regular →
      documentKey v = documentKey u → decodedFragment v = decodedFragment u →
        ∀ part other, ((r.resolveUrl u).run (r.after root history)).1 = .ok part →
          ((r.resolveUrl v).run (r.after root others)).1 = .ok other → part = other := by
  have hsound := (grounded_after r root hregular).2
  refine ⟨fun j hcached l part hpart hhead reserved hpercent => ?_,
    fun others hothers v hv hkey hfragment part other hpart hother => ?_⟩
  · have hkept : l.dropWhile (· = .key "") = l := by
      cases l with
      | nil => rfl
      | cons step rest =>
          exact List.dropWhile_cons_of_neg (by simpa using fun h => hhead (congrArg some h))
    have hlocator : (u.pointing reserved l).Regular := ⟨hu.scheme, hu.authority, hu.path, hu.query⟩
    have hdocument : r.documentAt root (u.pointing reserved l) = .ok j :=
      documentAt_of_cached hsound hlocator (by rwa [documentKey_pointing])
    rw [run_resolveUrl_of_sound hsound hlocator, targetAt_of_document hdocument]
    exact pointed_pointing hpercent (by rwa [hkept])
  · rw [run_resolveUrl_of_sound hsound hu] at hpart
    rw [run_resolveUrl_of_sound (grounded_after r root hothers).2 hv] at hother
    have hsame := documentAt_congr r root (documentKey_injective hv hu hkey)
    cases hdocument : r.documentAt root u with
    | error e =>
        rw [targetAt_of_error hdocument] at hpart
        cases hpart
    | ok j =>
        rw [targetAt_of_document hdocument] at hpart
        rw [targetAt_of_document (hsame.trans hdocument)] at hother
        exact pointed_unique hfragment.symm hpart hother

/-- Keys with slashes, tildes, percent signs and letters outside ASCII, and an empty key in the last
place, after a pointer that leads nowhere. -/
theorem reaches_pointed_marks :
    let base : Url := ⟨"memory", some ⟨"", "", none⟩, .rooted ["root.json"], none, none⟩
    let part : Json := .object [("", .string "here")]
    let root : Json := .object [("a/b", .object [("~1é%25", .array [.null, part])])]
    let r : Resolver :=
      { base, keepsIds := false, fetcher := fun u => .error (.fetch u.write "offline") }
    let l : Location := [.key "a/b", .key "~1é%25", .index 1, .key ""]
    let history : List Call := [.reference "#/a/b" r.scopes, .reference "gone.json" r.scopes]
    let u := base.pointing (fun c => c = '%') l
    u.write = "memory:///root.json#/a~1b/~01%C3%A9%2525/1/" ∧
      l.follow? root = some (.string "here") ∧
      ((r.resolveUrl u).run (r.after root history)).1 = .ok (.string "here") ∧
      ∀ other, ((r.resolveUrl u).run (r.seed root)).1 = .ok other → .string "here" = other := by
  intro base part root r l history u
  have hparse : Url.parse "memory:///root.json" = .ok base := by decide +kernel
  have hbase : base.Regular := Url.parse_regular hparse
  have hregular : ∀ call ∈ history, call.Regular := by
    simp only [history, List.forall_mem_cons]
    exact ⟨hbase, hbase, by simp⟩
  have hu : u.Regular := ⟨hbase.scheme, hbase.authority, hbase.path, hbase.query⟩
  have hheld := (r.kept_after root [] history).documents _ _ (r.lookup?_seed_base root)
  have hplace : l.follow? root = some (.string "here") := rfl
  have hhere : ((r.resolveUrl u).run (r.after root history)).1 = .ok (.string "here") :=
    (reaches_pointed r root history hregular base hbase).1 root hheld l _ hplace (by decide) _
      (by decide)
  exact ⟨by decide +kernel, hplace, hhere, fun other hother =>
    (reaches_pointed r root history hregular u hu).2 [] (List.forall_mem_nil _) u hu rfl rfl _ _ hhere hother⟩

/-- If the first key is empty, the pointer is followed from its second key on. -/
theorem misses_empty_key :
    let base : Url := ⟨"memory", some ⟨"", "", none⟩, .rooted ["root.json"], none, none⟩
    let root : Json := .object [("", .object [("a", .string "inner")]), ("a", .string "outer")]
    let r : Resolver :=
      { base, keepsIds := false, fetcher := fun u => .error (.fetch u.write "offline") }
    let l : Location := [.key "", .key "a"]
    let u := base.pointing (fun c => c = '%') l
    u.write = "memory:///root.json#//a" ∧
      Cache.lookup? (documentKey base) (r.seed root).documents = some root ∧
      l.follow? root = some (.string "inner") ∧
      ((r.resolveUrl u).run (r.seed root)).1.map Json.string? = .ok (some "outer") := by
  intro base root r l u
  exact ⟨by decide +kernel, r.lookup?_seed_base root, rfl, by decide +kernel⟩

end Resolver

end SchemaCheck
