import SchemaCheck.Proofs.Url.Parser

/-!
Locators without their fragment. Joining a reference with a locator does not depend on the fragment
of the locator.
-/

namespace SchemaCheck.Url

/-- The locator without its fragment. This differs from the locator of its document only in the
blanks at the end of a rootless path, which the latter drops together with the fragment. -/
def bare (u : Url) : Url :=
  { u with fragment := none }

variable {u : Url}

theorem withoutFragment_bare (u : Url) : u.bare.withoutFragment = u.withoutFragment := by
  rcases u with ⟨_, _, path, query, _⟩
  cases path <;> cases query <;> rfl

open SchemaCheck.Url.Parser

theorem file_bare (u : Url) (s : List Char) : file (some u.bare) s = file (some u) s :=
  rfl

theorem withScheme_bare (u : Url) (scheme : String) (s : List Char) :
    withScheme (some u.bare) scheme s = withScheme (some u) scheme s := by
  unfold withScheme
  split
  · by_cases hfile : u.scheme = "file"
    · simp only [Option.filter_some, hfile, show u.bare.scheme = "file" from hfile, decide_true,
        if_true, file_bare]
    · simp only [Option.filter_some, hfile, show u.bare.scheme ≠ "file" from hfile, decide_false,
        Bool.false_eq_true, if_false]
  · rfl
  · rfl

/-- Joining a reference does not depend on the fragment of the base. -/
theorem join_bare (u : Url) (text : String) : u.bare.join text = u.join text := by
  unfold join parseWith
  dsimp only
  split
  · exact withScheme_bare ..
  · split
    · rfl
    · rfl

theorem clean_hash (rest : List Char) : ∃ more, clean ('#' :: rest) = '#' :: more := by
  have hfirst (s : List Char) : ∃ more,
      (('#' :: s).reverse.dropWhile fun c => decide (c.toNat ≤ 0x20)).reverse = '#' :: more := by
    rw [List.reverse_cons, List.dropWhile_append]
    split
    · exact ⟨[], rfl⟩
    · exact ⟨_, List.reverse_append⟩
  obtain ⟨more, hmore⟩ := hfirst rest
  refine ⟨more.filter fun c => c != '\t' && c != '\n' && c != '\r', ?_⟩
  have houter : ('#' :: rest).dropWhile (fun c => decide (c.toNat ≤ 0x20)) = '#' :: rest := rfl
  rw [clean, houter, hmore]
  rfl

/-- A reference that consists of a fragment stays in the document. -/
theorem bare_join_of_hash {text : String} (htext : text.toList.head? = some '#') {v : Url}
    (h : u.join text = .ok v) : v.bare = u.bare := by
  obtain ⟨rest, hrest⟩ : ∃ rest, text.toList = '#' :: rest := by
    cases hlist : text.toList with
    | nil =>
        rw [hlist] at htext
        cases htext
    | cons c rest =>
        rw [hlist] at htext
        cases htext
        exact ⟨rest, rfl⟩
  obtain ⟨more, hmore⟩ := clean_hash rest
  have hscheme : scheme? ('#' :: more) = none := rfl
  unfold join parseWith at h
  rw [hrest, hmore] at h
  dsimp only at h
  rw [hscheme] at h
  cases h
  rfl

end SchemaCheck.Url
