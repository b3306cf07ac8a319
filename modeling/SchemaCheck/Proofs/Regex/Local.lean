import Mathlib.Data.List.TakeWhile
import SchemaCheck.Regex.Parser

/-!
The lookahead of the readers of a pattern. A reader parses a prefix of a text and returns the rest.
If it succeeds, it is not affected by a bar appended to the text. This does not hold for `skip`
itself, since a comment extends to the end of its line and so over an appended bar.
-/

namespace SchemaCheck.Regex.Parser

/-- A result of the reader stays the same if a bar and any text are appended, and its rest is no
longer than the text. -/
def Local {α : Type} (f : List Char → Option (α × List Char)) (s : List Char) : Prop :=
  ∀ a rest, f s = some (a, rest) →
    rest.length ≤ s.length ∧ ∀ more, f (s ++ '|' :: more) = some (a, rest ++ '|' :: more)

variable {α β : Type} {flags : Flags} {s rest : List Char} {c : Char}

section Skip

theorem skipExtended_append {inComment : Bool} (h : skipExtended inComment s ≠ [])
    (more : List Char) :
    skipExtended inComment (s ++ more) = skipExtended inComment s ++ more := by
  induction s generalizing inComment with
  | nil => exact absurd rfl h
  | cons c rest ih =>
      rw [List.cons_append]
      unfold skipExtended at h ⊢
      split
      next hcomment => exact ih (by simpa [hcomment] using h)
      next hcomment =>
        split
        next hblank => exact ih (by simpa [hcomment, hblank] using h)
        next hblank =>
          split
          next hsign =>
            rw [if_neg hcomment, if_neg hblank, if_pos hsign] at h
            exact ih h
          next => rfl

theorem length_skipExtended_le (inComment : Bool) (s : List Char) :
    (skipExtended inComment s).length ≤ s.length := by
  induction s generalizing inComment with
  | nil => exact Nat.le_refl _
  | cons c rest ih =>
      unfold skipExtended
      split
      next => exact Nat.le_succ_of_le (ih _)
      next =>
        split
        next => exact Nat.le_succ_of_le (ih _)
        next =>
          split
          next => exact Nat.le_succ_of_le (ih _)
          next => exact Nat.le_refl _

theorem length_skip_le (flags : Flags) (s : List Char) : (skip flags s).length ≤ s.length := by
  unfold skip
  split
  · exact length_skipExtended_le _ _
  · exact Nat.le_refl _

@[simp] theorem skip_nil (flags : Flags) : skip flags [] = [] :=
  List.eq_nil_of_length_eq_zero (Nat.le_zero.mp (length_skip_le flags []))

/-- If skipping leaves a rest, the appended text is not skipped. -/
theorem skip_append (h : skip flags s ≠ []) (more : List Char) :
    skip flags (s ++ more) = skip flags s ++ more := by
  unfold skip at h ⊢
  split
  next hextended => exact skipExtended_append (by simpa [hextended] using h) more
  next => rfl

theorem skip_append_of_eq (h : skip flags s = c :: rest) (more : List Char) :
    skip flags (s ++ more) = c :: (rest ++ more) := by
  rw [skip_append (h ▸ List.cons_ne_nil _ _), h, List.cons_append]

theorem length_lt_of_skip (h : skip flags s = c :: rest) : rest.length < s.length := by
  have hle := length_skip_le flags s
  rw [h, List.length_cons] at hle
  exact hle

end Skip

namespace Local

variable {f k : List Char → Option (α × List Char)}

theorem of_none (h : f s = none) : Local f s := by
  intro a rest hs
  rw [h] at hs
  cases hs

theorem pure (a : α) : Local (fun s => some (a, s)) s := by
  rintro _ _ ⟨⟩
  exact ⟨Nat.le_refl _, fun _ => rfl⟩

theorem bind {g : α → List Char → Option (β × List Char)} (hf : Local f s)
    (hg : ∀ a rest, Local (g a) rest) : Local (fun s => (f s).bind fun r => g r.1 r.2) s := by
  intro b rest h
  obtain ⟨⟨a, between⟩, hfirst, hsecond⟩ := Option.bind_eq_some_iff.mp h
  obtain ⟨hle, hmore⟩ := hf a between hfirst
  obtain ⟨hle', hmore'⟩ := hg a between b rest hsecond
  exact ⟨Nat.le_trans hle' hle, fun more =>
    Option.bind_eq_some_iff.mpr ⟨_, hmore more, hmore' more⟩⟩

theorem map (g : α → β) (hf : Local f s) :
    Local (fun s => (f s).bind fun r => some (g r.1, r.2)) s :=
  hf.bind (g := fun a rest => some (g a, rest)) fun a _ => .pure (g a)

/-- A reader that first takes the value of an option is local if it is for every value. -/
theorem assume {x : Option β} {g : β → List Char → Option (α × List Char)}
    (h : ∀ b, x = some b → Local (g b) s) : Local (fun s => x.bind fun b => g b s) s := by
  cases x with
  | none => exact .of_none rfl
  | some b => exact h b rfl

/-- A partial function applied to the result keeps a reader local. -/
theorem filterMap (g : α → Option β) (hf : Local f s) :
    Local (fun s => (f s).bind fun r => (g r.1).bind fun b => some (b, r.2)) s :=
  hf.bind (g := fun a rest => (g a).bind fun b => some (b, rest)) fun _ _ =>
    .assume fun b _ => .pure b

theorem ite {p : Prop} [Decidable p] (hf : p → Local f s) (hk : ¬ p → Local k s) :
    Local (fun s => if p then f s else k s) s := by
  split
  next hp => exact hf hp
  next hp => exact hk hp

/-- Reading a first character keeps a reader local. -/
theorem cons (h : Local (fun rest => f (c :: rest)) rest) : Local f (c :: rest) :=
  fun a after hs => ⟨Nat.le_succ_of_le (h a after hs).1, (h a after hs).2⟩

theorem of_eq (hk : Local k s) (h : ∀ s, f s = k s) : Local f s :=
  (funext h : f = k) ▸ hk

/-- A reader that agrees with a local one on the texts that start with a character is local on
these. -/
theorem of_eq_cons (h : ∀ rest, f (c :: rest) = k (c :: rest)) (hk : Local k (c :: rest)) :
    Local f (c :: rest) := by
  intro a after hs
  obtain ⟨hle, hmore⟩ := hk a after (h rest ▸ hs)
  exact ⟨hle, fun more => (h _).trans (hmore more)⟩

/-- A reader that fails on the empty text can skip first. -/
theorem afterSkip (hnil : f [] = none) (hf : Local f (skip flags s)) :
    Local (fun s => f (skip flags s)) s := by
  intro a rest h
  dsimp only at h ⊢
  have hne : skip flags s ≠ [] := by
    intro heq
    rw [heq, hnil] at h
    cases h
  obtain ⟨hle, hmore⟩ := hf a rest h
  refine ⟨Nat.le_trans hle (length_skip_le flags s), fun more => ?_⟩
  rw [skip_append hne]
  exact hmore more

/-- A check that the text is not empty keeps a reader local. -/
theorem unlessAtEnd (hf : Local f s) :
    Local (fun s => match skip flags s with | [] => none | _ => f s) s := by
  intro a rest h
  dsimp only at h ⊢
  split at h
  next => cases h
  next hne =>
    obtain ⟨hle, hmore⟩ := hf a rest h
    refine ⟨hle, fun more => ?_⟩
    rw [skip_append hne]
    split
    next heq => exact (hne (List.append_eq_nil_iff.mp heq).1).elim
    next => exact hmore more

/-- A reader that inspects the text behind its first character after skipping, and may leave that
character unread. -/
theorem peek {g : List Char → List Char → Option (α × List Char)}
    (hf : ∀ s, f (c :: s) = g (c :: s) (skip flags s)) (hnil : ∀ s, g s [] = none)
    (h : ∀ d inner, skip flags s = d :: inner → ∀ a rest, g (c :: s) (d :: inner) = some (a, rest) →
      rest.length ≤ s.length + 1 ∧ ∀ more,
        g (c :: s ++ '|' :: more) (d :: inner ++ '|' :: more) = some (a, rest ++ '|' :: more)) :
    Local f (c :: s) := by
  intro a rest hrun
  rw [hf] at hrun
  cases hskip : skip flags s with
  | nil =>
      rw [hskip, hnil] at hrun
      cases hrun
  | cons d inner =>
      rw [hskip] at hrun
      obtain ⟨hle, hmore⟩ := h d inner hskip a rest hrun
      refine ⟨hle, fun more => ?_⟩
      rw [List.cons_append, hf, skip_append_of_eq hskip]
      exact hmore more

end Local

section Span

theorem takeWhile_append_of_dropWhile {p : Char → Bool} (h : s.dropWhile p = c :: rest)
    (more : List Char) : (s ++ more).takeWhile p = s.takeWhile p := by
  induction s with
  | nil => cases h
  | cons d after ih =>
      rw [List.cons_append, List.takeWhile_cons, List.takeWhile_cons]
      cases hd : p d with
      | true =>
          rw [List.dropWhile_cons, hd] at h
          exact congrArg (d :: ·) (ih h)
      | false => rfl

theorem dropWhile_append_of_dropWhile {p : Char → Bool} (h : s.dropWhile p = c :: rest)
    (more : List Char) : (s ++ more).dropWhile p = c :: (rest ++ more) := by
  rw [List.dropWhile_append, h]
  rfl

theorem length_lt_of_dropWhile {p : Char → Bool} (h : s.dropWhile p = c :: rest) :
    rest.length < s.length := by
  have hle := (List.dropWhile_suffix p (l := s)).length_le
  rw [h, List.length_cons] at hle
  exact hle

end Span

section Escape

/-- A number of `count` further hexadecimal digits, from the text with its skipped part removed. -/
def fixedHexFrom (flags : Flags) (value count : Nat) : List Char → Option (Nat × List Char)
  | [] => none
  | c :: after => (hexValue? c).bind fun digit => fixedHex flags (value * 16 + digit) count after

theorem fixedHex_succ (flags : Flags) (value count : Nat) (s : List Char) :
    fixedHex flags value (count + 1) s = fixedHexFrom flags value count (skip flags s) := by
  rfl

theorem local_fixedHex (flags : Flags) (value count : Nat) (s : List Char) :
    Local (fixedHex flags value count) s := by
  induction count generalizing value s with
  | zero => exact .pure value
  | succ count ih =>
      refine .of_eq (.afterSkip rfl ?_) (fixedHex_succ flags value count)
      cases skip flags s with
      | nil => exact .of_none rfl
      | cons c after => exact .cons (.assume fun digit _ => ih _ _)

theorem local_bracedHex (flags : Flags) (value : Option Nat) (s : List Char) :
    Local (bracedHex flags value) s := by
  induction s generalizing value with
  | nil => exact .of_none rfl
  | cons c after ih =>
      refine .cons (.ite (fun _ => ?_) fun _ => .ite (fun _ => ih _) fun _ => .assume fun digit _ =>
        .ite (fun _ => .of_none rfl) fun _ => ih _)
      cases value with
      | none => exact .of_none rfl
      | some n => exact .pure n

theorem local_untilBrace (flags : Flags) (s : List Char) : Local (untilBrace flags) s := by
  induction s with
  | nil => exact .of_none rfl
  | cons c after ih => exact .cons (.ite (fun _ => .pure []) fun _ =>
      ih.map fun text => if flags.extended && Classes.isBlank c then text else c :: text)

/-- The code point of an escape, from the text with its skipped part removed. -/
def hexDigits (flags : Flags) (count : Nat) : List Char → Option (Nat × List Char)
  | '\x7b' :: rest => (bracedHex flags none (skip flags rest)).bind fun r =>
      (scalar? r.1).bind fun n => some (n, r.2)
  | s => (fixedHex flags 0 count s).bind fun r => (scalar? r.1).bind fun n => some (n, r.2)

theorem hexEscape_eq (flags : Flags) (count : Nat) (s : List Char) :
    hexEscape flags count s = hexDigits flags count (skip flags s) := by
  rfl

theorem local_hexEscape (flags : Flags) (count : Nat) (s : List Char) :
    Local (hexEscape flags (count + 1)) s := by
  have hnil : hexDigits flags (count + 1) [] = none := by
    show (fixedHex flags 0 (count + 1) []).bind _ = none
    unfold fixedHex
    rw [skip_nil]
    rfl
  refine .of_eq (.afterSkip hnil ?_) (hexEscape_eq flags (count + 1))
  cases skip flags s with
  | nil => exact .of_none hnil
  | cons c after =>
      by_cases hbrace : c = '\x7b'
      · subst hbrace
        exact .cons (.filterMap scalar? (.afterSkip rfl (local_bracedHex _ _ _)))
      · exact .of_eq_cons (fun rest => by rw [hexDigits]; rintro _ ⟨⟩; exact hbrace rfl)
          (.filterMap scalar? (local_fixedHex flags 0 (count + 1) _))

/-- The class named after `\p`, from the text with its skipped part removed. -/
def namedClass (flags : Flags) (negated : Bool) : List Char → Option (Atom × List Char)
  | [] => none
  | '\\' :: _ => none
  | '\x7b' :: rest => (untilBrace flags rest).bind fun r => (Classes.braced? r.1).bind fun set =>
      some (.set (negateIf negated (foldIf flags set)), r.2)
  | c :: rest => (Classes.named? [c]).bind fun set =>
      some (.set (negateIf negated (foldIf flags set)), rest)

theorem propertyEscape_eq (flags : Flags) (negated : Bool) (s : List Char) :
    propertyEscape flags negated s =
      if !flags.unicode then none else namedClass flags negated (skip flags s) := by
  rfl

theorem local_namedClass (flags : Flags) (negated : Bool) (s : List Char) :
    Local (namedClass flags negated) s := by
  cases s with
  | nil => exact .of_none rfl
  | cons c after =>
      by_cases hslash : c = '\\'
      · subst hslash
        exact .of_none rfl
      by_cases hbrace : c = '\x7b'
      · subst hbrace
        exact .cons (.bind (local_untilBrace flags after)
          (g := fun text rest => (Classes.braced? text).bind fun set =>
            some (Atom.set (negateIf negated (foldIf flags set)), rest))
          fun text _ => .assume fun set _ => .pure (Atom.set _))
      · have heq (rest : List Char) : namedClass flags negated (c :: rest) =
            (Classes.named? [c]).bind fun set =>
              some (.set (negateIf negated (foldIf flags set)), rest) := by
          unfold namedClass
          split
          next heq => cases heq
          next heq => exact absurd (List.cons.inj heq).1 hslash
          next heq => exact absurd (List.cons.inj heq).1 hbrace
          next heq => cases heq; rfl
        exact .cons (.of_eq (.assume fun set _ => .pure (Atom.set _)) heq)

theorem local_propertyEscape (flags : Flags) (negated : Bool) (s : List Char) :
    Local (propertyEscape flags negated) s :=
  .of_eq (.ite (fun _ => .of_none rfl) fun _ => .afterSkip rfl (local_namedClass flags negated _))
    (propertyEscape_eq flags negated)

theorem boundaryEscape_other (flags : Flags) (h : c ≠ '\x7b') (rest : List Char) :
    boundaryEscape flags (c :: rest) =
      some (.look (.boundary (Classes.word flags.unicode)), c :: rest) := by
  unfold boundaryEscape
  dsimp only
  split
  next heq =>
    cases heq
    exact absurd rfl h
  next => rfl

/-- The atom for `\b` in front of a brace, from the text behind the brace with its skipped part
removed. -/
def bracedBoundary (flags : Flags) (s : List Char) : List Char → Option (Atom × List Char)
  | [] => none
  | c :: rest =>
    if c.isAlpha ∨ c = '-' then (untilBrace flags (c :: rest)).bind fun r =>
      (boundaryNamed? (Classes.word flags.unicode) r.1).bind fun look => some (.look look, r.2)
    else some (.look (.boundary (Classes.word flags.unicode)), s)

theorem boundaryEscape_brace (flags : Flags) (s : List Char) :
    boundaryEscape flags ('\x7b' :: s) = bracedBoundary flags ('\x7b' :: s) (skip flags s) := by
  rfl

theorem local_boundaryEscape (flags : Flags) (s : List Char) : Local (boundaryEscape flags) s := by
  cases s with
  | nil =>
      rintro a rest ⟨⟩
      exact ⟨Nat.le_refl _, boundaryEscape_other flags (by decide)⟩
  | cons c after =>
      by_cases hbrace : c = '\x7b'
      · subst hbrace
        refine .peek (boundaryEscape_brace flags) (fun _ => rfl) fun c inner hskip a rest h => ?_
        rw [bracedBoundary] at h
        by_cases hletter : c.isAlpha ∨ c = '-'
        · rw [if_pos hletter] at h
          have hnamed : Local (fun s => (untilBrace flags s).bind fun r =>
              (boundaryNamed? (Classes.word flags.unicode) r.1).bind fun look =>
                some (Atom.look look, r.2)) (c :: inner) :=
            (local_untilBrace flags _).bind
              (g := fun name rest => (boundaryNamed? (Classes.word flags.unicode) name).bind fun look =>
                some (Atom.look look, rest))
              fun _ _ => .assume fun look _ => .pure (Atom.look look)
          obtain ⟨hle, hmore⟩ := hnamed a rest h
          have hlt := length_lt_of_skip hskip
          rw [List.length_cons] at hle
          exact ⟨by omega, fun more => (if_pos hletter).trans (hmore more)⟩
        · rw [if_neg hletter] at h
          cases h
          exact ⟨Nat.le_refl _, fun more => if_neg hletter⟩
      · exact .of_eq_cons (boundaryEscape_other flags hbrace)
          (.pure (Atom.look (.boundary (Classes.word flags.unicode))))

theorem local_classEscape (flags : Flags) (negated : Bool) (set : CharSet) (s : List Char) :
    Local (classEscape flags negated set) s :=
  .assume fun set _ => .pure (Atom.set set)

theorem local_codeEscape (flags : Flags) (s : List Char) :
    Local (fun rest => (hexEscape flags 2 rest).bind fun r =>
      if !flags.unicode ∧ 0x80 ≤ r.1 ∧ r.1 ≤ 0xFF then none else some (Atom.char r.1, r.2)) s :=
  .bind (local_hexEscape flags 1 s)
    (g := fun n rest => if !flags.unicode ∧ 0x80 ≤ n ∧ n ≤ 0xFF then none
      else some (Atom.char n, rest))
    fun n _ => .ite (fun _ => .of_none rfl) fun _ => .pure (Atom.char n)

theorem local_longEscape (flags : Flags) (count : Nat) (s : List Char) :
    Local (fun rest => (hexEscape flags (count + 1) rest).map fun r => (Atom.char r.1, r.2)) s :=
  .of_eq ((local_hexEscape flags count s).map Atom.char) fun rest => by
    cases hexEscape flags (count + 1) rest <;> rfl

theorem local_escape (flags : Flags) (s : List Char) : Local (escape flags) s := by
  intro a rest h
  unfold escape at h
  split at h
  case h_1 => cases h
  case h_25 c after _ _ _ _ _ _ _ _ _ _ _ _ _ _ _ _ _ _ _ _ _ _ _ =>
    split at h
    next hself =>
      cases h
      refine ⟨Nat.le_succ _, fun more => ?_⟩
      rw [List.cons_append, escape, if_pos hself]
      all_goals assumption
    next => cases h
  all_goals refine Local.cons (f := escape flags) ?_ a rest h
  case h_2 => exact local_codeEscape flags _
  case h_3 => exact local_longEscape flags 3 _
  case h_4 => exact local_longEscape flags 7 _
  case h_5 => exact local_propertyEscape flags false _
  case h_6 => exact local_propertyEscape flags true _
  case h_7 | h_8 | h_9 | h_10 | h_11 | h_12 => exact local_classEscape flags _ _ _
  case h_21 => exact local_boundaryEscape flags _
  all_goals exact .pure _

end Escape

end SchemaCheck.Regex.Parser
