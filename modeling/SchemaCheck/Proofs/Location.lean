import Mathlib.Data.List.Infix
import SchemaCheck.Location
import SchemaCheck.Proofs.Yaml.Spelling

/-!
What the rendered texts of a location determine. Keys are written unescaped, so that different
locations may have the same text in brackets. The text in brackets together with the one joined by
dots determines the location, and the text in brackets alone does if no key contains the delimiter
of two steps.
-/

namespace SchemaCheck

section Delimiter

variable {a b d s t a' b' : List Char}

/-- No proper nonempty prefix of the text is also a suffix of it. -/
def Unbordered (d : List Char) : Prop :=
  ∀ u ∈ d.tails, u <+: d → u = [] ∨ u = d

instance : Decidable (Unbordered d) :=
  inferInstanceAs (Decidable (∀ u ∈ d.tails, u <+: d → u = [] ∨ u = d))

namespace Unbordered

/-- Two occurrences of an unbordered text do not overlap: they are the same, or the second one
starts behind the end of the first one. -/
theorem of_append (hd : Unbordered d) (h : d ++ b = t ++ (d ++ b')) :
    t = [] ∧ b = b' ∨ ∃ c, t = d ++ c ∧ b = c ++ (d ++ b') := by
  rcases List.append_eq_append_iff.mp h with ⟨c, rfl, hb⟩ | ⟨u, rfl, hb⟩
  · exact .inr ⟨c, rfl, hb⟩
  · have hwhole : u <+: (t ++ u) ++ b' := by
      rw [hb]
      exact List.prefix_append ..
    have hu : u <+: t ++ u :=
      List.prefix_of_prefix_length_le hwhole (List.prefix_append ..) (by simp)
    rcases hd u ((List.mem_tails _ _).mpr (List.suffix_append ..)) hu with rfl | hwhole
    · exact .inr ⟨[], by simp, by simpa using hb.symm⟩
    · obtain rfl : t = [] := by simpa using hwhole
      exact .inl ⟨rfl, by simpa using hb.symm⟩

theorem split (hd : Unbordered d) (h : a ++ (d ++ b) = a' ++ (d ++ b')) :
    a = a' ∧ b = b' ∨ (∃ c, a' = a ++ (d ++ c) ∧ b = c ++ (d ++ b')) ∨
      ∃ c, a = a' ++ (d ++ c) ∧ b' = c ++ (d ++ b) := by
  rcases List.append_eq_append_iff.mp h with ⟨t, rfl, ht⟩ | ⟨t, rfl, ht⟩
  · rcases hd.of_append ht with ⟨rfl, rfl⟩ | ⟨c, rfl, hb⟩
    · exact .inl ⟨by simp, rfl⟩
    · exact .inr (.inl ⟨c, rfl, hb⟩)
  · rcases hd.of_append ht with ⟨rfl, rfl⟩ | ⟨c, rfl, hb⟩
    · exact .inl ⟨by simp, rfl⟩
    · exact .inr (.inr ⟨c, rfl, hb⟩)

/-- A delimiter that does not occur in the two texts in front of it splits equal texts at the same
position. -/
theorem eq_of_front (hd : Unbordered d) (h : a ++ (d ++ b) = a' ++ (d ++ b'))
    (ha : ¬ d <:+: a) (ha' : ¬ d <:+: a') : a = a' ∧ b = b' := by
  rcases hd.split h with heq | ⟨c, rfl, -⟩ | ⟨c, rfl, -⟩
  · exact heq
  · exact absurd ⟨a, c, by simp⟩ ha'
  · exact absurd ⟨a', c, by simp⟩ ha

/-- A delimiter that does not occur in the two texts behind it splits equal texts at the same
position. -/
theorem eq_of_back (hd : Unbordered d) (h : a ++ (d ++ b) = a' ++ (d ++ b'))
    (hb : ¬ d <:+: b) (hb' : ¬ d <:+: b') : a = a' ∧ b = b' := by
  rcases hd.split h with heq | ⟨c, -, rfl⟩ | ⟨c, -, rfl⟩
  · exact heq
  · exact absurd ⟨c, b', by simp⟩ hb
  · exact absurd ⟨c, b, by simp⟩ hb'

end Unbordered

/-- A text without the character `c` lies on one side of any `c`. -/
theorem within_or_within {c : Char} (h : d <:+: a ++ c :: b) (hc : c ∉ d) :
    d <:+: a ∨ d <:+: b := by
  rcases List.infix_append_iff.mp h with ha | hb | ⟨u, v, rfl, hu, hv⟩
  · exact .inl ha
  · rcases List.infix_cons_iff.mp hb with hb | hb
    · rcases List.prefix_cons_iff.mp hb with rfl | ⟨v, rfl, -⟩
      · exact .inl (List.nil_infix)
      · exact absurd List.mem_cons_self hc
    · exact .inr hb
  · rcases List.prefix_cons_iff.mp hv with rfl | ⟨v, rfl, -⟩
    · exact .inl (by simpa using hu.isInfix)
    · exact absurd (by simp) hc

end Delimiter

namespace Step

variable {s t : Step} {x x' y y' : List Char} {c d : Char}

/-- The text of a step in brackets. -/
def inBrackets : Step → List Char
  | key name => ['[', '\''] ++ (name.toList ++ ['\'', ']'])
  | index i => '[' :: (Nat.toDigits 10 i ++ [']'])

theorem toDigits_injective {i j : Nat} (h : Nat.toDigits 10 i = Nat.toDigits 10 j) : i = j := by
  simpa using congrArg (Nat.ofDigitChars 10 · 0) h

theorem notMem_toDigits {i : Nat} (hc : c.isDigit = false) : c ∉ Nat.toDigits 10 i := by
  intro hmem
  rw [(Yaml.Scalar.digits_toDigits i).2 c hmem] at hc
  cases hc

theorem not_within_digits {i : Nat} (hc : c.isDigit = false) : ¬ [c] <:+: Nat.toDigits 10 i := by
  rw [List.singleton_infix_iff]
  exact notMem_toDigits hc

theorem digits_ne_quote {i : Nat} : Nat.toDigits 10 i ++ x ≠ '\'' :: x' := by
  intro h
  cases hsplit : Nat.toDigits 10 i with
  | nil => exact (Yaml.Scalar.digits_toDigits i).1 hsplit
  | cons c rest =>
      rw [hsplit] at h
      obtain rfl : c = '\'' := (List.cons.inj h).1
      exact notMem_toDigits (i := i) (c := '\'') rfl (hsplit ▸ List.mem_cons_self)

theorem exists_toDigits_concat (i : Nat) :
    ∃ front c, Nat.toDigits 10 i = front ++ [c] ∧ c.isDigit = true := by
  obtain ⟨hne, hdigits⟩ := Yaml.Scalar.digits_toDigits i
  obtain ⟨front, c, hsplit⟩ := List.eq_nil_or_concat _ |>.resolve_left hne
  refine ⟨front, c, by simpa using hsplit, hdigits c ?_⟩
  simp [hsplit]

theorem key_ne_index (name : String) (i : Nat) :
    x ++ (key name).inBrackets ≠ x' ++ (index i).inBrackets := by
  intro h
  obtain ⟨front, c, hsplit, hc⟩ := exists_toDigits_concat i
  have hends : (x ++ ['[', '\''] ++ name.toList) ++ ['\'', ']'] =
      (x' ++ '[' :: front) ++ [c, ']'] := by
    simpa [inBrackets, hsplit] using h
  obtain ⟨rfl, -⟩ : '\'' = c ∧ True := by simpa using (List.append_inj' hends rfl).2
  exact absurd hc (by decide)

theorem quote_of_ends {name : List Char}
    (h : y ++ c :: (x ++ ['[', '\''] ++ name) = y' ++ d :: name) : d = '\'' := by
  have hends : (y ++ c :: x ++ ['[']) ++ ('\'' :: name) = y' ++ d :: name := by simpa using h
  exact (List.cons.inj (List.append_inj' hends rfl).2).1.symm

/-- Two steps are equal if their texts in brackets are suffixes of one text and their bare texts,
each behind a character other than a quote, are suffixes of one text. -/
theorem eq_of_ends (hx : x ++ s.inBrackets = x' ++ t.inBrackets)
    (hy : y ++ c :: s.write.toList = y' ++ d :: t.write.toList) (hc : c ≠ '\'') (hd : d ≠ '\'') :
    s = t := by
  cases s with
  | key name =>
      cases t with
      | key name' =>
          have hopening : Unbordered ['[', '\''] := by decide
          have hx : (x ++ (['[', '\''] ++ name.toList)) ++ ['\'', ']'] =
              (x' ++ (['[', '\''] ++ name'.toList)) ++ ['\'', ']'] := by
            simpa [inBrackets] using hx
          rcases hopening.split (List.append_cancel_right hx) with ⟨-, hname⟩ | ⟨_, -, hname⟩ | ⟨_, -, hname⟩
          · rw [String.toList_inj.mp hname]
          · exact absurd (quote_of_ends (by simpa [write, hname] using hy)) hd
          · exact absurd (quote_of_ends (by simpa [write, hname] using hy.symm)) hc
      | index j => exact absurd hx (key_ne_index name j)
  | index i =>
      cases t with
      | key name' => exact absurd hx.symm (key_ne_index name' i)
      | index j =>
          have hopening : Unbordered ['['] := by decide
          have hx : (x ++ (['['] ++ Nat.toDigits 10 i)) ++ [']'] =
              (x' ++ (['['] ++ Nat.toDigits 10 j)) ++ [']'] := by
            simpa [inBrackets] using hx
          obtain ⟨-, hdigits⟩ := hopening.eq_of_back (List.append_cancel_right hx)
            (not_within_digits rfl) (not_within_digits rfl)
          rw [toDigits_injective hdigits]

end Step

namespace Location

variable {l m : Location}

theorem toList_bracketed (l : Location) : l.bracketed.toList = l.flatMap Step.inBrackets := by
  have hstep : ∀ s : Step, (match s with
      | .key name => "['" ++ name ++ "']"
      | .index i => "[" ++ toString i ++ "]" : String).toList = s.inBrackets := by
    rintro (name | i) <;> simp [Step.inBrackets]
  rw [bracketed, String.toList_join, List.flatMap_map]
  exact List.flatMap_congr fun s _ => hstep s

theorem bracketed_concat (l : Location) (s : Step) :
    bracketed (l ++ [s]) = l.bracketed ++ .ofList s.inBrackets := by
  refine String.toList_inj.mp ?_
  simp [toList_bracketed]

theorem dotted_concat (hl : l ≠ []) (s : Step) :
    dotted (l ++ [s]) = l.dotted ++ "." ++ s.write := by
  rw [dotted, List.map_append, List.map_singleton,
    String.intercalate_append_of_ne_nil (by simpa using hl) (List.cons_ne_nil _ _),
    String.intercalate_singleton, dotted]

theorem exists_closing (s : Step) : ∃ front, s.inBrackets = front ++ [']'] := by
  rcases s with name | i
  · exact ⟨['[', '\''] ++ name.toList ++ ['\''], by simp [Step.inBrackets]⟩
  · exact ⟨'[' :: Nat.toDigits 10 i, by simp [Step.inBrackets]⟩

/-- The text of the last step is preceded by a dot or by the prefix of the whole text. -/
theorem exists_mark (l : Location) (s : Step) : ∃ front c,
    '\n' :: (dotted (l ++ [s])).toList = front ++ c :: s.write.toList ∧
      (l = [] ∧ c = '\n' ∨ l ≠ [] ∧ c = '.' ∧ front = '\n' :: l.dotted.toList) := by
  rcases eq_or_ne l [] with rfl | hl
  · exact ⟨[], '\n', by simp [dotted], .inl ⟨rfl, rfl⟩⟩
  · exact ⟨'\n' :: l.dotted.toList, '.', by simp [dotted_concat hl], .inr ⟨hl, rfl, rfl⟩⟩

/-- Two locations are equal if their texts in brackets are suffixes of one text, and their dotted
texts are suffixes of one text behind the line break. -/
theorem eq_of_ends {x x' y y' : List Char} (hnil : l = [] ↔ m = [])
    (hx : x ++ l.bracketed.toList = x' ++ m.bracketed.toList)
    (hy : y ++ '\n' :: l.dotted.toList = y' ++ '\n' :: m.dotted.toList) : l = m := by
  -- The steps are read from the last one on; the character in front shows if it is the first.
  induction l using List.reverseRecOn generalizing m x x' y y' with
  | nil => exact (hnil.mp rfl).symm
  | append_singleton l s ih =>
      obtain ⟨m, t, rfl⟩ := List.eq_nil_or_concat' m |>.resolve_left (by simpa using hnil)
      obtain ⟨front, c, hfront, hc⟩ := exists_mark l s
      obtain ⟨front', d, hfront', hd⟩ := exists_mark m t
      rw [bracketed_concat, bracketed_concat, String.toList_append, String.toList_append,
        String.toList_ofList, String.toList_ofList, ← List.append_assoc, ← List.append_assoc] at hx
      rw [hfront, hfront', ← List.append_assoc, ← List.append_assoc] at hy
      obtain rfl : s = t := by
        refine Step.eq_of_ends hx hy ?_ ?_
        · rcases hc with ⟨-, rfl⟩ | ⟨-, rfl, -⟩ <;> decide
        · rcases hd with ⟨-, rfl⟩ | ⟨-, rfl, -⟩ <;> decide
      obtain ⟨hbare, hmark⟩ := List.append_inj' hy rfl
      obtain rfl : c = d := (List.cons.inj hmark).1
      rcases hc with ⟨rfl, rfl⟩ | ⟨hl, rfl, rfl⟩ <;> rcases hd with ⟨rfl, hd⟩ | ⟨hm, hd, rfl⟩
      · rfl
      · exact absurd hd (by decide)
      · exact absurd hd (by decide)
      · rw [ih (iff_of_false hl hm) (List.append_cancel_right hx) hbare]

theorem eq_nil_of_ends {x x' : List Char} {c : Char} (hc : c ≠ ']')
    (h : x ++ [c] = x' ++ c :: l.bracketed.toList) : l = [] := by
  rcases List.eq_nil_or_concat' l with rfl | ⟨l, s, rfl⟩
  · rfl
  · obtain ⟨front, hfront⟩ := exists_closing s
    have hends : x ++ [c] = (x' ++ c :: ((bracketed l).toList ++ front)) ++ [']'] := by
      simpa [bracketed_concat, hfront] using h
    exact absurd (List.cons.inj (List.append_inj' hends rfl).2).1 hc

/-- A location is determined by the ends of its two texts, provided that the text in front of the
brackets does not end in `]`. -/
theorem eq_of_texts {x x' y y' : List Char} {c : Char} (hc : c ≠ ']')
    (hx : x ++ c :: l.bracketed.toList = x' ++ c :: m.bracketed.toList)
    (hy : y ++ '\n' :: l.dotted.toList = y' ++ '\n' :: m.dotted.toList) : l = m := by
  have hnil : l = [] ↔ m = [] := by
    constructor
    · rintro rfl
      exact eq_nil_of_ends hc hx
    · rintro rfl
      exact eq_nil_of_ends hc hx.symm
  have hx : (x ++ [c]) ++ l.bracketed.toList = (x' ++ [c]) ++ m.bracketed.toList := by
    simpa using hx
  exact eq_of_ends hnil hx hy

theorem exists_opening (l : Location) :
    ∃ rest, l.flatMap Step.inBrackets ++ ['['] = '[' :: rest := by
  rcases l with _ | ⟨name | i, l⟩
  · exact ⟨[], rfl⟩
  · exact ⟨_, rfl⟩
  · exact ⟨_, rfl⟩

/-- No key of the location contains `'][`, the end of one key followed by the start of another
step. -/
def Separate (l : Location) : Prop :=
  ∀ name, Step.key name ∈ l → ¬ ['\'', ']', '['] <:+: name.toList

/-- The opening bracket behind both texts stands for the start of a further step. -/
theorem eq_of_inBrackets (hl : l.Separate) (hm : m.Separate)
    (h : l.flatMap Step.inBrackets ++ ['['] = m.flatMap Step.inBrackets ++ ['[']) : l = m := by
  induction l generalizing m with
  | nil =>
      cases m with
      | nil => rfl
      | cons t m => cases t <;> simp [Step.inBrackets] at h
  | cons s l ih =>
      cases m with
      | nil => cases s <;> simp [Step.inBrackets] at h
      | cons t m =>
          have ih := ih (fun name hname => hl name (.tail _ hname))
            (fun name hname => hm name (.tail _ hname))
          obtain ⟨rest, hrest⟩ := exists_opening l
          obtain ⟨rest', hrest'⟩ := exists_opening m
          rw [List.flatMap_cons, List.flatMap_cons, List.append_assoc, List.append_assoc, hrest,
            hrest'] at h
          rw [hrest, hrest'] at ih
          rcases s with name | i <;> rcases t with name' | j
          · have hmiddle : Unbordered ['\'', ']', '['] := by decide
            have h : name.toList ++ (['\'', ']', '['] ++ rest) =
                name'.toList ++ (['\'', ']', '['] ++ rest') := by simpa [Step.inBrackets] using h
            obtain ⟨hname, rfl⟩ := hmiddle.eq_of_front h (hl name List.mem_cons_self)
              (hm name' List.mem_cons_self)
            rw [String.toList_inj.mp hname, ih rfl]
          · exact absurd (by simpa [Step.inBrackets] using h.symm) Step.digits_ne_quote
          · exact absurd (by simpa [Step.inBrackets] using h) Step.digits_ne_quote
          · have hclosing : Unbordered [']'] := by decide
            have h : Nat.toDigits 10 i ++ ([']'] ++ '[' :: rest) =
                Nat.toDigits 10 j ++ ([']'] ++ '[' :: rest') := by
              simpa [Step.inBrackets] using h
            obtain ⟨hdigits, hrest⟩ := hclosing.eq_of_front h (Step.not_within_digits rfl)
              (Step.not_within_digits rfl)
            rw [Step.toDigits_injective hdigits, ih hrest]

theorem eq_of_bracketed (hl : l.Separate) (hm : m.Separate) (h : l.bracketed = m.bracketed) :
    l = m := by
  refine eq_of_inBrackets hl hm ?_
  rw [← toList_bracketed, ← toList_bracketed, h]

/-- A text without brackets and quotes and with a character that is no digit occurs in the text of a
location only within one of its keys. -/
theorem exists_key {d : List Char} (hmarks : ∀ c ∈ ['[', '\'', ']'], c ∉ d)
    (hdigits : ∃ c ∈ d, c.isDigit = false) (h : d <:+: l.bracketed.toList) :
    ∃ name, .key name ∈ l ∧ d <:+: name.toList := by
  rw [toList_bracketed] at h
  obtain ⟨hopening, hquote, hclosing⟩ : '[' ∉ d ∧ '\'' ∉ d ∧ ']' ∉ d := by simpa using hmarks
  have hempty : ¬ d <:+: [] := by
    obtain ⟨c, hc, -⟩ := hdigits
    rw [List.infix_nil]
    exact List.ne_nil_of_mem hc
  induction l with
  | nil => exact absurd h hempty
  | cons s l ih =>
      rcases s with name | i
      · have h : d <:+: [] ++ '[' :: ([] ++ '\'' :: (name.toList ++ '\'' :: ([] ++ ']' ::
            l.flatMap Step.inBrackets))) := by simpa [Step.inBrackets] using h
        have h := (within_or_within h hopening).resolve_left hempty
        have h := (within_or_within h hquote).resolve_left hempty
        rcases within_or_within h hquote with hname | h
        · exact ⟨name, List.mem_cons_self, hname⟩
        · obtain ⟨name, hmem, hname⟩ := ih ((within_or_within h hclosing).resolve_left hempty)
          exact ⟨name, .tail _ hmem, hname⟩
      · have h : d <:+: [] ++ '[' :: (Nat.toDigits 10 i ++ ']' ::
            l.flatMap Step.inBrackets) := by simpa [Step.inBrackets] using h
        have h := (within_or_within h hopening).resolve_left hempty
        rcases within_or_within h hclosing with hindex | h
        · obtain ⟨c, hc, hdigit⟩ := hdigits
          exact absurd (hindex.subset hc) (Step.notMem_toDigits hdigit)
        · obtain ⟨name, hmem, hname⟩ := ih h
          exact ⟨name, .tail _ hmem, hname⟩

end Location

end SchemaCheck
