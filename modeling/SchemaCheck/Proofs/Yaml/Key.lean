import SchemaCheck.Proofs.Yaml.Spelling
import SchemaCheck.Yaml.Convert

/-!
The texts of keys. Different numbers and booleans have different texts, since a text determines the
sign, the kind and the value of a number. Only a string can have the text of another key.
-/

namespace SchemaCheck.Yaml

namespace Number

variable {m n : Number}

/-- The text begins with a minus sign. -/
def isNegative : Number → Bool
  | integer n => n.val < 0
  | double x => x.negative
  | infinity negative => negative
  | nan => false

/-- The text without its sign. -/
def bare : Number → List Char
  | integer n => Nat.toDigits 10 n.val.natAbs
  | double x => ((Decimal.shortest x).write layout).toList
  | infinity _ => ['.', 'i', 'n', 'f']
  | nan => ['.', 'n', 'a', 'n']

theorem toList_repr (n : Int) :
    n.repr.toList = (if n < 0 then ['-'] else []) ++ Nat.toDigits 10 n.natAbs := by
  rw [Int.repr_eq_if]
  rcases lt_or_ge n 0 with hneg | hpos
  · rw [if_neg (by omega), if_pos hneg, String.toList_append, Nat.toList_repr]
    congr 2
    omega
  · rw [if_pos hpos, if_neg (by omega), Nat.toList_repr, List.nil_append]
    congr 1
    omega

theorem toList_write (n : Number) :
    n.write.toList = (if n.isNegative then ['-'] else []) ++ n.bare := by
  cases n with
  | integer n => simp [write, isNegative, bare, toList_repr]
  | double x => cases hx : x.negative <;> simp [write, isNegative, bare, Double.write, hx]
  | infinity negative => cases negative <;> rfl
  | nan => rfl

theorem spells_bare (x : Double) :
    Scalar.Spells (bare (double x)) (Decimal.shortest x).toRat :=
  Decimal.spells_write (.inl rfl) _

/-- The text without its sign begins with a digit or a point. -/
theorem exists_bare (n : Number) :
    ∃ c rest, n.bare = c :: rest ∧ (c.isDigit = true ∨ c = '.') := by
  cases n with
  | integer n =>
      obtain ⟨hne, hdigits⟩ := Scalar.digits_toDigits n.val.natAbs
      obtain ⟨c, rest, hsplit⟩ := List.exists_cons_of_ne_nil hne
      exact ⟨c, rest, hsplit, .inl (hdigits c (hsplit ▸ List.mem_cons_self))⟩
  | double x =>
      obtain ⟨c, rest, hsplit, hc⟩ := (spells_bare x).exists_digit
      exact ⟨c, rest, hsplit, .inl hc⟩
  | infinity negative => exact ⟨'.', _, rfl, .inr rfl⟩
  | nan => exact ⟨'.', _, rfl, .inr rfl⟩

/-- Equal texts have equal signs and equal remainders. -/
theorem eq_of_write (h : m.write = n.write) : m.isNegative = n.isNegative ∧ m.bare = n.bare := by
  have hlist : m.write.toList = n.write.toList := congrArg _ h
  rw [toList_write, toList_write] at hlist
  have hhead (n : Number) (rest : List Char) : n.bare ≠ '-' :: rest := by
    obtain ⟨c, rest, hbare, hc⟩ := n.exists_bare
    rw [hbare]
    rintro ⟨⟩
    rcases hc with hc | hc <;> exact absurd hc (by decide)
  cases hm : m.isNegative <;> cases hn : n.isNegative
  · exact ⟨rfl, by simpa [hm, hn] using hlist⟩
  · exact absurd (by simpa [hm, hn] using hlist) (hhead m _)
  · exact absurd (by simpa [hm, hn] using hlist.symm) (hhead n _)
  · exact ⟨rfl, by simpa [hm, hn] using hlist⟩

theorem eq_of_bare_integer {m n : Integer} (hsign : isNegative (integer m) = isNegative (integer n))
    (hbare : bare (integer m) = bare (integer n)) : m.val = n.val := by
  have habs : m.val.natAbs = n.val.natAbs := by
    have hvalue := congrArg (Nat.ofDigitChars 10 · 0) hbare
    simpa [bare] using hvalue
  have hsign : m.val < 0 ↔ n.val < 0 := by simpa [isNegative] using hsign
  omega

theorem toRat_eq_of_bare_double {x y : Double}
    (hsign : isNegative (double x) = isNegative (double y))
    (hbare : bare (double x) = bare (double y)) : x.toRat = y.toRat := by
  have habs : |x.toRat| = |y.toRat| :=
    Double.abs_eq_of_shortest ((spells_bare x).unique (hbare ▸ spells_bare y))
  rw [Double.abs_toRat_eq, Double.abs_toRat_eq] at habs
  have hsign : x.negative = y.negative := hsign
  rw [Double.toRat_eq_sign, Double.toRat_eq_sign, habs, hsign]

/-- Only the text of an integer consists of digits: other numbers have a point or an exponent in
their text. -/
theorem integer_of_bare {m : Integer} (h : bare (integer m) = n.bare) : ∃ k, n = integer k := by
  have hdigits : ∀ c ∈ n.bare, c.isDigit = true := h ▸ (Scalar.digits_toDigits m.val.natAbs).2
  cases n with
  | integer k => exact ⟨k, rfl⟩
  | double x =>
      obtain ⟨c, hmem, hc⟩ := (spells_bare x).exists_mark
      exact absurd (hdigits c hmem) (by simp [hc])
  | infinity negative => exact absurd (hdigits '.' List.mem_cons_self) (by decide)
  | nan => exact absurd (hdigits '.' List.mem_cons_self) (by decide)

theorem double_of_bare {x : Double} (h : bare (double x) = n.bare) : ∃ y, n = double y := by
  obtain ⟨c, rest, hhead, hc⟩ := (spells_bare x).exists_digit
  rw [hhead] at h
  cases n with
  | integer k => obtain ⟨_, ⟨⟩⟩ := integer_of_bare (hhead.trans h).symm
  | double y => exact ⟨y, rfl⟩
  | infinity negative =>
      cases h
      exact absurd hc (by decide)
  | nan =>
      cases h
      exact absurd hc (by decide)

/-- Numbers with the same text are the same key. -/
theorem same_of_write (h : m.write = n.write) : m.same n = true := by
  obtain ⟨hsign, hbare⟩ := eq_of_write h
  cases m with
  | integer a =>
      obtain ⟨b, rfl⟩ := integer_of_bare hbare
      exact beq_iff_eq.mpr (eq_of_bare_integer hsign hbare)
  | double x =>
      obtain ⟨y, rfl⟩ := double_of_bare hbare
      rw [same, Double.compare_eq, toRat_eq_of_bare_double hsign hbare, compare_eq_iff_eq.mpr rfl]
      rfl
  | infinity negative =>
      cases n with
      | integer b => obtain ⟨_, ⟨⟩⟩ := integer_of_bare hbare.symm
      | double y => obtain ⟨_, ⟨⟩⟩ := double_of_bare hbare.symm
      | infinity negative' => exact beq_iff_eq.mpr hsign
      | nan => exact nomatch hbare
  | nan =>
      cases n with
      | integer b => obtain ⟨_, ⟨⟩⟩ := integer_of_bare hbare.symm
      | double y => obtain ⟨_, ⟨⟩⟩ := double_of_bare hbare.symm
      | infinity negative => exact nomatch hbare
      | nan => rfl

/-- The text of a number is not that of a boolean, which begins with a letter. -/
theorem write_ne_toString (n : Number) (b : Bool) : n.write ≠ toString b := by
  intro h
  have hlist : n.write.toList = (toString b).toList := congrArg _ h
  obtain ⟨c, rest, hbare, hc⟩ := n.exists_bare
  have hword : (toString b).toList = bif b then ['t', 'r', 'u', 'e'] else
      ['f', 'a', 'l', 's', 'e'] := by cases b <;> rfl
  rw [toList_write, hbare, hword] at hlist
  cases hn : n.isNegative <;> rw [hn] at hlist <;> cases b <;> cases hlist <;>
    exact absurd hc (by decide)

end Number

namespace Value

variable {a b : Value} {text : String}

/-- A key that is not a string is determined by its text. -/
theorem same_of_keyText? (ha : ∀ s, a ≠ string s) (hb : ∀ s, b ≠ string s)
    (hatext : a.keyText? = some text) (hbtext : b.keyText? = some text) : a.same b = true := by
  have htext := hatext.trans hbtext.symm
  cases a with
  | bool p =>
      cases b with
      | bool q =>
          rw [same]
          cases p <;> cases q <;> first | rfl | exact absurd htext (by decide)
      | number n => exact absurd (Option.some.inj htext).symm (n.write_ne_toString p)
      | string s => exact absurd rfl (hb s)
      | null | sequence _ | mapping _ | tagged _ _ => cases hbtext
  | number m =>
      cases b with
      | bool q => exact absurd (Option.some.inj htext) (m.write_ne_toString q)
      | number n =>
          rw [same]
          exact Number.same_of_write (Option.some.inj htext)
      | string s => exact absurd rfl (hb s)
      | null | sequence _ | mapping _ | tagged _ _ => cases hbtext
  | string s => exact absurd rfl (ha s)
  | null | sequence _ | mapping _ | tagged _ _ => cases hatext

end Value

end SchemaCheck.Yaml
