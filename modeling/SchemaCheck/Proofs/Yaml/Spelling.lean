import Mathlib.Data.List.TakeWhile
import SchemaCheck.Proofs.Number.Shortest
import SchemaCheck.Yaml.Scalar

/-!
Spellings of numbers that are not integers: digits with a point, or digits with an exponent. The
text of a decimal is a spelling of its value, and a text is the spelling of one value only, namely
the one that the reader of scalars returns.
-/

namespace SchemaCheck.Yaml

namespace Scalar

section Digits

variable {s tail : List Char}

/-- The text consists of one or more digits. -/
def Digits (s : List Char) : Prop :=
  s ≠ [] ∧ ∀ c ∈ s, c.isDigit = true

theorem digits_toDigits (n : Nat) : Digits (Nat.toDigits 10 n) :=
  ⟨Nat.toDigits_ne_nil, fun _ => Nat.isDigit_of_mem_toDigits (by decide) (by decide)⟩

theorem digits_append (h : Digits s) (htail : ∀ c ∈ tail, c.isDigit = true) :
    Digits (s ++ tail) :=
  ⟨List.append_ne_nil_of_left_ne_nil h.1 _, List.forall_mem_append.mpr ⟨h.2, htail⟩⟩

theorem digit?_of_isDigit {c : Char} (h : c.isDigit = true) :
    digit? 10 c = some (c.toNat - '0'.toNat) := by
  have hrange : '0' ≤ c ∧ c ≤ '9' := by simpa [Char.isDigit, Char.le_def] using h
  have hbelow : c.toNat ≤ '9'.toNat := hrange.2
  have hlt : c.toNat - '0'.toNat < 10 := by
    have hnine : '9'.toNat - '0'.toNat = 9 := rfl
    omega
  rw [digit?, if_pos hrange]
  exact if_pos hlt

theorem digits?_of_digits (h : ∀ c ∈ s, c.isDigit = true) (value : Nat) :
    digits? 10 value s = some (Nat.ofDigitChars 10 s value) := by
  induction s generalizing value with
  | nil => rw [digits?, Nat.ofDigitChars_nil]
  | cons c s ih =>
      obtain ⟨hc, hs⟩ := List.forall_mem_cons.mp h
      rw [digits?, digit?_of_isDigit hc, Nat.ofDigitChars_cons, Nat.mul_comm 10]
      exact ih hs _

theorem natural?_of_digits (h : Digits s) : natural? 10 s = some (Nat.ofDigitChars 10 s 0) := by
  rw [natural?, if_neg (by simpa using h.1), digits?_of_digits h.2]

theorem takeWhile_digits (h : ∀ c ∈ s, c.isDigit = true)
    (htail : tail.takeWhile Char.isDigit = []) :
    (s ++ tail).takeWhile Char.isDigit = s := by
  rw [List.takeWhile_append_of_pos h, htail, List.append_nil]

theorem dropWhile_digits (h : ∀ c ∈ s, c.isDigit = true)
    (htail : tail.dropWhile Char.isDigit = tail) :
    (s ++ tail).dropWhile Char.isDigit = tail := by
  rw [List.dropWhile_append_of_pos h, htail]

end Digits

/-- A point with the following digits, or nothing if there are none. -/
def pointed : List Char → List Char
  | [] => []
  | s => '.' :: s

theorem pointed_of_ne_nil {s : List Char} (h : s ≠ []) : pointed s = '.' :: s := by
  cases s with
  | nil => exact absurd rfl h
  | cons c s => rfl

/-- The texts of a number with a point or an exponent. -/
inductive Spells : List Char → ℚ → Prop
  | positional {whole fraction : List Char} : Digits whole → Digits fraction →
      Spells (whole ++ '.' :: fraction)
        (Nat.ofDigitChars 10 (whole ++ fraction) 0 * 10 ^ (-(fraction.length : Int)))
  | scientific {whole fraction plus exponent : List Char} (negative : Bool) : Digits whole →
      (∀ c ∈ fraction, c.isDigit = true) → plus = [] ∨ plus = ['+'] → Digits exponent →
      Spells (whole ++ (pointed fraction ++
          'e' :: ((if negative then ['-'] else plus) ++ exponent)))
        (Nat.ofDigitChars 10 (whole ++ fraction) 0 *
          10 ^ ((if negative then -1 else 1) * (Nat.ofDigitChars 10 exponent 0 : Int) -
            fraction.length))

/-- The value of the text behind an `e`. -/
def exponent? : List Char → Option Int
  | '+' :: rest => (natural? 10 rest).map Int.ofNat
  | '-' :: rest => (natural? 10 rest).map fun n => -(n : Int)
  | rest => (natural? 10 rest).map Int.ofNat

theorem exponent?_of_digits {plus exponent : List Char} (negative : Bool)
    (hplus : plus = [] ∨ plus = ['+']) (hexponent : Digits exponent) :
    exponent? ((if negative then ['-'] else plus) ++ exponent) =
      some ((if negative then -1 else 1) * (Nat.ofDigitChars 10 exponent 0 : Int)) := by
  have hvalue := natural?_of_digits hexponent
  cases negative with
  | true => simp [exponent?, hvalue]
  | false =>
      rcases hplus with rfl | rfl
      · cases exponent with
        | nil => exact absurd rfl hexponent.1
        | cons c rest =>
            have hc := hexponent.2 c List.mem_cons_self
            unfold exponent?
            split
            next heq => cases heq; exact absurd hc (by decide)
            next heq => cases heq; exact absurd hc (by decide)
            next => simp [hvalue]
      · simp [exponent?, hvalue]

theorem decimal?_exponent {whole fraction : List Char} (hwhole : Digits whole)
    (hfraction : ∀ c ∈ fraction, c.isDigit = true) (rest : List Char) :
    decimal? (whole ++ (pointed fraction ++ 'e' :: rest)) = (exponent? rest).map fun e =>
      (Nat.ofDigitChars 10 (whole ++ fraction) 0, e - (fraction.length : Int)) := by
  have hcoefficient := natural?_of_digits (digits_append hwhole hfraction)
  have htake (rest : List Char) : (fraction ++ 'e' :: rest).takeWhile Char.isDigit = fraction :=
    takeWhile_digits hfraction rfl
  have hdrop (rest : List Char) :
      (fraction ++ 'e' :: rest).dropWhile Char.isDigit = 'e' :: rest :=
    dropWhile_digits hfraction rfl
  have hread : decimal? (whole ++ (pointed fraction ++ 'e' :: rest)) =
      (natural? 10 (whole ++ fraction)).bind fun coefficient =>
        (exponent? rest).map fun e => (coefficient, e - (fraction.length : Int)) := by
    rcases eq_or_ne fraction [] with rfl | hne
    · rw [decimal?, takeWhile_digits hwhole.2 rfl, dropWhile_digits hwhole.2 rfl]
      rcases rest with _ | ⟨c, rest⟩
      · simp [pointed, exponent?, Option.map_eq_bind]
      · by_cases hplus : c = '+' <;> by_cases hminus : c = '-' <;>
          simp [pointed, exponent?, hplus, hminus, Option.map_eq_bind, Option.bind_assoc]
    · rw [pointed_of_ne_nil hne, decimal?, takeWhile_digits hwhole.2 rfl,
        dropWhile_digits hwhole.2 rfl]
      rcases rest with _ | ⟨c, rest⟩
      · simp [htake, hdrop, exponent?, Option.map_eq_bind]
      · by_cases hplus : c = '+' <;> by_cases hminus : c = '-' <;>
          simp [htake, hdrop, exponent?, hplus, hminus, Option.map_eq_bind, Option.bind_assoc]
  rw [hread, hcoefficient]
  rfl

namespace Spells

variable {s : List Char} {q : ℚ}

/-- The reader returns the value of a spelling. -/
theorem decimal?_eq (h : Spells s q) :
    ∃ c p, decimal? s = some (c, p) ∧ (c * 10 ^ p : ℚ) = q := by
  cases h with
  | @positional whole fraction hwhole hfraction =>
      refine ⟨_, _, ?_, rfl⟩
      have hcoefficient := natural?_of_digits (digits_append hwhole hfraction.2)
      have htake : fraction.takeWhile Char.isDigit = fraction :=
        List.takeWhile_eq_self_iff.mpr hfraction.2
      have hdrop : fraction.dropWhile Char.isDigit = [] :=
        List.dropWhile_eq_nil_iff.mpr hfraction.2
      rw [decimal?, takeWhile_digits hwhole.2 rfl, dropWhile_digits hwhole.2 rfl]
      simp [htake, hdrop, hcoefficient]
  | @scientific whole fraction plus exponent negative hwhole hfraction hplus hexponent =>
      refine ⟨_, _, ?_, rfl⟩
      have hcoefficient := natural?_of_digits (digits_append hwhole hfraction)
      have hvalue := natural?_of_digits hexponent
      rw [decimal?_exponent hwhole hfraction, exponent?_of_digits negative hplus hexponent]
      rfl

/-- A text is the spelling of one number only. -/
theorem unique {r : ℚ} (h : Spells s q) (h' : Spells s r) : q = r := by
  obtain ⟨c, p, hread, rfl⟩ := h.decimal?_eq
  obtain ⟨c', p', hread', rfl⟩ := h'.decimal?_eq
  cases hread.symm.trans hread'
  rfl

/-- A spelling begins with a digit. -/
theorem exists_digit (h : Spells s q) : ∃ c rest, s = c :: rest ∧ c.isDigit = true := by
  have hhead {whole tail : List Char} (hwhole : Digits whole) :
      ∃ c rest, whole ++ tail = c :: rest ∧ c.isDigit = true := by
    cases whole with
    | nil => exact absurd rfl hwhole.1
    | cons c rest => exact ⟨c, rest ++ tail, rfl, hwhole.2 c List.mem_cons_self⟩
  cases h with
  | positional hwhole _ => exact hhead hwhole
  | scientific negative hwhole _ _ _ => exact hhead hwhole

theorem isDigit_or_mem (h : Spells s q) {c : Char} (hc : c ∈ s) :
    c.isDigit = true ∨ c ∈ ['.', 'e', '+', '-'] := by
  cases h with
  | positional hwhole hfraction =>
      rw [List.mem_append, List.mem_cons] at hc
      rcases hc with hc | rfl | hc
      · exact .inl (hwhole.2 c hc)
      · exact .inr (by decide)
      · exact .inl (hfraction.2 c hc)
  | @scientific whole fraction plus exponent negative hwhole hfraction hplus hexponent =>
      have hsign {c : Char} (hc : c ∈ if negative then ['-'] else plus) : c ∈ ['+', '-'] := by
        rcases hplus with rfl | rfl <;> cases negative <;> simp_all
      have hpoint {c : Char} (hc : c ∈ pointed fraction) : c = '.' ∨ c ∈ fraction := by
        cases fraction <;> simp_all [pointed]
      simp only [List.mem_append, List.mem_cons] at hc
      rcases hc with hc | hc | rfl | hc | hc
      · exact .inl (hwhole.2 c hc)
      · rcases hpoint hc with rfl | hc
        · exact .inr (by decide)
        · exact .inl (hfraction c hc)
      · exact .inr (by decide)
      · exact .inr (.tail _ (.tail _ (hsign hc)))
      · exact .inl (hexponent.2 c hc)

/-- A spelling does not consist of digits only. -/
theorem exists_mark (h : Spells s q) : ∃ c ∈ s, c.isDigit = false := by
  cases h with
  | positional _ _ => exact ⟨'.', by simp, rfl⟩
  | scientific negative _ _ _ _ => exact ⟨'e', by simp, rfl⟩

end Spells

end Scalar

end SchemaCheck.Yaml

namespace SchemaCheck.Decimal

open Yaml.Scalar

theorem toList_digits (n : Nat) : (digits n).toList = Nat.toDigits 10 n :=
  String.toList_ofList

theorem length_digits (n : Nat) : (digits n).length = (Nat.toDigits 10 n).length := by
  rw [← String.length_toList, toList_digits]

theorem isDigit_of_mem_zeros {n : Nat} : ∀ c ∈ List.replicate n '0', c.isDigit = true := by
  intro c hc
  rw [List.eq_of_mem_replicate hc]
  rfl

theorem spells_pointed {s whole fraction : List Char} {n : Nat} {p : Int} (hwhole : Digits whole)
    (hfraction : Digits fraction) (htext : s = whole ++ '.' :: fraction)
    (hvalue : Nat.ofDigitChars 10 (whole ++ fraction) 0 = n) (hp : p = -fraction.length) :
    Spells s (n * 10 ^ p) := by
  subst htext hvalue hp
  exact .positional hwhole hfraction

theorem spells_positional (n : Nat) (exponent : Int) :
    Spells (positional (digits n) exponent).toList (n * 10 ^ exponent) := by
  have hdigits := digits_toDigits n
  have hvalue := Nat.ofDigitChars_ten_toDigits (n := n)
  have hzero := digits_toDigits 0
  unfold positional
  dsimp only
  rw [length_digits]
  split
  next hpos =>
    -- The zeros up to the point and one behind it.
    obtain ⟨k, rfl⟩ := Int.eq_ofNat_of_zero_le hpos
    have hwhole : Digits (Nat.toDigits 10 n ++ List.replicate k '0') :=
      digits_append hdigits isDigit_of_mem_zeros
    have hspells := spells_pointed (n := n * 10 ^ k * 10) (p := -1) hwhole hzero rfl
      (by simp [Nat.ofDigitChars_append, Nat.ofDigitChars_replicate_zero, mul_comm]; rfl) rfl
    convert hspells using 1
    · simp [toList_digits]
    · simp
  next hneg =>
    split
    next hpoint =>
      -- The point is among the digits.
      have hsplit := List.take_append_drop ((Nat.toDigits 10 n).length + exponent).toNat
        (Nat.toDigits 10 n)
      have hsize := List.length_pos_of_ne_nil hdigits.1
      refine spells_pointed ⟨?_, fun c hc => hdigits.2 c (List.mem_of_mem_take hc)⟩
        ⟨?_, fun c hc => hdigits.2 c (List.mem_of_mem_drop hc)⟩ ?_ (hsplit ▸ hvalue) ?_
      · rw [← List.length_pos_iff, List.length_take]
        omega
      · rw [← List.length_pos_iff, List.length_drop]
        omega
      · simp [toList_digits]
      · rw [List.length_drop]
        omega
    next hpoint =>
      -- Zeros are inserted between the point and the first digit.
      generalize hk : (-((Nat.toDigits 10 n).length + exponent : Int)).toNat = k
      have hfraction : Digits (List.replicate k '0' ++ Nat.toDigits 10 n) :=
        ⟨List.append_ne_nil_of_right_ne_nil _ hdigits.1,
          List.forall_mem_append.mpr ⟨isDigit_of_mem_zeros, hdigits.2⟩⟩
      refine spells_pointed hzero hfraction ?_ ?_ ?_
      · simp [toList_digits]
      · rw [Nat.ofDigitChars_append, Nat.ofDigitChars_ten_toDigits, Nat.ofDigitChars_append,
          Nat.ofDigitChars_replicate_zero, mul_zero, hvalue]
      · rw [List.length_append, List.length_replicate]
        omega

theorem spells_scientific {layout : Layout} (hplus : layout.plus = "" ∨ layout.plus = "+")
    (n : Nat) (exponent : Int) : Spells (scientific layout (digits n)
      (exponent + (digits n).length - 1)).toList (n * 10 ^ exponent) := by
  have hdigits := digits_toDigits n
  have hvalue := Nat.ofDigitChars_ten_toDigits (n := n)
  rw [length_digits]
  generalize hleading : exponent + (Nat.toDigits 10 n).length - 1 = leading
  unfold scientific
  rw [toList_digits]
  have hplus : layout.plus.toList = [] ∨ layout.plus.toList = ['+'] := by
    rcases hplus with h | h <;> simp [h]
  cases hsplit : Nat.toDigits 10 n with
  | nil => exact absurd hsplit hdigits.1
  | cons d rest =>
      rw [hsplit] at hdigits hvalue hleading
      have hrest : ∀ c ∈ rest, c.isDigit = true := fun c hc => hdigits.2 c (.tail _ hc)
      have hfirst : Digits [d] := ⟨nofun, by simpa using hdigits.2 d List.mem_cons_self⟩
      have hspells := Spells.scientific (leading < 0) hfirst hrest hplus
        (digits_toDigits leading.natAbs)
      convert hspells using 1
      · cases rest with
        | nil => simp [toList_digits, hsplit, pointed, apply_ite String.toList]
        | cons c rest => simp [toList_digits, pointed, apply_ite String.toList]
      · rw [List.singleton_append, hvalue, Nat.ofDigitChars_ten_toDigits]
        congr 2
        rw [List.length_cons] at hleading
        by_cases hneg : leading < 0
        · simp only [hneg, decide_true, if_true]
          omega
        · simp only [hneg, decide_false, Bool.false_eq_true, if_false]
          omega

/-- The text of a decimal is a spelling of its value. -/
theorem spells_write {layout : Layout} (hplus : layout.plus = "" ∨ layout.plus = "+")
    (d : Decimal) : Spells (d.write layout).toList d.toRat := by
  unfold write toRat
  split
  next hzero =>
    rw [hzero, Nat.cast_zero, zero_mul]
    have hspells := spells_pointed (n := 0) (digits_toDigits 0) (digits_toDigits 0) rfl rfl rfl
    rwa [Nat.cast_zero, zero_mul] at hspells
  · dsimp only
    split
    · exact spells_positional _ _
    · exact spells_scientific hplus _ _

end SchemaCheck.Decimal
