import SchemaCheck.Json.Render
import SchemaCheck.Proofs.Json.Equal
import SchemaCheck.Proofs.Yaml.Key

/-!
Compact and indented renderings of a value. Removing the whitespace outside of strings from the
indented text yields the compact text, and no line of the indented text starts right after a colon.
-/

namespace SchemaCheck.Json

/-- The text without blanks and line breaks outside of strings; the flag is set inside a string. -/
def unspaced : Bool → List Char → List Char
  | _, [] => []
  | true, '\\' :: c :: rest => '\\' :: c :: unspaced true rest
  | true, c :: rest => c :: unspaced (c != '"') rest
  | false, c :: rest =>
    if c = ' ' ∨ c = '\n' then unspaced false rest else c :: unspaced (c == '"') rest

/-- The first text is the second one with whitespace inserted outside of strings. -/
structure Spreads (s t : List Char) : Prop where
  unspaced_append : ∀ rest, unspaced false (s ++ rest) = t ++ unspaced false rest
  /-- A colon is never followed by a line break, not even at the end. -/
  unbroken : ¬ [':', '\n'] <:+: s ++ ['\n']

namespace Spreads

variable {s t s' t' : List Char}

theorem append (h : Spreads s t) (h' : Spreads s' t') : Spreads (s ++ s') (t ++ t') := by
  constructor
  · intro rest
    rw [List.append_assoc, h.unspaced_append, h'.unspaced_append, List.append_assoc]
  · rw [List.append_assoc, List.infix_append_iff]
    rintro (hs | hs' | ⟨l, r, hsplit, hl, hr⟩)
    · exact h.unbroken (hs.trans (List.prefix_append ..).isInfix)
    · exact h'.unbroken hs'
    · -- The colon at the end of the one text, the line break at the beginning of the other.
      rcases l with _ | ⟨c, _ | ⟨d, l⟩⟩
      · exact h'.unbroken (by rw [hsplit]; exact hr.isInfix)
      · cases hsplit
        obtain ⟨front, rfl⟩ := hl
        exact h.unbroken ⟨front, [], by simp⟩
      · obtain ⟨rfl, rfl, rfl, rfl⟩ : c = ':' ∧ d = '\n' ∧ l = [] ∧ r = [] := by
          simpa [eq_comm] using hsplit
        exact h.unbroken (hl.isInfix.trans (List.prefix_append ..).isInfix)

theorem nil : Spreads [] [] :=
  ⟨fun _ => rfl, by decide⟩

theorem newline : Spreads ['\n'] [] :=
  ⟨fun rest => by simp [unspaced], by decide⟩

/-- A text without quotes, blanks, line breaks and colons is spread from itself. -/
theorem refl (h : ∀ c ∈ s, c ∉ ['"', ' ', '\n', ':']) : Spreads s s := by
  induction s with
  | nil => exact nil
  | cons c s ih =>
      obtain ⟨hc, hs⟩ := List.forall_mem_cons.mp h
      obtain ⟨hquote, hblank, hline, hcolon⟩ : c ≠ '"' ∧ c ≠ ' ' ∧ c ≠ '\n' ∧ c ≠ ':' := by
        simpa using hc
      have hone : Spreads [c] [c] := by
        refine ⟨fun rest => ?_, fun hwithin => ?_⟩
        · simp [unspaced, hblank, hline, beq_eq_false_iff_ne.mpr hquote]
        · cases hwithin.eq_of_length rfl
          exact hcolon rfl
      exact hone.append (ih hs)

theorem of_blanks (h : ∀ c ∈ s, c = ' ') : Spreads s [] := by
  induction s with
  | nil => exact nil
  | cons c s ih =>
      obtain ⟨rfl, hs⟩ := List.forall_mem_cons.mp h
      have hblank : Spreads [' '] [] := ⟨fun rest => by simp [unspaced], by decide⟩
      exact hblank.append (ih hs)

theorem intercalate {sep sep' : List Char} {lines parts : List (List Char)}
    (hsep : Spreads sep sep') (h : List.Forall₂ Spreads lines parts) :
    Spreads (sep.intercalate lines) (sep'.intercalate parts) := by
  induction h with
  | nil => exact nil
  | cons hline hrest ih =>
      cases hrest with
      | nil => simpa [List.intercalate] using hline
      | cons =>
          rw [List.intercalate_cons_cons, List.intercalate_cons_cons]
          exact (hline.append hsep).append ih

end Spreads

section Text

variable {c : Char} {rest : List Char}

/-- The possible renderings of a character in a string. -/
theorem escapeChar_cases (c : Char) :
    (∃ d ∈ ['"', '\\', 'b', 'f', 'n', 'r', 't'], (escapeChar c).toList = ['\\', d]) ∨
      (∃ m < 16, ∃ n < 16, (escapeChar c).toList =
        ['\\', 'u', '0', '0', Nat.digitChar m, Nat.digitChar n]) ∨
      (c ∉ ['"', '\\', '\n'] ∧ (escapeChar c).toList = [c]) := by
  unfold escapeChar
  split
  next => exact .inl ⟨'"', by simp, rfl⟩
  split
  next => exact .inl ⟨'\\', by simp, rfl⟩
  split
  next => exact .inl ⟨'b', by simp, rfl⟩
  split
  next => exact .inl ⟨'f', by simp, rfl⟩
  split
  next => exact .inl ⟨'n', by simp, rfl⟩
  split
  next => exact .inl ⟨'r', by simp, rfl⟩
  split
  next => exact .inl ⟨'t', by simp, rfl⟩
  split
  next hcontrol =>
    exact .inr (.inl ⟨c.toNat / 16, by omega, c.toNat % 16, by omega, by simp [hexDigit]⟩)
  next hquote hbackslash _ _ hline _ _ _ =>
    exact .inr (.inr ⟨by simp [hquote, hbackslash, hline], by simp⟩)

theorem digitChar_notMem : ∀ n < 16, Nat.digitChar n ∉ ['"', '\\', '\n'] := by
  decide

theorem unspaced_cons (h : c ∉ ['"', '\\', '\n']) :
    unspaced true (c :: rest) = c :: unspaced true rest := by
  obtain ⟨hquote, hbackslash, -⟩ : c ≠ '"' ∧ c ≠ '\\' ∧ c ≠ '\n' := by simpa using h
  simp [unspaced, hbackslash, bne_iff_ne.mpr hquote]

theorem unspaced_escapeChar (c : Char) (rest : List Char) :
    unspaced true ((escapeChar c).toList ++ rest) =
      (escapeChar c).toList ++ unspaced true rest := by
  obtain ⟨d, -, h⟩ | ⟨m, hm, n, hn, h⟩ | ⟨hc, h⟩ := escapeChar_cases c <;> rw [h]
  · rfl
  · have hzero : '0' ∉ ['"', '\\', '\n'] := by decide
    simp only [List.cons_append, List.nil_append, unspaced, unspaced_cons hzero,
      unspaced_cons (digitChar_notMem m hm), unspaced_cons (digitChar_notMem n hn)]
  · exact unspaced_cons hc

theorem newline_notMem_escapeChar (c : Char) : '\n' ∉ (escapeChar c).toList := by
  obtain ⟨d, hd, h⟩ | ⟨m, hm, n, hn, h⟩ | ⟨hc, h⟩ := escapeChar_cases c <;> rw [h]
  · rintro (_ | ⟨_, _ | ⟨_, ⟨⟩⟩⟩)
    exact absurd hd (by decide)
  · have hm := digitChar_notMem m hm
    have hn := digitChar_notMem n hn
    simp_all
  · rw [List.mem_singleton]
    rintro rfl
    exact hc (by simp)

theorem spreads_renderString (s : String) :
    Spreads (renderString s).toList (renderString s).toList := by
  have htext : (renderString s).toList =
      '"' :: s.toList.flatMap (fun c => (escapeChar c).toList) ++ ['"'] := by
    simp [renderString, String.toList_join, List.flatMap_map]
  have hunspaced (cs rest : List Char) :
      unspaced true (cs.flatMap (fun c => (escapeChar c).toList) ++ rest) =
        cs.flatMap (fun c => (escapeChar c).toList) ++ unspaced true rest := by
    induction cs with
    | nil => rfl
    | cons c cs ih =>
        rw [List.flatMap_cons, List.append_assoc, unspaced_escapeChar, ih, List.append_assoc]
  rw [htext]
  constructor
  · intro rest
    simp [unspaced, hunspaced]
  · rw [List.infix_concat_iff]
    rintro (hsuffix | hwithin)
    · rw [List.append_assoc] at hsuffix
      obtain ⟨front, hfront⟩ := hsuffix
      exact absurd (List.append_inj' hfront rfl).2 (by decide)
    · have hline : '\n' ∈ _ := hwithin.subset (by simp)
      simp [newline_notMem_escapeChar] at hline

end Text

theorem spreads_number (n : Number) : Spreads n.render.toList n.render.toList := by
  have hdigit {c : Char} (h : c.isDigit = true) : c ∉ ['"', ' ', '\n', ':'] := by
    intro hmem
    simp only [List.mem_cons, List.not_mem_nil, or_false] at hmem
    rcases hmem with rfl | rfl | rfl | rfl <;> exact absurd h (by decide)
  have hsign (negative : Bool) :
      ∀ c ∈ if negative then ['-'] else [], c ∉ ['"', ' ', '\n', ':'] := by
    cases negative <;> simp
  have hmark : ∀ c ∈ ['.', 'e', '+', '-'], c ∉ ['"', ' ', '\n', ':'] := by simp
  refine .refl ?_
  cases n with
  | integer n =>
      have htext : (Number.integer n).render.toList =
          (if n.val < 0 then ['-'] else []) ++ Nat.toDigits 10 n.val.natAbs :=
        Yaml.Number.toList_repr n.val
      rw [htext, List.forall_mem_append]
      refine ⟨?_, fun c hc => hdigit ((Yaml.Scalar.digits_toDigits _).2 c hc)⟩
      simpa only [decide_eq_true_eq] using hsign (n.val < 0)
  | double x =>
      have htext : (Number.double x).render.toList =
          (if x.negative then ['-'] else []) ++
            ((Decimal.shortest x).write Number.layout).toList := by
        cases hx : x.negative <;> simp [Number.render, Double.write, hx]
      rw [htext, List.forall_mem_append]
      refine ⟨hsign x.negative, fun c hc => ?_⟩
      rcases (Decimal.spells_write (.inr rfl) _).isDigit_or_mem hc with hc | hc
      · exact hdigit hc
      · exact hmark c hc

/-- Blank indentation stays blank one level deeper. -/
theorem Spreads.deeper {indent : String} (h : Spreads indent.toList []) :
    Spreads (indent ++ "  ").toList [] := by
  rw [String.toList_append]
  exact h.append (.of_blanks (by simp))

/-- The indented rendering of a container, from those of its lines. -/
theorem spreads_block {opening closing indent : String} {lines parts : List String}
    (hopening : Spreads opening.toList opening.toList)
    (hclosing : Spreads closing.toList closing.toList) (hindent : Spreads indent.toList [])
    (h : List.Forall₂ (fun line part => Spreads line.toList part.toList) lines parts) :
    Spreads (block opening closing indent lines).toList
      (opening ++ String.intercalate "," parts ++ closing).toList := by
  cases lines with
  | nil =>
      cases h
      simpa [block] using hopening.append hclosing
  | cons line lines =>
      have hcomma : Spreads [','] [','] := .refl (by simp)
      have hbody := ((hcomma.append .newline).append hindent.deeper).intercalate
        (List.forall₂_map_left_iff.mpr (List.forall₂_map_right_iff.mpr h))
      have hall := (((((hopening.append .newline).append hindent.deeper).append hbody).append
        .newline).append hindent).append hclosing
      simpa [block, String.toList_intercalate] using hall

theorem renderItems_eq (items : List Json) : renderItems items = items.map render := by
  induction items with
  | nil => rfl
  | cons j rest ih => rw [renderItems, ih, List.map_cons]

theorem prettyItems_eq (indent : String) (items : List Json) :
    prettyItems indent items = items.map (prettyAt indent) := by
  induction items with
  | nil => rfl
  | cons j rest ih => rw [prettyItems, ih, List.map_cons]

theorem renderMembers_eq (members : List (String × Json)) :
    renderMembers members = members.map fun m => renderString m.1 ++ ":" ++ render m.2 := by
  induction members with
  | nil => rfl
  | cons m rest ih => rw [renderMembers, ih, List.map_cons]

theorem prettyMembers_eq (indent : String) (members : List (String × Json)) :
    prettyMembers indent members =
      members.map fun m => renderString m.1 ++ ": " ++ prettyAt indent m.2 := by
  induction members with
  | nil => rfl
  | cons m rest ih => rw [prettyMembers, ih, List.map_cons]

/-- The indented text of a value spreads its compact text. -/
theorem spreads_prettyAt (j : Json) (indent : String) (hindent : Spreads indent.toList []) :
    Spreads (prettyAt indent j).toList j.render.toList := by
  induction j using whole_induction generalizing indent with
  | hnull =>
      rw [prettyAt]
      exact .refl (by simp [render])
  | hbool b =>
      rw [prettyAt]
      cases b <;> exact .refl (by simp [render])
  | hnumber n => exact spreads_number n
  | hstring s => exact spreads_renderString s
  | harray items ih =>
      rw [prettyAt, render, prettyItems_eq, renderItems_eq]
      refine spreads_block (.refl (by simp)) (.refl (by simp)) hindent ?_
      rw [List.forall₂_map_left_iff, List.forall₂_map_right_iff, List.forall₂_same]
      exact fun j hj => ih j hj _ hindent.deeper
  | hobject members ih =>
      rw [prettyAt, render, prettyMembers_eq, renderMembers_eq]
      refine spreads_block (.refl (by simp)) (.refl (by simp)) hindent ?_
      rw [List.forall₂_map_left_iff, List.forall₂_map_right_iff, List.forall₂_same]
      intro m hm
      have hvalue : Spreads (prettyAt (indent ++ "  ") m.2).toList m.2.render.toList :=
        ih m hm _ hindent.deeper
      have hcolon : Spreads [':', ' '] [':'] := ⟨fun rest => by simp [unspaced], by decide⟩
      simpa using ((spreads_renderString m.1).append hcolon).append hvalue

/-- The indented text determines the compact text. -/
theorem render_eq_of_pretty {i j : Json} (h : i.pretty = j.pretty) : i.render = j.render := by
  have hi := (spreads_prettyAt i "" .nil).unspaced_append []
  have hj := (spreads_prettyAt j "" .nil).unspaced_append []
  have htext : (prettyAt "" i).toList = (prettyAt "" j).toList := congrArg String.toList h
  rw [htext, hj] at hi
  exact String.toList_inj.mp (by simpa [unspaced] using hi.symm)

end SchemaCheck.Json
