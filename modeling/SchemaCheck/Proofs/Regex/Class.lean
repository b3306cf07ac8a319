import SchemaCheck.Proofs.Regex.Local

/-!
Bracketed classes. The readers of a class are local: a class is read up to its closing bracket,
whatever follows it, and more fuel does not change the result.
-/

namespace SchemaCheck.Regex.Parser

variable {flags : Flags} {s rest : List Char} {c : Char}

theorem classAtom_other (flags : Flags) (h : c ≠ '\\') (rest : List Char) :
    classAtom flags (c :: rest) = some (.char c.toNat, rest) := by
  unfold classAtom
  split
  next heq => cases heq
  next heq => exact absurd (List.cons.inj heq).1 h
  next heq => cases heq; rfl

theorem local_classAtom (flags : Flags) (s : List Char) : Local (classAtom flags) s := by
  cases s with
  | nil => exact .of_none rfl
  | cons c after =>
      by_cases hslash : c = '\\'
      · subst hslash
        exact .cons (local_escape flags after)
      · exact .cons (.of_eq (.pure (Atom.char c.toNat)) (classAtom_other flags hslash))

/-- The characters between two items of a class. -/
def range? : Atom → Atom → Option CharSet
  | .char low, .char high => if low ≤ high then some (.ranges [(low, high)]) else none
  | _, _ => none

/-- A single item that starts no range. -/
def lone (first : Atom) (s : List Char) : Option (CharSet × List Char) :=
  first.toSet?.bind fun set => some (set, s)

/-- The second half of a range, behind its hyphen, from the text with its skipped part removed. In
front of the closing bracket or another hyphen, the hyphen stands for itself. -/
def rangeAfterHyphen (flags : Flags) (first : Atom) (s : List Char) :
    List Char → Option (CharSet × List Char)
  | ']' :: _ => lone first s
  | '-' :: _ => lone first s
  | [] => none
  | after => (classAtom flags after).bind fun r => (range? first r.1).bind fun set => some (set, r.2)

/-- A single item or a range, given its first item, from the text with its skipped part removed. -/
def rangeAfterFirst (flags : Flags) (first : Atom) : List Char → Option (CharSet × List Char)
  | [] => none
  | '-' :: after => rangeAfterHyphen flags first ('-' :: after) (skip flags after)
  | s => lone first s

theorem rangeAfterFirst_other (flags : Flags) (first : Atom) (h : c ≠ '-') (rest : List Char) :
    rangeAfterFirst flags first (c :: rest) = lone first (c :: rest) := by
  unfold rangeAfterFirst
  split
  next heq => cases heq
  next heq => exact absurd (List.cons.inj heq).1 h
  next => rfl

theorem rangeAfterHyphen_stay (flags : Flags) (first : Atom) (s : List Char) (h : c = ']' ∨ c = '-')
    (rest : List Char) : rangeAfterHyphen flags first s (c :: rest) = lone first s := by
  rcases h with rfl | rfl <;> rfl

theorem rangeAfterHyphen_other (flags : Flags) (first : Atom) (s : List Char) (hend : c ≠ ']')
    (hhyphen : c ≠ '-') (rest : List Char) :
    rangeAfterHyphen flags first s (c :: rest) = (classAtom flags (c :: rest)).bind fun r =>
      (range? first r.1).bind fun set => some (set, r.2) := by
  unfold rangeAfterHyphen
  split
  next heq => exact absurd (List.cons.inj heq).1 hend
  next heq => exact absurd (List.cons.inj heq).1 hhyphen
  next heq => cases heq
  next => rfl

theorem classRange_eq (flags : Flags) (s : List Char) :
    classRange flags s =
      (classAtom flags s).bind fun r => rangeAfterFirst flags r.1 (skip flags r.2) := by
  unfold classRange
  rcases classAtom flags s with - | ⟨first, rest⟩
  · rfl
  simp only [Option.bind_eq_bind, Option.bind_some]
  generalize skip flags rest = u
  split
  next => rfl
  next after =>
    show _ = rangeAfterHyphen flags first ('-' :: after) (skip flags after)
    generalize skip flags after = v
    split
    next => rfl
    next => rfl
    next => rfl
    next hend hhyphen hnil =>
      obtain - | ⟨c, inner⟩ := v
      · exact (hnil rfl).elim
      rw [rangeAfterHyphen_other _ _ _ (fun h => hend inner (h ▸ rfl))
        fun h => hhyphen inner (h ▸ rfl)]
      congr 1
      funext ⟨last, rest⟩
      unfold range?
      cases first <;> cases last <;> dsimp only [Option.bind_none]
      split <;> rfl
  next hnil hhyphen =>
    obtain - | ⟨c, after⟩ := u
    · exact (hnil rfl).elim
    · exact (rangeAfterFirst_other flags first (fun h => hhyphen after (h ▸ rfl)) after).symm

theorem local_lone (first : Atom) (s : List Char) : Local (lone first) s :=
  .assume fun set _ => .pure set

/-- The reader of a range is local: a result is not changed by a bar behind the text. -/
theorem local_rangeAfterFirst (flags : Flags) (first : Atom) (s : List Char) :
    Local (rangeAfterFirst flags first) s := by
  cases s with
  | nil => exact .of_none rfl
  | cons c after =>
      by_cases hhyphen : c = '-'
      · subst hhyphen
        refine .peek (g := rangeAfterHyphen flags first) (fun _ => rfl) (fun _ => rfl)
          fun c inner hskip set rest h => ?_
        by_cases hstay : c = ']' ∨ c = '-'
        · rw [rangeAfterHyphen_stay flags first _ hstay] at h
          obtain ⟨hle, hmore⟩ := local_lone first ('-' :: after) set rest h
          exact ⟨hle, fun more =>
            (rangeAfterHyphen_stay flags first _ hstay _).trans (hmore more)⟩
        · obtain ⟨hend, hagain⟩ := not_or.mp hstay
          have hlast : Local (fun s => (classAtom flags s).bind fun r =>
              (range? first r.1).bind fun set => some (set, r.2)) (c :: inner) :=
            (local_classAtom flags _).filterMap (range? first)
          rw [rangeAfterHyphen_other flags first _ hend hagain] at h
          obtain ⟨hle, hmore⟩ := hlast set rest h
          have hlt := length_lt_of_skip hskip
          rw [List.length_cons] at hle
          exact ⟨by omega, fun more =>
            (rangeAfterHyphen_other flags first _ hend hagain _).trans (hmore more)⟩
      · exact .of_eq_cons (rangeAfterFirst_other flags first hhyphen) (local_lone first _)

theorem local_classRange (flags : Flags) (s : List Char) : Local (classRange flags) s :=
  .of_eq (.bind (local_classAtom flags s)
    (g := fun first rest => rangeAfterFirst flags first (skip flags rest))
    fun first _ => .afterSkip rfl (local_rangeAfterFirst flags first _)) (classRange_eq flags)

/-- A class with an ASCII name, from the text behind the first colon. -/
def asciiNamed? (negated : Bool) (s : List Char) : Option (CharSet × List Char) :=
  match s.dropWhile (· != ':') with
  | ':' :: ']' :: rest =>
    (Classes.ascii? (String.ofList (s.takeWhile (· != ':')))).map fun rs =>
      (negateIf negated (.ranges rs), rest)
  | _ => none

theorem asciiClass?_colon (s : List Char) :
    asciiClass? (':' :: s) =
      if s.head? = some '^' then asciiNamed? true s.tail else asciiNamed? false s := by
  obtain - | ⟨c, rest⟩ := s
  · rfl
  by_cases h : c = '^'
  · subst h
    rfl
  · rw [if_neg (by simpa using h)]
    unfold asciiClass?
    split
    next heq =>
      cases heq
      split
      next heq =>
        split at heq
        next heq' => exact absurd (List.cons.inj heq').1 h
        next => cases heq; rfl
    next hne => exact (hne _ rfl).elim

theorem asciiClass?_other (h : c ≠ ':') (s : List Char) : asciiClass? (c :: s) = none := by
  unfold asciiClass?
  split
  next heq => exact absurd (List.cons.inj heq).1 h
  next => rfl

theorem bar_notMem_of_ascii? {name : String} {ranges : Unicode.Ranges}
    (h : Classes.ascii? name = some ranges) : '|' ∉ name.toList := by
  unfold Classes.ascii? at h
  split at h
  case h_15 => cases h
  all_goals decide

theorem asciiNamed?_append (negated : Bool) (s more : List Char) :
    asciiNamed? negated (s ++ '|' :: more) =
      (asciiNamed? negated s).map fun r => (r.1, r.2 ++ '|' :: more) := by
  cases h : s.dropWhile (· != ':') with
  | nil =>
      have hall := List.dropWhile_eq_nil_iff.mp h
      have hnone :
          Classes.ascii? (String.ofList ((s ++ '|' :: more).takeWhile (· != ':'))) = none := by
        refine Option.eq_none_iff_forall_ne_some.mpr fun ranges hsome => ?_
        refine bar_notMem_of_ascii? hsome ?_
        rw [String.toList_ofList, List.takeWhile_append_of_pos hall]
        exact List.mem_append_right _ List.mem_cons_self
      unfold asciiNamed?
      rw [hnone, h]
      split <;> rfl
  | cons c rest =>
      unfold asciiNamed?
      rw [dropWhile_append_of_dropWhile h, takeWhile_append_of_dropWhile h, h]
      by_cases hclose : c = ':' ∧ rest.head? = some ']'
      · obtain ⟨rfl, hhead⟩ := hclose
        obtain - | ⟨d, rest⟩ := rest
        · cases hhead
        cases hhead
        show Option.map _ _ = Option.map _ (Option.map _ _)
        rw [Option.map_map]
        rfl
      · split
        next heq =>
          refine absurd ⟨(List.cons.inj heq).1, ?_⟩ hclose
          obtain - | ⟨d, rest⟩ := rest
          · cases heq
          · exact congrArg some (List.cons.inj (List.cons.inj heq).2).1
        next =>
          split
          next heq => cases heq; exact absurd ⟨rfl, rfl⟩ hclose
          next => rfl

theorem asciiClass?_append (s more : List Char) :
    asciiClass? (s ++ '|' :: more) = (asciiClass? s).map fun r => (r.1, r.2 ++ '|' :: more) := by
  obtain - | ⟨c, rest⟩ := s
  · rfl
  by_cases hcolon : c = ':'
  · subst hcolon
    rw [List.cons_append, asciiClass?_colon, asciiClass?_colon]
    obtain - | ⟨d, rest⟩ := rest
    · exact asciiNamed?_append false [] more
    · by_cases hcaret : some d = some '^'
      · rw [List.cons_append, List.head?_cons, List.head?_cons, if_pos hcaret, if_pos hcaret]
        exact asciiNamed?_append true rest more
      · rw [List.cons_append, List.head?_cons, List.head?_cons, if_neg hcaret, if_neg hcaret]
        exact asciiNamed?_append false (d :: rest) more
  · rw [List.cons_append, asciiClass?_other hcolon, asciiClass?_other hcolon]
    rfl

theorem length_le_of_asciiNamed? {negated : Bool} {r : CharSet × List Char}
    (h : asciiNamed? negated s = some r) : r.2.length ≤ s.length := by
  unfold asciiNamed? at h
  split at h
  next rest hrest =>
    obtain ⟨ranges, -, rfl⟩ := Option.map_eq_some_iff.mp h
    have hlt := length_lt_of_dropWhile hrest
    rw [List.length_cons] at hlt
    exact Nat.le_of_lt (Nat.lt_of_succ_lt hlt)
  next => cases h

theorem length_le_of_asciiClass? {r : CharSet × List Char} (h : asciiClass? s = some r) :
    r.2.length ≤ s.length := by
  obtain - | ⟨c, rest⟩ := s
  · cases h
  by_cases hcolon : c = ':'
  · subst hcolon
    rw [asciiClass?_colon] at h
    split at h
    next =>
      have htail := List.length_tail (l := rest)
      exact (length_le_of_asciiNamed? h).trans (by rw [List.length_cons]; omega)
    next => exact (length_le_of_asciiNamed? h).trans (Nat.le_succ _)
  · rw [asciiClass?_other hcolon] at h
    cases h

/-- An opening bracket that stands for itself, from the text behind it with its skipped part
removed. -/
def afterBracket (items : OpenClass) : List Char → Option (OpenClass × List Char)
  | [] => none
  | rest => some (items.addSet (.single ']'.toNat), rest)

theorem local_leadingItems (flags : Flags) (items : OpenClass) (first : Bool) (s : List Char) :
    Local (leadingItems flags items first) s := by
  induction s generalizing items first with
  | nil => exact .of_none rfl
  | cons c after ih =>
      by_cases hhyphen : c = '-'
      · subst hhyphen
        exact .cons (.unlessAtEnd (ih _ false))
      by_cases hclose : c = ']'
      · subst hclose
        refine .of_eq_cons (k := fun s => if first then afterBracket items (skip flags s.tail)
          else some (items, s)) (fun rest => ?_) ?_
        · unfold leadingItems
          cases first with
          | false => rfl
          | true => cases h : skip flags rest <;> simp [afterBracket, h]
        · refine .ite (fun _ => .cons (.afterSkip (f := afterBracket items) rfl ?_))
            fun _ => .pure items
          cases skip flags after with
          | nil => exact .of_none rfl
          | cons d inner => exact .of_eq_cons (fun _ => rfl) (.pure (items.addSet (.single ']'.toNat)))
      refine .of_eq_cons (k := fun s => if flags.extended ∧ Classes.isBlank c then
        leadingItems flags items first s.tail else some (items, s)) (fun rest => ?_) ?_
      · rw [leadingItems]
        · rfl
        · exact hhyphen
        · exact hclose
      · exact .ite (fun _ => .cons (ih items first)) fun _ => .pure items

/-- The items of a class, behind the caret if there is one. -/
def classBody (fuel : Nat) (flags : Flags) (negated : Bool) (s : List Char) :
    Option (ClassSet × List Char) :=
  (leadingItems flags .start true s).bind fun r =>
    (classItems fuel flags r.1 r.2).bind fun r =>
      (r.1.bracketed? flags negated).bind fun c => some (c, r.2)

/-- A whole class, from the text behind its opening bracket with its skipped part removed. -/
def classFrom (fuel : Nat) (flags : Flags) : List Char → Option (ClassSet × List Char)
  | '^' :: rest => classBody fuel flags true (skip flags rest)
  | s => classBody fuel flags false s

theorem classFrom_other (fuel : Nat) (flags : Flags) (h : c ≠ '^') (rest : List Char) :
    classFrom fuel flags (c :: rest) = classBody fuel flags false (c :: rest) := by
  unfold classFrom
  split
  next heq => exact absurd (List.cons.inj heq).1 h
  next => rfl

theorem bracketed_succ (fuel : Nat) (flags : Flags) (s : List Char) :
    bracketed (fuel + 1) flags s = classFrom fuel flags (skip flags s) := by
  unfold bracketed
  dsimp only
  generalize skip flags s = u
  split
  next => rfl
  next hcaret =>
    obtain - | ⟨c, rest⟩ := u
    · rfl
    · exact (classFrom_other fuel flags (fun h => hcaret rest (h ▸ rfl)) rest).symm

/-- An item that starts with a bracket: a class with an ASCII name, or a nested class. -/
def bracketItem (fuel : Nat) (flags : Flags) (items : OpenClass) (s : List Char) :
    Option (ClassSet × List Char) :=
  match asciiClass? s with
  | some (set, rest) => classItems fuel flags (items.addSet set) rest
  | none => (bracketed fuel flags s).bind fun r => classItems fuel flags (items.add r.1) r.2

/-- The next item of a class or its end, from the text with its skipped part removed. -/
def itemsFrom (fuel : Nat) (flags : Flags) (items : OpenClass) (s : List Char) :
    Option (ClassSet × List Char) :=
  match s with
  | [] => none
  | '[' :: rest => bracketItem fuel flags items rest
  | ']' :: rest => some (items.combine flags, rest)
  | '&' :: '&' :: rest => classItems fuel flags (items.operator flags .inter) rest
  | '-' :: '-' :: rest => classItems fuel flags (items.operator flags .diff) rest
  | '~' :: '~' :: rest => classItems fuel flags (items.operator flags .symmDiff) rest
  | s => (classRange flags s).bind fun r => classItems fuel flags (items.addSet r.1) r.2

theorem classItems_succ (fuel : Nat) (flags : Flags) (items : OpenClass) (s : List Char) :
    classItems (fuel + 1) flags items s = itemsFrom fuel flags items (skip flags s) := by
  rfl

theorem cons_of_append {more : List Char} (hne : s ≠ []) (h : s ++ '|' :: more = c :: rest) :
    ∃ after, s = c :: after := by
  obtain ⟨hnil, -⟩ | ⟨after, hs, -⟩ := List.append_eq_cons_iff.mp h
  · exact absurd hnil hne
  · exact ⟨after, hs⟩

theorem cons_cons_of_append {d : Char} {more : List Char} (hne : s ≠ []) (hd : d ≠ '|')
    (h : s ++ '|' :: more = c :: d :: rest) : ∃ after, s = c :: d :: after := by
  obtain ⟨hnil, -⟩ | ⟨after, hs, hrest⟩ := List.append_eq_cons_iff.mp h
  · exact absurd hnil hne
  obtain ⟨-, hbar⟩ | ⟨after', hafter, -⟩ := List.append_eq_cons_iff.mp hrest.symm
  · exact absurd (List.cons.inj hbar).1.symm hd
  · exact ⟨after', hafter ▸ hs⟩

section Step

variable {fuel fuel' : Nat} {items : OpenClass} {r : ClassSet × List Char}

theorem local_classBody (hitems : ∀ items s, Local (classItems fuel flags items) s) (negated : Bool)
    (s : List Char) : Local (classBody fuel flags negated) s :=
  .bind (local_leadingItems flags .start true s)
    (g := fun items rest => (classItems fuel flags items rest).bind fun r =>
      (r.1.bracketed? flags negated).bind fun c => some (c, r.2))
    fun items rest => .filterMap (·.bracketed? flags negated) (hitems items rest)

theorem local_classFrom (hitems : ∀ items s, Local (classItems fuel flags items) s) (s : List Char) :
    Local (classFrom fuel flags) s := by
  cases s with
  | nil => exact .of_none rfl
  | cons c rest =>
      by_cases hcaret : c = '^'
      · subst hcaret
        exact .cons (.afterSkip rfl (local_classBody hitems true _))
      · exact .of_eq_cons (classFrom_other fuel flags hcaret) (local_classBody hitems false _)

theorem local_bracketItem (hbracketed : ∀ s, Local (bracketed fuel flags) s)
    (hitems : ∀ items s, Local (classItems fuel flags items) s) (s : List Char) :
    Local (bracketItem fuel flags items) s := by
  intro set rest h
  unfold bracketItem at h ⊢
  simp only [asciiClass?_append]
  cases hascii : asciiClass? s with
  | some named =>
      rw [hascii] at h
      obtain ⟨hle, happend⟩ := hitems (items.addSet named.1) named.2 set rest h
      exact ⟨hle.trans (length_le_of_asciiClass? hascii), happend⟩
  | none =>
      rw [hascii] at h
      exact (hbracketed s).bind (g := fun item rest => classItems fuel flags (items.add item) rest)
        (fun item rest => hitems (items.add item) rest) set rest h

theorem local_itemsFrom (hbracketed : ∀ s, Local (bracketed fuel flags) s)
    (hitems : ∀ items s, Local (classItems fuel flags items) s) (s : List Char) :
    Local (itemsFrom fuel flags items) s := by
  intro set rest h
  unfold itemsFrom at h
  split at h
  case h_1 => cases h
  case h_7 hnil hopen hclose hand hminus htilde =>
    have hlocal : Local (fun s => (classRange flags s).bind fun r =>
        classItems fuel flags (items.addSet r.1) r.2) s :=
      .bind (local_classRange flags s)
        (g := fun set rest => classItems fuel flags (items.addSet set) rest)
        fun set rest => hitems (items.addSet set) rest
    obtain ⟨hle, happend⟩ := hlocal set rest h
    refine ⟨hle, fun more => ?_⟩
    rw [itemsFrom]
    · exact happend more
    · exact fun heq => hnil (List.append_eq_nil_iff.mp heq).1
    · exact fun _ heq => (cons_of_append hnil heq).elim hopen
    · exact fun _ heq => (cons_of_append hnil heq).elim hclose
    · exact fun _ heq => (cons_cons_of_append hnil (by decide) heq).elim hand
    · exact fun _ heq => (cons_cons_of_append hnil (by decide) heq).elim hminus
    · exact fun _ heq => (cons_cons_of_append hnil (by decide) heq).elim htilde
  all_goals refine Local.cons (f := itemsFrom fuel flags items) ?_ set rest h
  case h_2 => exact local_bracketItem hbracketed hitems _
  case h_3 => exact .pure _
  case h_4 =>
    exact Local.cons (f := fun s => itemsFrom fuel flags items ('&' :: s)) (hitems _ _)
  case h_5 =>
    exact Local.cons (f := fun s => itemsFrom fuel flags items ('-' :: s)) (hitems _ _)
  case h_6 =>
    exact Local.cons (f := fun s => itemsFrom fuel flags items ('~' :: s)) (hitems _ _)

theorem itemsFrom_mono
    (hbracketed : ∀ s r, bracketed fuel flags s = some r → bracketed fuel' flags s = some r)
    (hitems : ∀ items s r, classItems fuel flags items s = some r →
      classItems fuel' flags items s = some r)
    (h : itemsFrom fuel flags items s = some r) : itemsFrom fuel' flags items s = some r := by
  unfold itemsFrom at h
  split at h
  case h_1 => cases h
  case h_2 after =>
    show bracketItem fuel' flags items after = some r
    unfold bracketItem at h ⊢
    split at h
    next => exact hitems _ _ _ h
    next =>
      obtain ⟨set, hset, hrest⟩ := Option.bind_eq_some_iff.mp h
      exact Option.bind_eq_some_iff.mpr ⟨set, hbracketed _ _ hset, hitems _ _ _ hrest⟩
  case h_3 => exact h
  case h_4 | h_5 | h_6 => exact hitems _ _ _ h
  case h_7 hnil hopen hclose hand hminus htilde =>
    rw [itemsFrom]
    · obtain ⟨set, hset, hrest⟩ := Option.bind_eq_some_iff.mp h
      exact Option.bind_eq_some_iff.mpr ⟨set, hset, hitems _ _ _ hrest⟩
    all_goals assumption

theorem classBody_mono (negated : Bool)
    (hitems : ∀ items s r, classItems fuel flags items s = some r →
      classItems fuel' flags items s = some r)
    (h : classBody fuel flags negated s = some r) : classBody fuel' flags negated s = some r := by
  obtain ⟨start, hstart, h⟩ := Option.bind_eq_some_iff.mp h
  obtain ⟨set, hset, h⟩ := Option.bind_eq_some_iff.mp h
  exact Option.bind_eq_some_iff.mpr ⟨start, hstart,
    Option.bind_eq_some_iff.mpr ⟨set, hitems _ _ _ hset, h⟩⟩

theorem classFrom_mono
    (hitems : ∀ items s r, classItems fuel flags items s = some r →
      classItems fuel' flags items s = some r)
    (h : classFrom fuel flags s = some r) : classFrom fuel' flags s = some r := by
  cases s with
  | nil => exact classBody_mono false hitems h
  | cons c rest =>
      by_cases hcaret : c = '^'
      · subst hcaret
        exact classBody_mono true hitems h
      · rw [classFrom_other _ _ hcaret] at h ⊢
        exact classBody_mono false hitems h

end Step

theorem local_class (fuel : Nat) (flags : Flags) :
    (∀ s, Local (bracketed fuel flags) s) ∧
      ∀ items s, Local (classItems fuel flags items) s := by
  induction fuel with
  | zero => exact ⟨fun s => .of_none rfl, fun items s => .of_none rfl⟩
  | succ fuel ih =>
      obtain ⟨hbracketed, hitems⟩ := ih
      exact ⟨fun s => .of_eq (.afterSkip rfl (local_classFrom hitems _)) (bracketed_succ fuel flags),
        fun items s => .of_eq (.afterSkip rfl (local_itemsFrom hbracketed hitems _))
          (classItems_succ fuel flags items)⟩

theorem local_bracketed (fuel : Nat) (flags : Flags) (s : List Char) :
    Local (bracketed fuel flags) s :=
  (local_class fuel flags).1 s

theorem class_mono (fuel : Nat) (flags : Flags) :
    (∀ s r, bracketed fuel flags s = some r → bracketed (fuel + 1) flags s = some r) ∧
      ∀ items s r, classItems fuel flags items s = some r →
        classItems (fuel + 1) flags items s = some r := by
  induction fuel with
  | zero => exact ⟨fun _ _ h => (by cases h), fun _ _ _ h => (by cases h)⟩
  | succ fuel ih =>
      obtain ⟨hbracketed, hitems⟩ := ih
      refine ⟨fun s r h => ?_, fun items s r h => itemsFrom_mono hbracketed hitems h⟩
      rw [bracketed_succ] at h ⊢
      exact classFrom_mono hitems h

theorem bracketed_mono {fuel fuel' : Nat} {r : ClassSet × List Char} (hle : fuel ≤ fuel')
    (h : bracketed fuel flags s = some r) : bracketed fuel' flags s = some r := by
  induction hle with
  | refl => exact h
  | step _ ih => exact (class_mono _ flags).1 s r ih

end SchemaCheck.Regex.Parser
