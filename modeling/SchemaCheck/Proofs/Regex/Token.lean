import SchemaCheck.Proofs.Regex.Class

/-!
The tokens of a group. `parts` and `group` first read a token and then act on it. The token depends
on the text and the flags in force only, not on what has been read before, and it is the same if a
bar is appended to the text.
-/

namespace SchemaCheck.Regex.Parser

variable {flags : Flags} {s rest : List Char} {c : Char}

/-- The tokens of a group: its end, a bar, a bracket that opens a group, an atom, and a repetition
of the part before. -/
inductive Token where
  | stop | bar | opens
  | atom (r : Regex)
  | repeats (least : Nat) (most : Option Nat)

/-- The first token of a text with its skipped part removed. -/
def token? (flags : Flags) : List Char → Option (Token × List Char)
  | [] => some (.stop, [])
  | ')' :: rest => some (.stop, ')' :: rest)
  | '|' :: rest => some (.bar, rest)
  | '(' :: rest => some (.opens, rest)
  | '[' :: rest => (bracketed (2 * rest.length + 2) flags rest).bind fun r =>
      some (.atom r.1.toRegex, r.2)
  | '?' :: rest => some (.repeats 0 (some 1), rest)
  | '*' :: rest => some (.repeats 0 none, rest)
  | '+' :: rest => some (.repeats 1 none, rest)
  | '\x7b' :: rest => (counts flags rest).bind fun r => some (.repeats r.1.1 r.1.2, r.2)
  | '\\' :: rest => (escape flags rest).bind fun r => some (.atom (r.1.toRegex flags), r.2)
  | '.' :: rest => (dot? flags).bind fun r => some (.atom r, rest)
  | '^' :: rest => some (.atom (.look (startLook flags)), rest)
  | '$' :: rest => some (.atom (.look (endLook flags)), rest)
  | c :: rest => some (.atom (literal flags c.toNat), rest)

/-- The action of a group on a token. -/
def proceed (fuel : Nat) (ctx : Context) (g : OpenGroup) : Token → List Char →
    Option (Regex × Context × List Char)
  | .stop, rest => some (g.close, ctx, rest)
  | .bar, rest => parts fuel ctx g.nextAlternative rest
  | .opens, rest => group fuel ctx g rest
  | .atom r, rest => parts fuel ctx (g.push r) rest
  | .repeats least most, rest =>
    (g.repeatLast? least most).bind fun g => parts fuel ctx g (skipLazy ctx.flags rest)

theorem parts_succ (fuel : Nat) (ctx : Context) (g : OpenGroup) (s : List Char) :
    parts (fuel + 1) ctx g s = (token? ctx.flags (skip ctx.flags s)).bind fun r =>
      proceed fuel ctx g r.1 r.2 := by
  unfold parts
  dsimp only
  generalize skip ctx.flags s = u
  split
  case h_14 => rw [token?] <;> first | rfl | assumption
  all_goals rw [token?]
  case h_5 rest => cases bracketed (2 * rest.length + 2) ctx.flags rest <;> rfl
  case h_9 rest => cases counts ctx.flags rest <;> rfl
  case h_10 rest => cases escape ctx.flags rest <;> rfl
  case h_11 => cases dot? ctx.flags <;> rfl
  all_goals rfl

/-- What an opening bracket starts: a group with or without a name, or flags for the rest of the
group around it. -/
inductive Opening where
  | group (name : Option String) (flags : Flags)
  | flags (flags : Flags)

/-- The name in front of a closing angle bracket, and the rest behind it. -/
def nameBefore? : List Char → List Char → Option (String × List Char)
  | c :: cs, '>' :: rest =>
    if isNameChar true c && cs.all (isNameChar false) then some (String.ofList (c :: cs), rest)
    else none
  | _, _ => none

/-- The text of a group name up to its closing angle bracket. -/
def groupText? (s : List Char) : Option (String × List Char) :=
  nameBefore? (s.takeWhile (· != '>')) (s.dropWhile (· != '>'))

theorem nameBefore?_eq_none {name rest : List Char}
    (h : ∀ c cs after, name = c :: cs → rest = '>' :: after → False) :
    nameBefore? name rest = none := by
  unfold nameBefore?
  split
  next c cs after => exact (h c cs after rfl rfl).elim
  next => rfl

/-- The names in use inside a group. Fails if the name of the group is already in use. -/
def enter? (names : List String) : Option String → Option (List String)
  | none => some names
  | some text => if names.contains text then none else some (text :: names)

theorem groupName_eq (ctx : Context) (s : List Char) :
    groupName ctx s = (groupText? s).bind fun r =>
      (enter? ctx.names (some r.1)).map fun names => (⟨ctx.flags, names⟩, r.2) := by
  unfold groupName groupText?
  dsimp only
  generalize s.takeWhile (· != '>') = name
  generalize s.dropWhile (· != '>') = tail
  split
  next c cs rest =>
    show _ = Option.bind (if isNameChar true c && cs.all (isNameChar false) then
      some (String.ofList (c :: cs), rest) else none) _
    cases isNameChar true c && cs.all (isNameChar false) with
    | false => rfl
    | true =>
        simp only [Bool.true_and, if_true, Option.bind_some, enter?]
        cases ctx.names.contains (String.ofList (c :: cs)) <;> rfl
  next hne =>
    rw [nameBefore?_eq_none hne]
    rfl

/-- What an opening bracket starts, from the text behind it with its skipped part removed. -/
def opening? (flags : Flags) : List Char → Option (Opening × List Char)
  | [] => none
  | '?' :: 'P' :: '<' :: rest => (groupText? rest).bind fun r => some (.group (some r.1) flags, r.2)
  | '?' :: '<' :: rest => (groupText? rest).bind fun r => some (.group (some r.1) flags, r.2)
  | '?' :: rest => (flagItems flags true [] rest).bind fun r =>
      some (if r.2.1 then .group none r.1 else .flags r.1, r.2.2)
  | s => some (.group none flags, s)

/-- Reads the inside of a group and then the rest of the group around it. -/
def enclosed (fuel : Nat) (ctx inside : Context) (g : OpenGroup) (s : List Char) :
    Option (Regex × Context × List Char) := do
  let (r, after, rest) ← parts fuel inside .start s
  match rest with
  | ')' :: rest => parts fuel { after with flags := ctx.flags } (g.push (.nested 1 r)) rest
  | _ => none

/-- The action of a group on an opening bracket. -/
def proceedInside (fuel : Nat) (ctx : Context) (g : OpenGroup) : Opening → List Char →
    Option (Regex × Context × List Char)
  | .group name flags, rest => (enter? ctx.names name).bind fun names =>
      enclosed fuel ctx ⟨flags, names⟩ g rest
  | .flags flags, rest => parts fuel { ctx with flags } g.breakOff rest

theorem enclosed_nil (fuel : Nat) (ctx inside : Context) (g : OpenGroup) :
    enclosed fuel ctx inside g [] = none := by
  cases fuel with
  | zero => rfl
  | succ fuel =>
      unfold enclosed
      rw [parts_succ, skip_nil]
      rfl

theorem group_succ (fuel : Nat) (ctx : Context) (g : OpenGroup) (s : List Char) :
    group (fuel + 1) ctx g s = (opening? ctx.flags (skip ctx.flags s)).bind fun r =>
      proceedInside fuel ctx g r.1 r.2 := by
  unfold group
  dsimp only
  generalize skip ctx.flags s = u
  split
  case h_1 rest =>
    rw [opening?, groupName_eq]
    cases groupText? rest with
    | none => rfl
    | some named =>
        show Option.bind (Option.map _ _) _ = Option.bind (enter? ctx.names (some named.1)) _
        cases enter? ctx.names (some named.1) <;> rfl
  case h_2 rest =>
    rw [opening?, groupName_eq]
    cases groupText? rest with
    | none => rfl
    | some named =>
        show Option.bind (Option.map _ _) _ = Option.bind (enter? ctx.names (some named.1)) _
        cases enter? ctx.names (some named.1) <;> rfl
  case h_3 rest _ _ =>
    rw [opening?]
    · rcases flagItems ctx.flags true [] rest with - | ⟨inner, isGroup, rest⟩
      · rfl
      · cases isGroup <;> rfl
    · assumption
    · assumption
  case h_4 =>
    cases u with
    | nil => exact enclosed_nil fuel ctx ctx g
    | cons c rest =>
        rw [opening?]
        · rfl
        · rintro ⟨⟩
        all_goals assumption

section Local

theorem isBlank_bar : Classes.isBlank '|' = false := by
  decide

theorem dropWhile_append_bar {p : Char → Bool} (hp : p '|' = false) (s more : List Char) :
    (s ++ '|' :: more).dropWhile p = s.dropWhile p ++ '|' :: more := by
  rw [List.dropWhile_append]
  split
  next h => rw [List.isEmpty_iff.mp h, List.dropWhile_cons, hp]; rfl
  next => rfl

theorem takeWhile_append_bar {p : Char → Bool} (hp : p '|' = false) (s more : List Char) :
    (s ++ '|' :: more).takeWhile p = s.takeWhile p := by
  rw [List.takeWhile_append]
  split
  next h =>
    rw [List.takeWhile_cons, hp, (List.takeWhile_prefix p).eq_of_length h]
    exact List.append_nil s
  next => rfl

theorem length_dropWhile_le (p : Char → Bool) (s : List Char) : (s.dropWhile p).length ≤ s.length :=
  (List.dropWhile_suffix p).length_le

theorem local_decimal (s : List Char) : Local decimal s := by
  intro n rest h
  unfold decimal at h ⊢
  dsimp only at h ⊢
  simp only [dropWhile_append_bar isBlank_bar, takeWhile_append_bar (p := Char.isDigit) rfl,
    dropWhile_append_bar (p := Char.isDigit) rfl]
  split at h
  next => cases h
  next hdigits =>
    split at h
    next hbound =>
      cases h
      refine ⟨?_, fun more => if_pos hbound⟩
      exact (length_dropWhile_le _ _).trans <|
        (length_dropWhile_le _ _).trans (length_dropWhile_le _ _)
    next => cases h

/-- The closing brace of the bounds of a repetition. -/
def boundsEnd (bounds : Nat × Option Nat) : List Char → Option ((Nat × Option Nat) × List Char)
  | '\x7d' :: rest => some (bounds, rest)
  | _ => none

theorem boundsEnd_eq_none {bounds : Nat × Option Nat} (h : ∀ rest, s = '\x7d' :: rest → False) :
    boundsEnd bounds s = none := by
  unfold boundsEnd
  split
  next rest => exact (h rest rfl).elim
  next => rfl

theorem local_boundsEnd (bounds : Nat × Option Nat) (s : List Char) : Local (boundsEnd bounds) s := by
  cases s with
  | nil => exact .of_none rfl
  | cons c after =>
      by_cases hbrace : c = '\x7d'
      · subst hbrace
        exact .cons (.pure bounds)
      · exact .of_none (boundsEnd_eq_none fun rest h => hbrace (List.cons.inj h).1)

/-- The upper bound of a repetition, from the text with its skipped part removed. -/
def upperFrom (least : Nat) : List Char → Option ((Nat × Option Nat) × List Char)
  | '\x7d' :: rest => some ((least, none), rest)
  | rest => (decimal rest).bind fun r =>
    if least ≤ r.1 then boundsEnd (least, some r.1) r.2 else none

theorem upperFrom_other (least : Nat) (h : c ≠ '\x7d') (rest : List Char) :
    upperFrom least (c :: rest) = (decimal (c :: rest)).bind fun r =>
      if least ≤ r.1 then boundsEnd (least, some r.1) r.2 else none := by
  unfold upperFrom
  split
  next heq => exact absurd (List.cons.inj heq).1 h
  next => rfl

theorem local_upperFrom (least : Nat) (s : List Char) : Local (upperFrom least) s := by
  cases s with
  | nil => exact .of_none rfl
  | cons c after =>
      by_cases hbrace : c = '\x7d'
      · subst hbrace
        exact .cons (.pure (least, none))
      · exact .of_eq_cons (upperFrom_other least hbrace) <| .bind (local_decimal _)
          (g := fun most rest => if least ≤ most then boundsEnd (least, some most) rest else none)
          fun most rest => .ite (fun _ => local_boundsEnd _ rest) fun _ => .of_none rfl

/-- The rest of a repetition behind its lower bound. -/
def countsFrom (flags : Flags) (least : Nat) (s : List Char) :
    Option ((Nat × Option Nat) × List Char) :=
  match s with
  | ',' :: rest => upperFrom least (skip flags rest)
  | _ => boundsEnd (least, some least) s

theorem countsFrom_other (flags : Flags) (least : Nat) (h : c ≠ ',') (rest : List Char) :
    countsFrom flags least (c :: rest) = boundsEnd (least, some least) (c :: rest) := by
  unfold countsFrom
  split
  next heq => exact absurd (List.cons.inj heq).1 h
  next => rfl

theorem local_countsFrom (flags : Flags) (least : Nat) (s : List Char) :
    Local (countsFrom flags least) s := by
  cases s with
  | nil => exact .of_none rfl
  | cons c after =>
      by_cases hcomma : c = ','
      · subst hcomma
        exact .cons (.afterSkip rfl (local_upperFrom least _))
      · exact .of_eq_cons (countsFrom_other flags least hcomma) (local_boundsEnd _ _)

theorem counts_eq (flags : Flags) (s : List Char) :
    counts flags s = (decimal (skip flags s)).bind fun r => countsFrom flags r.1 r.2 := by
  unfold counts
  rcases decimal (skip flags s) with - | ⟨least, rest⟩
  · rfl
  simp only [Option.bind_eq_bind, Option.bind_some]
  split
  next => rfl
  next after =>
    show _ = upperFrom least (skip flags after)
    generalize skip flags after = u
    split
    next => rfl
    next hbrace =>
      obtain - | ⟨c, inner⟩ := u
      · rfl
      rw [upperFrom_other least fun h => hbrace inner (h ▸ rfl)]
      rcases decimal (c :: inner) with - | ⟨most, rest⟩
      · rfl
      simp only [Option.bind_some]
      split
      next => rfl
      next hbrace =>
        rw [boundsEnd_eq_none hbrace]
        split <;> rfl
  next hbrace hcomma =>
    obtain - | ⟨c, after⟩ := rest
    · rfl
    rw [countsFrom_other flags least fun h => hcomma after (h ▸ rfl), boundsEnd_eq_none hbrace]

theorem local_counts (flags : Flags) (s : List Char) : Local (counts flags) s :=
  .of_eq (.bind (.afterSkip rfl (local_decimal _)) fun least rest => local_countsFrom flags least rest)
    (counts_eq flags)

theorem local_groupText? (s : List Char) : Local groupText? s := by
  intro text rest h
  unfold groupText? nameBefore? at h
  split at h
  next c cs after hname hafter =>
    split at h
    next hvalid =>
      cases h
      refine ⟨(length_lt_of_dropWhile hafter).le, fun more => ?_⟩
      unfold groupText?
      rw [takeWhile_append_of_dropWhile hafter, dropWhile_append_of_dropWhile hafter, hname]
      exact if_pos hvalid
    next => cases h
  next => cases h

theorem flagItems_append {inner : Flags} {on isGroup : Bool} {seen : List Char}
    (h : flagItems flags on seen s = some (inner, isGroup, rest)) :
    rest.length ≤ s.length ∧ ∀ more,
      flagItems flags on seen (s ++ '|' :: more) = some (inner, isGroup, rest ++ '|' :: more) := by
  fun_induction flagItems flags on seen s
  case case1 | case3 | case5 | case6 | case7 | case8 | case10 => cases h
  case case2 =>
    cases h
    exact ⟨Nat.le_succ _, fun _ => rfl⟩
  case case4 hseen =>
    cases h
    exact ⟨Nat.le_succ _, fun _ => if_neg hseen⟩
  case case9 hon after hnil hcolon hclose ih =>
    obtain ⟨hle, hmore⟩ := ih h
    refine ⟨Nat.le_succ_of_le hle, fun more => ?_⟩
    rw [List.cons_append, flagItems, if_neg hon]
    · exact hmore more
    · exact fun heq => hnil (List.append_eq_nil_iff.mp heq).1
    · exact fun _ heq => (cons_of_append hnil heq).elim hcolon
    · exact fun _ heq => (cons_of_append hnil heq).elim hclose
  case case11 c after hcolon hclose hminus hseen ih =>
    obtain ⟨next, hnext, hrest⟩ := Option.bind_eq_some_iff.mp h
    obtain ⟨hle, hmore⟩ := ih next hrest
    refine ⟨Nat.le_succ_of_le hle, fun more => ?_⟩
    rw [List.cons_append, flagItems, if_neg hseen]
    · exact Option.bind_eq_some_iff.mpr ⟨next, hnext, hmore more⟩
    all_goals assumption

/-- The flags behind an opening bracket, and whether they end in a colon. -/
def openingFlags (flags : Flags) (s : List Char) : Option (Opening × List Char) :=
  (flagItems flags true [] s).bind fun r =>
    some (if r.2.1 then .group none r.1 else .flags r.1, r.2.2)

theorem local_openingFlags (flags : Flags) (s : List Char) : Local (openingFlags flags) s := by
  intro opening rest h
  obtain ⟨⟨inner, isGroup, after⟩, hitems, heq⟩ := Option.bind_eq_some_iff.mp h
  cases heq
  obtain ⟨hle, hmore⟩ := flagItems_append hitems
  exact ⟨hle, fun more => Option.bind_eq_some_iff.mpr ⟨_, hmore more, rfl⟩⟩

theorem local_openingName (flags : Flags) (s : List Char) :
    Local (fun s => (groupText? s).bind fun r => some (Opening.group (some r.1) flags, r.2)) s :=
  (local_groupText? s).map fun text => Opening.group (some text) flags

theorem local_opening? (flags : Flags) (s : List Char) : Local (opening? flags) s := by
  intro opening rest h
  unfold opening? at h
  split at h
  case h_1 => cases h
  case h_5 hnil hname hname' hflags =>
    cases h
    refine ⟨Nat.le_refl _, fun more => ?_⟩
    rw [opening?]
    · exact fun heq => hnil (List.append_eq_nil_iff.mp heq).1
    · exact fun _ heq => (cons_of_append hnil heq).elim fun _ h => hflags _ h
    · exact fun _ heq => (cons_of_append hnil heq).elim fun _ h => hflags _ h
    · exact fun _ heq => (cons_of_append hnil heq).elim fun _ h => hflags _ h
  case h_4 after hname hname' =>
    have hnil : after ≠ [] := by
      rintro rfl
      cases h
    obtain ⟨hle, hmore⟩ := local_openingFlags flags after opening rest h
    refine ⟨Nat.le_succ_of_le hle, fun more => ?_⟩
    rw [List.cons_append, opening?]
    · exact hmore more
    · exact fun _ heq => (cons_cons_of_append hnil (by decide) heq).elim hname
    · exact fun _ heq => (cons_of_append hnil heq).elim hname'
  all_goals refine Local.cons (f := opening? flags) ?_ opening rest h
  case h_2 =>
    exact Local.cons (f := fun s => opening? flags ('?' :: s)) <|
      Local.cons (f := fun s => opening? flags ('?' :: 'P' :: s)) (local_openingName flags _)
  case h_3 =>
    exact Local.cons (f := fun s => opening? flags ('?' :: s)) (local_openingName flags _)

theorem local_bracketedToken (flags : Flags) (s : List Char) :
    Local (fun s => (bracketed (2 * s.length + 2) flags s).bind fun r =>
      some (Token.atom r.1.toRegex, r.2)) s := by
  intro token rest h
  obtain ⟨⟨set, after⟩, hset, heq⟩ := Option.bind_eq_some_iff.mp h
  cases heq
  obtain ⟨hle, hmore⟩ := local_bracketed _ flags s set after hset
  refine ⟨hle, fun more => Option.bind_eq_some_iff.mpr ⟨_, bracketed_mono ?_ (hmore more), rfl⟩⟩
  rw [List.length_append]
  omega

/-- A token that does not end the group shortens the text, and it is the same in front of a bar. -/
theorem token?_append {token : Token} (h : token? flags s = some (token, rest))
    (hstop : token ≠ .stop) :
    rest.length < s.length ∧
      ∀ more, token? flags (s ++ '|' :: more) = some (token, rest ++ '|' :: more) := by
  obtain ⟨c, after, rfl, hlocal⟩ : ∃ c after, s = c :: after ∧
      Local (fun s => token? flags (c :: s)) after := by
    unfold token? at h
    split at h
    case h_1 | h_2 =>
      cases h
      exact absurd rfl hstop
    all_goals refine ⟨_, _, rfl, ?_⟩
    case h_5 => exact local_bracketedToken flags _
    case h_9 => exact (local_counts flags _).map fun bounds => Token.repeats bounds.1 bounds.2
    case h_10 => exact (local_escape flags _).map fun atom => Token.atom (atom.toRegex flags)
    case h_11 => exact .assume fun r _ => .pure (Token.atom r)
    case h_14 c after _ _ _ _ _ _ _ _ _ _ _ _ =>
      refine .of_eq (.pure (Token.atom (literal flags c.toNat))) fun s => ?_
      rw [token?]
      all_goals assumption
    all_goals exact .pure _
  obtain ⟨hle, hmore⟩ := hlocal token rest h
  exact ⟨Nat.lt_succ_of_le hle, hmore⟩

theorem token?_stop (h : token? flags s = some (.stop, rest)) :
    rest = s ∧ (s = [] ∨ ∃ after, s = ')' :: after) := by
  unfold token? at h
  split at h
  case h_1 =>
    cases h
    exact ⟨rfl, .inl rfl⟩
  case h_2 after =>
    cases h
    exact ⟨rfl, .inr ⟨after, rfl⟩⟩
  case h_5 | h_9 | h_10 | h_11 =>
    obtain ⟨_, -, heq⟩ := Option.bind_eq_some_iff.mp h
    cases heq
  all_goals cases h

end Local

/-- The next token of a group. -/
def next? (flags : Flags) (s : List Char) : Option (Token × List Char) :=
  token? flags (skip flags s)

/-- What the opening bracket in front of the text starts. -/
def opened? (flags : Flags) (s : List Char) : Option (Opening × List Char) :=
  opening? flags (skip flags s)

theorem local_opened? (flags : Flags) (s : List Char) : Local (opened? flags) s :=
  .afterSkip rfl (local_opening? flags _)

theorem next?_append {token : Token} (h : next? flags s = some (token, rest))
    (hstop : token ≠ .stop := by rintro ⟨⟩) :
    rest.length < s.length ∧
      ∀ more, next? flags (s ++ '|' :: more) = some (token, rest ++ '|' :: more) := by
  obtain ⟨hlt, hmore⟩ := token?_append h hstop
  refine ⟨hlt.trans_le (length_skip_le flags s), fun more => ?_⟩
  have hne : skip flags s ≠ [] := List.ne_nil_of_length_pos (Nat.zero_lt_of_lt hlt)
  rw [next?, skip_append hne]
  exact hmore more

theorem length_skipLazy_le (flags : Flags) (s : List Char) : (skipLazy flags s).length ≤ s.length := by
  have hle := length_skip_le flags s
  unfold skipLazy
  split
  next rest heq => rw [heq] at hle; exact (Nat.le_succ _).trans hle
  next => exact hle

end SchemaCheck.Regex.Parser
