import SchemaCheck.Proofs.Url.Host
import SchemaCheck.Url.Parser

/-!
The result of parsing a locator, for all kinds of schemes. The locator is regular if the base is,
its fragment is the text behind the first `#`, and the blanks at the end of its path come from the
base or from the text.
-/

namespace SchemaCheck.Url

namespace Parser

/-- The rest of a text behind a prefix that does not extend into the fragment. -/
def Follows (s rest : List Char) : Prop :=
  ∃ skipped, s = skipped ++ rest ∧ '#' ∉ skipped

namespace Follows

variable {s t rest : List Char}

theorem refl (s : List Char) : Follows s s :=
  ⟨[], rfl, List.not_mem_nil⟩

theorem trans (hst : Follows s t) (htr : Follows t rest) : Follows s rest := by
  obtain ⟨front, rfl, hfront⟩ := hst
  obtain ⟨middle, rfl, hmiddle⟩ := htr
  refine ⟨front ++ middle, by simp, ?_⟩
  simp [hfront, hmiddle]

theorem cons {c : Char} (hc : c ≠ '#') (h : Follows s rest) : Follows (c :: s) rest := by
  obtain ⟨skipped, rfl, hskipped⟩ := h
  exact ⟨c :: skipped, rfl, by simp [Ne.symm hc, hskipped]⟩

theorem dropWhile {p : Char → Bool} (hp : p '#' = false) (s : List Char) :
    Follows s (s.dropWhile p) := by
  refine ⟨s.takeWhile p, List.takeWhile_append_dropWhile.symm, fun hmem => ?_⟩
  rw [List.mem_takeWhile_imp hmem] at hp
  cases hp

theorem length_le (h : Follows s rest) : rest.length ≤ s.length := by
  obtain ⟨skipped, rfl, -⟩ := h
  simp

end Follows

/-- The fragment of a text: the part behind its first `#`, if there is one. -/
def fragmentOf (s : List Char) : Option String :=
  match s.dropWhile (· != '#') with
  | '#' :: text => some (encoded inFragment text)
  | _ => none

theorem fragmentOf_cons {c : Char} (hc : c ≠ '#') (s : List Char) :
    fragmentOf (c :: s) = fragmentOf s := by
  unfold fragmentOf
  rw [List.dropWhile_cons_of_pos (by simpa using hc)]

theorem Follows.fragmentOf_eq {s rest : List Char} (h : Follows s rest) :
    fragmentOf s = fragmentOf rest := by
  obtain ⟨skipped, rfl, hskipped⟩ := h
  induction skipped with
  | nil => rfl
  | cons c skipped ih =>
      obtain ⟨hc, hrest⟩ := List.ne_and_not_mem_of_not_mem_cons hskipped
      rw [List.cons_append, fragmentOf_cons (Ne.symm hc), ih hrest]

/-- The rest is empty, or it starts with the query or the fragment. -/
def AtEnd (s : List Char) : Prop :=
  ∀ c, s.head? = some c → isPathEnd c

theorem atEnd_nil : AtEnd [] := by
  rintro c ⟨⟩

theorem atEnd_cons {c : Char} {s : List Char} (h : isPathEnd c) : AtEnd (c :: s) := by
  rintro d ⟨⟩
  exact h

theorem atEnd_dropWhile (s : List Char) : AtEnd (s.dropWhile fun c => !isPathEnd c) := by
  intro c hc
  have hnot := List.head?_dropWhile_not (fun c => !isPathEnd c) s
  rw [hc] at hnot
  simpa using hnot

theorem tail_fragment (kind : SchemeKind) {s : List Char} (h : AtEnd s) :
    (tail kind s).2 = fragmentOf s := by
  cases s with
  | nil => rfl
  | cons c rest =>
      have hc : c = '?' ∨ c = '#' := by simpa [isPathEnd] using h c rfl
      rcases hc with rfl | rfl
      · rw [fragmentOf_cons (by decide), tail.eq_1, fragmentOf]
        cases List.dropWhile (· != '#') rest with
        | nil => rfl
        | cons d fragment =>
            by_cases hd : d = '#'
            · subst hd
              rfl
            · grind
      · rfl

theorem lacks_encoded {marks : List Char} {reserved : Char → Bool} {s : List Char}
    (hhex : marks.all (· ∉ '%' :: Percent.hexDigits) = true)
    (h : ∀ c ∈ marks, reserved c = true ∨ c ∉ s) : Lacks marks (encoded reserved s) := by
  intro c hc
  have hnot : c ∉ '%' :: Percent.hexDigits := of_decide_eq_true (List.all_eq_true.mp hhex c hc)
  rw [encoded, String.toList_ofList]
  exact Percent.not_mem_encode hnot (h c hc)

theorem tail_query (kind : SchemeKind) (s : List Char) (q : String)
    (h : (tail kind s).1 = some q) : Lacks ['#'] q := by
  have hquery (text : List Char) : Lacks ['#'] (encoded (inQuery kind) text) :=
    lacks_encoded (by decide) fun c hc => .inl (by cases List.mem_singleton.mp hc; rfl)
  unfold tail at h
  split at h
  · dsimp only at h
    split at h <;> cases h <;> exact hquery _
  · cases h
  · cases h

end Parser

open SchemaCheck.Url.Parser

theorem blanks_rooted {u : Url} {segments : List String} (h : u.path = .rooted segments) :
    u.blanks = 0 := by
  unfold blanks
  rw [h]

theorem blanks_rootless_le {u : Url} {text : String} (h : u.path = .rootless text) :
    u.blanks ≤ text.toList.count ' ' := by
  unfold blanks
  rw [h]
  split
  next other _ heq _ =>
    cases heq
    -- The dropped blanks are some of the blanks of the text.
    have hstart : text.toList.reverse.takeWhile (· = ' ') <+: text.toList.reverse :=
      List.takeWhile_prefix _
    have hcount : (text.toList.reverse.takeWhile (· = ' ')).count ' ' =
        (text.toList.reverse.takeWhile (· = ' ')).length :=
      List.count_eq_length.mpr fun c hc => by
        have hblank : c = ' ' := by simpa using List.mem_takeWhile_imp hc
        exact hblank.symm
    calc
      _ = (text.toList.reverse.takeWhile (· = ' ')).count ' ' := hcount.symm
      _ ≤ text.toList.reverse.count ' ' := hstart.sublist.count_le _
      _ = text.toList.count ' ' := List.count_reverse
  next => exact Nat.zero_le _

/-- The locator is a possible result of parsing `s` relative to a base. -/
structure Reads (base : Option Url) (s : List Char) (u : Url) : Prop where
  regular : (∀ b, base = some b → b.Regular) → u.Regular
  fragment : u.fragment = fragmentOf s
  blanks : u.blanks ≤ s.length ∨ ∃ b, base = some b ∧ u.blanks = b.blanks

namespace Reads

variable {base : Option Url} {s t rest : List Char} {u : Url}

theorem of_follows (hst : Follows s t) (h : Reads base t u) : Reads base s u where
  regular := h.regular
  fragment := h.fragment.trans hst.fragmentOf_eq.symm
  blanks := h.blanks.imp_left fun hle => Nat.le_trans hle hst.length_le

theorem finish {kind : SchemeKind} {scheme : String} {authority : Option Authority} {path : Path}
    (hfollows : Follows s rest) (hend : AtEnd rest)
    (hregular : (∀ b, base = some b → b.Regular) →
      Lacks [':'] scheme ∧ (∀ a, authority = some a → a.Regular) ∧ path.Regular authority.isSome)
    (hblanks : ∀ text, path = .rootless text → text.toList.count ' ' ≤ s.length) :
    Reads base s (finish kind scheme authority path rest) where
  regular hbase := by
    obtain ⟨hscheme, hauthority, hpath⟩ := hregular hbase
    exact ⟨hscheme, hauthority, hpath, tail_query kind rest⟩
  fragment := (tail_fragment kind hend).trans hfollows.fragmentOf_eq.symm
  blanks := by
    refine .inl ?_
    cases path with
    | rootless text => exact Nat.le_trans (blanks_rootless_le rfl) (hblanks text rfl)
    | rooted segments => exact Nat.le_trans (Nat.le_of_eq (blanks_rooted rfl)) (Nat.zero_le _)

theorem finish_rooted {kind : SchemeKind} {scheme : String} {authority : Option Authority}
    {segments : List String} (hfollows : Follows s rest) (hend : AtEnd rest)
    (hregular : (∀ b, base = some b → b.Regular) →
      Lacks [':'] scheme ∧ (∀ a, authority = some a → a.Regular) ∧
        (∀ segment ∈ segments, IsSegment segment) ∧ (authority.isSome = true ∨ segments ≠ [])) :
    Reads base s (Parser.finish kind scheme authority (.rooted segments) rest) :=
  finish hfollows hend hregular fun _ h => nomatch h

/-- The base with a new fragment. -/
theorem withFragment {b : Url} {fragment : Option String} (h : fragment = fragmentOf s) :
    Reads (some b) s { b with fragment } where
  regular hbase := by
    obtain ⟨hscheme, hauthority, hpath, hquery⟩ := hbase b rfl
    exact ⟨hscheme, hauthority, hpath, hquery⟩
  fragment := h
  blanks := .inr ⟨b, rfl, rfl⟩

/-- The base with a new query and a new fragment. -/
theorem withQuery {b : Url} {kind : SchemeKind} (rest : List Char) :
    Reads (some b) ('?' :: rest)
      { b with query := (tail kind ('?' :: rest)).1, fragment := (tail kind ('?' :: rest)).2 } where
  regular hbase := by
    obtain ⟨hscheme, hauthority, hpath, -⟩ := hbase b rfl
    exact ⟨hscheme, hauthority, hpath, tail_query kind _⟩
  fragment := tail_fragment kind (atEnd_cons rfl)
  blanks := by
    refine .inl ?_
    -- Only blanks at the end of a path count, and here a query follows it.
    have hsome : ∃ q, (tail kind ('?' :: rest)).1 = some q := by
      rw [tail.eq_1]
      split <;> exact ⟨_, rfl⟩
    obtain ⟨q, hq⟩ := hsome
    unfold Url.blanks
    rw [hq]
    split
    next h => cases h
    next => exact Nat.zero_le _

end Reads

namespace Parser

/-- The pieces of a path contain no slash. -/
theorem mem_pieces {kind : SchemeKind} {s piece : List Char} (h : piece ∈ pieces kind s) :
    '/' ∉ piece := by
  induction s generalizing piece with
  | nil =>
      cases List.mem_singleton.mp h
      exact List.not_mem_nil
  | cons c rest ih =>
      unfold pieces at h
      split at h
      · rcases List.mem_cons.mp h with rfl | h
        · exact List.not_mem_nil
        · exact ih h
      next hslash =>
        have hc : '/' ≠ c := fun heq => hslash (.inl heq.symm)
        split at h
        · cases List.mem_singleton.mp h
          simpa using hc
        next first more heq =>
          rcases List.mem_cons.mp h with rfl | h
          · have hfirst := ih (heq ▸ List.mem_cons_self)
            simp [hc, hfirst]
          · exact ih (heq ▸ List.mem_cons_of_mem _ h)

theorem pieces_ne_nil (kind : SchemeKind) (s : List Char) : pieces kind s ≠ [] := by
  cases s with
  | nil => exact List.cons_ne_nil _ _
  | cons c rest =>
      unfold pieces
      split
      · exact List.cons_ne_nil _ _
      · split <;> exact List.cons_ne_nil _ _

/-- The encoding of a character is the character itself or starts with a percent sign. -/
theorem encodeChar_cases (reserved : Char → Bool) (c : Char) :
    Percent.encodeChar reserved c = [c] ∨ ∃ rest, Percent.encodeChar reserved c = '%' :: rest := by
  unfold Percent.encodeChar
  split
  · refine .inr ?_
    have hpos : 0 < (String.utf8EncodeChar c).length := by
      rw [String.length_utf8EncodeChar]
      exact Char.utf8Size_pos c
    cases hbytes : String.utf8EncodeChar c with
    | nil => simp [hbytes] at hpos
    | cons b more => exact ⟨_, by rw [List.flatMap_cons]; rfl⟩
  · exact .inl rfl

/-- Only a dot has a dot as its encoding. -/
theorem encode_eq_dot {reserved : Char → Bool} {s : List Char}
    (h : Percent.encode reserved s = ['.']) : s = ['.'] := by
  cases s with
  | nil => cases h
  | cons c rest =>
      have happend : Percent.encodeChar reserved c ++ Percent.encode reserved rest = ['.'] := h
      rcases encodeChar_cases reserved c with hc | ⟨more, hc⟩
      · rw [hc] at happend
        obtain ⟨rfl, hrest⟩ := List.cons.inj happend
        cases rest with
        | nil => rfl
        | cons d rest =>
            have hnil : Percent.encodeChar reserved d ++ Percent.encode reserved rest = [] := hrest
            rcases encodeChar_cases reserved d with hd | ⟨more, hd⟩ <;> simp [hd] at hnil
      · rw [hc] at happend
        cases (List.cons.inj happend).1

theorem isSegment_empty : IsSegment "" :=
  ⟨fun _ _ => by simp, by decide⟩

theorem isSegment_encoded {piece : List Char} (hslash : '/' ∉ piece) (hdot : isDot piece = false) :
    IsSegment (encoded inPath piece) := by
  refine ⟨lacks_encoded (by decide) fun c hc => ?_, fun heq => ?_⟩
  · simp only [List.mem_cons, List.not_mem_nil, or_false] at hc
    rcases hc with rfl | rfl | rfl
    · exact .inr hslash
    · exact .inl rfl
    · exact .inl rfl
  · have hchars : Percent.encode inPath piece = ['.'] := by
      simpa [encoded] using congrArg String.toList heq
    rw [encode_eq_dot hchars] at hdot
    exact absurd hdot (by decide)

theorem isSegment_drive {piece : List Char} (h : isDriveLetter piece = true) :
    IsSegment (String.ofList (piece.take 1 ++ [':'])) := by
  unfold isDriveLetter at h
  split at h
  next c mark =>
    have hc : c.isAlpha = true := by simp at h; exact h.1
    have hplain (d : Char) (hd : d.isAlpha = false) : c ≠ d := by
      rintro rfl
      rw [hc] at hd
      cases hd
    refine ⟨fun d hd => ?_, fun heq => ?_⟩
    · simp only [List.mem_cons, List.not_mem_nil, or_false] at hd
      have hd' : d ≠ c ∧ d ≠ ':' := by
        rcases hd with rfl | rfl | rfl
        · exact ⟨(hplain _ rfl).symm, by decide⟩
        · exact ⟨(hplain _ rfl).symm, by decide⟩
        · exact ⟨(hplain _ rfl).symm, by decide⟩
      simp [hd'.1, hd'.2]
    · simpa using congrArg String.toList heq
  next => cases h

/-- All texts in the list are segments. -/
def Segments (l : List String) : Prop :=
  ∀ s ∈ l, IsSegment s

theorem segments_append_empty {l : List String} (h : Segments l) : Segments (l ++ [""]) := by
  intro s hs
  rcases List.mem_append.mp hs with hs | hs
  · exact h s hs
  · cases List.mem_singleton.mp hs
    exact isSegment_empty

theorem segments_parent {l : List String} (kind : SchemeKind) (h : Segments l) :
    Segments (parent kind l) := by
  unfold parent
  split
  · split
    · exact h
    · exact fun s hs => h s (List.dropLast_subset l hs)
  · exact fun s hs => nomatch hs

theorem segments_step {kind : SchemeKind} {l : List String} {piece : List Char} {last : Bool}
    (hl : Segments l) (hpiece : '/' ∉ piece) : Segments (step kind l piece last) := by
  have hclose {m : List String} (hm : Segments m) : Segments (if last then m ++ [""] else m) := by
    split
    · exact segments_append_empty hm
    · exact hm
  unfold step
  dsimp only
  split
  · exact hclose (segments_parent kind hl)
  · split
    · exact hclose hl
    next hdot =>
      split
      -- A drive letter is written with a colon, whichever separator it had.
      next hdrive =>
        intro s hs
        cases List.mem_singleton.mp hs
        exact isSegment_drive hdrive.2.2
      next =>
        intro s hs
        rcases List.mem_append.mp hs with hs | hs
        · exact hl s hs
        · cases List.mem_singleton.mp hs
          exact isSegment_encoded hpiece (by simpa using hdot)

/-- A path has at least one segment, which may be empty. -/
theorem step_last_ne_nil (kind : SchemeKind) (l : List String) (piece : List Char) :
    step kind l piece true ≠ [] := by
  unfold step
  dsimp only
  split
  · simp
  · split
    · simp
    · split <;> simp

theorem segments_steps {kind : SchemeKind} {l : List String} {ps : List (List Char)}
    (hl : Segments l) (hps : ∀ piece ∈ ps, '/' ∉ piece) : Segments (steps kind l ps) := by
  induction ps generalizing l with
  | nil => exact hl
  | cons piece rest ih =>
      obtain ⟨hpiece, hrest⟩ := List.forall_mem_cons.mp hps
      cases rest with
      | nil => exact segments_step hl hpiece
      | cons next more => exact ih (segments_step hl hpiece) hrest

theorem steps_ne_nil {kind : SchemeKind} {l : List String} {ps : List (List Char)}
    (h : ps ≠ []) : steps kind l ps ≠ [] := by
  induction ps generalizing l with
  | nil => exact absurd rfl h
  | cons piece rest ih =>
      cases rest with
      | nil => exact step_last_ne_nil kind l piece
      | cons next more => exact ih (List.cons_ne_nil _ _)

theorem segments_settle {kind : SchemeKind} {l : List String} (h : Segments l) :
    Segments (settle kind l) := by
  unfold settle
  split
  · split
    · exact fun s hs => List.mem_singleton.mp hs ▸ isSegment_empty
    next heq => exact fun s hs => h s ((List.dropWhile_sublist _).mem hs)
  · exact h

theorem settle_ne_nil {kind : SchemeKind} {l : List String} (h : l ≠ []) : settle kind l ≠ [] := by
  unfold settle
  split
  · split
    · exact List.cons_ne_nil _ _
    next hne => exact fun heq => hne heq
  · exact h

theorem segments_path {kind : SchemeKind} {base : List String} (h : Segments base)
    (s : List Char) : Segments (path kind base s).1 :=
  segments_settle (segments_steps h fun _ hp => mem_pieces hp)

theorem path_ne_nil (kind : SchemeKind) (base : List String) (s : List Char) :
    (path kind base s).1 ≠ [] :=
  settle_ne_nil (steps_ne_nil (pieces_ne_nil kind _))

theorem path_follows (kind : SchemeKind) (base : List String) (s : List Char) :
    Follows s (path kind base s).2 :=
  .dropWhile rfl s

theorem path_atEnd (kind : SchemeKind) (base : List String) (s : List Char) :
    AtEnd (path kind base s).2 :=
  atEnd_dropWhile s

theorem not_mem_nil_segments : Segments [] :=
  fun _ h => nomatch h

/-- An authority is followed by a path of segments and then by the query or the fragment. -/
theorem pathAfterAuthority_spec (kind : SchemeKind) (s : List Char) :
    Segments (pathAfterAuthority kind s).1 ∧ Follows s (pathAfterAuthority kind s).2 ∧
      AtEnd (pathAfterAuthority kind s).2 := by
  have hroot : Segments (if kind.knowsHosts then [""] else []) := by
    split
    · exact fun s hs => List.mem_singleton.mp hs ▸ isSegment_empty
    · exact not_mem_nil_segments
  cases s with
  | nil => exact ⟨hroot, .refl _, atEnd_nil⟩
  | cons c rest =>
      unfold pathAfterAuthority
      dsimp only
      split
      next hslash =>
        have hc : c ≠ '#' := by rintro rfl; simp at hslash
        exact ⟨segments_path not_mem_nil_segments _, .cons hc (path_follows _ _ _),
          path_atEnd _ _ _⟩
      next =>
        split
        next hend => exact ⟨hroot, .refl _, atEnd_cons hend⟩
        next =>
          exact ⟨segments_path not_mem_nil_segments _, path_follows _ _ _, path_atEnd _ _ _⟩

theorem userinfo_writeUserinfo (s : List Char) :
    writeUserinfo s = "" ∨
      ∃ text, writeUserinfo s = text ++ "@" ∧ Lacks ['/', '?', '#', '@'] text := by
  have hencoded (t : List Char) : Lacks ['/', '?', '#', '@'] (encoded inUserinfo t) := by
    refine lacks_encoded (by decide) fun c hc => .inl ?_
    simp only [List.mem_cons, List.not_mem_nil, or_false] at hc
    rcases hc with rfl | rfl | rfl | rfl <;> rfl
  have hwith (t p : List Char) :
      Lacks ['/', '?', '#', '@'] (encoded inUserinfo t ++ ":" ++ encoded inUserinfo p) := by
    intro c hc hmem
    simp only [String.toList_append, List.mem_append] at hmem
    rcases hmem with (hmem | hmem) | hmem
    · exact hencoded t c hc hmem
    · have hcolon : c = ':' := by simpa using hmem
      subst hcolon
      simp at hc
    · exact hencoded p c hc hmem
  have hmarked {text : String} (h : Lacks ['/', '?', '#', '@'] text) :
      (if text.isEmpty then "" else text ++ "@") = "" ∨
        ∃ t, (if text.isEmpty then "" else text ++ "@") = t ++ "@" ∧
          Lacks ['/', '?', '#', '@'] t := by
    split
    · exact .inl rfl
    · exact .inr ⟨text, rfl, h⟩
  unfold writeUserinfo
  refine hmarked ?_
  split
  · split
    · exact hencoded _
    · exact hwith _ _
  · exact hencoded _

/-- The user data and its `@` end in front of the path. -/
theorem userinfoLength_lt {kind : SchemeKind} {s : List Char} {n : Nat}
    (h : userinfoLength kind s = some n) : '#' ∉ s.take (n + 1) := by
  unfold userinfoLength at h
  dsimp only at h
  split at h
  next hmark =>
    generalize htext : (s.takeWhile fun c =>
      !(c == '/' || isPathEnd c || c == '\\' && kind.knowsHosts)) = text at h hmark
    have hstart : text <+: s := htext ▸ List.takeWhile_prefix _
    have hpos : 0 < text.length := by
      cases text with
      | nil => simp at hmark
      | cons c rest => exact Nat.succ_pos _
    have hn : n + 1 ≤ text.length := by
      have heq := Option.some.inj h
      omega
    have htake : s.take (n + 1) = text.take (n + 1) := by
      obtain ⟨rest, rfl⟩ := hstart
      rw [List.take_append_of_le_length hn]
    rw [htake]
    intro hmem
    have hplain := List.mem_takeWhile_imp (htext ▸ List.mem_of_mem_take hmem)
    simp [isPathEnd] at hplain
  next => cases h

theorem userinfo_spec {kind : SchemeKind} {s rest : List Char} {info : String}
    (h : userinfo kind s = .ok (info, rest)) :
    (info = "" ∨ ∃ text, info = text ++ "@" ∧ Lacks ['/', '?', '#', '@'] text) ∧
      Follows s rest := by
  -- The skipped text consists of the user data and its `@`.
  have hdrop {n : Nat} (hn : userinfoLength kind s = some n) : Follows s (s.drop (n + 1)) :=
    ⟨s.take (n + 1), (List.take_append_drop _ _).symm, userinfoLength_lt hn⟩
  unfold userinfo at h
  split at h
  · cases h
    exact ⟨.inl rfl, .refl _⟩
  next hlength =>
    have hfollows := hdrop hlength
    split at h
    next heq =>
      cases h
      exact ⟨.inl rfl, heq ▸ hfollows⟩
    next heq =>
      split at h
      · cases h
      · cases h
        exact ⟨.inl rfl, heq ▸ hfollows⟩
  next hlength =>
    cases h
    exact ⟨userinfo_writeUserinfo _, hdrop hlength⟩

theorem hostText_follows (kind : SchemeKind) (bracketed : Bool) (s : List Char) :
    Follows s (hostText kind bracketed s).2 := by
  induction s generalizing bracketed with
  | nil => exact .refl _
  | cons c rest ih =>
      unfold hostText
      split
      · exact .refl _
      next hgoes =>
        have hc : c ≠ '#' := by
          rintro rfl
          simp [isPathEnd] at hgoes
        exact .cons hc (ih _)

theorem port_follows {scheme : String} {s rest : List Char} {p : Option Nat}
    (h : port scheme s = .ok (p, rest)) : Follows s rest := by
  have hrest : rest = s.dropWhile Char.isDigit := by
    unfold port at h
    grind
  exact hrest ▸ .dropWhile rfl s

theorem portAfter_follows {scheme host : String} {s rest : List Char} {p : Option Nat}
    (h : portAfter scheme host s = .ok (p, rest)) : Follows s rest := by
  unfold portAfter at h
  split at h
  · split at h
    · cases h
    · exact .cons (by decide) (port_follows h)
  · cases h
    exact .refl _

theorem isHost_host {kind : SchemeKind} {text : List Char} {name : String}
    (h : host kind text = .ok name) : IsHost name := by
  unfold host at h
  split at h
  · exact Host.isHost_parse h
  · exact Host.isHost_parseVerbatim h

theorem hostAndPort_spec {kind : SchemeKind} {scheme name : String} {s rest : List Char}
    {p : Option Nat} (h : hostAndPort kind scheme s = .ok (name, p, rest)) :
    IsHost name ∧ Follows s rest := by
  unfold hostAndPort at h
  simp only [bind, Except.bind] at h
  split at h
  · cases h
  · split at h
    · cases h
    next hname =>
      split at h
      · cases h
      next hport =>
        cases h
        exact ⟨isHost_host hname, (hostText_follows kind false s).trans (portAfter_follows hport)⟩

theorem fileHost_spec {s rest : List Char} {host : String} {hasHost : Bool}
    (h : fileHost s = .ok (host, hasHost, rest)) :
    (host = "" ∨ IsHost host) ∧ Follows s rest := by
  have hdrop : Follows s (s.dropWhile fun c => !(isSlash c || isPathEnd c)) := .dropWhile rfl s
  unfold fileHost at h
  simp only [bind, Except.bind] at h
  split at h
  · cases h
    exact ⟨.inl rfl, .refl _⟩
  · split at h
    · cases h
      exact ⟨.inl rfl, hdrop⟩
    · split at h
      · cases h
      next name hname =>
        split at h
        · cases h
          exact ⟨.inl rfl, hdrop⟩
        · cases h
          exact ⟨.inr (Host.isHost_parse hname), hdrop⟩

theorem isHost_empty : IsHost "" :=
  ⟨fun _ _ => by simp, .inl fun _ _ => by simp⟩

/-- An authority that consists of a host only. -/
theorem regular_localAuthority {host : String} (h : IsHost host) :
    Authority.Regular { localAuthority with host } :=
  ⟨.inl rfl, h⟩

end Parser

namespace Reads

variable {base : Option Url} {s rest : List Char} {u b : Url} {kind : SchemeKind} {scheme : String}

theorem afterSlashes (hscheme : (∀ b, base = some b → b.Regular) → Lacks [':'] scheme)
    (h : afterSlashes kind scheme s = .ok u) : Reads base s u := by
  unfold Parser.afterSlashes at h
  simp only [bind, Except.bind] at h
  split at h
  · cases h
  next info hinfo =>
    split at h
    · cases h
    next hostport hhost =>
      split at h
      · cases h
      · cases h
        obtain ⟨huserinfo, hfollows⟩ := userinfo_spec hinfo
        obtain ⟨hishost, hfollows'⟩ := hostAndPort_spec hhost
        obtain ⟨hsegments, hpath, hend⟩ := pathAfterAuthority_spec kind hostport.2.2
        refine finish_rooted (hfollows.trans (hfollows'.trans hpath)) hend fun hbase => ?_
        refine ⟨hscheme hbase, ?_, hsegments, .inl rfl⟩
        rintro a ⟨⟩
        exact ⟨huserinfo, hishost⟩

theorem lacks_file : Lacks [':'] "file" := by
  intro c hc
  cases List.mem_singleton.mp hc
  decide

theorem dropFirstSlash_follows (s : List Char) : Follows s (dropFirstSlash s) := by
  unfold dropFirstSlash
  split
  next c rest =>
    split
    next hslash =>
      have hc : c ≠ '#' := by rintro rfl; simp [isSlash] at hslash
      exact .cons hc (.refl _)
    next => exact .refl _
  next => exact .refl _

theorem fileAfterSlashes (h : fileAfterSlashes s = .ok u) : Reads base s u := by
  unfold Parser.fileAfterSlashes at h
  simp only [bind, Except.bind] at h
  split at h
  · cases h
  next host hhost =>
    cases h
    obtain ⟨hishost, hfollows⟩ := fileHost_spec hhost
    refine finish_rooted
      (hfollows.trans ((dropFirstSlash_follows _).trans (path_follows _ _ _))) (path_atEnd _ _ _)
      fun _ => ⟨lacks_file, ?_, segments_path not_mem_nil_segments _, .inl rfl⟩
    rintro a ⟨⟩
    refine regular_localAuthority ?_
    split
    · exact hishost.elim (fun heq => heq ▸ isHost_empty) id
    · exact isHost_empty

theorem segments_segmentsOf {hasAuthority : Bool} {p : Path} (h : p.Regular hasAuthority) :
    Segments (segmentsOf p) := by
  cases p with
  | rooted segments => exact h.1
  | rootless text => exact not_mem_nil_segments

theorem fileAfterSlash : Reads base s (fileAfterSlash base s) := by
  unfold Parser.fileAfterSlash
  dsimp only
  refine finish_rooted (path_follows _ _ _) (path_atEnd _ _ _) fun hbase => ?_
  refine ⟨lacks_file, ?_, segments_path ?_ _, .inl rfl⟩
  · rintro a ⟨⟩
    refine regular_localAuthority ?_
    split
    · exact isHost_empty
    · cases base with
      | none => exact isHost_empty
      | some b =>
          cases ha : b.authority with
          | none => simpa [ha] using isHost_empty
          | some a => simpa [ha] using ((hbase b rfl).authority a ha).host
  · -- Of the base only the drive is kept.
    split
    · exact not_mem_nil_segments
    · cases base with
      | none => exact not_mem_nil_segments
      | some b =>
          intro segment hsegment
          have hmem := List.mem_of_mem_take (List.mem_filter.mp hsegment).1
          exact segments_segmentsOf (hbase b rfl).path segment hmem

/-- The base with a new path. -/
theorem replacePath {segments : List String}
    (hsegments : (∀ b, base = some b → b.Regular) → Segments segments)
    (hscheme : (∀ b, base = some b → b.Regular) → Lacks [':'] scheme) {authority : Option Authority}
    (hauthority : (∀ b, base = some b → b.Regular) → ∀ a, authority = some a → a.Regular)
    (s : List Char) :
    Reads base s (Parser.finish kind scheme authority (.rooted (Parser.path kind segments s).1)
      (Parser.path kind segments s).2) :=
  finish_rooted (path_follows _ _ _) (path_atEnd _ _ _) fun hbase =>
    ⟨hscheme hbase, hauthority hbase, segments_path (hsegments hbase) s,
      .inr (path_ne_nil kind segments s)⟩

theorem regular_empty {a : Authority} (h : some localAuthority = some a) : a.Regular := by
  cases h
  exact regular_localAuthority isHost_empty

theorem relativeFile (s : List Char) : Reads (some b) s (relativeFile b s) := by
  unfold Parser.relativeFile
  split
  · exact withFragment rfl
  · exact withQuery _
  · exact withFragment (tail_fragment _ (atEnd_cons rfl))
  · split
    · exact replacePath (fun _ => not_mem_nil_segments) (fun _ => lacks_file)
        (fun _ _ => regular_empty) s
    · refine replacePath (fun hbase => segments_parent _ ?_) (fun _ => lacks_file)
        (fun hbase => (hbase b rfl).authority) s
      exact segments_segmentsOf (hbase b rfl).path

theorem fileWithoutSlash (base : Option Url) (s : List Char) :
    Reads base s (fileWithoutSlash base s) := by
  cases base with
  | some b => exact relativeFile s
  | none =>
      unfold Parser.fileWithoutSlash
      exact replacePath (fun _ => not_mem_nil_segments) (fun _ => lacks_file)
        (fun _ _ => regular_empty) s

theorem ne_hash_of_isSlash {c : Char} (h : isSlash c = true) : c ≠ '#' := by
  rintro rfl
  cases h

theorem file (h : file base s = .ok u) : Reads base s u := by
  unfold Parser.file at h
  split at h
  · cases h
    exact fileWithoutSlash base []
  next c rest =>
    split at h
    next hc =>
      have hfollows : Follows (c :: rest) rest := .cons (ne_hash_of_isSlash hc) (.refl _)
      split at h
      next d after =>
        split at h
        next hd =>
          exact of_follows (hfollows.trans (.cons (ne_hash_of_isSlash hd) (.refl _)))
            (fileAfterSlashes h)
        next =>
          cases h
          exact of_follows hfollows fileAfterSlash
      next =>
        cases h
        exact of_follows hfollows fileAfterSlash
    next =>
      cases h
      exact fileWithoutSlash base _

theorem slashes_follow (s : List Char) : Follows s (s.dropWhile isSlash) :=
  .dropWhile rfl s

theorem relative (h : relative kind b s = .ok u) : Reads (some b) s u := by
  have hscheme (hbase : ∀ b', some b = some b' → b'.Regular) : Lacks [':'] b.scheme :=
    (hbase b rfl).scheme
  unfold Parser.relative at h
  split at h
  · cases h
    exact withFragment rfl
  · cases h
    exact withQuery _
  · cases h
    exact withFragment (tail_fragment _ (atEnd_cons rfl))
  next c rest _ _ =>
    split at h
    next hslash =>
      have hfollows : Follows (c :: rest) rest := .cons (ne_hash_of_isSlash hslash) (.refl _)
      split at h
      -- Two slashes are followed by a new authority, one slash keeps that of the base.
      next after heq =>
        obtain ⟨rfl, rfl⟩ := List.cons.inj heq
        exact of_follows (.cons (by decide) (.cons (by decide) (.refl _))) (afterSlashes hscheme h)
      next =>
        split at h
        · exact of_follows (slashes_follow _) (afterSlashes hscheme h)
        · cases h
          exact of_follows hfollows (replacePath (fun _ => not_mem_nil_segments) hscheme
            (fun hbase => (hbase b rfl).authority) rest)
    next =>
      cases h
      refine replacePath (fun hbase segment hsegment => ?_) hscheme
        (fun hbase => (hbase b rfl).authority) _
      exact segments_segmentsOf (hbase b rfl).path segment (List.dropLast_subset _ hsegment)

/-- A rootless path contains no character that would end it and does not begin with a slash. -/
theorem rootless (hscheme : Lacks [':'] scheme) (hslash : s.head? ≠ some '/') :
    Reads base s (Parser.finish .other scheme none
      (.rootless (encoded (fun _ => false) (s.takeWhile fun c => !isPathEnd c)))
      (s.dropWhile fun c => !isPathEnd c)) := by
  refine finish (.dropWhile rfl s) (atEnd_dropWhile s) (fun _ => ⟨hscheme, fun _ h => (nomatch h),
    rfl, ?_, ?_⟩) ?_
  -- The text ends in front of these characters, so that it contains none of them.
  · refine lacks_encoded (by decide) fun c hc => .inr fun hmem => ?_
    have hplain := List.mem_takeWhile_imp hmem
    simp only [List.mem_cons, List.not_mem_nil, or_false] at hc
    rcases hc with rfl | rfl <;> cases hplain
  -- Its first character is kept and not a slash, or it is encoded.
  · intro hhead
    rw [encoded, String.toList_ofList] at hhead
    cases s with
    | nil => cases hhead
    | cons c rest =>
        rw [List.takeWhile_cons] at hhead
        split at hhead
        next =>
          have hcons : Percent.encode (fun _ => false)
              (c :: rest.takeWhile fun c => !isPathEnd c) =
              Percent.encodeChar (fun _ => false) c ++
                Percent.encode (fun _ => false) (rest.takeWhile fun c => !isPathEnd c) := rfl
          rw [hcons] at hhead
          rcases encodeChar_cases (fun _ => false) c with hc | ⟨more, hc⟩
          · rw [hc] at hhead
            exact hslash hhead
          · rw [hc] at hhead
            cases hhead
        next => cases hhead
  · rintro text ⟨⟩
    rw [encoded, String.toList_ofList]
    exact Nat.le_trans (Percent.count_blank_encode_le _ _) (List.takeWhile_prefix _).length_le

theorem other (hscheme : Lacks [':'] scheme) (h : other scheme s = .ok u) : Reads base s u := by
  unfold Parser.other at h
  split at h
  · exact of_follows (.cons (by decide) (.cons (by decide) (.refl _)))
      (afterSlashes (fun _ => hscheme) h)
  · cases h
    refine of_follows (.cons (by decide) (.refl _)) ?_
    exact replacePath (fun _ => not_mem_nil_segments) (fun _ => hscheme)
      (fun _ _ => by rintro ⟨⟩) _
  next hslash =>
    cases h
    refine rootless hscheme fun hhead => ?_
    obtain ⟨rest, rfl⟩ := List.head?_eq_some_iff.mp hhead
    exact hslash rest rfl

theorem mono {base' : Option Url} (hbase : ∀ b, base' = some b → base = some b)
    (h : Reads base' s u) : Reads base s u where
  regular hregular := h.regular fun b hb => hregular b (hbase b hb)
  fragment := h.fragment
  blanks := h.blanks.imp_right fun ⟨b, hb, hblanks⟩ => ⟨b, hbase b hb, hblanks⟩

theorem withScheme (hscheme : Lacks [':'] scheme) (h : withScheme base scheme s = .ok u) :
    Reads base s u := by
  have hslashes (h : Parser.afterSlashes .special scheme (s.dropWhile isSlash) = .ok u) :
      Reads base s u :=
    of_follows (slashes_follow s) (afterSlashes (fun _ => hscheme) h)
  unfold Parser.withScheme at h
  split at h
  · exact (file h).mono fun b hb => (Option.filter_eq_some_iff.mp hb).1
  · split at h
    · split at h
      · exact relative h
      · exact hslashes h
    · exact hslashes h
  · exact other hscheme h

theorem toLower_ne_colon {c : Char} (h : isSchemeChar c = true) : c.toLower ≠ ':' := by
  intro hlower
  unfold Char.toLower at hlower
  split at hlower
  next hupper =>
    -- A lower-case letter is above the colon, and so is an upper-case one increased by 32.
    have hval : (c.val + 32).toNat = 58 := congrArg (fun d : Char => d.val.toNat) hlower
    have hrange : 65 ≤ c.val.toNat ∧ c.val.toNat ≤ 90 := hupper
    rw [UInt32.toNat_add] at hval
    simp only [UInt32.reduceToNat] at hval
    omega
  next =>
    subst hlower
    cases h

/-- A scheme ends in front of its colon. -/
theorem scheme?_spec (h : scheme? s = some (scheme, rest)) :
    Lacks [':'] scheme ∧ Follows s rest := by
  unfold scheme? at h
  split at h
  next c more =>
    split at h
    · split at h
      next after heq =>
        cases h
        refine ⟨fun d hd hmem => ?_, ?_⟩
        · cases List.mem_singleton.mp hd
          rw [String.toList_ofList] at hmem
          obtain ⟨e, he, hlower⟩ := List.mem_map.mp hmem
          exact toLower_ne_colon (List.mem_takeWhile_imp he) hlower
        · have hfollows : Follows (c :: more) ((c :: more).dropWhile isSchemeChar) :=
            .dropWhile rfl _
          rw [heq] at hfollows
          exact hfollows.trans (.cons (by decide) (.refl _))
      · cases h
    · cases h
  · cases h

end Reads

/-- The result of parsing a text, with or without a base. -/
theorem reads_parseWith {base : Option Url} {text : String} {u : Url}
    (h : parseWith base text = .ok u) : Reads base (clean text.toList) u := by
  unfold parseWith at h
  dsimp only at h
  split at h
  next scheme rest hscheme =>
    obtain ⟨hlacks, hfollows⟩ := Reads.scheme?_spec hscheme
    exact (Reads.withScheme hlacks h).of_follows hfollows
  -- Without a scheme there must be a base, which may only contribute all but the fragment.
  next =>
    split at h
    · cases h
    next b =>
      split at h
      next rest heq =>
        cases h
        rw [heq]
        exact Reads.withFragment (tail_fragment _ (atEnd_cons rfl))
      next =>
        split at h
        · cases h
        · split at h
          · exact Reads.file h
          · exact Reads.relative h

theorem length_clean_le (s : List Char) : (clean s).length ≤ s.length := by
  unfold clean
  calc
    _ ≤ _ := List.length_filter_le _ _
    _ = _ := List.length_reverse
    _ ≤ _ := (List.dropWhile_sublist _).length_le
    _ = _ := List.length_reverse
    _ ≤ s.length := (List.dropWhile_sublist _).length_le

/-- The fragment of a reference. -/
def fragmentIn (reference : String) : Option String :=
  fragmentOf (clean reference.toList)

theorem parse_regular {text : String} {u : Url} (h : parse text = .ok u) : u.Regular :=
  (reads_parseWith h).regular fun _ hb => nomatch hb

variable {base u : Url} {reference : String}

theorem join_regular (hbase : base.Regular) (h : base.join reference = .ok u) : u.Regular :=
  (reads_parseWith h).regular fun _ hb => Option.some.inj hb ▸ hbase

theorem join_fragment (h : base.join reference = .ok u) : u.fragment = fragmentIn reference :=
  (reads_parseWith h).fragment

theorem join_blanks (h : base.join reference = .ok u) :
    u.blanks ≤ max base.blanks reference.length := by
  rcases (reads_parseWith h).blanks with hle | ⟨b, hb, hblanks⟩
  · exact Nat.le_trans hle (Nat.le_trans (length_clean_le _) (Nat.le_max_right ..))
  · cases hb
    exact Nat.le_trans (Nat.le_of_eq hblanks) (Nat.le_max_left ..)

end SchemaCheck.Url
