import Mathlib.Data.List.TakeWhile
import Mathlib.Data.String.Basic
import SchemaCheck.Url.Basic

/-!
Regular locators, whose components contain no characters that would end them. A regular locator is
determined by its text, so that tables of documents and lists of open references can use texts as
keys. Every parsed locator is regular.
-/

namespace SchemaCheck.Url

/-- None of the characters occurs in the text. -/
def Lacks (marks : List Char) (text : String) : Prop :=
  ∀ c ∈ marks, c ∉ text.toList

/-- A host contains no colon, unless it is enclosed in square brackets. -/
structure IsHost (text : String) : Prop where
  marks : Lacks ['/', '?', '#', '@'] text
  ends : Lacks [':', '['] text ∨ ∃ inner, text = "[" ++ inner ++ "]" ∧ Lacks [']'] inner

/-- User data contains no `@`. -/
structure Authority.Regular (a : Authority) : Prop where
  userinfo : a.userinfo = "" ∨
    ∃ text, a.userinfo = text ++ "@" ∧ Lacks ['/', '?', '#', '@'] text
  host : IsHost a.host

def IsSegment (text : String) : Prop :=
  Lacks ['/', '?', '#'] text ∧ text ≠ "."

/-- A rootless path requires that there is no authority, and does not begin with a slash. -/
def Path.Regular (hasAuthority : Bool) : Path → Prop
  | rootless text =>
    hasAuthority = false ∧ Lacks ['?', '#'] text ∧ text.toList.head? ≠ some '/'
  | rooted segments =>
    (∀ s ∈ segments, IsSegment s) ∧ (hasAuthority = true ∨ segments ≠ [])

structure Regular (u : Url) : Prop where
  scheme : Lacks [':'] u.scheme
  authority : ∀ a, u.authority = some a → a.Regular
  path : u.path.Regular u.authority.isSome
  query : ∀ q, u.query = some q → Lacks ['#'] q

/-- The text is empty or begins with the character. -/
def Marked (mark : Char) (s : List Char) : Prop :=
  ∀ c, s.head? = some c → c = mark

/-- Equal texts are split at the same position by the first occurrence of a character. -/
theorem split_at_mark {mark : Char} {a b s t : List Char} (ha : mark ∉ a) (hb : mark ∉ b)
    (hs : Marked mark s) (ht : Marked mark t) (h : a ++ s = b ++ t) : a = b ∧ s = t := by
  induction a generalizing b with
  | nil =>
      cases b with
      | nil => exact ⟨rfl, h⟩
      | cons c b =>
          obtain rfl := hs c (by simp only [List.nil_append] at h; rw [h]; rfl)
          exact absurd List.mem_cons_self hb
  | cons c a ih =>
      cases b with
      | nil =>
          obtain rfl := ht c (by simp only [List.nil_append] at h; rw [← h]; rfl)
          exact absurd List.mem_cons_self ha
      | cons d b =>
          obtain ⟨rfl, hrest⟩ := List.cons.inj h
          obtain ⟨rfl, rfl⟩ := ih (List.not_mem_of_not_mem_cons ha)
            (List.not_mem_of_not_mem_cons hb) hrest
          exact ⟨rfl, rfl⟩

theorem marked_cons (mark : Char) (s : List Char) : Marked mark (mark :: s) := by
  rintro c ⟨⟩
  rfl

theorem marked_nil (mark : Char) : Marked mark [] := by
  rintro c ⟨⟩

/-- The characters of an optional component with its delimiter in front. -/
def optional (mark : Char) : Option String → List Char
  | some text => mark :: text.toList
  | none => []

theorem marked_optional (mark : Char) (o : Option String) : Marked mark (optional mark o) := by
  cases o with
  | none => exact marked_nil mark
  | some text => exact marked_cons mark text.toList

theorem optional_injective {mark : Char} {o p : Option String}
    (h : optional mark o = optional mark p) : o = p := by
  cases o with
  | none =>
      cases p with
      | none => rfl
      | some text => cases h
  | some text =>
      cases p with
      | none => cases h
      | some other =>
          obtain ⟨-, htext⟩ := List.cons.inj h
          rw [String.toList_inj.mp htext]

/-- The characters of segments, each with a slash in front. -/
def slashed (segments : List String) : List Char :=
  segments.flatMap fun s => '/' :: s.toList

@[simp] theorem slashed_nil : slashed [] = [] := rfl

@[simp] theorem slashed_cons (s : String) (rest : List String) :
    slashed (s :: rest) = '/' :: (s.toList ++ slashed rest) := by
  simp [slashed]

theorem marked_slashed (segments : List String) : Marked '/' (slashed segments) := by
  cases segments with
  | nil => exact marked_nil '/'
  | cons s rest =>
      rw [slashed_cons]
      exact marked_cons '/' _

theorem slashed_injective {l m : List String} (hl : ∀ s ∈ l, IsSegment s)
    (hm : ∀ s ∈ m, IsSegment s) (h : slashed l = slashed m) : l = m := by
  induction l generalizing m with
  | nil =>
      cases m with
      | nil => rfl
      | cons s m => simp at h
  | cons s l ih =>
      cases m with
      | nil => simp at h
      | cons t m =>
          obtain ⟨hs, hl⟩ := List.forall_mem_cons.mp hl
          obtain ⟨ht, hm⟩ := List.forall_mem_cons.mp hm
          rw [slashed_cons, slashed_cons] at h
          obtain ⟨htext, hrest⟩ := split_at_mark (hs.1 '/' (by simp)) (ht.1 '/' (by simp))
            (marked_slashed l) (marked_slashed m) (List.cons.inj h).2
          rw [String.toList_inj.mp htext, ih hl hm hrest]

/-- The characters of a path. -/
def Path.chars : Path → List Char
  | rootless text => text.toList
  | rooted segments => slashed segments

theorem Path.toList_write (p : Path) : p.write.toList = p.chars := by
  cases p with
  | rootless text => rfl
  | rooted segments => simp [write, chars, slashed, String.toList_join, List.flatMap_map]

/-- The characters of an authority, if there is one. -/
def authorityChars (u : Url) : List Char :=
  ((u.authority.map Authority.write).getD "").toList

/-- The characters between the scheme and the query. -/
def body (u : Url) : List Char :=
  u.authorityChars ++ (u.pathGuard.toList ++ u.path.chars)

theorem toList_writeOptional {mark : Char} {text : String} (h : text.toList = [mark])
    (o : Option String) : (writeOptional text o).toList = optional mark o := by
  cases o with
  | none => rfl
  | some other => simp [writeOptional, optional, h]

theorem toList_write (u : Url) :
    u.write.toList =
      u.scheme.toList ++ ':' :: (u.body ++ (optional '?' u.query ++ optional '#' u.fragment)) := by
  have hquery : (writeOptional "?" u.query).toList = optional '?' u.query :=
    toList_writeOptional (by simp) _
  have hfragment : (writeOptional "#" u.fragment).toList = optional '#' u.fragment :=
    toList_writeOptional (by simp) _
  simp [write, body, authorityChars, Path.toList_write, hquery, hfragment]

/-- The characters of an authority behind its two slashes. -/
def Authority.chars (a : Authority) : List Char :=
  a.userinfo.toList ++ (a.host.toList ++ optional ':' (a.port.map toString))

theorem Authority.toList_write (a : Authority) : a.write.toList = '/' :: '/' :: a.chars := by
  cases hport : a.port <;> simp [write, chars, optional, hport]

/-- A port consists of a colon and digits. -/
theorem not_mem_port {c : Char} (hcolon : c ≠ ':') (hdigit : c.isDigit = false)
    (port : Option Nat) : c ∉ optional ':' (port.map toString) := by
  cases port with
  | none => exact List.not_mem_nil
  | some port =>
      have hdigits : c ∉ Nat.toDigits 10 port := by
        intro hmem
        rw [Nat.isDigit_of_mem_toDigits (by decide) (by decide) hmem] at hdigit
        cases hdigit
      simp [optional, hcolon, hdigits]

theorem Authority.chars_lack {a : Authority} (ha : a.Regular) {c : Char}
    (hc : c ∈ ['/', '?', '#']) : c ∉ a.chars := by
  have hhost : c ∉ a.host.toList := ha.host.marks c (by simp at hc ⊢; tauto)
  have huserinfo : c ∉ a.userinfo.toList := by
    rcases ha.userinfo with h | ⟨text, h, hlacks⟩
    · simp [h]
    · have htext : c ∉ text.toList := hlacks c (by simp at hc ⊢; tauto)
      have hat : c ≠ '@' := by rintro rfl; simp at hc
      simp [h, htext, hat]
  have hport : c ∉ optional ':' (a.port.map toString) := by
    simp only [List.mem_cons, List.not_mem_nil, or_false] at hc
    rcases hc with rfl | rfl | rfl <;> exact not_mem_port (by decide) (by decide) _
  simp [chars, huserinfo, hhost, hport]

theorem port_injective {p q : Option Nat}
    (h : optional ':' (p.map toString) = optional ':' (q.map toString)) : p = q := by
  have hstring := optional_injective h
  cases p with
  | none => cases q <;> simp_all
  | some m =>
      cases q with
      | none => simp at hstring
      | some n =>
          have hdigits : Nat.toDigits 10 m = Nat.toDigits 10 n := by
            rw [← Nat.toList_repr, ← Nat.toList_repr]
            exact congrArg String.toList (Option.some.inj hstring)
          rw [← Nat.ofDigitChars_ten_toDigits (n := m), hdigits, Nat.ofDigitChars_ten_toDigits]

/-- A host ends in front of the colon of the port, or at its closing bracket. -/
theorem host_injective {a b : Authority} (ha : a.Regular) (hb : b.Regular)
    (h : a.host.toList ++ optional ':' (a.port.map toString) =
      b.host.toList ++ optional ':' (b.port.map toString)) :
    a.host = b.host ∧ a.port = b.port := by
  -- A host in brackets is recognized by its first character.
  have hopen {a b : Authority} {inner : String} (ha : a.host = "[" ++ inner ++ "]")
      (hb : Lacks [':', '['] b.host) :
      a.host.toList ++ optional ':' (a.port.map toString) ≠
        b.host.toList ++ optional ':' (b.port.map toString) := by
    intro h
    rw [ha] at h
    cases hhost : b.host.toList with
    | nil =>
        rw [hhost] at h
        cases hport : b.port <;> simp [optional, hport] at h
    | cons c rest =>
        rw [hhost] at h
        have hc : c = '[' := by simp at h; exact h.1.symm
        exact hb '[' (by simp) (by rw [hhost, hc]; exact List.mem_cons_self)
  rcases ha.host.ends with hlacks | ⟨inner, hinner, hlacks⟩
  · rcases hb.host.ends with hother | ⟨inner', hinner', -⟩
    · obtain ⟨hhost, hport⟩ := split_at_mark (hlacks ':' (by simp)) (hother ':' (by simp))
        (marked_optional ':' _) (marked_optional ':' _) h
      exact ⟨String.toList_inj.mp hhost, port_injective hport⟩
    · exact absurd h.symm (hopen hinner' hlacks)
  · rcases hb.host.ends with hother | ⟨inner', hinner', hother⟩
    · exact absurd h (hopen hinner hother)
    · have hrest : inner.toList ++ ']' :: optional ':' (a.port.map toString) =
          inner'.toList ++ ']' :: optional ':' (b.port.map toString) := by
        simpa [hinner, hinner'] using h
      obtain ⟨htext, hport⟩ := split_at_mark (hlacks ']' (by simp)) (hother ']' (by simp))
        (marked_cons ']' _) (marked_cons ']' _) hrest
      rw [hinner, hinner', String.toList_inj.mp htext]
      exact ⟨rfl, port_injective (List.cons.inj hport).2⟩

theorem Authority.chars_injective {a b : Authority} (ha : a.Regular) (hb : b.Regular)
    (h : a.chars = b.chars) : a = b := by
  -- The text behind the user data contains no `@`, so that both or neither have user data.
  have hhost {a : Authority} (ha : a.Regular) :
      '@' ∉ a.host.toList ++ optional ':' (a.port.map toString) := by
    rw [List.mem_append, not_or]
    exact ⟨ha.host.marks '@' (by simp), not_mem_port (by decide) (by decide) _⟩
  have hboth : a.userinfo = b.userinfo ∧
      a.host.toList ++ optional ':' (a.port.map toString) =
        b.host.toList ++ optional ':' (b.port.map toString) := by
    unfold chars at h
    rcases ha.userinfo with hnone | ⟨text, htext, hlacks⟩
    · rcases hb.userinfo with hnone' | ⟨text', htext', -⟩
      · exact ⟨hnone.trans hnone'.symm, by simpa [hnone, hnone'] using h⟩
      · refine absurd ?_ (hhost ha)
        rw [hnone] at h
        simp only [String.toList_empty, List.nil_append] at h
        simp [h, htext']
    · rcases hb.userinfo with hnone' | ⟨text', htext', hother⟩
      · refine absurd ?_ (hhost hb)
        rw [hnone'] at h
        simp only [String.toList_empty, List.nil_append] at h
        simp [← h, htext]
      · have hrest : text.toList ++ '@' :: (a.host.toList ++ optional ':' (a.port.map toString)) =
            text'.toList ++ '@' :: (b.host.toList ++ optional ':' (b.port.map toString)) := by
          simpa [htext, htext'] using h
        obtain ⟨hsame, hafter⟩ := split_at_mark (hlacks '@' (by simp)) (hother '@' (by simp))
          (marked_cons '@' _) (marked_cons '@' _) hrest
        rw [htext, htext', String.toList_inj.mp hsame]
        exact ⟨rfl, (List.cons.inj hafter).2⟩
  obtain ⟨hinfo, hrest⟩ := hboth
  obtain ⟨hname, hport⟩ := host_injective ha hb hrest
  cases a
  cases b
  simp_all

theorem authorityChars_none {u : Url} (h : u.authority = none) : u.authorityChars = [] := by
  simp [authorityChars, h]

theorem authorityChars_some {u : Url} {a : Authority} (h : u.authority = some a) :
    u.authorityChars = '/' :: '/' :: a.chars := by
  simp [authorityChars, h, Authority.toList_write]

theorem pathGuard_some {u : Url} {a : Authority} (h : u.authority = some a) :
    u.pathGuard = "" := by
  unfold pathGuard
  rw [h]

theorem pathGuard_rootless {u : Url} {text : String} (h : u.path = .rootless text) :
    u.pathGuard = "" := by
  unfold pathGuard
  rw [h]
  cases u.authority <;> rfl

theorem body_some {u : Url} {a : Authority} (hu : u.Regular) (h : u.authority = some a) :
    ∃ segments, u.path = .rooted segments ∧ (∀ s ∈ segments, IsSegment s) ∧
      u.body = '/' :: '/' :: (a.chars ++ slashed segments) := by
  have hpath := hu.path
  rw [h] at hpath
  cases hp : u.path with
  | rootless text =>
      rw [hp] at hpath
      cases hpath.1
  | rooted segments =>
      rw [hp] at hpath
      refine ⟨segments, rfl, hpath.1, ?_⟩
      simp [body, authorityChars_some h, pathGuard_some h, hp, Path.chars]

/-- The text behind the slash of a first segment does not begin with a second slash, unless the
segment is empty and others follow. -/
theorem IsSegment.append_ne_slash {s : String} {rest : List String} (hs : IsSegment s)
    (hguard : ¬ (s = "" ∧ rest ≠ [])) (more : List Char) :
    s.toList ++ slashed rest ≠ '/' :: more := by
  intro hcons
  cases htext : s.toList with
  | nil =>
      have hempty : s = "" := by simpa using htext
      have hrest : rest = [] := by simpa [hempty] using hguard
      simp [htext, hrest] at hcons
  | cons c text =>
      rw [htext] at hcons
      have hc : c = '/' := (List.cons.inj hcons).1
      exact hs.1 '/' (by simp) (by rw [htext, hc]; exact List.mem_cons_self)

/-- Without an authority, the body is a rootless path, or begins with exactly one slash, or with the
guard `/.` that keeps the path from beginning with two. -/
theorem body_none {u : Url} (hu : u.Regular) (h : u.authority = none) :
    (∃ text, u.path = .rootless text ∧ text.toList.head? ≠ some '/' ∧ u.body = text.toList) ∨
      ∃ segments, u.path = .rooted segments ∧ (∀ s ∈ segments, IsSegment s) ∧ segments ≠ [] ∧
        (u.body = '/' :: '.' :: slashed segments ∨
          u.body = slashed segments ∧ ∀ rest, u.body ≠ '/' :: '/' :: rest) := by
  have hpath := hu.path
  rw [h] at hpath
  cases hp : u.path with
  | rootless text =>
      rw [hp] at hpath
      refine .inl ⟨text, rfl, hpath.2.2, ?_⟩
      simp [body, authorityChars_none h, pathGuard_rootless hp, hp, Path.chars]
  | rooted segments =>
      rw [hp] at hpath
      have hne : segments ≠ [] := hpath.2.resolve_left fun h => nomatch h
      refine .inr ⟨segments, rfl, hpath.1, hne, ?_⟩
      cases segments with
      | nil => exact absurd rfl hne
      | cons s rest =>
          have hs : IsSegment s := hpath.1 s List.mem_cons_self
          by_cases hguard : s = "" ∧ rest ≠ []
          · obtain ⟨rfl, hrest⟩ := hguard
            cases rest with
            | nil => exact absurd rfl hrest
            | cons t rest =>
                refine .inl ?_
                simp [body, authorityChars_none h, pathGuard, h, hp, Path.chars]
          · refine .inr ?_
            have hbody : u.body = '/' :: (s.toList ++ slashed rest) := by
              have hnone : u.pathGuard = "" := by
                unfold pathGuard
                rw [h, hp]
                grind
              simp [body, authorityChars_none h, hnone, hp, Path.chars]
            refine ⟨by rw [hbody, slashed_cons], fun more hmore => ?_⟩
            rw [hbody] at hmore
            exact hs.append_ne_slash hguard more (List.cons.inj hmore).2

/-- Only the body of a locator with an authority begins with two slashes. -/
theorem body_ne_of_authority {u v : Url} {a : Authority} (hu : u.Regular) (hv : v.Regular)
    (ha : u.authority = some a) (hnone : v.authority = none) : u.body ≠ v.body := by
  intro h
  obtain ⟨l, -, -, hbody⟩ := body_some hu ha
  rw [hbody] at h
  rcases body_none hv hnone with ⟨text, -, hhead, htext⟩ | ⟨m, -, -, -, hm | ⟨-, hm⟩⟩
  · rw [htext] at h
    exact hhead (by rw [← h]; rfl)
  · rw [hm] at h
    simp at h
  · exact hm _ h.symm

/-- The guard differs from a first segment, since no segment is a single dot. -/
theorem guard_ne_slashed {l m : List String} (hm : ∀ s ∈ m, IsSegment s) :
    '/' :: '.' :: slashed l ≠ slashed m := by
  intro h
  cases m with
  | nil => simp at h
  | cons s rest =>
      rw [slashed_cons] at h
      have hdot : ['.'] ++ slashed l = s.toList ++ slashed rest := (List.cons.inj h).2
      obtain ⟨htext, -⟩ := split_at_mark (by simp)
        ((hm s List.mem_cons_self).1 '/' (by simp)) (marked_slashed l) (marked_slashed rest) hdot
      exact (hm s List.mem_cons_self).2 (String.toList_inj.mp (by rw [← htext]; rfl))

/-- A rootless path does not begin with a slash, and a path of segments does. -/
theorem body_ne_of_rootless {u : Url} {text : String} {segments : List String}
    (hhead : text.toList.head? ≠ some '/') (hsegments : segments ≠ [])
    (h : u.body = '/' :: '.' :: slashed segments ∨
      u.body = slashed segments ∧ ∀ rest, u.body ≠ '/' :: '/' :: rest) :
    text.toList ≠ u.body := by
  have hslash : ∃ rest, u.body = '/' :: rest := by
    rcases h with h | ⟨h, -⟩
    · exact ⟨_, h⟩
    · cases segments with
      | nil => exact absurd rfl hsegments
      | cons s rest => exact ⟨_, h.trans (slashed_cons s rest)⟩
  obtain ⟨rest, hrest⟩ := hslash
  intro htext
  rw [htext, hrest] at hhead
  exact hhead rfl

theorem authority_path_of_body {u v : Url} {a b : Authority} (hu : u.Regular) (hv : v.Regular)
    (ha : u.authority = some a) (hb : v.authority = some b) (h : u.body = v.body) :
    a = b ∧ u.path = v.path := by
  obtain ⟨l, hl, hlsegments, hlbody⟩ := body_some hu ha
  obtain ⟨m, hm, hmsegments, hmbody⟩ := body_some hv hb
  rw [hlbody, hmbody] at h
  have hrest : a.chars ++ slashed l = b.chars ++ slashed m := by simpa using h
  have hregular : a.Regular := hu.authority a ha
  have hregular' : b.Regular := hv.authority b hb
  obtain ⟨hchars, hpath⟩ := split_at_mark (Authority.chars_lack hregular (by simp))
    (Authority.chars_lack hregular' (by simp)) (marked_slashed l) (marked_slashed m) hrest
  refine ⟨Authority.chars_injective hregular hregular' hchars, ?_⟩
  rw [hl, hm, slashed_injective hlsegments hmsegments hpath]

theorem path_of_body {u v : Url} (hu : u.Regular) (hv : v.Regular) (ha : u.authority = none)
    (hb : v.authority = none) (h : u.body = v.body) : u.path = v.path := by
  rcases body_none hu ha with ⟨t, hpath, hhead, hbody⟩ | ⟨l, hpath, hl, hlne, hbody⟩
  · rcases body_none hv hb with ⟨t', hpath', -, hbody'⟩ | ⟨m, -, -, hmne, hbody'⟩
    · rw [hbody, hbody'] at h
      rw [hpath, hpath', String.toList_inj.mp h]
    · exact absurd (hbody.symm.trans h) (body_ne_of_rootless hhead hmne hbody')
  · rcases body_none hv hb with ⟨t, -, hhead, hbody'⟩ | ⟨m, hpath', hm, hmne, hbody'⟩
    · exact absurd (hbody'.symm.trans h.symm) (body_ne_of_rootless hhead hlne hbody)
    · rw [hpath, hpath']
      -- Both have the guard or neither has it.
      rcases hbody with hbody | ⟨hbody, -⟩ <;> rcases hbody' with hbody' | ⟨hbody', -⟩
      · have hsame : slashed l = slashed m := by
          rw [hbody, hbody'] at h
          simpa using h
        rw [slashed_injective hl hm hsame]
      · exact absurd (hbody.symm.trans (h.trans hbody')) (guard_ne_slashed hm)
      · exact absurd (hbody'.symm.trans (h.symm.trans hbody)) (guard_ne_slashed hl)
      · rw [slashed_injective hl hm (hbody.symm.trans (h.trans hbody'))]

theorem body_injective {u v : Url} (hu : u.Regular) (hv : v.Regular) (h : u.body = v.body) :
    u.authority = v.authority ∧ u.path = v.path := by
  cases ha : u.authority with
  | some a =>
      cases hb : v.authority with
      | some b =>
          obtain ⟨rfl, hpath⟩ := authority_path_of_body hu hv ha hb h
          exact ⟨rfl, hpath⟩
      | none => exact absurd h (body_ne_of_authority hu hv ha hb)
  | none =>
      cases hb : v.authority with
      | some b => exact absurd h.symm (body_ne_of_authority hv hu hb ha)
      | none => exact ⟨rfl, path_of_body hu hv ha hb h⟩

theorem body_lacks {u : Url} (hu : u.Regular) {c : Char} (hc : c ∈ ['?', '#']) : c ∉ u.body := by
  have hdistinct : c ≠ '/' ∧ c ≠ '.' := by
    simp only [List.mem_cons, List.not_mem_nil, or_false] at hc
    rcases hc with rfl | rfl <;> decide
  have hsegments {l : List String} (hl : ∀ s ∈ l, IsSegment s) : c ∉ slashed l := by
    intro hmem
    obtain ⟨s, hs, hchar⟩ := List.mem_flatMap.mp hmem
    rcases List.mem_cons.mp hchar with rfl | hchar
    · exact hdistinct.1 rfl
    · exact (hl s hs).1 c (List.mem_cons_of_mem _ hc) hchar
  cases ha : u.authority with
  | some a =>
      obtain ⟨l, -, hl, hbody⟩ := body_some hu ha
      have hchars := Authority.chars_lack (hu.authority a ha) (List.mem_cons_of_mem '/' hc)
      simp [hbody, hdistinct.1, hchars, hsegments hl]
  | none =>
      rcases body_none hu ha with ⟨text, hpath, -, hbody⟩ | ⟨l, -, hl, -, hbody | ⟨hbody, -⟩⟩
      · have hregular := hu.path
        rw [hpath] at hregular
        rw [hbody]
        exact hregular.2.1 c hc
      · simp [hbody, hdistinct.1, hdistinct.2, hsegments hl]
      · rw [hbody]
        exact hsegments hl

/-- A regular locator is determined by its text. -/
theorem write_injective {u v : Url} (hu : u.Regular) (hv : v.Regular) (h : u.write = v.write) :
    u = v := by
  have hchars := congrArg String.toList h
  rw [toList_write, toList_write] at hchars
  obtain ⟨hscheme, hrest⟩ := split_at_mark (hu.scheme ':' (by simp)) (hv.scheme ':' (by simp))
    (marked_cons ':' _) (marked_cons ':' _) hchars
  have hsplit : (u.body ++ optional '?' u.query) ++ optional '#' u.fragment =
      (v.body ++ optional '?' v.query) ++ optional '#' v.fragment := by
    simpa using hrest
  have hlacks {u : Url} (hu : u.Regular) : '#' ∉ u.body ++ optional '?' u.query := by
    rw [List.mem_append, not_or]
    refine ⟨body_lacks hu (by simp), ?_⟩
    cases hq : u.query with
    | none => exact List.not_mem_nil
    | some q => simpa [optional] using hu.query q hq '#' (by simp)
  obtain ⟨hbefore, hfragment⟩ := split_at_mark (hlacks hu) (hlacks hv) (marked_optional '#' _)
    (marked_optional '#' _) hsplit
  obtain ⟨hbody, hquery⟩ := split_at_mark (body_lacks hu (by simp)) (body_lacks hv (by simp))
    (marked_optional '?' _) (marked_optional '?' _) hbefore
  obtain ⟨hauthority, hpath⟩ := body_injective hu hv hbody
  have hparts : u.scheme = v.scheme ∧ u.query = v.query ∧ u.fragment = v.fragment :=
    ⟨String.toList_inj.mp hscheme, optional_injective hquery, optional_injective hfragment⟩
  cases u
  cases v
  simp_all

/-- The number of blanks at the end of a rootless path. -/
def blanks (u : Url) : Nat :=
  match u.path, u.query with
  | .rootless text, none => (text.toList.reverse.takeWhile (· = ' ')).length
  | _, _ => 0

theorem toList_trimEndBlanks (text : String) :
    text.toList = (trimEndBlanks text).toList ++
      List.replicate (text.toList.reverse.takeWhile (· = ' ')).length ' ' := by
  have hblanks : text.toList.reverse.takeWhile (· = ' ') =
      List.replicate (text.toList.reverse.takeWhile (· = ' ')).length ' ' :=
    List.eq_replicate_iff.mpr ⟨rfl, fun c hc => by simpa using List.mem_takeWhile_imp hc⟩
  have hsplit := congrArg List.reverse
    (List.takeWhile_append_dropWhile (p := (· = ' ')) (l := text.toList.reverse))
  rw [List.reverse_append, List.reverse_reverse, hblanks, List.reverse_replicate] at hsplit
  simpa [trimEndBlanks] using hsplit.symm

/-- The text of a locator consists of the text of its document, the blanks that are dropped with the
fragment, and the fragment. -/
theorem toList_write_withoutFragment (u : Url) :
    u.write.toList = u.withoutFragment.write.toList ++
      (List.replicate u.blanks ' ' ++ optional '#' u.fragment) := by
  rw [toList_write, toList_write]
  unfold withoutFragment blanks
  split
  next text hpath hquery =>
    generalize htrimmed : { u with path := .rootless (trimEndBlanks text), fragment := none } = v
    have hscheme : u.scheme = v.scheme := by rw [← htrimmed]
    have hauthority : u.authorityChars = v.authorityChars := by rw [← htrimmed]; rfl
    have hvpath : v.path = .rootless (trimEndBlanks text) := by rw [← htrimmed]
    have hvquery : v.query = none := by rw [← htrimmed, hquery]
    have hvfragment : v.fragment = none := by rw [← htrimmed]
    simp only [body, pathGuard_rootless hpath, pathGuard_rootless hvpath, hpath, hvpath, hquery,
      hvquery, hvfragment, hscheme, hauthority, Path.chars, optional]
    conv_lhs => rw [toList_trimEndBlanks text]
    simp
  next => simp [body, authorityChars, pathGuard, optional]

theorem Regular.withoutFragment {u : Url} (hu : u.Regular) : u.withoutFragment.Regular := by
  obtain ⟨hscheme, hauthority, hpath, hquery⟩ := hu
  unfold Url.withoutFragment
  split
  next text hp hq =>
    rw [hp] at hpath
    obtain ⟨hnone, hlacks, hhead⟩ := hpath
    have hstart : (trimEndBlanks text).toList <+: text.toList :=
      ⟨_, (toList_trimEndBlanks text).symm⟩
    refine ⟨hscheme, hauthority, ⟨hnone, fun c hc hmem => ?_, fun hslash => hhead ?_⟩, hquery⟩
    · exact hlacks c hc (hstart.subset hmem)
    · obtain ⟨rest, hrest⟩ := hstart
      rw [← hrest, List.head?_append, hslash]
      rfl
  next => exact ⟨hscheme, hauthority, hpath, hquery⟩

end SchemaCheck.Url
