import SchemaCheck.Proofs.Json.Pretty
import SchemaCheck.Proofs.Location
import SchemaCheck.Report

/-!
What the full text of a violation determines of its block in a report. It always determines the
value. It determines the message and the location as well if these do not contain the text between
the parts. In general, the blocks of two violations with the same full text commute iff the
violations have the same message and location.
-/

namespace SchemaCheck.Violation

variable {v w : Violation}

/-- The text behind the message. -/
def failing : String :=
  "\n\nFailed validating '"

/-- The text in front of the location. -/
def onInstance : String :=
  "\n\nOn instance"

/-- The value as it is shown in texts. -/
def shown (v : Violation) : Json :=
  v.culprit.getD .null

theorem getD_map_culprit {f : Json → String} (hf : f .null = "null") (v : Violation) :
    (v.culprit.map f).getD "null" = f v.shown := by
  rw [shown]
  cases v.culprit with
  | none => simp only [Option.map_none, Option.getD_none, hf]
  | some j => simp only [Option.map_some, Option.getD_some]

theorem unbordered_failing : Unbordered failing.toList := by
  decide +kernel

theorem unbordered_onInstance : Unbordered onInstance.toList := by
  decide +kernel

/-- The text up to the value, with the given text between the message and the location. -/
def front (middle : String) (v : Violation) : List Char :=
  v.message.toList ++ (failing.toList ++ (middle.toList ++ (onInstance.toList ++
    v.path.bracketed.toList)))

theorem exists_front_eq (v : Violation) (middle : String) :
    ∃ x, v.front middle = x ++ 'e' :: v.path.bracketed.toList := by
  have hlast : onInstance.toList = "\n\nOn instanc".toList ++ ['e'] := rfl
  refine ⟨v.message.toList ++ (failing.toList ++ (middle.toList ++ "\n\nOn instanc".toList)), ?_⟩
  simp only [front, hlast, List.append_assoc, List.cons_append, List.nil_append]

theorem exists_display_eq (hv : v.keyword.isSome) : ∃ middle,
    v.display.toList = v.front middle ++ ([':', '\n'] ++ v.shown.pretty.toList) := by
  obtain ⟨keyword, hkeyword⟩ := Option.isSome_iff_exists.mp hv
  have hvalue : prettyOr v.culprit = v.shown.pretty :=
    getD_map_culprit (by rw [Json.pretty, Json.prettyAt, Json.render]) v
  generalize hmiddle : keyword ++ "' in schema" ++ v.schemaPath.bracketed ++ ":\n" ++
    prettyOr v.schema = middle
  have htext : v.display = v.message ++ failing ++ middle ++ onInstance ++ v.path.bracketed ++
      ":\n" ++ v.shown.pretty := by
    rw [display, hkeyword, hvalue, failing, onInstance, ← hmiddle]
    simp only [String.append_assoc]
  refine ⟨middle, ?_⟩
  have hcolon : ":\n".toList = [':', '\n'] := rfl
  simp only [htext, front, hcolon, String.toList_append, List.append_assoc]

section Block

/-- The text between the message and the location in a block. -/
def atPath : String :=
  "\n at path "

def inInstance : String :=
  "\n in instance \n"

theorem toList_block (v : Violation) : (Report.block v).toList =
    "\n-----\n".toList ++ (v.message.toList ++ (atPath.toList ++ ('\n' ::
      (v.path.dotted.toList ++ (inInstance.toList ++ v.shown.render.toList))))) := by
  have hvalue := getD_map_culprit (f := Json.render) (by rw [Json.render]) v
  have hpath : "\n at path \n".toList = atPath.toList ++ ['\n'] := rfl
  rw [Report.block, hvalue, inInstance]
  simp only [hpath, String.toList_append, List.append_assoc, List.cons_append, List.nil_append]

theorem exists_block_eq (v : Violation) : ∃ y, (Report.block v).toList =
    y ++ '\n' :: v.path.dotted.toList ++ (inInstance.toList ++ v.shown.render.toList) := by
  refine ⟨"\n-----\n".toList ++ (v.message.toList ++ atPath.toList), ?_⟩
  simp only [toList_block, List.append_assoc, List.cons_append]

end Block

section Display

variable (hv : v.keyword.isSome) (hw : w.keyword.isSome) (h : v.display = w.display)

include hv hw h

/-- Violations with the same full text have the same value and the same text in front of it. -/
theorem split_of_display :
    v.shown.render = w.shown.render ∧ ∃ middle middle', v.front middle = w.front middle' := by
  obtain ⟨middle, hmiddle⟩ := exists_display_eq hv
  obtain ⟨middle', hmiddle'⟩ := exists_display_eq hw
  have hcolon : Unbordered [':', '\n'] := by decide
  -- No line of a value follows a colon, so that the last such line is the start of the value.
  have hnone (j : Json) : ¬ [':', '\n'] <:+: j.pretty.toList := fun hcolon =>
    (Json.spreads_prettyAt j "" .nil).unbroken
      (hcolon.trans (List.prefix_append ..).isInfix)
  obtain ⟨hfront, hvalue⟩ := hcolon.eq_of_back
    (hmiddle.symm.trans ((congrArg String.toList h).trans hmiddle')) (hnone _) (hnone _)
  exact ⟨Json.render_eq_of_pretty (String.toList_inj.mp hvalue), middle, middle', hfront⟩

theorem block_eq_of_display (hmessage : v.message = w.message) (hpath : v.path = w.path) :
    Report.block v = Report.block w := by
  refine String.toList_inj.mp ?_
  rw [toList_block, toList_block, hmessage, hpath, (split_of_display hv hw h).1]

/-- Violations with the same full text and commuting blocks have the same message, since behind the
shorter one of two messages the full text and the block continue differently. -/
theorem message_of_blocks
    (hblocks : Report.block v ++ Report.block w = Report.block w ++ Report.block v) :
    v.message = w.message := by
  obtain ⟨-, middle, middle', hfront⟩ := split_of_display hv hw h
  have hother {x y : List Char} : atPath.toList ++ x ≠ failing.toList ++ y :=
    fun heq => absurd (List.cons.inj (List.cons.inj heq).2).1 (by decide)
  have hblocks := congrArg String.toList hblocks
  rw [String.toList_append, String.toList_append, toList_block, toList_block] at hblocks
  rcases unbordered_failing.split hfront with ⟨hmessage, -⟩ | ⟨c, hmessage, -⟩ | ⟨c, hmessage, -⟩
  · exact String.toList_inj.mp hmessage
  · simp only [hmessage, List.append_assoc, List.append_cancel_left_eq] at hblocks
    exact absurd hblocks hother
  · simp only [hmessage, List.append_assoc, List.append_cancel_left_eq] at hblocks
    exact absurd hblocks.symm hother

/-- Violations with the same full text and commuting blocks have the same location, by the ends of
these texts. -/
theorem path_of_blocks
    (hblocks : Report.block v ++ Report.block w = Report.block w ++ Report.block v) :
    v.path = w.path := by
  obtain ⟨hvalue, middle, middle', hfront⟩ := split_of_display hv hw h
  obtain ⟨x, hx⟩ := exists_front_eq v middle
  obtain ⟨x', hx'⟩ := exists_front_eq w middle'
  obtain ⟨y, hy⟩ := exists_block_eq v
  obtain ⟨y', hy'⟩ := exists_block_eq w
  rw [hx, hx'] at hfront
  have hends : ((Report.block w).toList ++ y) ++ '\n' :: v.path.dotted.toList ++
        (inInstance.toList ++ w.shown.render.toList) =
      ((Report.block v).toList ++ y') ++ '\n' :: w.path.dotted.toList ++
        (inInstance.toList ++ w.shown.render.toList) := by
    calc (Report.block w).toList ++ y ++ '\n' :: v.path.dotted.toList ++
          (inInstance.toList ++ w.shown.render.toList)
      _ = (Report.block w ++ Report.block v).toList := by
        simp only [String.toList_append, hy, hvalue, List.append_assoc]
      _ = (Report.block v ++ Report.block w).toList := congrArg String.toList hblocks.symm
      _ = (Report.block v).toList ++ y' ++ '\n' :: w.path.dotted.toList ++
          (inInstance.toList ++ w.shown.render.toList) := by
        simp only [String.toList_append, hy', List.append_assoc]
  exact Location.eq_of_texts (by decide) hfront (List.append_cancel_right hends)

theorem block_comm_iff :
    Report.block v ++ Report.block w = Report.block w ++ Report.block v ↔
      v.message = w.message ∧ v.path = w.path := by
  constructor
  · intro hblocks
    exact ⟨message_of_blocks hv hw h hblocks, path_of_blocks hv hw h hblocks⟩
  · rintro ⟨hmessage, hpath⟩
    rw [block_eq_of_display hv hw h hmessage hpath]

end Display

/-- The message and the location do not contain the texts between the parts of the full text. -/
structure Legible (v : Violation) : Prop where
  message : ¬ failing.toList <:+: v.message.toList
  path : v.path.Separate
  key : ∀ name, .key name ∈ v.path → ¬ onInstance.toList <:+: name.toList

/-- The full text of a legible violation determines its message and its location. -/
theorem Legible.eq_of_display (hlegible : v.Legible) (hlegible' : w.Legible)
    (hv : v.keyword.isSome) (hw : w.keyword.isSome) (h : v.display = w.display) :
    v.message = w.message ∧ v.path = w.path := by
  obtain ⟨-, middle, middle', hfront⟩ := split_of_display hv hw h
  obtain ⟨hmessage, hrest⟩ :=
    unbordered_failing.eq_of_front hfront hlegible.message hlegible'.message
  have hwithin {v : Violation} (hlegible : v.Legible) :
      ¬ onInstance.toList <:+: v.path.bracketed.toList := by
    intro h
    obtain ⟨name, hname, hkey⟩ := Location.exists_key (by simp [onInstance])
      ⟨'\n', by decide +kernel, rfl⟩ h
    exact hlegible.key name hname hkey
  obtain ⟨-, hpath⟩ := unbordered_onInstance.eq_of_back hrest (hwithin hlegible)
    (hwithin hlegible')
  exact ⟨String.toList_inj.mp hmessage, Location.eq_of_bracketed hlegible.path hlegible'.path
    (String.toList_inj.mp hpath)⟩

end SchemaCheck.Violation
