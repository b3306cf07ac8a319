import SchemaCheck.Json.Basic

/-!
JSON pointers: a slash before each token, `~1` for a slash and `~0` for a tilde inside.
-/

namespace SchemaCheck.Json.Pointer

def escapeToken : List Char → List Char
  | [] => []
  | c :: rest =>
    if c = '~' then '~' :: '0' :: escapeToken rest
    else if c = '/' then '~' :: '1' :: escapeToken rest
    else c :: escapeToken rest

def unescapeToken : List Char → List Char
  | '~' :: '0' :: rest => '~' :: unescapeToken rest
  | '~' :: '1' :: rest => '/' :: unescapeToken rest
  | c :: rest => c :: unescapeToken rest
  | [] => []

theorem unescapeToken_escapeToken (s : List Char) : unescapeToken (escapeToken s) = s := by
  induction s with
  | nil => rfl
  | cons c rest ih =>
      unfold escapeToken
      split
      next h => simp [unescapeToken, ih, h]
      next h =>
        split
        next h' => simp [unescapeToken, ih, h']
        next h' => rw [unescapeToken] <;> simp_all

/-- The texts between the slashes. -/
def tokens : List Char → List (List Char)
  | [] => [[]]
  | c :: rest =>
    if c = '/' then [] :: tokens rest
    else
      match tokens rest with
      | [] => [[c]]
      | token :: more => (c :: token) :: more

/-- The index that a token denotes: decimal digits without a leading zero. -/
def index? (token : List Char) : Option Nat :=
  match token with
  | [] => none
  | '0' :: _ :: _ => none
  | token =>
    if token.all Char.isDigit then
      some (token.foldl (fun n c => n * 10 + (c.toNat - '0'.toNat)) 0)
    else none

def enter? (token : List Char) : Json → Option Json
  | object members => Members.find? (String.ofList token) members
  | array items => (index? token).bind fun i => items[i]?
  | _ => none

/-- The part of a value that the tokens lead to. -/
def walk? : List (List Char) → Json → Option Json
  | [], j => some j
  | token :: rest, j => (enter? (unescapeToken token) j).bind (walk? rest)

end SchemaCheck.Json.Pointer
