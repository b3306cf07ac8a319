/-!
Uniform resource locators by component, and their text.
-/

namespace SchemaCheck

namespace Url

/-- User data including its `@`, the host, and a port other than the default one of the scheme. -/
structure Authority where
  userinfo : String
  host : String
  port : Option Nat
  deriving DecidableEq, Inhabited

/-- A path without an authority and without a leading slash is a single text; any other path is a
list of segments. -/
inductive Path where
  | rootless (text : String)
  | rooted (segments : List String)
  deriving DecidableEq, Inhabited

end Url

structure Url where
  scheme : String
  authority : Option Url.Authority
  path : Url.Path
  query : Option String
  fragment : Option String
  deriving DecidableEq, Inhabited

namespace Url

def Authority.write (a : Authority) : String :=
  "//" ++ a.userinfo ++ a.host ++
    match a.port with
    | some port => ":" ++ toString port
    | none => ""

def Path.write : Path → String
  | rootless text => text
  | rooted segments => String.join (segments.map ("/" ++ ·))

/-- Without an authority, a path that begins with two slashes needs a guard, since it would be read
as an authority. -/
def pathGuard (u : Url) : String :=
  match u.authority, u.path with
  | none, .rooted ("" :: _ :: _) => "/."
  | _, _ => ""

def writeOptional (mark : String) : Option String → String
  | some text => mark ++ text
  | none => ""

def write (u : Url) : String :=
  u.scheme ++ ":" ++ (u.authority.map Authority.write).getD "" ++ u.pathGuard ++ u.path.write ++
    writeOptional "?" u.query ++ writeOptional "#" u.fragment

instance : ToString Url := ⟨write⟩

/-- Whether relative references can be joined with the locator. -/
def isBase (u : Url) : Bool :=
  match u.path with
  | .rootless _ => false
  | .rooted _ => true

def trimEndBlanks (text : String) : String :=
  String.ofList (text.toList.reverse.dropWhile (· = ' ')).reverse

/-- The locator of the document. Without its fragment, a rootless path also loses the blanks at its
end. -/
def withoutFragment (u : Url) : Url :=
  match u.path, u.query with
  | .rootless text, none => { u with path := .rootless (trimEndBlanks text), fragment := none }
  | _, _ => { u with fragment := none }

@[simp] theorem fragment_withoutFragment (u : Url) : u.withoutFragment.fragment = none := by
  unfold withoutFragment
  split <;> rfl

end Url

end SchemaCheck
