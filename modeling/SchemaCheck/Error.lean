import SchemaCheck.Url.Host

/-!
Structural errors of a schema, as opposed to violations by an instance.
-/

namespace SchemaCheck

inductive SchemaError where
  /-- The document cannot be retrieved. -/
  | fetch (uri reason : String)
  | unsupportedScheme (uri : String)
  | malformedJson (uri : String)
  /-- The reason is given where the text is well-formed and has no counterpart in JSON. -/
  | malformedYaml (uri : String) (reason : Option String)
  | invalidUri (uri : String) (cause : Url.ParseError)
  | invalidReference (reference reason : String)
  /-- The fragment of a reference points at nothing in the document `uri`. -/
  | unresolvableFragment (uri fragment : String)
  | invalidPattern (pattern : String)
  | unknownType (name : String)
  | io (reason : String)
  deriving DecidableEq

namespace SchemaError

/-- The text of the error, or none where it is produced by a parser of the environment. -/
def message? : SchemaError → Option String
  | fetch uri reason => some ("cannot fetch '" ++ uri ++ "': " ++ reason)
  | unsupportedScheme uri => some ("unsupported URI scheme for '" ++ uri ++ "'")
  | malformedJson _ => none
  | malformedYaml uri reason => reason.map fun r => "malformed YAML in '" ++ uri ++ "': " ++ r
  | invalidUri uri cause => some ("invalid URI '" ++ uri ++ "': " ++ cause.message)
  | invalidReference reference reason =>
    some ("invalid reference '" ++ reference ++ "': " ++ reason)
  | unresolvableFragment uri fragment =>
    some ("unresolvable JSON pointer: '" ++ fragment ++ "' in '" ++ uri ++ "'")
  | invalidPattern _ => none
  | unknownType name => some ("unknown type '" ++ name ++ "'")
  | io reason => some ("io error: " ++ reason)

end SchemaError

end SchemaCheck
