import SchemaCheck.Error
import SchemaCheck.Json.Parser
import SchemaCheck.Url.Basic
import SchemaCheck.Yaml.Convert
import SchemaCheck.Yaml.Load

/-!
Documents as they are stored: bytes under a locator, in YAML if the path says so and in JSON
otherwise.
-/

namespace SchemaCheck.Document

def isYaml (u : Url) : Bool :=
  u.path.write.endsWith ".yaml" || u.path.write.endsWith ".yml"

def ofJson (u : Url) (text : Option String) : Except SchemaError Json :=
  match text.bind Json.parse? with
  | some j => .ok j
  | none => .error (.malformedJson u.write)

def ofYaml (u : Url) (text : Option String) : Except SchemaError Json :=
  match text.bind Yaml.Value.ofText? with
  | none => .error (.malformedYaml u.write none)
  | some v =>
    match v.toJson with
    | .ok j => .ok j
    | .error obstacle => .error (.malformedYaml u.write (some obstacle.message))

def decode (u : Url) (bytes : Utf8.Bytes) : Except SchemaError Json :=
  if isYaml u then ofYaml u (Utf8.decode? bytes) else ofJson u (Utf8.decode? bytes)

end SchemaCheck.Document
