import SchemaCheck.Text.Record
import SchemaCheck.Validator

/-!
Short descriptions of resolvers, registries and validators for logs.
-/

namespace SchemaCheck

namespace Resolver

/-- The base of a resolver, whether it keeps ids, and the number of cached documents. -/
def summary (r : Resolver) (cache : Cache) : String :=
  Record.writePartly "Resolver"
    [("base_uri", Quoted.quote r.base.write), ("reset_uri", Record.boolean r.keepsIds),
      ("documents", toString cache.documents.length)]

end Resolver

namespace Registry

def summary (r : Registry) : String :=
  Record.write "Registry" [("keywords", Record.list (r.names.map Quoted.quote))]

end Registry

namespace Validator

def draftLabel : Draft → String
  | .draft3 => "Draft3"
  | .draft4 => "Draft4"

def summary (v : Validator) (memory : Memory) : String :=
  Record.writePartly "Validator"
    [("draft", draftLabel v.draft),
      ("config", Record.write "ValidatorConfig"
        [("ban_unknown_properties", Record.boolean v.config.bansUnknown)]),
      ("resolver", v.setting.resolver.summary memory.cache)]

end Validator

end SchemaCheck
