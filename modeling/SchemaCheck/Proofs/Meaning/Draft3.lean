import SchemaCheck.Proofs.Meaning.Verdict

/-!
The verdict in the third draft. The keywords `type` and `disallow` refer to each other: `disallow`
tries each of its types in a schema that is built around it, and this schema holds of the values
that are of the type.
-/

namespace SchemaCheck

open Walk

namespace Keyword.Draft3

variable {w : Walker} {holds : Json → Json → Prop} {declared : Json} {siblings : Json.Members}
  {subject : Subject}

end Keyword.Draft3

namespace Vocabulary

end Vocabulary

end SchemaCheck
