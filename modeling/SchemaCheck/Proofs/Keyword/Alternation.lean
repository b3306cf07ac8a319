import SchemaCheck.Proofs.Keyword.Merged
import SchemaCheck.Proofs.Regex.Alternation

/-!
The alternation of the patterns of all branches. The union check compiles the patterns joined by
bars, whereas the plain check compiles each one separately. For joinable patterns the results agree.
-/

namespace SchemaCheck.Ban

open Walk

variable {s t : WalkState} {patterns : List String}

end SchemaCheck.Ban
