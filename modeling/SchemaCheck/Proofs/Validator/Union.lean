import SchemaCheck.Proofs.Validator.Independence
import SchemaCheck.Proofs.Visit.Union

/-!
Nodes that combine branches under the ban, in validations of the fourth draft. A name is declared if
one of the branches of a combinator declares it, and each combinator reports the undeclared names
once.
-/

namespace SchemaCheck

end SchemaCheck
