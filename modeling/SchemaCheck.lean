import SchemaCheck.Summary
import SchemaCheck.Proofs.Json.Ordered
import SchemaCheck.Proofs.Registry
import SchemaCheck.Proofs.Walk.Result
import SchemaCheck.Proofs.Violation.Traced
import SchemaCheck.Proofs.Violation.Keyword
import SchemaCheck.Proofs.Validator.History
import SchemaCheck.Proofs.Violation.Origin
import SchemaCheck.Proofs.Violation.Node
import SchemaCheck.Proofs.Violation.Cited
import SchemaCheck.Proofs.Violation.Located
import SchemaCheck.Proofs.Keyword.Reach
import SchemaCheck.Proofs.Walk.Effect
import SchemaCheck.Proofs.Visit.Reach
import SchemaCheck.Proofs.Json.Exact
import SchemaCheck.Proofs.Keyword.Rank
import SchemaCheck.Proofs.Meaning.Clause
import SchemaCheck.Proofs.Visit.Effect
import SchemaCheck.Proofs.Meaning.Holds
import SchemaCheck.Proofs.Meaning.Keyword
import SchemaCheck.Proofs.Meaning.Verdict
import SchemaCheck.Proofs.Meaning.Draft3
import SchemaCheck.Proofs.Url.Host
import SchemaCheck.Proofs.Url.Parser
import SchemaCheck.Proofs.Visit.Link
import SchemaCheck.Proofs.Resolver.Horizon
import SchemaCheck.Proofs.Visit.Termination
import SchemaCheck.Proofs.Validator.Termination
import SchemaCheck.Proofs.Resolver.Sound
import SchemaCheck.Proofs.Visit.Reachable
import SchemaCheck.Proofs.Visit.Circle
import SchemaCheck.Proofs.Validator.Circle
import SchemaCheck.Proofs.Walk.Client
import SchemaCheck.Proofs.Visit.Restored
import SchemaCheck.Proofs.Visit.Independence
import SchemaCheck.Proofs.Validator.Independence
import SchemaCheck.Proofs.Resolver.Uncached
import SchemaCheck.Proofs.Resolver.History
import SchemaCheck.Proofs.Validator.Requests
import SchemaCheck.Proofs.Url.Bare
import SchemaCheck.Proofs.Visit.Home
import SchemaCheck.Proofs.Validator.Home
import SchemaCheck.Proofs.Visit.Entry
import SchemaCheck.Proofs.Validator.Entry
import SchemaCheck.Proofs.Resolver.SelfContained
import SchemaCheck.Proofs.Visit.SelfContained
import SchemaCheck.Proofs.Validator.SelfContained
import SchemaCheck.Proofs.Keyword.Union
import SchemaCheck.Proofs.Validator.Union
import SchemaCheck.Proofs.Keyword.Inline
import SchemaCheck.Proofs.Keyword.Mirror
import SchemaCheck.Proofs.Visit.Course
import SchemaCheck.Proofs.Visit.Plain
import SchemaCheck.Proofs.Validator.Plain
import SchemaCheck.Proofs.Validator.Inline
import SchemaCheck.Proofs.Keyword.Manner
import SchemaCheck.Proofs.Visit.Trail
import SchemaCheck.Proofs.Validator.Trail
import SchemaCheck.Proofs.Visit.Relief
import SchemaCheck.Proofs.Validator.Relief
import SchemaCheck.Proofs.Keyword.Merged
import SchemaCheck.Proofs.Resolver.Pointer
import SchemaCheck.Proofs.Visit.Reference
import SchemaCheck.Proofs.Validator.Annotation
import SchemaCheck.Proofs.Validator.Relax
import SchemaCheck.Proofs.Validator.Overflow
import SchemaCheck.Proofs.Keyword.Unknown
import SchemaCheck.Proofs.Validator.Unknown
import SchemaCheck.Proofs.Validator.Followed
import SchemaCheck.Proofs.Keyword.Alternation
import SchemaCheck.Proofs.Keyword.Bounds
import SchemaCheck.Proofs.Keyword.Multiple
import SchemaCheck.Proofs.Keyword.Equality
import SchemaCheck.Proofs.Validator.Order
import SchemaCheck.Proofs.Keyword.Limit
import SchemaCheck.Proofs.Yaml.Entries
