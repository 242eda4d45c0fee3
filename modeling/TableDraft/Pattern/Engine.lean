import TableDraft.Pattern.Reader
import TableDraft.Typing.Rule

/-!
# The project's own engine for patterns

The engine that the program runs with reads keywords as `ofText?` does. It knows the names of fewer
Unicode properties than there are, and takes the size of a pattern roughly; what is said about types
elsewhere holds for any other engine too.
-/

namespace TableDraft.Pattern

/-- Patterns as this project reads them. -/
instance engine : PatternEngine where
  search? keyword := (ofText? { ignoreCase := true } keyword.toList).map fun p text => p.occursIn text.toList

end TableDraft.Pattern
