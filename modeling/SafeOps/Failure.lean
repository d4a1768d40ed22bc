/-!
# `SafeOps.Failure`: failures of unknown kind in words

A failure that none of the library's errors describes comes as a text for what failed and
texts for what caused it, the nearest cause first.
-/

set_option autoImplicit false

namespace SafeOps.Failure

/-- What failed, with its causes in parentheses if there are any. -/
def describe (what : String) (causes : List String) : String :=
  if causes.isEmpty then what
  else what ++ " (caused by: " ++ String.intercalate " -> " causes ++ ")"

end SafeOps.Failure
