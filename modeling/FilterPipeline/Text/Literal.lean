/-!
Literal patterns. A text is turned into a search pattern by setting a backslash before
every character that a pattern language might give a meaning to.
-/

namespace FilterPipeline.Text

/-- The characters that are never left bare in a pattern. -/
def patternMarks : List Char :=
  ['\t', '\n', '\x0b', '\x0c', '\r', ' ', '#', '$', '&', '(', ')', '*', '+', '-', '.', '?',
    '[', '\\', ']', '^', '\x7b', '|', '\x7d', '~']

def literal : List Char → List Char
  | [] => []
  | c :: cs => if c ∈ patternMarks then '\\' :: c :: literal cs else c :: literal cs

end FilterPipeline.Text
