import FilterPipeline.Text.Digit
import FilterPipeline.Text.Letter

/-!
Shapes of text. A shape lists the ways in which it fits the front of a text, each as the
part it takes and the rest, in the order of preference.
-/

namespace FilterPipeline

abbrev Shape := List Char → List (List Char × List Char)

namespace Shape

/-- Takes nothing. -/
def skip : Shape := fun cs => [([], cs)]

/-- Takes one character of a class. -/
def one (p : Char → Bool) : Shape
  | [] => []
  | c :: cs => if p c then [([c], cs)] else []

def followedBy (a b : Shape) : Shape := fun cs =>
  (a cs).flatMap fun (taken, rest) => (b rest).map fun (more, rest) => (taken ++ more, rest)

/-- Fits as the first shape, or else as the second. -/
def orElse (a b : Shape) : Shape := fun cs => a cs ++ b cs

def anyOf : List Shape → Shape
  | [] => fun _ => []
  | a :: shapes => a.orElse (anyOf shapes)

def optional (a : Shape) : Shape := a.orElse skip

/-- Takes characters of a class one after the other. -/
def inTurn : List (Char → Bool) → Shape
  | [] => skip
  | p :: ps => (one p).followedBy (inTurn ps)

/-- Takes up to `limit` characters of a class, preferably many. -/
def upTo : Nat → (Char → Bool) → Shape
  | 0, _ => skip
  | limit + 1, p => optional ((one p).followedBy (upTo limit p))

/-- Takes characters of a class, at least one and preferably many. -/
def run (p : Char → Bool) : Shape := fun cs => (one p).followedBy (upTo cs.length p) cs

/-- Takes a word without regard to case. -/
def word (w : List Char) : Shape := inTurn (w.map sameLetterAs)
where
  sameLetterAs (a b : Char) : Bool := Text.sameLetter a b

end Shape

/-- A decimal digit of any script. -/
def anyDigit (c : Char) : Bool := (Text.digit? c).isSome

def charRange (first last c : Char) : Bool := first ≤ c && c ≤ last

end FilterPipeline
