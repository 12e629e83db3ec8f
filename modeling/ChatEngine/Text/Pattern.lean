import ChatEngine.Text.Char

/-!
# Search patterns

Search patterns. A pattern matches at the start of a text in possibly several ways; what each way
leaves over is listed in order of preference, and the first way counts. Searching goes from left
to right, and replacing goes on after the text replaced.
-/
namespace ChatEngine.Text

/-- A pattern for the start of a text. -/
inductive Pattern where
  /-- Nothing at all. -/
  | done
  /-- One character of a class. -/
  | one (test : Char → Bool)
  /-- At least so many characters of a class, as many as possible. -/
  | many (test : Char → Bool) (atLeast : Nat)
  /-- One pattern and then another. -/
  | seq (first second : Pattern)
  /-- One pattern or else another. -/
  | alt (first second : Pattern)

namespace Pattern

/-- What runs of a class's characters leave over, the longest run first; `shorter` is what shorter
runs leave. -/
def runRests (test : Char → Bool) (shorter : List (List Char)) :
    (atLeast : Nat) → List Char → List (List Char)
  | 0, [] => [] :: shorter
  | _ + 1, [] => shorter
  | 0, c :: cs =>
    if test c then runRests test ((c :: cs) :: shorter) 0 cs else (c :: cs) :: shorter
  | n + 1, c :: cs => if test c then runRests test shorter n cs else shorter

/-- What the ways to match leave over, the preferred way first. -/
def rests : Pattern → List Char → List (List Char)
  | done, cs => [cs]
  | one _, [] => []
  | one test, c :: cs => if test c then [cs] else []
  | many test n, cs => runRests test [] n cs
  | seq p q, cs => (p.rests cs).flatMap q.rests
  | alt p q, cs => p.rests cs ++ q.rests cs

def rest? (p : Pattern) (cs : List Char) : Option (List Char) := (p.rests cs).head?

def occurs (p : Pattern) : List Char → Bool
  | [] => (p.rest? []).isSome
  | c :: cs => (p.rest? (c :: cs)).isSome || p.occurs cs

/-- Replaces every match; the new text is made from the text matched. -/
def replace (p : Pattern) (make : List Char → List Char) : List Char → List Char
  | [] => match p.rest? [] with
    | some _ => make []
    | none => []
  | c :: cs => match p.rest? (c :: cs) with
    | none => c :: p.replace make cs
    | some rest =>
      if rest.length < (c :: cs).length then
        make ((c :: cs).take ((c :: cs).length - rest.length)) ++ p.replace make rest
      else make [] ++ c :: p.replace make cs
termination_by cs => cs.length
decreasing_by all_goals simp only [List.length_cons] at *; omega

def literal : List Char → Pattern
  | [] => done
  | c :: cs => seq (one (· == c)) (literal cs)

def letters : List Char → Pattern
  | [] => done
  | c :: cs => seq (one (sameLetter c)) (letters cs)

def anyOf : List Pattern → Pattern
  | [] => many (fun _ => false) 1
  | [p] => p
  | p :: ps => alt p (anyOf ps)

def inOrder : List Pattern → Pattern
  | [] => done
  | p :: ps => seq p (inOrder ps)

def optional (p : Pattern) : Pattern := alt p done

end Pattern

end ChatEngine.Text
