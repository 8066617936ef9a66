import ModelImport.Error
import ModelImport.Text.Blank
import ModelImport.Text.Quoted
/-!
# Einsum equations

An equation lists one term of labels for each operand, separated by commas, and may give the term of the result after
an arrow. A label is a letter or an ellipsis, and a term has at most one ellipsis. White space does not count. Without
an arrow the result has the ellipsis, if there is one, and then the letters that occur once, in alphabetical order.
-/

namespace ModelImport.Einsum

inductive Label where
  | ellipsis
  | letter (c : Char)
deriving DecidableEq, Repr, Inhabited

abbrev Term := List Label

structure Equation where
  inputs : List Term
  output : Term
deriving DecidableEq, Repr, Inhabited

def invalid {α : Type} (reason : String) : Except ImportError α := .error (.invalidAttribute "equation" reason)

/-- The letters from `A` to `Z` and from `a` to `z`, in increasing order. -/
def alphabet : List Char := "ABCDEFGHIJKLMNOPQRSTUVWXYZabcdefghijklmnopqrstuvwxyz".toList

/-- The letter of a label. -/
def Label.letter? : Label → Option Char
  | ellipsis => none
  | letter c => some c

/-- The letters of a term, in order. -/
def letters (term : Term) : List Char := term.filterMap Label.letter?

/-- The labels of the rest of a term; `term` is all of it, and `seen` says that its ellipsis came before. -/
def parseLabels (term : List Char) : (seen : Bool) → List Char → Except ImportError Term
  | _, [] => .ok []
  | seen, '.' :: '.' :: '.' :: rest =>
    if seen then invalid s!"term {Text.quoted (String.ofList term)} has more than one ellipsis"
    else return .ellipsis :: (← parseLabels term true rest)
  | seen, c :: rest =>
    if c ∈ alphabet then return .letter c :: (← parseLabels term seen rest)
    else invalid s!"unexpected {Text.quotedChar c} in term {Text.quoted (String.ofList term)}"

def parseTerm (term : List Char) : Except ImportError Term := parseLabels term false term

/-- The text before the first arrow and, if there is one, the text after it. -/
def splitArrow : List Char → List Char × Option (List Char)
  | [] => ([], none)
  | '-' :: '>' :: rest => ([], some rest)
  | c :: rest => (c :: (splitArrow rest).1, (splitArrow rest).2)

/-- The pieces between commas, at least one. -/
def splitCommas : List Char → List (List Char)
  | [] => [[]]
  | c :: rest =>
    let pieces := splitCommas rest
    if c = ',' then [] :: pieces else (c :: pieces.headD []) :: pieces.tail

/-- The result of an equation that does not give it. -/
def implicitOutput (inputs : List Term) : Term :=
  let ellipsis := if inputs.any (·.contains .ellipsis) then [Label.ellipsis] else []
  let all := inputs.flatMap letters
  ellipsis ++ (alphabet.filter fun c => all.count c == 1).map .letter

/-- The equation without its white space. -/
def squeeze (text : String) : List Char := text.toList.filter fun c => !Text.isBlank c

/-- Reads an equation. -/
def parse (text : String) : Except ImportError Equation := do
  let (lhs, rhs) := splitArrow (squeeze text)
  let inputs ← (splitCommas lhs).mapM parseTerm
  match rhs with
  | some rhs => return ⟨inputs, ← parseTerm rhs⟩
  | none => return ⟨inputs, implicitOutput inputs⟩

end ModelImport.Einsum
