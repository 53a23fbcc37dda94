import TreeQuery.Text.Ranges

namespace TreeQuery

abbrev FileName := {name : String // '/' ∉ name.toList}

inductive Root
  | working
  | top
  | doubled
  deriving DecidableEq, Repr

def Root.text : Root → String
  | working => ""
  | top => "/"
  | doubled => "//"

/-- A path as `Path` keeps it: its components as they are written, `..` included. -/
structure Path where
  root : Root
  parts : List FileName
  deriving DecidableEq, Repr

namespace Path

def separator : Char := '/'
def here : String := "."
def above : String := ".."

def splitAt (separator : Char) : List Char → List (List Char)
  | [] => [[]]
  | c :: cs =>
    match splitAt separator cs with
    | [] => []
    | piece :: pieces =>
      if c = separator then [] :: piece :: pieces else (c :: piece) :: pieces

def rootOf : List Char → Root
  | '/' :: '/' :: '/' :: _ => .top
  | '/' :: '/' :: _ => .doubled
  | '/' :: _ => .top
  | _ => .working

def component? (piece : String) : Option FileName :=
  if plain : '/' ∉ piece.toList then
    if piece = "" ∨ piece = here then none else some ⟨piece, plain⟩
  else none

def ofString (s : String) : Path :=
  ⟨rootOf s.toList, (splitAt separator s.toList).filterMap fun piece =>
    component? (String.ofList piece)⟩

def names (p : Path) : List String := p.parts.map (·.1)

def toString (p : Path) : String :=
  if p.root = .working ∧ p.parts = [] then here else p.root.text ++ "/".intercalate p.names

/-- What paths are ordered by: a root counts as a component. -/
def key (p : Path) : List String := if p.root = .working then p.names else p.root.text :: p.names

def child (p : Path) (name : FileName) : Path := { p with parts := p.parts ++ [name] }

-- Texts are ordered by their characters.
def textLe (s t : String) : Bool := !List.lex t.toList s.toList fun c d => decide (c < d)

-- The first difference decides, and a beginning comes first.
def keyLe : List String → List String → Bool
  | [], _ => true
  | _ :: _, [] => false
  | s :: ss, t :: ts => if s = t then keyLe ss ts else textLe s t

def le (p q : Path) : Bool := keyLe p.key q.key

end Path

end TreeQuery
