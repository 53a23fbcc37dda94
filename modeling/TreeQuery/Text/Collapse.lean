namespace TreeQuery.Text

def isMarkupSpace (c : Char) : Bool :=
  c = ' ' || c = '\n' || c = '\t' || c = '\r' || c = '\x0c'

def runMark (c : Char) : Option Char → Char
  | some '\n' => '\n'
  | _ => if c = '\n' then '\n' else ' '

/-- `pending` is the mark of the run that the text so far ends with. -/
def collapseFrom (pending : Option Char) : List Char → List Char
  | [] => pending.toList
  | c :: cs =>
    if isMarkupSpace c then collapseFrom (some (runMark c pending)) cs
    else pending.toList ++ c :: collapseFrom none cs

def collapse (cs : List Char) : List Char := collapseFrom none cs

end TreeQuery.Text
