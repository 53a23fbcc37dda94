import TreeQuery.Sequence
import TreeQuery.Text.Collapse
import TreeQuery.Text.Cut
import TreeQuery.Text.Word

/-! The words of a node's one-line form: one for each attribute and one for each child. -/

namespace TreeQuery

/-- Shows a value. Going over the items of a query's steps is part of showing it, so this can
change the session, or stop. -/
abbrev Renderer := Value → Eval String

namespace Display

def wordLimit : Value := .int 32

def cutTo (limit : Value) (shown : String) : Except Fault String :=
  match limit with
  | .int n => .ok (Text.cut n shown)
  | .bool b => .ok (Text.cut (if b then 1 else 0) shown)
  | .float x =>
    if x.exceeds 2 && x.isBelow shown.length then .error (.wrongType "int") else .ok shown
  | _ => .error (.wrongType "int")

def nameText (name : String) : String :=
  if Text.isPlainName name.toList then name else Text.quote name

/-- `attr_summary`. -/
def attrWord (render : Renderer) (limit name v : Value) : Eval String := do
  match name with
  | .text s =>
    let shown ← cutTo limit (← render v)
    return " " ++ nameText s ++ "=" ++ shown
  | _ => throw (.wrongType "str")

def attrWords (render : Renderer) (attrs : Entries) : Eval String := do
  return String.join (← attrs.mapM fun e => attrWord render wordLimit e.1 e.2)

def collapsed (s : String) : String := String.ofList (Text.collapse s.toList)

def leafWord (limit v : Value) : Except Fault String := do
  match v with
  | .text s => return " " ++ (← cutTo limit (Text.quote (collapsed s)))
  | _ => throw (.wrongType "str")

/-- A child node is told by its tag, and by the text under it if that is not blank. -/
def nodeWord (limit : Value) (tag : String) (kids : Forest) : Except Fault String := do
  let inner := Text.trim (collapsed (String.join (← kids.texts)))
  if inner.isEmpty then return " " ++ tag
  else return " " ++ tag ++ ":" ++ (← cutTo limit (Text.quote inner))

/-- `child_summary`. -/
def childWord (st : Store) (limit v : Value) : Except Fault String := do
  if st.isNode v then
    let t ← st.tree v
    nodeWord limit t.view.tag t.kids
  else leafWord limit v

end Display

namespace Forest

def words : Forest → Except Fault (List String)
  | nil => return []
  | leaf v rest => do
    let word ← Display.leafWord Display.wordLimit v
    return word :: (← rest.words)
  | node view kids rest => do
    let word ← Display.nodeWord Display.wordLimit view.tag kids
    return word :: (← rest.words)

end Forest

end TreeQuery
