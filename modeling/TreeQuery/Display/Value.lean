import TreeQuery.Display.Kind
import TreeQuery.Display.Query
import TreeQuery.Display.Summary

/-! Values as they are shown, and as they are written where a text is wanted. -/

namespace TreeQuery

namespace Display

def anonymous (kind : String) : String := "<" ++ kind ++ " object at ADDR>"

def ofFunction : Function → String
  | .node => "<class 'descend.node.Node'>"
  | .query => "<class 'descend.compose.Descent'>"
  | .nodeOfRecord => "<bound method Node.from_raw of <class 'descend.node.Node'>>"
  | .nodeOfElement => "<bound method Node.from_etree of <class 'descend.node.Node'>>"
  | f => "<function " ++ f.qualifiedName ++ " at ADDR>"

def flagName? : Char → Option String
  | 't' => some "re.TEMPLATE"
  | 'i' => some "re.IGNORECASE"
  | 'L' => some "re.LOCALE"
  | 'm' => some "re.MULTILINE"
  | 's' => some "re.DOTALL"
  | 'x' => some "re.VERBOSE"
  | 'a' => some "re.ASCII"
  | _ => none

def ofPattern (p : Pattern) : String :=
  let source := match p.source with
    | .text s => Text.quote s
    | .bytes b => Text.quoteBytes b
  let flags := p.flags.toLetters.filterMap flagName?
  "re.compile(" ++ String.ofList (source.toList.take 200) ++
    (if flags.isEmpty then "" else ", " ++ "|".intercalate flags) ++ ")"

def ofClosure (name? : Option String) : Closure → String
  | .disguised shown _ => shown
  | _ => "<function " ++ name?.getD "" ++ " at ADDR>"

def tupled (render : Renderer) (vs : List Value) : Eval String := do
  match vs with
  | [v] =>
    let shown ← render v
    return "(" ++ shown ++ ",)"
  | _ => return "(" ++ ", ".intercalate (← vs.mapM render) ++ ")"

def ofEntries (render : Renderer) (es : Entries) : Eval String := do
  let shown ← es.mapM fun e => do
    let key ← render e.1
    let value ← render e.2
    return key ++ ": " ++ value
  return "\x7b" ++ ", ".intercalate shown ++ "\x7d"

def ofError (render : Renderer) (kind : ErrorClass) (args : List Value) : Eval String := do
  match args with
  | [v] =>
    let shown ← render v
    return kind.name ++ "(" ++ shown ++ ")"
  | _ => return kind.name ++ (← tupled render args)

def ofElementTag (render : Renderer) : ElementTag → Eval String
  | .named tag => render tag
  | .comment => return "<function Comment at ADDR>"
  | .instruction => return "<function ProcessingInstruction at ADDR>"

def ofStep (render : Renderer) : Step → Eval String
  | .scalar attr v => do
    let attr ← render attr
    let shown ← render v
    return "ScalarStep(attr=" ++ attr ++ ", value=" ++ shown ++ ")"
  | .branch attr form => do
    let attr ← render attr
    let shown ← render form
    return "BranchStep(attr=" ++ attr ++ ", form=" ++ shown ++ ")"

def messageOf (render plain : Renderer) (kind : ErrorClass) (args : List Value) : Eval String := do
  match args with
  | [] => return ""
  | [v] => if kind.isA .key then render v else plain v
  | _ => tupled render args

/-- The written form of a value: texts as they are, errors by their message, and all else as it is
shown. -/
def plainWithin (render : Renderer) : Nat → Renderer
  | 0, v => render v
  | fuel + 1, v => do
    match v with
    | .text s => return s
    | _ =>
      match (← Eval.getStore).object? v with
      | some (.error kind args) => messageOf render (plainWithin render fuel) kind args
      | _ => render v

def ofObject (render : Renderer) (v : Value) : Object → Eval String
  | .tuple vs => tupled render vs
  | .list vs => listed render vs
  | .dict es => ofEntries render es
  | .node _ => do
    let t ← (← Eval.getStore).tree v
    t.shown render
  | .step s => ofStep render s
  | .query q => do
    let st ← Eval.getStore
    let plain := plainWithin render st.depth
    let expression ← plain (← expression render plain q.steps rootName)
    return "Descent(" ++ expression ++ ")"
  | .iterator _ => return anonymous "list_iterator"
  | .element e => do
    let tag ← ofElementTag render e.tag
    return "<Element " ++ tag ++ " at ADDR>"
  | .chooser _ => return anonymous "Chooser"
  | .error kind args => ofError render kind args
  | .pattern p => return ofPattern p
  | .closure c => do
    return ofClosure (ownName? (← Eval.getStore) v) c

def reopened? : Object → Option String
  | .tuple _ => some "(...)"
  | .list _ => some "[...]"
  | .dict _ => some "\x7b...\x7d"
  | _ => none

/-- Shows a value inside the containers whose addresses are `opened`. -/
def valueWithin : Nat → List Addr → Renderer
  | _, _, .null => return "None"
  | _, _, .bool b => return if b then "True" else "False"
  | _, _, .int n => return toString n
  | _, _, .float x => return x.toText
  | _, _, .text s => return Text.quote s
  | _, _, .bytes b => return Text.quoteBytes b
  | _, _, .function f => return ofFunction f
  | _, _, .errorClass c => return "<class '" ++ c.fullName ++ "'>"
  | 0, _, .ref _ => throw .tooDeep
  | fuel + 1, opened, .ref a => do
    match (← Eval.getStore).read? a with
    | none => throw .tooDeep
    | some o =>
      match reopened? o with
      | none => ofObject (valueWithin fuel opened) (.ref a) o
      | some again =>
        if opened.contains a then return again
        else ofObject (valueWithin fuel (a :: opened)) (.ref a) o

end Display

def Display.deepest : Nat := 1000

def display : Renderer := Display.valueWithin Display.deepest []

def plain : Renderer := fun v => do
  let st ← Eval.getStore
  Display.plainWithin display st.depth v

namespace Display

/-- `repr_lim`. -/
def abbreviated (limit v : Value) : Eval String := do
  let shown ← display v
  cutTo limit shown

def usualLimit : Value := .int 64

end Display

end TreeQuery
