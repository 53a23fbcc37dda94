import TreeQuery.Display.Words

/-! Trees on one line, and summaries of trees over several lines. -/

namespace TreeQuery

/-- How many levels of a tree to open. `endless` never runs out, and `unusable` cannot be counted
down. -/
inductive Levels
  | some (n : Int)
  | endless
  | unusable
  deriving DecidableEq, Repr

namespace Levels

def ofValue : Value → Levels
  | .int n => some n
  | .bool b => some (if b then 1 else 0)
  | .float x => (x.toInt?.map some).getD endless
  | _ => unusable

def isZero : Levels → Bool
  | some n => n == 0
  | _ => false

def next : Levels → Except Fault Levels
  | some n => .ok (some (n - 1))
  | endless => .ok endless
  | unusable => .error (.wrongType "int")

end Levels

def lineBreak (indent : Int) : String :=
  "\n" ++ String.ofList (List.replicate (2 * indent.toNat) ' ')

/-- An indentation has to be a machine number, and its spaces a text that there is room for. -/
def Display.checkIndent (room indent : Int) : Except Fault Unit :=
  if indent < -Int.pow 2 63 ∨ Int.pow 2 62 ≤ indent then .error .tooLarge
  else if room ≤ indent ∧ 0 < indent then .error .noMemory
  else .ok ()

theorem Display.checkIndent_zero (room : Int) : checkIndent room 0 = .ok () := by
  have usable : ¬ ((0 : Int) < -Int.pow 2 63 ∨ Int.pow 2 62 ≤ 0) := by decide
  rw [checkIndent, if_neg usable]
  simp

def Tree.line (render : Renderer) (t : Tree) : Eval String := do
  let attrs ← Display.attrWords render t.view.attrs
  let kids ← t.kids.words
  return "<" ++ t.view.tag ++ ":" ++ attrs ++ String.join kids ++ ">"

def Display.wordless : String := "<descend.node.Node object at ADDR>"

/-- The one-line form of a tree (`Node.__repr__`). A child without text to tell makes
it wordless. -/
def Tree.shown (render : Renderer) (t : Tree) : Eval String :=
  tryCatch (t.line render) fun fault =>
    if fault.kind = .noAttribute then return Display.wordless else throw fault

def Tree.opened (render : Renderer) (levels : Levels) (t : Tree) (below : Eval String) :
    Eval String := do
  if levels.isZero then t.shown render
  else
    let attrs ← Display.attrWords render t.view.attrs
    let kids ← below
    return "<" ++ t.view.tag ++ ":" ++ attrs ++ kids ++ ">"

/-- The summaries of children (`_summarize`), each on lines of its own. `levels` are those of the
node that holds them. -/
def Forest.summary (render : Renderer) (indent : String) (levels : Levels) :
    Forest → Eval String
  | .nil => return ""
  | .leaf v rest => do
    let shown ← render v
    return indent ++ shown ++ (← rest.summary render indent levels)
  | .node view kids rest => do
    let levels' ← levels.next
    let shown ← (Tree.mk view kids).opened render levels'
      (kids.summary render (indent ++ "  ") levels')
    return indent ++ shown ++ (← rest.summary render indent levels)

def Tree.summary (render : Renderer) (levels : Levels) (indent : Int) (t : Tree) : Eval String :=
  t.opened render levels (t.kids.summary render (lineBreak indent ++ "  ") levels)

end TreeQuery
