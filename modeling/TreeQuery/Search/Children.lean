import TreeQuery.Search.Criterion

namespace TreeQuery.Store

def childNodes (st : Store) (v : Value) : List NodeView :=
  match st.node? v with
  | some n => (st.childrenOf n).filterMap st.view?
  | none => []

def wantedTag : Value → Except Fault String
  | .text s => .ok s
  | _ => .error (.wrongType "str")

/-- `collect_children_by_tag`. -/
def childrenTagged (st : Store) (tag v : Value) : Except Fault (List NodeView) := do
  if st.isNode v then
    let tag ← wantedTag tag
    allWhere (.tagged tag) (st.childNodes v)
  else return []

/-- `find_child_by_tag`. -/
def childTagged (st : Store) (tag v : Value) : Except Fault (Option NodeView) := do
  if st.isNode v then
    let tag ← wantedTag tag
    firstWhere (.tagged tag) (st.childNodes v)
  else return none

/-- `find_child_by_attr`. -/
def childWithAttr (st : Store) (name wanted v : Value) : Except Fault (Option NodeView) :=
  firstWhere (.attrIs st name wanted) (st.childNodes v)

def classKey : Value := .text "class"

def idKey : Value := .text "id"

def childWithClass (st : Store) (wanted v : Value) : Except Fault (Option NodeView) :=
  st.childWithAttr classKey wanted v

end TreeQuery.Store
