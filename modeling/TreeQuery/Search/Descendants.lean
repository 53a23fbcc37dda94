import TreeQuery.Search.Children

/-! Searches through a whole tree, its own root first. Only nodes can be searched. -/

namespace TreeQuery

/-- The first node that meets a criterion: a node before its children, and these before its later
siblings. The search goes down child by child and stops where one is found. -/
def Forest.first (test : Criterion) : Forest → Except Fault (Option NodeView)
  | .nil => .ok none
  | .leaf _ rest => rest.first test
  | .node view kids rest => do
    if ← test view then return some view
    else match ← kids.first test with
      | some found => return some found
      | none => rest.first test

theorem Forest.first_eq_firstWhere (test : Criterion) (f : Forest) :
    f.first test = firstWhere test f.preorder := by
  induction f with
  | nil => rfl
  | leaf v rest ih => simpa [Forest.first, Forest.preorder] using ih
  | node view kids rest ihKids ihRest =>
    rw [Forest.preorder, firstWhere, firstWhere_append, ← ihKids, ← ihRest]
    rfl

def Tree.first (test : Criterion) (t : Tree) : Except Fault (Option NodeView) := do
  if ← test t.view then return some t.view
  else t.kids.first test

namespace Store

/-- `find_descendant_by_tag`. -/
def firstTagged (st : Store) (tag v : Value) : Except Fault (Option NodeView) := do
  let tag ← wantedTag tag
  let t ← st.tree v
  t.first (.tagged tag)

/-- `find_descendant_by_attr`. -/
def firstWithAttr (st : Store) (name wanted v : Value) : Except Fault (Option NodeView) := do
  let t ← st.tree v
  t.first (.attrIs st name wanted)

/-- `find_descendant_by_attr_match`. -/
def firstWithMatch (st : Store) (name pattern v : Value) : Except Fault (Option NodeView) := do
  let t ← st.tree v
  t.first (.attrMatches st name pattern)

def firstWithClass (st : Store) (wanted v : Value) : Except Fault (Option NodeView) :=
  st.firstWithAttr classKey wanted v

def firstWithClassMatch (st : Store) (pattern v : Value) : Except Fault (Option NodeView) :=
  st.firstWithMatch classKey pattern v

def firstWithId (st : Store) (wanted v : Value) : Except Fault (Option NodeView) :=
  st.firstWithAttr idKey wanted v

def firstWithIdMatch (st : Store) (pattern v : Value) : Except Fault (Option NodeView) :=
  st.firstWithMatch idKey pattern v

end Store

end TreeQuery
