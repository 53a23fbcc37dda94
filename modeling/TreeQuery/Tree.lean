import TreeQuery.Fault
import TreeQuery.Store

/-! Trees as they stand in a store at one moment: node, tag, attributes and children in order. -/

namespace TreeQuery

structure NodeView where
  id : Addr
  tag : String
  attrs : Entries
  deriving DecidableEq, Repr

/-- The children of a node in order: nodes with their own children, and leaves, which are texts
or whatever else has been put among the children. -/
inductive Forest
  | nil
  | leaf (value : Value) (rest : Forest)
  | node (view : NodeView) (kids rest : Forest)
  deriving DecidableEq, Repr

structure Tree where
  view : NodeView
  kids : Forest
  deriving DecidableEq, Repr

namespace Forest

def preorder : Forest → List NodeView
  | nil => []
  | leaf _ rest => rest.preorder
  | node view kids rest => view :: (kids.preorder ++ rest.preorder)

def texts : Forest → Except Fault (List String)
  | nil => .ok []
  | leaf (.text s) rest => do return s :: (← rest.texts)
  | leaf _ _ => .error (.noAttribute "texts")
  | node _ kids rest => do
    let inner ← kids.texts
    return inner ++ (← rest.texts)

def roots : Forest → List NodeView
  | nil => []
  | leaf _ rest => rest.roots
  | node view _ rest => view :: rest.roots

def height : Forest → Nat
  | nil => 0
  | leaf _ rest => rest.height
  | node _ kids rest => max (kids.height + 1) rest.height

def placesFrom (above : List Nat) : Nat → Forest → List (Addr × List Nat)
  | _, nil => []
  | i, leaf _ rest => placesFrom above (i + 1) rest
  | i, node view kids rest =>
    let place := above ++ [i]
    (view.id, place) :: (placesFrom place 0 kids ++ placesFrom above (i + 1) rest)

end Forest

namespace Tree

def preorder (t : Tree) : List NodeView := t.view :: t.kids.preorder

def texts (t : Tree) : Except Fault (List String) := t.kids.texts

def text (t : Tree) : Except Fault String := do return String.join (← t.texts)

def places (t : Tree) : List (Addr × List Nat) := (t.view.id, []) :: t.kids.placesFrom [] 0

end Tree

namespace Store

def viewOf (st : Store) (a : Addr) (n : Node) : NodeView := ⟨a, n.tag, st.attrEntries n.attrs⟩

def view? (st : Store) : Value → Option NodeView
  | .ref a => (st.node? (.ref a)).map (st.viewOf a)
  | _ => none

def childrenOf (st : Store) (n : Node) : List Value := st.members n.children

def forestBy (st : Store) (below : List Value → Option Forest) : List Value → Option Forest
  | [] => some .nil
  | v :: vs =>
    match st.node? v, st.view? v with
    | some n, some view => do
      let kids ← below (st.childrenOf n)
      return .node view kids (← st.forestBy below vs)
    | _, _ => do return .leaf v (← st.forestBy below vs)

def forestWithin (st : Store) : Nat → List Value → Option Forest
  | 0 => st.forestBy fun _ => none
  | fuel + 1 => st.forestBy (st.forestWithin fuel)

/-- The tree under a node. A node that is reached from itself has none. -/
def tree (st : Store) (v : Value) : Except Fault Tree :=
  match st.node? v, st.view? v with
  | some n, some view =>
    match st.forestWithin st.depth (st.childrenOf n) with
    | some kids => .ok ⟨view, kids⟩
    | none => .error .tooDeep
  | _, _ => .error (.noAttribute "tag")

end Store

end TreeQuery
