import TreeQuery.Node.Make

/-! Nodes from the elements of a markup document. -/

namespace TreeQuery.Node

def elementTag : ElementTag → Value
  | .named tag => tag
  | .comment => .text "!COMMENT"
  | .instruction => .text "!PI"

def textChild (st : Store) (v : Value) : List Value := if st.truthy v then [v] else []

def tailOf (st : Store) (a : Addr) : List Value :=
  match st.read? a with
  | some (.element e) => textChild st e.tail
  | _ => []

def elementChildren (below : Value → Eval Value) : List Addr → Eval (List Value)
  | [] => return []
  | a :: rest => do
    let child ← below (.ref a)
    let tail := tailOf (← Eval.getStore) a
    return child :: (tail ++ (← elementChildren below rest))

def ofElementWithin : Nat → Value → Eval Value
  | 0, _ => throw .tooDeep
  | fuel + 1, v => do
    let st ← Eval.getStore
    match st.object? v with
    | some (.element e) =>
      let children ← elementChildren (ofElementWithin fuel) e.children
      let copied ← Eval.alloc (.dict (st.entries e.attrs))
      let list ← Eval.newList (textChild st e.text ++ children)
      make ⟨elementTag e.tag, copied, [], .null, list, []⟩
    | _ => throw (.noAttribute "attrib")

/-- `from_etree`: the text of an element comes first, then its children, each with its tail. Its own
tail is left out. -/
def ofElement (v : Value) : Eval Value := do
  ofElementWithin (← Eval.getStore).depth v

end TreeQuery.Node
