import TreeQuery.Node.Make

/-! Nodes from records: dictionaries with a tag, attributes and children. Records are copied. -/

namespace TreeQuery.Node

def tagKey : Value := .text "tag"
def attrsKey : Value := .text "attrs"
def childrenKey : Value := .text "_"

def checkEntry (e : Value × Value) : Eval Unit := do
  if !e.1.isText then
    let shown ← display e.1
    throw (.recordKey shown)
  if (attrText? e.2).isNone then
    let key ← display e.1
    let shown ← display e.2
    throw (.recordValue key shown)

def checkAttrs (attrs : Value) : Eval Entries := do
  match (← Eval.getStore).object? attrs with
  | some (.dict es) =>
    es.forM checkEntry
    return es
  | _ =>
    let shown ← display attrs
    throw (.recordAttrs shown)

def recordChild (below : Value → Eval Value) (v : Value) : Eval Value := do
  let st ← Eval.getStore
  if v.isText || st.isNode v then return v
  else match st.object? v with
    | some (.dict _) => below v
    | _ =>
      let shown ← display v
      throw (.recordChild shown)

def ofRecordWithin : Nat → Value → Eval Value
  | 0, _ => throw .tooDeep
  | fuel + 1, record => do
    let st ← Eval.getStore
    let tag ← st.item record tagKey
    let noAttrs ← Eval.alloc (.dict [])
    let attrs ← st.get record attrsKey noAttrs
    let noChildren ← Eval.alloc (.list [])
    let content ← st.get record childrenKey noChildren
    if !tag.isText then
      let shown ← display tag
      throw (.recordTag shown)
    let entries ← checkAttrs attrs
    let children ← Eval.visit content (recordChild (ofRecordWithin fuel))
    let copied ← Eval.alloc (.dict entries)
    let list ← Eval.newList children
    make ⟨tag, copied, [], .null, list, []⟩

/-- `from_raw`. -/
def ofRecord (record : Value) : Eval Value := do
  ofRecordWithin (← Eval.getStore).depth record

end TreeQuery.Node
