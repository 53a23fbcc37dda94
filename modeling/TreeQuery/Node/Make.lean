import TreeQuery.Display.Value

/-! Making nodes. What is given may be the live attributes and children of other nodes; these are
taken over and changed in place, also if making the node then fails. -/

namespace TreeQuery.Node

/-- What a node is made of. `attrs` is nothing or a dictionary; `named` are further attributes,
`className` the class if it is given, `content` the children and `more` children to add. -/
structure Parts where
  tag : Value
  attrs : Value := .null
  named : Keywords := []
  className : Value := .null
  content : Value
  more : List Value := []

def attrName (name : String) : String := name.map fun c => if c = '_' then '-' else c

def classAttr : Value := .text "class"

def attrText? (v : Value) : Option Value :=
  match v with
  | .text s => some (.text s)
  | v => v.numberText?.map .text

def child? (st : Store) (v : Value) : Option Value := if st.isNode v then some v else attrText? v

/-- Replaces items until one cannot be, which is given too. -/
def replaceUntil {α : Type} (f : α → Option α) : List α → List α × Option α
  | [] => ([], none)
  | x :: xs =>
    match f x with
    | none => (x :: xs, some x)
    | some y =>
      let (ys, stuck) := replaceUntil f xs
      (y :: ys, stuck)

def checkTag (st : Store) (tag : Value) : Except Fault String :=
  if !st.truthy tag then .error .emptyTag
  else match tag with
    | .text s => .ok s
    | _ => .error (.wrongType "str")

-- A value that is not equal to itself differs from itself.
def differs (st : Store) (v w : Value) : Bool := !st.equal v w

def getOrPut (dict key v : Value) : Eval Value := do
  let st ← Eval.getStore
  match st.object? dict with
  | some (.dict es) =>
    match st.find? es key with
    | some present => return present
    | none =>
      Eval.setItem dict key v
      return v
  | _ => throw (.noAttribute "setdefault")

/-- Sets the class, unless there is one, which then must not differ. -/
def addClass (attrs cl : Value) : Eval Unit := do
  let present ← getOrPut attrs classAttr cl
  if differs (← Eval.getStore) cl present then
    let shown ← display present
    let given ← display cl
    throw (.classConflict shown given)

def refuseAttr (e : Value × Value) : Eval Unit := do
  let key ← display e.1
  let kind := (← Eval.getStore).shownKind e.2
  let shown ← Display.abbreviated Display.usualLimit e.2
  throw (.attrValue key kind (Text.quote shown))

def settleDict (a : Addr) (es : Entries) : Eval Unit := do
  let (settled, stuck) := replaceUntil (fun e => (attrText? e.2).map fun v => (e.1, v)) es
  Eval.write a (.dict settled)
  stuck.forM refuseAttr

/-- The attributes of an element have to be texts: it cannot take others by name. -/
def settleEntry (a : Addr) (e : Value × Value) : Eval Unit := do
  if !e.2.isText then
    match attrText? e.2 with
    | some v => Eval.setItem (.ref a) e.1 v
    | none => refuseAttr e

def settleAttrs (attrs : Value) : Eval Addr := do
  let st ← Eval.getStore
  match attrs, st.object? attrs with
  | .ref a, some (.dict es) =>
    settleDict a es
    return a
  | .ref a, some (.element e) =>
    (st.entries e.attrs).forM (settleEntry a)
    return a
  | _, _ => throw (.noAttribute "items")

def childList (content : Value) : Eval Addr := do
  let st ← Eval.getStore
  if (child? st content).isSome then Eval.allocAt (.list [content])
  else match content, st.object? content with
    -- The list itself is taken over, whosever it is.
    | .ref a, some (.list _) => return a
    | _, _ => Eval.allocAt (.list (← Eval.items content))

def addChildren (a : Addr) (more : List Value) : Eval Unit := do
  Eval.write a (.list ((← Eval.getStore).members a ++ more))

def settleChildren (a : Addr) : Eval Unit := do
  let st ← Eval.getStore
  let (settled, stuck) := replaceUntil (child? st) (st.members a)
  Eval.write a (.list settled)
  match stuck with
  | none => return ()
  | some v =>
    let kind := (← Eval.getStore).shownKind v
    let shown ← Display.abbreviated Display.usualLimit v
    throw (.childValue kind (Text.quote shown))

/-- `Node.__init__`. Named attributes replace those of the same name. -/
def make (parts : Parts) : Eval Value := do
  -- What has been written before something is refused stays written.
  let tag ← checkTag (← Eval.getStore) parts.tag
  let attrs ← if parts.attrs = .null then Eval.alloc (.dict []) else pure parts.attrs
  parts.named.forM fun given => Eval.setItem attrs (.text (attrName given.1)) given.2
  if parts.className ≠ .null then
    addClass attrs parts.className
  let attrs ← settleAttrs attrs
  let children ← childList parts.content
  addChildren children parts.more
  settleChildren children
  Eval.alloc (.node ⟨tag, attrs, children⟩)

end TreeQuery.Node
