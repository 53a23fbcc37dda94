import TreeQuery.Session
import TreeQuery.Store.Equality
import TreeQuery.Text.Blank
import TreeQuery.Tree

namespace TreeQuery

namespace Store

def items? (st : Store) : Value → Option (List Value)
  | .text s => some (s.toList.map fun c => .text (String.singleton c))
  | .bytes b => some (b.map fun x => .int x.toNat)
  | .ref a =>
    match st.read? a with
    | some (.tuple vs) | some (.list vs) | some (.iterator vs) => some vs
    | some (.step s) => some s.toList
    | some (.dict es) => some (es.map (·.1))
    | some (.node n) => some (st.childrenOf n)
    | some (.element e) => some (e.children.map .ref)
    | _ => none
  | _ => none

def position? (length : Nat) (i : Int) : Option Nat :=
  let i := if i < 0 then i + length else i
  if 0 ≤ i ∧ i < length then some i.toNat else none

def index? : Value → Option Int
  | .int n => some n
  | .bool b => some (if b then 1 else 0)
  | _ => none

def itemAt (vs : List Value) (key : Value) : Except Fault Value :=
  match index? key with
  | none => .error .notIndexable
  | some i =>
    match (position? vs.length i).bind (vs[·]?) with
    | some v => .ok v
    | none => .error .outOfRange

def lookUp (st : Store) (es : Entries) (key : Value) : Except Fault (Option Value) := do
  st.checkKey key
  return st.find? es key

def entryAt (st : Store) (es : Entries) (key : Value) : Except Fault Value := do
  match ← st.lookUp es key with
  | some v => return v
  | none => throw (.absentKey key)

def item (st : Store) (v key : Value) : Except Fault Value :=
  match v with
  | .text _ | .bytes _ => itemAt ((st.items? v).getD []) key
  | .ref a =>
    match st.read? a with
    | some (.tuple _) | some (.list _) | some (.step _) | some (.element _) =>
      itemAt ((st.items? v).getD []) key
    | some (.dict es) => st.entryAt es key
    | some (.node n) =>
      match st.read? n.attrs with
      | some (.element e) => itemAt (e.children.map .ref) key
      | _ => st.entryAt (st.entries n.attrs) key
    | _ => .error .notIndexable
  | _ => .error .notIndexable

def get (st : Store) (v key default : Value) : Except Fault Value := do
  let entries ← match st.object? v with
    | some (.dict es) => pure es
    | some (.node n) => pure (st.attrEntries n.attrs)
    | some (.element e) => pure (st.entries e.attrs)
    | _ => throw (.noAttribute "get")
  return (← st.lookUp entries key).getD default

end Store

namespace Value

/-- `trim`. -/
def trimmed : Value → Except Fault Value
  | text s => .ok (text (Text.trim s))
  | bytes b => .ok (bytes (Text.trimBy (fun x => Text.isAsciiBlank (Char.ofNat x.toNat)) b))
  | _ => .error (.noAttribute "strip")

end Value

namespace Eval

def leave (v : Value) (rest : List Value) : Eval Unit := do
  match v with
  | .ref a =>
    match (← getStore).read? a with
    | some (.iterator _) => write a (.iterator rest)
    | _ => return ()
  | _ => return ()

/-- Goes over what is left in an iterator. Each item is taken out before it is used, so what `f`
takes out itself is not gone over again. -/
def visitLeft {α : Type} (a : Addr) (f : Value → Eval α) : Nat → Eval (List α)
  | 0 => return []
  | fuel + 1 => do
    match (← getStore).read? a with
    | some (.iterator (x :: rest)) =>
      write a (.iterator rest)
      let y ← f x
      return y :: (← visitLeft a f fuel)
    | _ => return []

def visit {α : Type} (v : Value) (f : Value → Eval α) : Eval (List α) := do
  let st ← getStore
  match st.items? v, v with
  | none, _ => throw .notIterable
  | some xs, .ref a =>
    match st.read? a with
    | some (.iterator _) => visitLeft a f xs.length
    | _ => xs.mapM f
  | some xs, _ => xs.mapM f

def items (v : Value) : Eval (List Value) := visit v pure

/-- The two items of a value that has exactly two. One more is looked for, and no further. -/
def pair (v : Value) : Eval (Value × Value) := do
  match (← getStore).items? v with
  | none => throw .notIterable
  | some [x, y] =>
    leave v []
    return (x, y)
  | some (_ :: _ :: _ :: rest) =>
    leave v rest
    throw .tooManyItems
  | some few =>
    leave v []
    throw (.tooFewItems few.length)

def newList (vs : List Value) : Eval Value := alloc (.list vs)

def setItem (c key v : Value) : Eval Unit := do
  let st ← getStore
  match c with
  | .ref a =>
    match st.read? a with
    | some (.list vs) =>
      match Store.index? key with
      | none => throw .notIndexable
      | some i =>
        match Store.position? vs.length i with
        | some p => write a (.list (vs.set p v))
        | none => throw .outOfRange
    | some (.element e) =>
      match Store.index? key with
      | none => throw .notIndexable
      | some i =>
        match Store.position? e.children.length i, v, st.object? v with
        | none, _, _ => throw .outOfRange
        | some p, .ref child, some (.element _) =>
          write a (.element { e with children := e.children.set p child })
        | some _, _, _ => throw (.wrongType "an element")
    | some (.dict es) =>
      st.checkKey key
      write a (.dict (st.put es key v))
    | _ => throw .notAssignable
  | _ => throw .notAssignable

def append (c v : Value) : Eval Unit := do
  let st ← getStore
  match c, st.object? c with
  | .ref a, some (.list vs) => write a (.list (vs ++ [v]))
  | .ref a, some (.element e) =>
    match v, st.object? v with
    | .ref child, some (.element _) =>
      write a (.element { e with children := e.children ++ [child] })
    | _, _ => throw (.wrongType "an element")
  | _, _ => throw (.noAttribute "append")

end Eval

end TreeQuery
