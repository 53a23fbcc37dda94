import TreeQuery.Sequence
import TreeQuery.Tree

namespace TreeQuery

abbrev Criterion := NodeView → Except Fault Bool

namespace Pattern

def ofValue (st : Store) (v : Value) : Except Fault Pattern :=
  let compiled := fun source => (compile source {}).mapError Fault.badPattern
  match v with
  | .text s => compiled (.text s)
  | .bytes b => compiled (.bytes b)
  | v =>
    match st.object? v with
    | some (.pattern p) => .ok p
    | _ => .error (.wrongType "a pattern")

def occursInChars (p : Pattern) (cs : List Char) : Except Fault Bool :=
  match p.find? cs with
  | some marks => if marks.isCrossed then .error .crossedGroup else .ok true
  | none => .ok false

def occursIn (p : Pattern) : Value → Except Fault Bool
  | .text s => if p.source.isText then p.occursInChars s.toList else .error (.wrongType "bytes")
  | .bytes b =>
    if p.source.isText then .error (.wrongType "str") else p.occursInChars (bytesAsChars b)
  | _ => .error (.wrongType "a text")

end Pattern

namespace Store

/-- `matches`: whether a pattern, which may still have to be compiled, occurs anywhere in a text. -/
def occurs (st : Store) (pattern text : Value) : Except Fault Bool := do
  (← Pattern.ofValue st pattern).occursIn text

end Store

namespace Criterion

def tagged (tag : String) : Criterion := fun n => .ok (n.tag == tag)

def attrPasses (st : Store) (name : Value) (test : Value → Except Fault Bool) : Criterion :=
  fun n => do
    match ← st.lookUp n.attrs name with
    | none | some .null => return false
    | some v => test v

/-- The attribute is the given value once the blanks around it are trimmed. -/
def attrIs (st : Store) (name wanted : Value) : Criterion :=
  attrPasses st name fun v => do return (← v.trimmed) == wanted

def attrMatches (st : Store) (name pattern : Value) : Criterion :=
  attrPasses st name (st.occurs pattern)

end Criterion

/-- The first node that meets a criterion. No node behind it is asked, nor one behind a fault. -/
def firstWhere (test : Criterion) : List NodeView → Except Fault (Option NodeView)
  | [] => .ok none
  | n :: ns => do
    if ← test n then return some n
    else firstWhere test ns

theorem firstWhere_append (test : Criterion) (ns ms : List NodeView) :
    firstWhere test (ns ++ ms) = (do
      match ← firstWhere test ns with
      | some n => return some n
      | none => firstWhere test ms) := by
  induction ns with
  | nil => rfl
  | cons n ns ih =>
    simp only [List.cons_append, firstWhere, ih]
    cases test n with
    | error e => rfl
    | ok met => cases met <;> rfl

def allWhere (test : Criterion) : List NodeView → Except Fault (List NodeView)
  | [] => .ok []
  | n :: ns => do
    let met ← test n
    let others ← allWhere test ns
    return if met then n :: others else others

def foundValue : Option NodeView → Value
  | some n => .ref n.id
  | none => .null

end TreeQuery
