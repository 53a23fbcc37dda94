import TreeQuery.Check
import TreeQuery.Combine
import TreeQuery.Node.Element
import TreeQuery.Node.Record
import TreeQuery.Query.Run
import TreeQuery.Script.Apply
import TreeQuery.Search.Descendants

/-! What each function does with its arguments. -/

namespace TreeQuery

namespace Store

def tagOf (st : Store) (v : Value) : Except Fault Value :=
  match st.object? v with
  | some (.node n) => .ok (.text n.tag)
  | some (.element ⟨.named tag, _, _, _, _⟩) => .ok tag
  | _ => .error (.noAttribute "tag")

def attrsOf (st : Store) (v : Value) : Except Fault Value :=
  match st.node? v with
  | some n => .ok (.ref n.attrs)
  | none => .error (.noAttribute "attrs")

def childListOf (st : Store) (v : Value) : Except Fault Value :=
  match st.node? v with
  | some n => .ok (.ref n.children)
  | none => .error (.noAttribute "_")

end Store

namespace Eval

def attrText (key v : Value) : Eval Value := do
  let st ← getStore
  match st.node? v with
  | some n =>
    let value ← st.lookUp (st.attrEntries n.attrs) key
    return .text (← plain (value.getD (.text "")))
  | none => throw (.noAttribute "attrs")

/-- `summarize`. -/
def summarize (v levels indent : Value) : Eval Value := do
  let t ← (← getStore).tree v
  match Store.index? indent with
  | some i =>
    Display.checkIndent (← get).surroundings.room i
    return .text (← t.summary display (.ofValue levels) i)
  | none => throw (.wrongType "int")

/-- `random_present`. A chooser that counts as false leaves the choice to chance. -/
def choose (rng : Value) (results : List Value) : Eval Value := do
  let st ← getStore
  if st.truthy rng then Combine.choosePresent (Combine.chooserOf st rng) results
  else if Combine.allPresent results = [] then return .null
  else Combine.choosePresent (Combine.chooseAt (← draw)) results

def foundList (found : List NodeView) : Eval Value := newList (found.map fun n => .ref n.id)

end Eval

namespace Function

open Eval

def textOf (shown : Eval String) : Eval Value := Value.text <$> shown
def boolOf (b : Bool) : Eval Value := return .bool b
def nothingAfter (x : Eval Unit) : Eval Value := do
  x
  return .null

def checked (call : NamedCaller) (check : Check) (expected fn : Value) (depth : Option Value)
    (a : Arguments) : Eval Value :=
  nothingAfter (check.run call expected fn a.rest a.extra (depth.getD (.int 0)))

def caller (call : NamedCaller) : Caller := fun fn args => call fn args []

def newQuery (steps : Value) (trace : Option Value) : Eval Value := do
  alloc (.query (← Query.ofSteps steps (trace.getD .null)))

def onTexts (f : Function) (a : Arguments) : Eval Value := do
  match f, a.given with
  | trim, [some s] => s.trimmed
  | isMatch, [some pattern, some s] => boolOf (← (← getStore).occurs pattern s)
  | abbreviate, [some v, limit] =>
    textOf (Display.abbreviated (limit.getD Display.usualLimit) v)
  | _, _ => throw .wrongArguments

def onNodes (f : Function) (a : Arguments) : Eval Value := do
  let st ← getStore
  match f, a.given with
  | canonicalTag, [some v] => if v.isText then return v else throw (.wrongType "str")
  | isNode, [some v] => boolOf (st.isNode v)
  | tagOf, [some v] | tag, [some v] => st.tagOf v
  | attrsOf, [some v] => st.attrsOf v
  | childrenOf, [some v] => st.childListOf v
  | attrSummary, [some name, some v, some limit] =>
    textOf (Display.attrWord display limit name v)
  | childSummary, [some v, some limit] => textOf (Display.childWord st limit v)
  | node, [some wanted, content, cl, attrs] =>
    if (a.extra.lookup "self").isSome then throw .wrongArguments
    let content ← content.elim (alloc (.tuple [])) pure
    Node.make ⟨wanted, attrs.getD .null, a.extra, cl.getD .null, content, a.rest⟩
  | nodeOfRecord, [some v] => Node.ofRecord v
  | nodeOfElement, [some v] => Node.ofElement v
  | shown, [some v] => textOf (display v)
  | item, [some v, some key] => st.item v key
  | get, [some v, some key, other] => st.get v key (other.getD .null)
  | items, [some v] => newList (← Eval.items v)
  | childNodes, [some v] =>
    if st.isNode v then foundList (st.childNodes v) else throw (.noAttribute "child_nodes")
  | texts, [some v] => newList ((← (← st.tree v).texts).map .text)
  | text, [some v] =>
    match st.object? v with
    | some (.element e) => return e.text
    | _ => return .text (← (← st.tree v).text)
  | className, [some v] => attrText Store.classKey v
  | ident, [some v] => attrText Store.idKey v
  | summarize, [some v, levels, indent] =>
    Eval.summarize v (levels.getD (.int 1)) (indent.getD (.int 0))
  | _, _ => throw .wrongArguments

def onSearches (f : Function) (a : Arguments) : Eval Value := do
  let st ← getStore
  match f, a.given with
  | childrenTagged, [some wanted, some v] => foundList (← st.childrenTagged wanted v)
  | childTagged, [some wanted, some v] => return foundValue (← st.childTagged wanted v)
  | childWithAttr, [some name, some wanted, some v] =>
    return foundValue (← st.childWithAttr name wanted v)
  | childWithClass, [some wanted, some v] => return foundValue (← st.childWithClass wanted v)
  | firstTagged, [some wanted, some v] => return foundValue (← st.firstTagged wanted v)
  | firstWithAttr, [some name, some wanted, some v] =>
    return foundValue (← st.firstWithAttr name wanted v)
  | firstWithMatch, [some name, some pattern, some v] =>
    return foundValue (← st.firstWithMatch name pattern v)
  | firstWithClass, [some wanted, some v] => return foundValue (← st.firstWithClass wanted v)
  | firstWithClassMatch, [some pattern, some v] =>
    return foundValue (← st.firstWithClassMatch pattern v)
  | firstWithId, [some wanted, some v] => return foundValue (← st.firstWithId wanted v)
  | firstWithIdMatch, [some pattern, some v] =>
    return foundValue (← st.firstWithIdMatch pattern v)
  | _, _ => throw .wrongArguments

def onQueries (call : NamedCaller) (f : Function) (a : Arguments) : Eval Value := do
  let st ← getStore
  let run := caller call
  match f, a.given with
  | step, [some v] => Step.readValue v
  | writtenStep, [some v] =>
    match st.step? v with
    | some s => textOf (Display.stepText display plain s)
    | none => throw (.noAttribute "form")
  | compile, [some given, traced] | query, [some given, traced] => newQuery given traced
  | descend, [some root, traced] =>
    let q ← newQuery (← alloc (.tuple a.rest)) traced
    (← Query.ofValue (← getStore) q).run run root
  | .run, [some q, some root] => run q [root]
  | evaluate, [some q, some root] => (← Query.ofValue st q).evaluate run (run root [])
  | require, [some q, some root] => (← Query.ofValue st q).require run root
  | expression, [some q, root] =>
    (← Query.ofValue st q).expression (root.getD Display.rootName)
  | steps, [some q] => return .ref (← Query.ofValue st q).tuple
  | trace, [some q] => return (← Query.ofValue st q).trace
  | combinator, [some v] => st.item (← Step.form st v) (.int 0)
  | candidates, [some v] => st.item (← Step.form st v) (.int 1)
  | matcher, [some attr] =>
    if attr = Step.tagSelector then return .function childTagged
    else alloc (.closure (.selector attr))
  | _, _ => throw .wrongArguments

def onResults (f : Function) (a : Arguments) : Eval Value := do
  match f, a.given with
  | firstPresent, [] => return Combine.firstPresent a.rest
  | allPresent, [] => newList (Combine.allPresent a.rest)
  | choosePresent, [rng] => choose (rng.getD .null) a.rest
  | _, _ => throw .wrongArguments

def onChecks (call : NamedCaller) (f : Function) (a : Arguments) : Eval Value := do
  match f, a.given with
  | check, [some expected, some fn, depth] => checked call .value expected fn depth a
  | checkShown, [some expected, some fn, depth] => checked call .shown expected fn depth a
  | checkError, [some expected, some fn, depth] => checked call .error expected fn depth a
  | checkItems, [some expected, some fn, depth] => checked call .items expected fn depth a
  | checkValue, [some expected, some actual, description] =>
    nothingAfter
      (Check.runValue expected actual (description.getD (.text "<value>")))
  | callOnce, [some fn] => Check.callOnce call fn
  | report, [] => newList ((← Check.report).map fun code => .int (code : Nat))
  | writeLine, [separator, _] =>
    nothingAfter (Eval.writeLine (separator.getD (.text "")) a.rest)
  | flag, [some name] => boolOf (← Eval.flag name)
  | setVariable, [some name, some v] => nothingAfter (Eval.setVariable name v)
  | _, _ => throw .wrongArguments

def apply (call : NamedCaller) (f : Function) (args : List Value) (named : Keywords) :
    Eval Value := do
  let a ← f.signature.accept args named
  match f with
  | trim | isMatch | abbreviate => f.onTexts a
  | canonicalTag | isNode | tagOf | attrsOf | childrenOf | attrSummary | childSummary | node
  | nodeOfRecord | nodeOfElement | shown | item | get | items | childNodes | texts | text
  | className | ident | tag | summarize => f.onNodes a
  | childrenTagged | childTagged | childWithAttr | childWithClass | firstTagged | firstWithAttr
  | firstWithMatch | firstWithClass | firstWithClassMatch | firstWithId | firstWithIdMatch =>
    f.onSearches a
  | firstPresent | allPresent | choosePresent => f.onResults a
  | step | writtenStep | compile | query | descend | run | evaluate | require | expression
  | steps | trace | combinator | candidates | matcher => f.onQueries call a
  | writeLine | flag | setVariable | check | checkShown | checkError | checkItems | checkValue
  | callOnce | report => f.onChecks call a
  | script f => f.apply a

end Function

end TreeQuery
