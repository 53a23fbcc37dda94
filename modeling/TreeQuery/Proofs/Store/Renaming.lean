import TreeQuery.Proofs.Search.Scan
import TreeQuery.Proofs.Store.Growth
import TreeQuery.Proofs.Store.TextKeys
import TreeQuery.Proofs.Tree.Formed
import TreeQuery.Query.Step

/-! Stores that hold the same objects at other addresses. Which addresses these are makes no
difference to what is selected in them. Where a store has grown, whatever is made behind that stands
at other addresses than it would have before. -/

namespace TreeQuery

variable (f : Addr → Addr)

def Value.renamed : Value → Value
  | ref a => ref (f a)
  | v => v

def Entries.renamed (es : Entries) : Entries := es.map fun e => (e.1.renamed f, e.2.renamed f)

def Node.renamed (n : Node) : Node := ⟨n.tag, f n.attrs, f n.children⟩

def Step.renamed : Step → Step
  | scalar attr value => scalar (attr.renamed f) (value.renamed f)
  | branch attr form => branch (attr.renamed f) (form.renamed f)

def Query.renamed (q : Query) : Query :=
  ⟨q.steps.map (Step.renamed f), f q.tuple, q.trace.renamed f, q.traced⟩

def ElementTag.renamed : ElementTag → ElementTag
  | named tag => named (tag.renamed f)
  | tag => tag

def Element.renamed (e : Element) : Element :=
  ⟨e.tag.renamed f, f e.attrs, e.text.renamed f, e.tail.renamed f, e.children.map f⟩

def Closure.renamed : Closure → Closure
  | constant v => constant (v.renamed f)
  | spy target => spy (target.renamed f)
  | raising error => raising (error.renamed f)
  | selector attr => selector (attr.renamed f)
  | closure => closure

def Object.renamed : Object → Object
  | tuple vs => tuple (vs.map (Value.renamed f))
  | list vs => list (vs.map (Value.renamed f))
  | dict es => dict (Entries.renamed f es)
  | node n => node (n.renamed f)
  | step s => step (s.renamed f)
  | query q => query (q.renamed f)
  | iterator vs => iterator (vs.map (Value.renamed f))
  | element e => element (e.renamed f)
  | chooser n => chooser n
  | error kind args => error kind (args.map (Value.renamed f))
  | pattern p => pattern p
  | closure c => closure (c.renamed f)

def Fault.renamed : Fault → Fault
  | raised kind args => raised kind (args.map (Value.renamed f))
  | noMatch root query => noMatch (root.renamed f) query
  | absentKey key => absentKey (key.renamed f)
  | fault => fault

def NodeView.renamed (view : NodeView) : NodeView :=
  ⟨f view.id, view.tag, Entries.renamed f view.attrs⟩

def renamedOutcome : Except Fault Value → Except Fault Value
  | .ok v => .ok (v.renamed f)
  | .error fault => .error (fault.renamed f)

variable {f}

section Values

variable {v : Value}

theorem Value.renamed_eq_null : v.renamed f = .null ↔ v = .null := by
  cases v <;> simp [renamed]

theorem Value.renamed_beq_text (v : Value) (text : String) :
    (v.renamed f == .text text) = (v == .text text) := by
  cases v <;> rfl

end Values

theorem Store.under?_renamed (es : Entries) (name : String) :
    under? (Entries.renamed f es) name = (under? es name).map (Value.renamed f) := by
  unfold under? findBy Entries.renamed
  rw [List.find?_map, Option.map_map, Option.map_map]
  simp only [Function.comp_def, Value.renamed_beq_text]

namespace Store

/-- The objects of one store stand at other addresses in the other, and new ones will. -/
structure Renames (f : Addr → Addr) (st st' : Store) : Prop where
  injective : Function.Injective f
  next (i : Nat) : f (st.size + i) = st'.size + i
  read? (a : Addr) : st'.read? (f a) = (st.read? a).map (Object.renamed f)
  marks : st'.marks = st.marks

namespace Renames

variable {st st' : Store} (renames : st.Renames f st')
include renames

theorem object? (v : Value) :
    st'.object? (v.renamed f) = (st.object? v).map (Object.renamed f) := by
  cases v with
  | ref a => exact renames.read? a
  | _ => rfl

theorem node? (v : Value) : st'.node? (v.renamed f) = (st.node? v).map (Node.renamed f) := by
  unfold Store.node?
  rw [renames.object?]
  rcases st.object? v with _ | o
  · rfl
  · cases o <;> rfl

theorem isNode (v : Value) : st'.isNode (v.renamed f) = st.isNode v := by
  simp [Store.isNode, renames.node?]

theorem entries (a : Addr) : st'.entries (f a) = Entries.renamed f (st.entries a) := by
  unfold Store.entries
  rw [renames.read?]
  rcases st.read? a with _ | o
  · rfl
  · cases o <;> rfl

theorem attrEntries (a : Addr) : st'.attrEntries (f a) = Entries.renamed f (st.attrEntries a) := by
  unfold Store.attrEntries
  rw [renames.read?, renames.entries]
  rcases st.read? a with _ | o
  · rfl
  · cases o with
    | element e => exact renames.entries e.attrs
    | _ => rfl

theorem childrenOf (n : Node) :
    st'.childrenOf (n.renamed f) = (st.childrenOf n).map (Value.renamed f) := by
  unfold Store.childrenOf members Node.renamed
  rw [renames.read?]
  rcases st.read? n.children with _ | o
  · rfl
  · cases o <;> rfl

theorem view? (v : Value) : st'.view? (v.renamed f) = (st.view? v).map (NodeView.renamed f) := by
  cases v with
  | ref a =>
    have node := renames.node? (.ref a)
    simp only [Value.renamed] at node ⊢
    simp only [Store.view?, node, Option.map_map]
    congr 1
    funext n
    simp [viewOf, NodeView.renamed, Node.renamed, renames.attrEntries]
  | _ => rfl

theorem childNodes (v : Value) :
    st'.childNodes (v.renamed f) = (st.childNodes v).map (NodeView.renamed f) := by
  unfold Store.childNodes
  rw [renames.node?]
  rcases st.node? v with _ | n
  · rfl
  · simp only [Option.map_some, renames.childrenOf, List.filterMap_map, List.map_filterMap,
      Function.comp_def, renames.view?]

end Renames

end Store

theorem firstWhere_renamed {test test' : Criterion}
    (same : ∀ n : NodeView, test' (n.renamed f) = test n) (ns : List NodeView) :
    firstWhere test' (ns.map (NodeView.renamed f)) =
      (firstWhere test ns).map (Option.map (NodeView.renamed f)) := by
  induction ns with
  | nil => rfl
  | cons n ns ih =>
    simp only [List.map_cons, firstWhere, same, ih]
    rcases test n with fault | met
    · rfl
    · cases met <;> rfl

theorem Criterion.attrIs_renamed (st st' : Store) (name wanted : String) (n : NodeView) :
    attrIs st' (.text name) (.text wanted) (n.renamed f) =
      attrIs st (.text name) (.text wanted) n := by
  rw [attrIs, attrIs, attrPasses_text, attrPasses_text, Store.find?_text, Store.find?_text]
  simp only [NodeView.renamed, Store.under?_renamed]
  rcases Store.under? n.attrs name with _ | v
  · rfl
  · cases v <;> rfl

theorem Store.fault_of_selectChild {st : Store} {selector wanted : String} {v : Value}
    {fault : Fault} (stops : st.selectChild (.text selector) (.text wanted) v = .error fault) :
    fault = .noAttribute "strip" := by
  have asked : ∀ n : NodeView,
      Criterion.attrIs st (.text selector) (.text wanted) n = .error fault →
        fault = .noAttribute "strip" := by
    intro n stops
    rw [Criterion.attrIs, Criterion.attrPasses_text, find?_text] at stops
    generalize under? n.attrs selector = found at stops
    rcases found with _ | v
    · cases stops
    · cases v <;> cases stops <;> rfl
  -- A search stops at a node only that cannot answer.
  have scanned : ∀ test : Criterion,
      (foundValue <$> firstWhere test (st.childNodes v) : Except Fault Value) = .error fault →
        ∃ n, test n = .error fault := by
    intro test stops
    rcases first : firstWhere test (st.childNodes v) with fault' | found <;> rw [first] at stops
    · cases stops
      obtain ⟨_, n, _, _, _, here⟩ := ((scans_firstWhere _).raised test fault).mp first
      exact ⟨n, here⟩
    · cases stops
  unfold selectChild at stops
  split at stops
  · unfold childTagged at stops
    split at stops
    · obtain ⟨n, here⟩ := scanned (.tagged wanted) stops
      cases here
    · cases stops
  · obtain ⟨n, here⟩ := scanned _ stops
    exact asked n here

namespace Store.Renames

variable {st st' : Store} (renames : st.Renames f st')
include renames

theorem selectChild (selector wanted : String) (v : Value) :
    st'.selectChild (.text selector) (.text wanted) (v.renamed f) =
      (st.selectChild (.text selector) (.text wanted) v).map (Value.renamed f) := by
  have same : ∀ {test test' : Criterion}, (∀ n : NodeView, test' (n.renamed f) = test n) →
      (foundValue <$> firstWhere test' (st'.childNodes (v.renamed f)) : Except Fault Value) =
        (foundValue <$> firstWhere test (st.childNodes v)).map (Value.renamed f) := by
    intro test test' same
    rw [renames.childNodes, firstWhere_renamed same]
    rcases firstWhere test (st.childNodes v) with fault | view
    · rfl
    · cases view <;> rfl
  unfold Store.selectChild
  split
  · unfold Store.childTagged
    rw [renames.isNode]
    split
    · exact same fun n => rfl
    · rfl
  · exact same (Criterion.attrIs_renamed st st' selector wanted)

theorem alloc (o : Object) : (st.alloc o).2.Renames f (st'.alloc (o.renamed f)).2 := by
  have here : f st.size = st'.size := renames.next 0
  refine ⟨renames.injective, ?_, ?_, renames.marks⟩
  · intro i
    rw [size_alloc, size_alloc, Nat.add_assoc, Nat.add_assoc]
    exact renames.next (1 + i)
  · intro a
    have same : f a = st'.size ↔ a = st.size := by
      rw [← here]
      exact renames.injective.eq_iff
    rw [read?_alloc, read?_alloc]
    by_cases new : a = st.size
    · rw [if_pos new, if_pos (same.mpr new)]
      rfl
    · rw [if_neg new, if_neg fun new' => new (same.mp new')]
      exact renames.read? a

end Store.Renames

def ElementTag.parts : ElementTag → List Value
  | named tag => [tag]
  | _ => []

def Closure.parts : Closure → List Value
  | constant v | spy v | raising v | selector v => [v]
  | _ => []

def Object.parts : Object → List Value
  | tuple vs | list vs | iterator vs | error _ vs => vs
  | dict es => es.map (·.1) ++ es.map (·.2)
  | node n => [.ref n.attrs, .ref n.children]
  | step s => s.toList
  | query q => .ref q.tuple :: q.trace :: q.steps.flatMap Step.toList
  | element e => .ref e.attrs :: e.text :: e.tail :: e.tag.parts ++ e.children.map .ref
  | closure c => c.parts
  | chooser _ | pattern _ => []

theorem map_eq_self {α : Type} {g : α → α} {xs : List α} (same : ∀ x ∈ xs, g x = x) :
    xs.map g = xs := by
  rw [List.map_congr_left same, List.map_id']

theorem Step.renamed_eq_self {step : Step} (same : ∀ v ∈ step.toList, v.renamed f = v) :
    step.renamed f = step := by
  cases step <;> simpa [Step.renamed, toList] using same

theorem Object.renamed_eq_self {o : Object} (same : ∀ v ∈ o.parts, v.renamed f = v) :
    o.renamed f = o := by
  have address : ∀ {a : Addr}, .ref a ∈ o.parts → f a = a := fun member =>
    Value.ref.inj (same _ member)
  cases o with
  | tuple vs => exact congrArg tuple (map_eq_self same)
  | list vs => exact congrArg list (map_eq_self same)
  | iterator vs => exact congrArg iterator (map_eq_self same)
  | error kind vs => exact congrArg (error kind) (map_eq_self same)
  | dict es =>
    refine congrArg dict (map_eq_self fun e member => Prod.ext ?_ ?_)
    · exact same _ (List.mem_append_left _ (List.mem_map_of_mem member))
    · exact same _ (List.mem_append_right _ (List.mem_map_of_mem member))
  | node n =>
    have attrs := address (a := n.attrs) (by simp [parts])
    have children := address (a := n.children) (by simp [parts])
    simp only [renamed, Node.renamed, attrs, children]
  | step s => exact congrArg step (Step.renamed_eq_self same)
  | query q =>
    have steps : q.steps.map (Step.renamed f) = q.steps := map_eq_self fun s member =>
      Step.renamed_eq_self fun v part =>
        same v (by simpa [parts] using .inr (.inr ⟨s, member, part⟩))
    have tuple := address (a := q.tuple) (by simp [parts])
    have trace := same q.trace (by simp [parts])
    simp only [renamed, Query.renamed, steps, tuple, trace]
  | element e =>
    have children : e.children.map f = e.children := map_eq_self fun a member =>
      address (by simp [parts, member])
    have tag : e.tag.renamed f = e.tag := by
      rcases e with ⟨_ | _, _, _, _, _⟩
      · exact congrArg ElementTag.named (same _ (by simp [parts, ElementTag.parts]))
      · rfl
      · rfl
    have attrs := address (a := e.attrs) (by simp [parts])
    have text := same e.text (by simp [parts])
    have tail := same e.tail (by simp [parts])
    simp only [renamed, Element.renamed, tag, attrs, text, tail, children]
  | closure c =>
    refine congrArg closure ?_
    cases c with
    | constant v => exact congrArg Closure.constant (same v (.head _))
    | spy v => exact congrArg Closure.spy (same v (.head _))
    | raising v => exact congrArg Closure.raising (same v (.head _))
    | selector v => exact congrArg Closure.selector (same v (.head _))
    | argument place | pick number | disguised shown name => rfl
  | chooser n | pattern p => rfl

namespace Store

def IsComplete (st : Store) : Prop :=
  ∀ a < st.size, ∀ o ∈ st.read? a, ∀ v ∈ o.parts, isEarlier st.size v

instance (st : Store) : Decidable st.IsComplete :=
  inferInstanceAs (Decidable
    (∀ a < st.size, ∀ o ∈ st.read? a, ∀ v ∈ o.parts, isEarlier st.size v))

def Fixes (f : Addr → Addr) (st : Store) : Prop := ∀ a < st.size, f a = a

variable {base st st' : Store}

theorem Fixes.value (fixes : base.Fixes f) {v : Value} (earlier : isEarlier base.size v) :
    v.renamed f = v := by
  cases v with
  | ref a => exact congrArg Value.ref (fixes a (by simpa [isEarlier] using earlier))
  | _ => rfl

theorem IsComplete.object (complete : base.IsComplete) (fixes : base.Fixes f) {a : Addr}
    {o : Object} (read : base.read? a = some o) : o.renamed f = o :=
  Object.renamed_eq_self fun v part => fixes.value (complete a (lt_of_read? read) o read v part)

/-- Where the addresses of a store stay, the objects are still in it under other names for newer
ones. -/
theorem Renames.grows (complete : base.IsComplete) (fixes : base.Fixes f)
    (grows : base.Grows st) (renames : st.Renames f st') : base.Grows st' := by
  intro a o read
  have there := renames.read? a
  rwa [fixes a (lt_of_read? read), grows a o read, Option.map_some, complete.object fixes read]
    at there

def behind (st : Store) (k a : Nat) : Nat := if a < st.size then a else a + k

theorem fixes_behind (st : Store) (k : Nat) : st.Fixes (st.behind k) :=
  fun _ old => if_pos old

theorem behind_injective (st : Store) (k : Nat) : Function.Injective (st.behind k) := by
  intro a b same
  unfold behind at same
  split at same <;> split at same <;> omega

theorem behind_next (st : Store) (k i : Nat) : st.behind k (st.size + i) = st.size + i + k := by
  unfold behind
  split <;> omega

theorem Grows.renames (complete : base.IsComplete) (grows : base.Grows st)
    (marks : st.marks = base.marks) : base.Renames (base.behind (st.size - base.size)) st := by
  have larger := grows.size_le
  refine ⟨behind_injective _ _, ?_, ?_, marks⟩
  · intro i
    have next := behind_next base (st.size - base.size) i
    have same : base.size + i + (st.size - base.size) = st.size + i := by omega
    exact next.trans same
  · intro (a : Nat)
    by_cases old : a < base.size
    · obtain ⟨o, read⟩ := read?_of_lt old
      rw [fixes_behind base _ a old, read, grows a o read, Option.map_some,
        complete.object (fixes_behind base _) read]
    · have absent : base.read? a = none := by
        simpa [Store.read?, Store.size] using old
      have absent' : st.read? (base.behind (st.size - base.size) a) = none := by
        rw [behind, if_neg old]
        have outside : st.size ≤ a + (st.size - base.size) := by omega
        simpa [Store.read?, Store.size] using outside
      rw [absent, absent']
      rfl

end Store

end TreeQuery
