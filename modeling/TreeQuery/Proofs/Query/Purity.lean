import TreeQuery.Proofs.Query.Expression
import TreeQuery.Proofs.Query.Skeleton
import TreeQuery.Proofs.Store.Renaming

/-! Pure combinators, and queries of steps with such combinators. These make new objects and do
nothing else, and at which addresses they make them makes no difference to what comes of them. -/

namespace TreeQuery

open Eval

namespace Session

def Grows (s t : Session) : Prop :=
  ∃ st, t = { s with store := st } ∧ s.store.Grows st ∧ st.marks = s.store.marks

def Renames (f : Addr → Addr) (s s' : Session) : Prop :=
  ∃ st, s' = { s with store := st } ∧ s.store.Renames f st

theorem Grows.refl (s : Session) : s.Grows s := ⟨s.store, rfl, .refl _, rfl⟩

theorem Grows.trans {s t u : Session} (first : s.Grows t) (second : t.Grows u) : s.Grows u := by
  obtain ⟨st, rfl, grows, marks⟩ := first
  obtain ⟨st', rfl, grows', marks'⟩ := second
  exact ⟨st', rfl, grows.trans grows', marks'.trans marks⟩

theorem Grows.store {s t : Session} (grown : s.Grows t) : s.store.Grows t.store := by
  obtain ⟨st, rfl, grows, _⟩ := grown
  exact grows

theorem Renames.store {f : Addr → Addr} {s s' : Session} (renames : s.Renames f s') :
    s.store.Renames f s'.store := by
  obtain ⟨st, rfl, renames⟩ := renames
  exact renames

end Session

/-- Two runs come to the same, but for the addresses of objects. -/
structure Corresponds (f : Addr → Addr) (run run' : Except Fault Value × Session) : Prop where
  outcome : run'.1 = renamedOutcome f run.1
  session : run.2.Renames f run'.2

theorem Corresponds.bind {f : Addr → Addr} {x x' : Eval Value} {g g' : Value → Eval Value}
    {s s' : Session} (first : Corresponds f (x.exec s) (x'.exec s'))
    (later : ∀ v t t', x.exec s = (.ok v, t) → t.Renames f t' →
      Corresponds f ((g v).exec t) ((g' (v.renamed f)).exec t')) :
    Corresponds f ((x >>= g).exec s) ((x' >>= g').exec s') := by
  obtain ⟨outcome, session⟩ := first
  rcases run : x.exec s with ⟨(fault | v), t⟩ <;> rcases run' : x'.exec s' with ⟨r, t'⟩ <;>
    rw [run, run'] at outcome session <;> obtain rfl := outcome
  · rw [exec_bind_error run, exec_bind_error run']
    exact ⟨rfl, session⟩
  · rw [exec_bind_ok run, exec_bind_ok run']
    exact later v t t' run session

/-- A combinator is pure on what grows from a store. Called with what steps find, it makes new
objects at most; and other addresses of objects that the store does not have make no difference. -/
structure IsPure (call : Caller) (base : Store) (fn : Value) : Prop where
  grows (results : List Value) (s : Session) : base.Grows s.store →
    s.store.AreFindings results → s.Grows ((call fn results).exec s).2
  blind (f : Addr → Addr) (results : List Value) (s s' : Session) : base.Fixes f →
    base.Grows s.store → s.store.AreFindings results → s.Renames f s' →
      Corresponds f ((call fn results).exec s)
        ((call fn (results.map (Value.renamed f))).exec s')

section Combinators

/-! Some combinators that a session can hold. -/

variable {f : Addr → Addr}

theorem Combine.isPresent_renamed (v : Value) : isPresent (v.renamed f) = isPresent v := by
  simp [isPresent, Value.renamed_eq_null]

theorem Combine.firstPresent_renamed (results : List Value) :
    firstPresent (results.map (Value.renamed f)) = (firstPresent results).renamed f := by
  unfold firstPresent
  rw [List.find?_map, Function.comp_def]
  simp only [isPresent_renamed]
  rcases results.find? isPresent with _ | v <;> rfl

theorem Combine.allPresent_renamed (results : List Value) :
    allPresent (results.map (Value.renamed f)) = (allPresent results).map (Value.renamed f) := by
  unfold allPresent
  rw [List.filter_map, Function.comp_def]
  simp only [isPresent_renamed]

theorem isPure_firstPresent (base : Store) :
    IsPure Combinators.ofValues.call base (.function .firstPresent) := by
  have calls := Query.exec_call_firstPresent
  constructor
  · intro results s _ _
    rw [Combinators.ofValues, calls]
    exact .refl s
  · intro f results s s' _ _ _ renames
    rw [Combinators.ofValues, calls, calls, Combine.firstPresent_renamed]
    exact ⟨rfl, renames⟩

theorem exec_call_allPresent (results : List Value) (s : Session) :
    (Function.caller Eval.call (.function .allPresent) results).exec s =
      (.ok (.ref s.store.size),
        { s with store := (s.store.alloc (.list (Combine.allPresent results))).2 }) :=
  Combine.exec_allPresent results s

theorem isPure_allPresent (base : Store) :
    IsPure Combinators.ofValues.call base (.function .allPresent) := by
  have calls := exec_call_allPresent
  constructor
  · intro results s _ _
    rw [Combinators.ofValues, calls]
    exact ⟨_, rfl, Store.grows_alloc _ _, rfl⟩
  · rintro f results s s' _ _ _ ⟨st, rfl, renames⟩
    rw [Combinators.ofValues, calls, calls, Combine.allPresent_renamed]
    have made := renames.alloc (.list (Combine.allPresent results))
    refine ⟨?_, _, rfl, made⟩
    exact congrArg (fun a => Except.ok (Value.ref a)) (renames.next 0).symm

theorem exec_call_constant {a : Addr} {v : Value} {s : Session}
    (read : s.store.read? a = some (.closure (.constant v))) (results : List Value) :
    (Function.caller Eval.call (.ref a) results).exec s = (.ok v, s) := by
  change (callWithin (999 + 1) (.ref a) results []).exec s = _
  unfold callWithin
  simp only
  rw [exec_bind_ok (exec_getStore s)]
  simp only [Store.object?, read]
  rfl

theorem isPure_constant {base : Store} (complete : base.IsComplete) {a : Addr} {v : Value}
    (read : base.read? a = some (.closure (.constant v))) :
    IsPure Combinators.ofValues.call base (.ref a) := by
  constructor
  · intro results s grows _
    rw [Combinators.ofValues, exec_call_constant (grows _ _ read)]
    exact .refl s
  · intro f results s s' fixes grows _ renames
    have grows' := renames.store.grows complete fixes grows
    have earlier := complete a (Store.lt_of_read? read) _ read v (.head _)
    rw [Combinators.ofValues, exec_call_constant (grows _ _ read),
      exec_call_constant (grows' _ _ read)]
    exact ⟨congrArg Except.ok (fixes.value earlier).symm, renames⟩

end Combinators

def Clause.combinator? : Clause → Option Value
  | scalar _ _ => none
  | branch _ _ combinator _ => some combinator

namespace Store

theorem areFindings_selectAll {st : Store} {selector : String} {candidates : List String}
    {v : Value} {results : List Value}
    (selected : st.selectAll selector candidates v = .ok results) : st.AreFindings results := by
  induction candidates generalizing results with
  | nil =>
    cases selected
    exact fun _ member => nomatch member
  | cons wanted candidates ih =>
    rw [selectAll_cons] at selected
    obtain ⟨first, here, selected⟩ := except_bind_eq_ok.mp selected
    obtain ⟨others, later, same⟩ := except_bind_eq_ok.mp selected
    cases same
    exact List.forall_mem_cons.mpr ⟨isFinding_selectChild here, ih later⟩

theorem fault_of_selectAll {st : Store} {selector : String} {candidates : List String} {v : Value}
    {fault : Fault} (stops : st.selectAll selector candidates v = .error fault) :
    fault = .noAttribute "strip" := by
  induction candidates with
  | nil => cases stops
  | cons wanted candidates ih =>
    rw [selectAll_cons] at stops
    rcases here : st.selectChild (.text selector) (.text wanted) v with fault' | first <;>
      rw [here] at stops
    · cases stops
      exact fault_of_selectChild here
    · rcases later : st.selectAll selector candidates v with fault' | others <;>
        rw [later] at stops <;> cases stops
      exact ih later

theorem Renames.selectAll {f : Addr → Addr} {st st' : Store} (renames : st.Renames f st')
    (selector : String) (candidates : List String) (v : Value) :
    st'.selectAll selector candidates (v.renamed f) =
      (st.selectAll selector candidates v).map (List.map (Value.renamed f)) := by
  induction candidates with
  | nil => rfl
  | cons wanted candidates ih =>
    rw [selectAll_cons, selectAll_cons, renames.selectChild, ih]
    rcases st.selectChild (.text selector) (.text wanted) v with fault | first
    · rfl
    · rcases st.selectAll selector candidates v with fault | others <;> rfl

end Store

theorem Step.exec_carryOut_branch {call : Caller} {selector name : String}
    {form combinator : Value} {candidates : List String} {s : Session}
    (means : s.store.Means (.branch (.text selector) form)
      (.branch selector name combinator candidates)) (current : Value) :
    ((branch (.text selector) form).carryOut call current).exec s =
      match s.store.selectAll selector candidates current with
      | .ok results => (call combinator results).exec s
      | .error fault => (.error fault, s) := by
  rw [carryOut_eq_prepare, exec_bind, exec_prepare_branch means, exec_bind, exec_select]
  rcases s.store.selectAll selector candidates current with fault | results <;> rfl

theorem Clause.pure_tail {call : Caller} {base : Store} {cl : Clause} {cls : List Clause}
    (pure : ∀ cl' ∈ cl :: cls, ∀ fn ∈ cl'.combinator?, IsPure call base fn) :
    ∀ cl' ∈ cls, ∀ fn ∈ cl'.combinator?, IsPure call base fn :=
  fun cl' member => pure cl' (.tail _ member)

section Runs

variable {call : Caller} {base : Store} {step : Step} {cl : Clause} {s s' : Session}
  {f : Addr → Addr}

theorem grows_carryOut (current : Value) (means : base.Means step cl)
    (pure : ∀ fn ∈ cl.combinator?, IsPure call base fn) (grown : base.Grows s.store) :
    s.Grows ((step.carryOut call current).exec s).2 := by
  have here := grown.keeps.means means
  cases here with
  | scalar selector wanted =>
    rw [Step.exec_carryOut_scalar]
    exact .refl s
  | branch selector name pair list =>
    rw [Step.exec_carryOut_branch (.branch selector name pair list)]
    rcases selected : s.store.selectAll selector _ current with fault | results
    · exact .refl s
    · exact (pure _ rfl).grows results s grown (Store.areFindings_selectAll selected)

theorem corresponds_carryOut (current : Value) (complete : base.IsComplete)
    (fixes : base.Fixes f) (means : base.Means step cl)
    (pure : ∀ fn ∈ cl.combinator?, IsPure call base fn) (grown : base.Grows s.store)
    (renames : s.Renames f s') :
    Corresponds f ((step.carryOut call current).exec s)
      ((step.carryOut call (current.renamed f)).exec s') := by
  have grown' := renames.store.grows complete fixes grown
  have here := grown.keeps.means means
  have there := grown'.keeps.means means
  cases here with
  | scalar selector wanted =>
    rw [Step.exec_carryOut_scalar, Step.exec_carryOut_scalar, renames.store.selectChild]
    refine ⟨?_, renames⟩
    rcases selected : s.store.selectChild (.text selector) (.text wanted) current with fault | v
    · obtain rfl := Store.fault_of_selectChild selected
      rfl
    · rfl
  | branch selector name pair list =>
    rw [Step.exec_carryOut_branch (.branch selector name pair list),
      Step.exec_carryOut_branch there, renames.store.selectAll]
    rcases selected : s.store.selectAll selector _ current with fault | results
    · obtain rfl := Store.fault_of_selectAll selected
      exact ⟨rfl, renames⟩
    · have findings := Store.areFindings_selectAll selected
      exact (pure _ rfl).blind f results s s' fixes grown findings renames

end Runs

namespace Query

section Runs

variable {call : Caller} {base : Store} {steps : List Step} {cls : List Clause}
  {s s' : Session} {f : Addr → Addr}

theorem compose_append (call : Caller) (traced : Bool) (steps more : List Step) (root : Value) :
    compose call traced (steps ++ more) root =
      compose call traced steps root >>= compose call traced more := by
  rw [compose, List.foldl_append, foldl_stage]
  rfl

theorem compose_cons_untraced (call : Caller) (step : Step) (steps : List Step) (root : Value) :
    compose call false (step :: steps) root =
      step.carryOut call root >>= compose call false steps :=
  compose_cons call false step steps root

theorem grows_compose (current : Value) (means : List.Forall₂ base.Means steps cls)
    (pure : ∀ cl ∈ cls, ∀ fn ∈ cl.combinator?, IsPure call base fn)
    (grown : base.Grows s.store) : s.Grows ((compose call false steps current).exec s).2 := by
  induction means generalizing current s with
  | nil => exact .refl s
  | @cons step cl steps cls first _ ih =>
    have here := grows_carryOut current first (pure cl (.head _)) grown
    rw [compose_cons_untraced, exec_bind]
    rcases ran : (step.carryOut call current).exec s with ⟨(fault | next), t⟩ <;> rw [ran] at here
    · exact here
    · exact here.trans (ih next (Clause.pure_tail pure) (grown.trans here.store))

theorem exists_ending (current : Value) (means : List.Forall₂ base.Means steps cls)
    (pure : ∀ cl ∈ cls, ∀ fn ∈ cl.combinator?, IsPure call base fn)
    (grown : base.Grows s.store) : ∃ outcome st,
    (compose call false steps current).exec s = (outcome, { s with store := st }) := by
  obtain ⟨st, left, _⟩ := grows_compose current means pure grown
  exact ⟨_, st, Prod.ext rfl left⟩

/-- A query with pure combinators does the same wherever newer objects stand. -/
theorem corresponds_compose (current : Value) (complete : base.IsComplete)
    (fixes : base.Fixes f) (means : List.Forall₂ base.Means steps cls)
    (pure : ∀ cl ∈ cls, ∀ fn ∈ cl.combinator?, IsPure call base fn)
    (grown : base.Grows s.store) (renames : s.Renames f s') :
    Corresponds f ((compose call false steps current).exec s)
      ((compose call false steps (current.renamed f)).exec s') := by
  induction means generalizing current s s' with
  | nil => exact ⟨rfl, renames⟩
  | @cons step cl steps cls first _ ih =>
    have here := grows_carryOut current first (pure cl (.head _)) grown
    have alike := corresponds_carryOut current complete fixes first
      (pure cl (.head _)) grown renames
    rw [compose_cons_untraced, compose_cons_untraced]
    refine alike.bind fun next t t' ran renames => ?_
    rw [ran] at here
    exact ih next (Clause.pure_tail pure) (grown.trans here.store) renames

end Runs

end Query

end TreeQuery
