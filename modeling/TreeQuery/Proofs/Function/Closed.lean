import TreeQuery.Call
import TreeQuery.Proofs.Node.Composed
import TreeQuery.Proofs.Query.Loop

namespace TreeQuery

namespace Eval.Closed

variable {P : {α : Type} → Eval α → Prop} (closed : Closed @P)
include closed

section Diagnostics

theorem plain (v : Value) : P (plain v) := closed.quiet (quiet_plain v)

theorem emitLine (text : String) : P (emitLine text) := closed.emit _

theorem flag (name : Value) : P (Eval.flag name) := by
  cases name with
  | text s => exact closed.get_bind (fun _ _ => rfl) fun _ => closed.pure _
  | _ => exact closed.throw _

theorem setVariable (name v : Value) : P (setVariable name v) := by
  cases name with
  | text s =>
    cases v with
    | null => exact closed.modify (fun _ => rfl) fun _ _ => rfl
    | text t =>
      refine closed.refuse_bind (f := fun _ => _) ?_
      refine closed.refuse_bind (f := fun _ => _) ?_
      exact closed.modify (fun _ => rfl) fun _ _ => rfl
    | _ => exact closed.throw _
  | _ => exact closed.throw _

theorem emitMore (separator : String) (vs : List Value) : P (emitMore separator vs) := by
  induction vs with
  | nil => exact closed.emit _
  | cons v vs ih =>
    exact closed.bind (closed.emit _) fun _ => closed.bind (closed.plain v) fun _ =>
      closed.bind (closed.emit _) fun _ => ih

theorem writeLine (separator : Value) (vs : List Value) : P (writeLine separator vs) := by
  refine closed.bind (closed.lift _) ?_
  intro separator
  split
  · exact closed.emit _
  · exact closed.bind (closed.plain _) fun _ => closed.bind (closed.emit _) fun _ =>
      closed.emitMore _ _

end Diagnostics

section Checks

theorem attempt {α : Type} {x : Eval α} (inner : P x) : P (attempt x) :=
  closed.tryCatch (closed.map _ inner) fun _ =>
    closed.get_bind (fun _ _ => rfl) fun _ => closed.pure _

theorem argLine (label : String) (v : Value) : P (Failure.argLine label v) :=
  closed.bind (closed.display v) fun _ => closed.emitLine _

theorem argLines (i : Nat) (vs : List Value) : P (Failure.argLines i vs) := by
  induction vs generalizing i with
  | nil => exact closed.pure _
  | cons v vs ih => exact closed.bind (closed.argLine _ _) fun _ => ih _

theorem ofError (kind : ErrorClass) (args : List Value) :
    P (Display.ofError TreeQuery.display kind args) :=
  closed.quiet (Display.quiet_ofError quiet_display kind args)

theorem outcomeLines (label : String) (outcome : Outcome) :
    P (Failure.outcomeLines label outcome) := by
  cases outcome with
  | ok v => exact closed.bind (closed.display v) fun _ => closed.emitLine _
  | error fault =>
    exact closed.bind (closed.ofError _ _) fun _ => closed.bind (closed.emitLine _) fun _ =>
      closed.emitLine _

theorem report (f : Failure) : P f.report := by
  refine closed.bind (closed.emitLine _) fun _ => closed.bind (closed.argLines _ _) fun _ =>
    closed.bind (closed.forM (fun given => closed.argLine _ _) _) fun _ => ?_
  exact closed.bind (closed.display _) fun _ => closed.bind (closed.emitLine _) fun _ =>
    closed.bind (closed.outcomeLines _ _) fun _ => closed.emitLine _

theorem subjectName (subject : Value) : P (Check.subjectName subject) := by
  refine closed.getStore_bind ?_
  intro st
  split
  · exact closed.pure _
  · exact closed.plain _

theorem isExpectedError (expected : Value) (fault : Fault) :
    P (Check.isExpectedError expected fault) := by
  unfold Check.isExpectedError
  split
  · exact closed.bind (closed.ofError _ _) fun _ => closed.pure _
  · exact closed.pure _
  · refine closed.getStore_bind ?_
    intro st
    split
    · exact closed.pure _
    · exact closed.pure _

theorem passes (check : Check) (expected : Value) (outcome : Outcome) :
    P (check.passes expected outcome) := by
  cases check <;> cases outcome <;>
    first
    | exact closed.pure _
    | exact closed.isExpectedError _ _
    | exact closed.bind (closed.display _) fun _ => closed.pure _
    | exact closed.getStore_bind fun _ => closed.pure _

theorem collected (check : Check) (v : Value) : P (check.collected v) := by
  cases check with
  | items => exact closed.bind (closed.quiet (.items v)) fun _ => closed.newList _
  | _ => exact closed.pure _

theorem lookBack (depth : Value) : P (lookBack depth) := by
  refine closed.get_bind (fun _ _ => rfl) ?_
  intro s
  dsimp only
  split
  · exact closed.throw _
  · split
    · exact closed.throw _
    · exact closed.pure _

theorem failed (subject : Value) (told : String → Failure) (depth : Value) :
    P (Check.fail subject told depth) := by
  unfold Check.fail
  refine closed.refuse_bind ?_
  refine closed.bind (closed.modify (fun _ => rfl) fun _ _ => rfl) fun _ => ?_
  exact closed.bind (closed.lookBack _) fun _ => closed.bind (closed.subjectName _) fun _ =>
    closed.report _

theorem countTest : P countTest := closed.modify (fun _ => rfl) fun _ _ => rfl

theorem runCheck {call : NamedCaller} (check : Check) (expected fn : Value) (args : List Value)
    (named : Keywords) (depth : Value) (called : P (call fn args named)) :
    P (check.run call expected fn args named depth) := by
  refine closed.bind closed.countTest fun _ => closed.bind (closed.collected _ _) fun expected =>
    closed.bind (closed.attempt (closed.bind called fun _ => closed.collected _ _)) fun outcome =>
    closed.bind (closed.passes _ _ _) fun passed => ?_
  split
  · exact closed.failed _ _ _
  · exact closed.pure _

theorem runValue (expected actual description : Value) :
    P (Check.runValue expected actual description) := by
  refine closed.bind closed.countTest fun _ => closed.getStore_bind fun st => ?_
  split
  · exact closed.bind (closed.display _) fun _ => closed.failed _ _ _
  · exact closed.pure _

theorem exitCodes : P Check.report := by
  refine closed.get_bind (fun _ _ => rfl) ?_
  intro s
  dsimp only
  split
  · exact closed.pure _
  · exact closed.bind (closed.emitLine _) fun _ => closed.pure _

end Checks

section Queries

theorem readStep (v : Value) : P (Step.read v) := by
  refine closed.getStore_bind ?_
  intro st
  split
  · exact closed.pure _
  · exact closed.bind (closed.quiet (.pair v)) fun _ => closed.getStore_bind fun _ =>
      closed.pure _

theorem readValue (v : Value) : P (Step.readValue v) := by
  refine closed.getStore_bind ?_
  intro st
  split
  · exact closed.pure _
  · exact closed.bind (closed.readStep v) fun _ => closed.alloc _

theorem record (step : Step) (result : Value) : P (Query.record step result) :=
  closed.bind (closed.quiet (Display.quiet_stepText quiet_display quiet_plain step)) fun _ =>
    closed.bind (closed.quiet (Display.quiet_abbreviated _ _)) fun _ => closed.emitLine _

theorem ofSteps (steps trace : Value) : P (Query.ofSteps steps trace) := by
  refine closed.bind (closed.visit closed.readValue steps) ?_
  intro given
  have made : ∀ trace, P (do
      let tuple ← Eval.allocAt (.tuple given)
      let st ← getStore
      return Query.mk (given.filterMap st.step?) tuple trace (st.truthy trace)) :=
    fun _ => closed.bind (closed.allocAt _) fun _ => closed.getStore_bind fun _ => closed.pure _
  dsimp only
  split
  · exact closed.bind (closed.map _ (closed.flag _)) made
  · exact made trace

theorem expression (q : Query) (root : Value) : P (q.expression root) :=
  closed.quiet (Display.quiet_expressionFrom quiet_display quiet_plain q.steps 1 root)

variable {call : Caller} (carried : ∀ step current, P (Step.carryOut call step current))
include carried

theorem compose (traced : Bool) (steps : List Step) (root : Value) :
    P (Query.compose call traced steps root) := by
  induction steps generalizing root with
  | nil => exact closed.pure _
  | cons step steps ih =>
    rw [Query.compose_cons]
    refine closed.bind (carried step root) fun result => closed.bind ?_ fun _ => ih result
    unfold Query.tell
    split
    · exact closed.record step result
    · exact closed.pure _

theorem require (q : Query) (root : Value) : P (q.require call root) := by
  refine closed.bind (closed.compose carried _ _ _) ?_
  intro result
  dsimp only
  split
  · exact closed.bind (closed.expression q _) fun _ => closed.bind (closed.plain _) fun _ =>
      closed.bind (closed.throw _) fun _ => closed.pure _
  · exact closed.pure _

end Queries

section Functions

theorem onTexts (f : Function) (a : Arguments) : P (f.onTexts a) := by
  unfold Function.onTexts
  split
  · exact closed.lift _
  · exact closed.getStore_bind fun _ => closed.bind (closed.lift _) fun _ => closed.pure _
  · exact closed.map _ (closed.quiet (Display.quiet_abbreviated _ _))
  · exact closed.throw _

theorem attrText (key v : Value) : P (attrText key v) := by
  refine closed.getStore_bind ?_
  intro st
  split
  · exact closed.bind (closed.lift _) fun _ => closed.bind (closed.plain _) fun _ =>
      closed.pure _
  · exact closed.throw _

theorem summarize (v levels indent : Value) : P (Eval.summarize v levels indent) := by
  refine closed.getStore_bind fun st => closed.bind (closed.lift _) fun t => ?_
  split
  · exact closed.get_bind (fun _ _ => rfl) fun _ => closed.bind (closed.lift _) fun _ =>
      closed.bind (closed.quiet (t.quiet_summary quiet_display _ _)) fun _ => closed.pure _
  · exact closed.throw _

theorem onNodes (copies : ∀ tag es vs, P (Node.makeCopy tag es vs)) (f : Function)
    (made : f = .node → ∀ parts, P (Node.make parts)) (a : Arguments) : P (f.onNodes a) := by
  refine closed.getStore_bind ?_
  intro st
  split
  · split
    · exact closed.pure _
    · exact closed.throw _
  · exact closed.pure _
  · exact closed.lift _
  · exact closed.lift _
  · exact closed.lift _
  · exact closed.lift _
  · exact closed.map _ (closed.quiet (Display.quiet_attrWord quiet_display _ _ _))
  · exact closed.map _ (closed.lift _)
  · next content cl attrs _ =>
      have filled : P (content.elim (Eval.alloc (.tuple [])) Pure.pure) := by
        cases content with
        | none => exact closed.alloc _
        | some v => exact closed.pure v
      dsimp only
      refine closed.refuse_bind ?_
      exact closed.bind filled fun _ => made rfl _
  · exact closed.ofRecord copies _
  · exact closed.ofElement copies _
  · exact closed.map _ (closed.display _)
  · exact closed.lift _
  · exact closed.lift _
  · exact closed.bind (closed.quiet (.items _)) fun _ => closed.newList _
  · split
    · exact closed.newList _
    · exact closed.throw _
  · exact closed.bind (closed.lift _) fun _ => closed.bind (closed.lift _) fun _ =>
      closed.newList _
  · split
    · exact closed.pure _
    · exact closed.bind (closed.lift _) fun _ => closed.bind (closed.lift _) fun _ =>
        closed.pure _
  · exact closed.attrText _ _
  · exact closed.attrText _ _
  · exact closed.summarize _ _ _
  · exact closed.throw _

theorem onSearches (f : Function) (a : Arguments) : P (f.onSearches a) := by
  refine closed.getStore_bind ?_
  intro st
  split
  · exact closed.bind (closed.lift _) fun _ => closed.newList _
  all_goals first
    | exact closed.bind (closed.lift _) fun _ => closed.pure _
    | exact closed.throw _

theorem draw : P draw :=
  closed.get_bind (fun _ _ => rfl) fun _ =>
    closed.bind (closed.modify (fun _ => rfl) fun _ _ => rfl) fun _ => closed.pure _

theorem choose (rng : Value) (results : List Value) : P (choose rng results) := by
  refine closed.getStore_bind ?_
  intro st
  split
  · exact closed.lift _
  · split
    · exact closed.pure _
    · exact closed.bind closed.draw fun _ => closed.lift _

theorem onResults (f : Function) (a : Arguments) : P (f.onResults a) := by
  unfold Function.onResults
  split
  · exact closed.pure _
  · exact closed.newList _
  · exact closed.choose _ _
  · exact closed.throw _

theorem raise (v : Value) : P (raise v : Eval Value) := by
  unfold Eval.raise
  split
  · exact closed.throw _
  · exact closed.throw _
  · exact closed.throw _
  · refine closed.getStore_bind ?_
    intro st
    split
    · exact closed.throw _
    · exact closed.throw _

theorem takeRecorded : P takeRecorded :=
  closed.get_bind (fun _ _ => rfl) fun _ =>
    closed.bind (closed.modify (fun _ => rfl) fun _ _ => rfl) fun _ =>
    closed.bind (closed.mapM (fun _ => closed.newList _) _) fun _ => closed.newList _

theorem recordArguments (args : List Value) : P (recordArguments args) :=
  closed.modify (fun _ => rfl) fun _ _ => rfl

theorem patternContent (message pattern place : Value) :
    P (PatternError.content message pattern place) := by
  unfold PatternError.content
  split
  · exact closed.pure _
  · refine closed.bind (closed.plain _) fun _ => closed.bind (closed.lift _) fun _ =>
      closed.getStore_bind fun _ => closed.bind (closed.lift _) fun _ => ?_
    split
    · exact closed.pure _
    · exact closed.throw _

theorem errorContent (c : ErrorClass) (args : List Value) (named : Keywords) :
    P (errorContent c args named) := by
  unfold Eval.errorContent
  split
  · exact closed.bind (closed.lift _) fun _ => closed.pure _
  · refine closed.bind (closed.lift _) ?_
    intro a
    split
    · exact closed.bind (closed.patternContent _ _ _) fun _ => closed.pure _
    · exact closed.throw _
  · exact closed.bind (closed.lift _) fun _ => closed.pure _

end Functions

end Eval.Closed

def Arguments.values (a : Arguments) : List Value := a.given.filterMap id ++ a.rest

namespace Function

theorem mem_of_lookup {named : Keywords} {name : String} {v : Value}
    (present : named.lookup name = some v) : v ∈ named.map (·.2) := by
  induction named with
  | nil => cases present
  | cons given named ih =>
    rw [List.lookup_cons] at present
    split at present
    · cases present
      exact List.mem_cons_self
    · exact List.mem_cons_of_mem _ (ih present)

theorem fill_cons {named : Keywords} {p : Parameter} {ps : List Parameter} {vs : List Value}
    {given : List (Option Value)} (filled : fill named (p :: ps) vs = .ok given) :
    ∃ first rest, given = first :: rest ∧ fill named ps vs.tail = .ok rest ∧
      ∀ v, first = some v → v ∈ vs ++ named.map (·.2) := by
  have rest : ∀ first : Option Value, (∀ v, first = some v → v ∈ vs ++ named.map (·.2)) →
      (fill named ps vs.tail >>= fun rest => pure (first :: rest) : Except Fault _) = .ok given →
      ∃ first rest, given = first :: rest ∧ fill named ps vs.tail = .ok rest ∧
        ∀ v, first = some v → v ∈ vs ++ named.map (·.2) := by
    intro first here filled
    obtain ⟨rest, others, same⟩ := except_bind_eq_ok.mp filled
    cases same
    exact ⟨first, rest, rfl, others, here⟩
  unfold fill at filled
  rcases vs with _ | ⟨w, vs⟩ <;> rcases present : named.lookup p.name with _ | w' <;>
    simp only [present] at filled
  · split at filled
    · exact rest none (fun v none => nomatch none) filled
    · cases filled
  · refine rest (some w') ?_ filled
    rintro v ⟨⟩
    exact mem_of_lookup present
  · refine rest (some w) ?_ filled
    rintro v ⟨⟩
    exact List.mem_cons_self
  · cases filled

theorem mem_of_fill {named : Keywords} {ps : List Parameter} {vs : List Value}
    {given : List (Option Value)} (filled : fill named ps vs = .ok given) {v : Value}
    (member : some v ∈ given) : v ∈ vs ++ named.map (·.2) := by
  induction ps generalizing vs given with
  | nil =>
    cases filled
    cases member
  | cons p ps ih =>
    obtain ⟨first, rest, rfl, others, here⟩ := fill_cons filled
    rcases List.mem_cons.mp member with same | member
    · exact here v same.symm
    · rcases List.mem_append.mp (ih others member) with place | name
      · exact List.mem_append_left _ (List.mem_of_mem_tail place)
      · exact List.mem_append_right _ name

/-- What is accepted has been given. -/
theorem values_of_accept {signature : Signature} {args : List Value} {named : Keywords}
    {a : Arguments} (accepted : signature.accept args named = .ok a) :
    a.values ⊆ args ++ named.map (·.2) ∧ a.extra ⊆ named := by
  obtain ⟨byPlace, places, accepted⟩ := except_bind_eq_ok.mp accepted
  obtain ⟨byName, names, accepted⟩ := except_bind_eq_ok.mp accepted
  dsimp only at accepted
  split at accepted
  · cases accepted
  · cases accepted
    refine ⟨?_, fun _ => List.mem_of_mem_filter⟩
    intro v member
    rcases List.mem_append.mp member with given | rest
    · obtain ⟨w, among, same⟩ := List.mem_filterMap.mp given
      have filled : some v ∈ byPlace ++ byName := by
        rw [← same]
        exact among
      rcases List.mem_append.mp filled with place | name
      · rcases List.mem_append.mp (mem_of_fill places place) with early | late
        · exact List.mem_append_left _ (List.mem_of_mem_take early)
        · exact List.mem_append_right _ late
      · rcases List.mem_append.mp (mem_of_fill names name) with early | late
        · cases early
        · exact List.mem_append_right _ late
    · exact List.mem_append_left _ (List.mem_of_mem_drop rest)

theorem named_of_accept_node {args : List Value} {named : Keywords} {a : Arguments}
    (accepted : Function.node.signature.accept args named = .ok a) : named ≠ [] := by
  rintro rfl
  simp [signature, Signature.accept, Signature.needed, Signature.omissible, fill] at accepted
  cases accepted

end Function

namespace Eval

/-- What a property has to hold of, besides being closed, for a call to have it: the calls made with
what the call was given, the steps carried out, and all that writes over objects. Only what is
given can be changed, and a node is made of what is given only if something is given by name. -/
structure Calls (P : {α : Type} → Eval α → Prop) (call : NamedCaller) (args : List Value)
    (named : Keywords) : Prop where
  called (fn : Value) {vs : List Value} {kw : Keywords} :
    vs ⊆ args ++ named.map (·.2) → kw ⊆ named → P (call fn vs kw)
  carried (step : Step) (current : Value) : P (step.carryOut (Function.caller call) current)
  copies (tag : Value) (es : Entries) (vs : List Value) : P (Node.makeCopy tag es vs)
  made (parts : Node.Parts) : named ≠ [] → P (Node.make parts)
  set {c : Value} (key v : Value) : c ∈ args ++ named.map (·.2) → P (setItem c key v)
  appended {c : Value} (v : Value) : c ∈ args ++ named.map (·.2) → P (append c v)

namespace Closed

variable {P : {α : Type} → Eval α → Prop} (closed : Closed @P) {call : NamedCaller}
  {args : List Value} {named : Keywords} (calls : Calls @P call args named)
include closed calls

section Functions

variable {a : Arguments} (values : a.values ⊆ args ++ named.map (·.2)) (extra : a.extra ⊆ named)
include values

theorem onQueries (f : Function) : P (f.onQueries call a) := by
  refine closed.getStore_bind ?_
  intro st
  dsimp only
  split
  · exact closed.readValue _
  · split
    · exact closed.map _ (closed.quiet (Display.quiet_stepText quiet_display quiet_plain _))
    · exact closed.throw _
  · exact closed.bind (closed.ofSteps _ _) fun _ => closed.alloc _
  · exact closed.bind (closed.ofSteps _ _) fun _ => closed.alloc _
  · exact closed.bind (closed.alloc _) fun _ =>
      closed.bind (closed.bind (closed.ofSteps _ _) fun _ => closed.alloc _) fun _ =>
      closed.getStore_bind fun _ => closed.bind (closed.lift _) fun _ =>
      closed.compose calls.carried _ _ _
  · next q root given =>
    refine calls.called q (fun v member => values ?_) (List.nil_subset _)
    simp [Arguments.values, given, List.mem_singleton.mp member]
  · exact closed.bind (closed.lift _) fun _ =>
      closed.bind (calls.called _ (List.nil_subset _) (List.nil_subset _)) fun _ =>
      closed.compose calls.carried _ _ _
  · exact closed.bind (closed.lift _) fun _ => closed.require calls.carried _ _
  · exact closed.bind (closed.lift _) fun q => closed.expression q _
  · exact closed.bind (closed.lift _) fun _ => closed.pure _
  · exact closed.bind (closed.lift _) fun _ => closed.pure _
  · exact closed.bind (closed.lift _) fun _ => closed.lift _
  · exact closed.bind (closed.lift _) fun _ => closed.lift _
  · split
    · exact closed.pure _
    · exact closed.alloc _
  · exact closed.throw _

include extra in
theorem onChecks (f : Function) : P (f.onChecks call a) := by
  have run : ∀ check expected fn depth,
      P (Function.nothingAfter (Check.run call check expected fn a.rest a.extra depth)) := by
    intro check expected fn depth
    refine closed.bind (closed.runCheck check expected fn _ _ depth (calls.called fn ?_ extra))
      fun _ => closed.pure _
    exact fun v member => values (List.mem_append_right _ member)
  unfold Function.onChecks
  split
  · exact run _ _ _ _
  · exact run _ _ _ _
  · exact run _ _ _ _
  · exact run _ _ _ _
  · exact closed.bind (closed.runValue _ _ _) fun _ => closed.pure _
  · exact closed.bind (calls.called _ (List.nil_subset _) (List.nil_subset _)) fun _ =>
      closed.pure _
  · exact closed.bind closed.exitCodes fun _ => closed.newList _
  · exact closed.bind (closed.writeLine _ _) fun _ => closed.pure _
  · exact closed.bind (closed.flag _) fun _ => closed.pure _
  · exact closed.bind (closed.setVariable _ _) fun _ => closed.pure _
  · exact closed.throw _

theorem onScript (f : ScriptFunction) : P (f.apply a) := by
  unfold ScriptFunction.apply
  split
  · exact closed.pure _
  · exact closed.pure _
  · next c key v given =>
    refine closed.bind (calls.set key v (values ?_)) fun _ => closed.pure _
    simp [Arguments.values, given]
  · next list v given =>
    refine closed.bind (calls.appended v (values ?_)) fun _ => closed.pure _
    simp [Arguments.values, given]
  · exact closed.pure _
  · exact closed.takeRecorded
  · exact closed.alloc _
  · exact closed.pure _
  · exact closed.pure _
  · exact closed.newList _
  · exact closed.throw _
  · exact closed.pure _
  · exact closed.pure _
  · exact closed.raise _
  · exact closed.throw _

end Functions

theorem apply (f : Function) : P (f.apply call args named) := by
  refine closed.lift_bind ?_
  intro a accepted
  obtain ⟨values, extra⟩ := Function.values_of_accept accepted
  have texts := closed.onTexts f a
  have searches := closed.onSearches f a
  have results := closed.onResults f a
  have queries := closed.onQueries calls values f
  have checks := closed.onChecks calls values extra f
  have scripts := closed.onScript calls values
  have nodes : P (f.onNodes a) := by
    refine closed.onNodes calls.copies f ?_ a
    rintro rfl parts
    exact calls.made parts (Function.named_of_accept_node accepted)
  split <;> first | assumption | exact scripts _

theorem callClosure (c : Closure) : P (callClosure call c args named) := by
  cases c with
  | constant v => exact closed.pure v
  | argument place => exact closed.bind (closed.lift _) fun _ => closed.lift _
  | pick number => exact closed.bind (closed.lift _) fun _ => closed.lift _
  | spy target =>
    exact closed.bind (closed.recordArguments args) fun _ =>
      calls.called target (List.subset_append_left _ _) (List.Subset.refl _)
  | raising error => exact closed.raise error
  | selector attr =>
    refine closed.bind (closed.lift _) ?_
    intro a
    split
    · exact closed.getStore_bind fun _ => closed.lift _
    · exact closed.throw _
  | disguised shown name => exact closed.bind (closed.lift _) fun _ => closed.pure _

theorem callQuery (q : Query) : P (callQuery call q args named) := by
  refine closed.bind (closed.lift _) ?_
  intro a
  split
  · exact closed.compose calls.carried _ _ _
  · exact closed.throw _

omit calls in
theorem callWithin_succ {depth : Nat} (calls : Calls @P (callWithin depth) args named)
    (fn : Value) : P (callWithin (depth + 1) fn args named) := by
  unfold callWithin
  split
  · exact closed.apply calls _
  · exact closed.bind (closed.errorContent _ _ _) fun _ => closed.alloc _
  · refine closed.getStore_bind ?_
    intro st
    split
    · exact closed.callClosure calls _
    · exact closed.callQuery calls _
    · exact closed.throw _

end Closed

end Eval

end TreeQuery
