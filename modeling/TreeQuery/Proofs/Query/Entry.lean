import TreeQuery.Proofs.Query.Trace

/-! The ways into a query: descending from a root at once, or making the query first and then
calling it, evaluating it on an expression, or requiring a result. All run the same loop over the
steps, and differ in what they do before and behind it. -/

namespace TreeQuery

open Eval

namespace Display

theorem text_of_stepExpression {render plain : Renderer} {i : Nat} {step : Step} {inner v : Value}
    {s t : Session} (done : (stepExpression render plain i step inner).exec s = (.ok v, t)) :
    ∃ text, v = .text text := by
  obtain ⟨head, m, _, done⟩ := exec_bind_eq_ok.mp done
  cases step with
  | scalar attr value =>
    obtain ⟨shown, m', _, done⟩ := exec_bind_eq_ok.mp done
    obtain ⟨inner', m'', _, done⟩ := exec_bind_eq_ok.mp done
    cases done
    exact ⟨_, rfl⟩
  | branch attr form =>
    obtain ⟨parts, m₁, _, done⟩ := exec_bind_eq_ok.mp done
    obtain ⟨calls, m₂, _, done⟩ := exec_bind_eq_ok.mp done
    obtain ⟨name, m₃, _, done⟩ := exec_bind_eq_ok.mp done
    obtain ⟨inner', m₄, _, done⟩ := exec_bind_eq_ok.mp done
    cases done
    exact ⟨_, rfl⟩

theorem text_of_expressionFrom {render plain : Renderer} {i : Nat} {steps : List Step}
    {r : String} {v : Value} {s t : Session}
    (done : (expressionFrom render plain i steps (.text r)).exec s = (.ok v, t)) :
    ∃ text, v = .text text := by
  induction steps generalizing i r s with
  | nil =>
    cases done
    exact ⟨r, rfl⟩
  | cons step steps ih =>
    obtain ⟨outer, m, first, done⟩ := exec_bind_eq_ok.mp done
    obtain ⟨text, rfl⟩ := text_of_stepExpression first
    exact ih done

end Display

namespace Query

def asking : Option (Option Bool) → Keywords
  | none => []
  | some trace => [("trace", traceValue trace)]

/-- What comes of using a query, which is an object of the session, in terms of a run over its steps
from the same session. -/
structure Enters (call : NamedCaller) (v : Value) (q : Query) (run : Value → Session → Course)
    (t : Session) : Prop where
  called (root : Value) : (callQuery call q [root] []).exec t = (run root t).ending
  /-- The expression of the root is evaluated once and before any step. -/
  evaluated (f root : Value) (u : Session) : (call f [] []).exec t = (.ok root, u) →
    (Function.evaluate.apply call [v, f] []).exec t = (run root u).ending
  rootless (f : Value) (fault : Fault) (u : Session) : (call f [] []).exec t = (.error fault, u) →
    (Function.evaluate.apply call [v, f] []).exec t = (.error fault, u)
  failed (root : Value) (fault : Fault) (u : Session) : (run root t).ending = (.error fault, u) →
    (Function.require.apply call [v, root] []).exec t = (.error fault, u)
  found (root result : Value) (u : Session) : (run root t).ending = (.ok result, u) →
    result ≠ .null → (Function.require.apply call [v, root] []).exec t = (.ok result, u)
  /-- Where nothing was found, the expression of the query is written, which writes nothing to the
  diagnostics. -/
  absent (root : Value) (u : Session) : (run root t).ending = (.ok .null, u) → ∃ st,
    (∃ text, (q.expression Display.rootName).exec u = (.ok (.text text), { u with store := st }) ∧
      (Function.require.apply call [v, root] []).exec t =
        (.error (.noMatch root text), { u with store := st })) ∨
    ∃ fault, (q.expression Display.rootName).exec u = (.error fault, { u with store := st }) ∧
      (Function.require.apply call [v, root] []).exec t = (.error fault, { u with store := st })
  written : (Function.expression.apply call [v] []).exec t =
    (q.expression Display.rootName).exec t

theorem exec_require_absent {call : Caller} {q : Query} {root : Value} {t u : Session}
    (absent : (q.run call root).exec t = (.ok .null, u)) : ∃ st,
    (∃ text, (q.expression Display.rootName).exec u = (.ok (.text text), { u with store := st }) ∧
      (q.require call root).exec t = (.error (.noMatch root text), { u with store := st })) ∨
    ∃ fault, (q.expression Display.rootName).exec u = (.error fault, { u with store := st }) ∧
      (q.require call root).exec t = (.error fault, { u with store := st }) := by
  have behind : (q.require call root).exec t =
      (q.expression Display.rootName >>= fun shown => plain shown >>= fun text =>
        throw (.noMatch root text) >>= fun _ : PUnit => pure .null).exec u := by
    rw [require, exec_bind_ok absent]
    simp
  obtain ⟨r, st, _, quiet⟩ := Display.quiet_expressionFrom quiet_display quiet_plain q.steps 1
    Display.rootName u.store
  have done : (q.expression Display.rootName).exec u = (r, { u with store := st }) := quiet u rfl
  refine ⟨st, ?_⟩
  rcases r with fault | shown
  · exact .inr ⟨fault, done, by rw [behind, exec_bind_error done]⟩
  · obtain ⟨text, rfl⟩ := Display.text_of_expressionFrom done
    refine .inl ⟨text, done, ?_⟩
    rw [behind, exec_bind_ok done, exec_bind_ok (exec_plain_text text _)]
    rfl

theorem enters {call : NamedCaller} {v : Value} {q : Query} {t : Session}
    (object : t.store.object? v = some (.query q)) :
    q.Enters call v (loop (Function.caller call) q.traced q.steps) t := by
  have read : (liftM (Query.ofValue t.store v) : Eval Query).exec t = (.ok q, t) := by
    rw [Query.ofValue, object]
    exact exec_lift _ t
  have runs : ∀ root u, (q.run (Function.caller call) root).exec u =
      (loop (Function.caller call) q.traced q.steps root u).ending := fun root u => by
    rw [run, exec_compose]
  have evaluates : ∀ f, (Function.evaluate.apply call [v, f] []).exec t =
      (call f [] [] >>= q.run (Function.caller call)).exec t := by
    intro f
    have accepted : Function.evaluate.apply call [v, f] [] =
        Function.evaluate.onQueries call ⟨[some v, some f], [], []⟩ := rfl
    rw [accepted, Function.onQueries, exec_bind_ok (exec_getStore t), exec_bind_ok read]
    rfl
  have requires : ∀ root, (Function.require.apply call [v, root] []).exec t =
      (q.require (Function.caller call) root).exec t := by
    intro root
    have accepted : Function.require.apply call [v, root] [] =
        Function.require.onQueries call ⟨[some v, some root], [], []⟩ := rfl
    rw [accepted, Function.onQueries, exec_bind_ok (exec_getStore t), exec_bind_ok read]
  constructor
  · exact fun root => runs root t
  · intro f root u given
    rw [evaluates, exec_bind_ok given, runs]
  · intro f fault u stops
    rw [evaluates, exec_bind_error stops]
  · intro root fault u stops
    rw [requires, require]
    exact exec_bind_error ((runs root t).trans stops) _
  · intro root result u found present
    rw [requires, require, exec_bind_ok ((runs root t).trans found)]
    simp [present]
  · intro root u none
    rw [requires]
    exact exec_require_absent ((runs root t).trans none)
  · have accepted : Function.expression.apply call [v] [] =
        Function.expression.onQueries call ⟨[some v, none], [], []⟩ := rfl
    rw [accepted, Function.onQueries, exec_bind_ok (exec_getStore t), exec_bind_ok read]
    rfl

/-- In a session, a call makes a query of given steps without anything but new objects coming of
it, and wherever the query is used then, the same run comes of it. -/
structure Makes (call : NamedCaller) (s : Session) (given : Value) (named : Keywords)
    (run : Value → Session → Course) (v : Value) (st : Store) : Prop where
  made : (Function.compile.apply call [given] named).exec s = (.ok v, { s with store := st })
  grows : s.store.Grows st
  enters : ∃ q, st.object? v = some (.query q) ∧
    ∀ t, t.store.object? v = some (.query q) → q.Enters call v run t

theorem exec_newQuery {s : Session} {given : Value} {vs : List Value} {steps : List Step}
    (asked : Option (Option Bool)) (list : s.store.sequence? given = some vs)
    (reads : List.Forall₂ s.store.Reads vs steps) :
    ∃ v q st, (Function.newQuery given (asked.map traceValue)).exec s =
        (.ok v, { s with store := st }) ∧
      s.store.Grows st ∧ st.object? v = some (.query q) ∧ q.steps = steps ∧
      q.traced = isTraced s.settings asked.join := by
  obtain ⟨q, st, made, grows, steps, traced⟩ := exec_ofSteps asked.join list reads
  have same : (asked.map traceValue).getD .null = traceValue asked.join := by
    cases asked <;> rfl
  refine ⟨.ref st.size, q, (st.alloc (.query q)).2, ?_, grows.trans (Store.grows_alloc _ _),
    Store.read?_alloc_self _ _, steps, traced⟩
  rw [Function.newQuery, same, exec_bind_ok made, exec_alloc]

section Entries

variable (call : NamedCaller) {s : Session} {vs : List Value} {steps : List Step}
  (asked : Option (Option Bool))

theorem exec_compile (given : Value) (s : Session) :
    (Function.compile.apply call [given] (asking asked)).exec s =
      (Function.newQuery given (asked.map traceValue)).exec s := by
  cases asked <;> rfl

/-- The steps that a descent is given become a tuple, of which the query is made that is run. -/
theorem exec_descend (root : Value) (vs : List Value) (s : Session) :
    (Function.descend.apply call (root :: vs) (asking asked)).exec s =
      (Function.newQuery (.ref s.store.size) (asked.map traceValue) >>= fun v =>
        getStore >>= fun st => liftM (Query.ofValue st v) >>= fun q =>
          q.run (Function.caller call) root).exec
        { s with store := (s.store.alloc (.tuple vs)).2 } := by
  have accepted : Function.descend.signature.accept (root :: vs) (asking asked) =
      .ok ⟨[some root, asked.map traceValue], vs, []⟩ := by
    cases asked <;> cases vs <;> rfl
  have applied : (Function.descend.apply call (root :: vs) (asking asked)).exec s =
      (Function.descend.onQueries call ⟨[some root, asked.map traceValue], vs, []⟩).exec s := by
    rw [Function.apply, accepted]
    rfl
  rw [applied, Function.onQueries, exec_bind_ok (exec_getStore s)]
  simp only
  rw [exec_bind_ok (exec_alloc _ s)]

theorem makes_of_sequence {given : Value} (list : s.store.sequence? given = some vs)
    (reads : List.Forall₂ s.store.Reads vs steps) :
    ∃ v st, Makes call s given (asking asked)
      (loop (Function.caller call) (isTraced s.settings asked.join) steps) v st := by
  obtain ⟨v, q, st, made, grows, object, rfl, traced⟩ := exec_newQuery asked list reads
  refine ⟨v, st, (exec_compile call asked given s).trans made, grows, q, object, ?_⟩
  rw [← traced]
  exact fun t here => enters here

end Entries

/-- All ways into a query of given steps agree. It can be made from any list of the steps; and when
it is made from a tuple, then running it comes to the same as descending at once does. -/
theorem entry_points_agree (call : NamedCaller) (s : Session) (vs : List Value)
    (steps : List Step) (asked : Option (Option Bool))
    (reads : List.Forall₂ s.store.Reads vs steps) :
    (∀ given, s.store.sequence? given = some vs → ∃ v st, Makes call s given (asking asked)
      (loop (Function.caller call) (isTraced s.settings asked.join) steps) v st) ∧
    ∃ v st, Makes call { s with store := (s.store.alloc (.tuple vs)).2 } (.ref s.store.size)
        (asking asked) (loop (Function.caller call) (isTraced s.settings asked.join) steps) v st ∧
      ∀ root, (Function.descend.apply call (root :: vs) (asking asked)).exec s =
        (loop (Function.caller call) (isTraced s.settings asked.join) steps root
          { s with store := st }).ending := by
  refine ⟨fun given list => makes_of_sequence call asked list reads, ?_⟩
  have tuple : (s.store.alloc (.tuple vs)).2.tupleItems? (.ref s.store.size) = some vs := by
    have read : (s.store.alloc (.tuple vs)).2.object? (.ref s.store.size) = some (.tuple vs) :=
      Store.read?_alloc_self _ _
    rw [Store.tupleItems?, read]
  have later := reads.imp fun _ _ reads => (Store.grows_alloc s.store (.tuple vs)).reads reads
  obtain ⟨v, st, makes⟩ := makes_of_sequence call (s := { s with store := _ }) asked
    (Store.sequence?_of_tupleItems? tuple) later
  refine ⟨v, st, makes, fun root => ?_⟩
  obtain ⟨q, object, enters⟩ := makes.enters
  have read : (liftM (Query.ofValue st v) : Eval Query).exec { s with store := st } =
      (.ok q, { s with store := st }) := by
    rw [Query.ofValue, object]
    exact exec_lift _ _
  rw [exec_descend, exec_bind_ok ((exec_compile call asked _ _).symm.trans makes.made),
    exec_bind_ok (exec_getStore _), exec_bind_ok read]
  exact (enters _ object).called root

theorem pickedSteps_entry_points_agree :
    List.Forall₂ pickedSteps.store.Reads [.ref 2, .ref 3]
        [.branch (.text "tag") (.ref 1), .scalar (.text "class") (.text "x")] ∧
      (∀ given, pickedSteps.store.sequence? given = some [.ref 2, .ref 3] →
        ∃ v st, Makes Eval.call pickedSteps given (asking none) (loop (Function.caller Eval.call)
          (isTraced pickedSteps.settings none)
          [.branch (.text "tag") (.ref 1), .scalar (.text "class") (.text "x")]) v st) ∧
      ∃ v st, Makes Eval.call
          { pickedSteps with store := (pickedSteps.store.alloc (.tuple [.ref 2, .ref 3])).2 }
          (.ref 5) (asking none) (loop (Function.caller Eval.call)
            (isTraced pickedSteps.settings none)
            [.branch (.text "tag") (.ref 1), .scalar (.text "class") (.text "x")]) v st ∧
        ∀ root, (Function.descend.apply Eval.call [root, .ref 2, .ref 3] (asking none)).exec
            pickedSteps =
          (loop (Function.caller Eval.call) (isTraced pickedSteps.settings none)
            [.branch (.text "tag") (.ref 1), .scalar (.text "class") (.text "x")] root
            { pickedSteps with store := st }).ending := by
  have form : pickedSteps.store.Live (.ref 1) := by
    intro a same
    cases same
    decide
  have plain : pickedSteps.store.Live (.text "x") := by
    intro a same
    cases same
  have reads : List.Forall₂ pickedSteps.store.Reads [.ref 2, .ref 3]
      [.branch (.text "tag") (.ref 1), .scalar (.text "class") (.text "x")] :=
    .cons (.pair rfl form) (.cons (.pair rfl plain) .nil)
  exact ⟨reads, entry_points_agree Eval.call pickedSteps [.ref 2, .ref 3] _ none reads⟩

def nameless : Session where
  store.objects := #[.list [], .dict [(.int 1, .text "x")], .node ⟨"b", 1, 0⟩, .list [.ref 2],
    .step (.scalar (.text "class") (.ref 3)), .tuple [.ref 4],
    .query ⟨[.scalar (.text "class") (.ref 3)], 5, .null, false⟩, .list [.text "x"],
    .tuple [.ref 6, .ref 7], .tuple [.text "tag", .ref 8], .list [.ref 9]]

/-- Where nothing is found, the query may have no written form, and then it is not an absence that
is told of. -/
theorem nameless_absence_is_not_told :
    (Step.branch (.text "tag") (.ref 8)).isInStrings nameless.store ∧
      ∃ v q t, (Function.compile.apply Eval.call [.ref 10] (asking none)).exec nameless =
          (.ok v, t) ∧
        t.store.object? v = some (.query q) ∧ q.steps = [.branch (.text "tag") (.ref 8)] ∧
        (callQuery Eval.call q [.null] []).exec t = (.ok .null, t) ∧
        (Function.require.apply Eval.call [v, .null] []).exec t =
          (.error (.wrongType "str"), t) :=
  ⟨rfl, _, _, _, rfl, rfl, rfl, rfl, rfl⟩

end Query

end TreeQuery
