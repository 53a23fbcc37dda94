import TreeQuery.Proofs.Display.Clause
import TreeQuery.Proofs.Keeping
import TreeQuery.Proofs.Query.Trace

namespace TreeQuery

open Eval

namespace Store

/-- A clause means a step: its strings are the same, and its form is a pair of the combinator and a
list of the candidates. By which name the combinator goes is left open. -/
inductive Means (st : Store) : Step → Clause → Prop
  | scalar (attr value : String) :
    Means st (.scalar (.text attr) (.text value)) (.scalar attr value)
  | branch (attr name : String) {form combinator : Value} {a : Addr} {candidates : List String}
    (pair : st.tupleItems? form = some [combinator, .ref a])
    (list : st.read? a = some (.list (candidates.map .text))) :
    Means st (.branch (.text attr) form) (.branch attr name combinator candidates)

variable {st st' : Store}

theorem Keeps.tupleItems? (keeps : st.Keeps st') {v : Value} {items : List Value}
    (tuple : st.tupleItems? v = some items) : st'.tupleItems? v = some items := by
  cases v with
  | ref a =>
    rcases read : st.read? a with _ | o
    · simp [Store.tupleItems?, object?, read] at tuple
    · cases o with
      | tuple vs => simpa [Store.tupleItems?, object?, read, keeps a _ read rfl] using tuple
      | step step => simpa [Store.tupleItems?, object?, read, keeps a _ read rfl] using tuple
      | _ => simp [Store.tupleItems?, object?, read] at tuple
  | _ => cases tuple

theorem Keeps.means (keeps : st.Keeps st') {step : Step} {c : Clause} (means : st.Means step c) :
    st'.Means step c := by
  cases means with
  | scalar attr value => exact .scalar attr value
  | branch attr name pair list =>
    exact .branch attr name (keeps.tupleItems? pair) (keeps _ _ list rfl)

end Store

/-- The combinators go by the names in the clauses, one after the other. Telling what goes by no
name of its own means to show it, which can change an iterator. -/
inductive Named : Session → List Clause → Session → Prop
  | nil (s : Session) : Named s [] s
  | scalar (attr value : String) {s t : Session} {cs : List Clause} (rest : Named s cs t) :
    Named s (.scalar attr value :: cs) t
  | branch (attr : String) {name : String} {combinator : Value} (candidates : List String)
    {s m t : Session} {cs : List Clause}
    (called : (Display.callName display combinator).exec s = (.ok name, m)) (rest : Named m cs t) :
    Named s (.branch attr name combinator candidates :: cs) t

namespace Display

theorem exec_searchHead (attr : String) (s : Session) :
    (searchHead display (.text attr)).exec s = (.ok (Clause.searchHead attr), s) := by
  unfold searchHead Clause.searchHead Step.tagSelector
  by_cases tag : attr = "tag"
  · simp [tag]
  · simp only [Value.text.injEq, if_neg tag]
    rw [exec_bind_ok (exec_display_text attr s)]
    rfl

/-- The calls of a branch, one for each candidate. -/
theorem exec_calls (i : Nat) (attr : String) (candidates : List String) (s : Session) :
    ((candidates.map Value.text).mapM fun c => do
      let shown ← display c
      return Clause.searchHead attr ++ shown ++ ", " ++ ("_" ++ toString i) ++ ")").exec s =
      (.ok (candidates.map (Clause.call i attr)), s) := by
  induction candidates with
  | nil => rfl
  | cons candidate candidates ih =>
    have first : (do
        let shown ← display (.text candidate)
        return Clause.searchHead attr ++ shown ++ ", " ++ ("_" ++ toString i) ++ ")").exec s =
        (.ok (Clause.call i attr candidate), s) := rfl
    rw [List.map_cons, exec_mapM_cons, exec_bind_ok first, exec_bind_ok ih]
    rfl

theorem exec_scalarExpression (i : Nat) (attr value r : String) (s : Session) :
    (stepExpression display plain i (.scalar (.text attr) (.text value)) (.text r)).exec s =
      (.ok (.text ((Clause.scalar attr value).opening i ++ r ++ ")")), s) := by
  unfold stepExpression Step.attr
  simp only
  rw [exec_bind_ok (exec_searchHead attr s), exec_bind_ok (exec_display_text value s),
    exec_bind_ok (exec_plain_text r s)]
  rfl

theorem exec_branchExpression (i : Nat) {attr name r : String} {form combinator : Value}
    {candidates : List String} {s m : Session}
    (means : s.store.Means (.branch (.text attr) form) (.branch attr name combinator candidates))
    (named : (callName display combinator).exec s = (.ok name, m)) :
    (stepExpression display plain i (.branch (.text attr) form) (.text r)).exec s =
      (.ok (.text ((Clause.branch attr name combinator candidates).opening i ++ r ++ ")")), m) := by
  cases means with
  | branch _ _ pair list =>
    have parts := pair_of_sequence (Store.sequence?_of_tupleItems? pair)
    have calls := (visit_of_sequence _ (Store.sequence?_of_list list)).trans
      (exec_calls i attr candidates s)
    unfold stepExpression Step.attr
    simp only
    rw [exec_bind_ok (exec_searchHead attr s), exec_bind_ok parts, exec_bind_ok calls,
      exec_bind_ok named, exec_bind_ok (exec_plain_text r m), exec_pure]
    simp [Clause.opening, String.append_assoc]

theorem closings_succ (n : Nat) : Clause.closings (n + 1) = ")" ++ Clause.closings n := by
  apply String.toList_inj.mp
  simp [Clause.closings, List.replicate_succ]

theorem exec_expressionFrom (i : Nat) {steps : List Step} {cs : List Clause} {s t : Session}
    (means : List.Forall₂ s.store.Means steps cs) (named : Named s cs t) (r : String) :
    (expressionFrom display plain i steps (.text r)).exec s =
      (.ok (.text (Clause.openings i cs ++ r ++ Clause.closings cs.length)), t) := by
  induction named generalizing i steps r with
  | nil s =>
    cases means
    simp [expressionFrom, Clause.openings, Clause.closings]
  | @scalar attr value s t cs rest ih =>
    cases means with
    | cons first means =>
      cases first
      unfold expressionFrom
      rw [exec_bind_ok (exec_scalarExpression i attr value r s), ih (i + 1) means]
      simp [Clause.openings, closings_succ, String.append_assoc]
  | @branch attr name combinator candidates s m t cs called rest ih =>
    cases means with
    | @cons step _ _ _ first means =>
      -- To tell the name of a combinator may spend iterators, which no clause depends on.
      have kept := ((quiet_callName quiet_display combinator).keepsFrom s)
      unfold KeepsFrom at kept
      rw [called] at kept
      have later := means.imp fun _ _ means => kept.means means
      cases first with
      | branch _ _ pair list =>
        unfold expressionFrom
        rw [exec_bind_ok (exec_branchExpression i (.branch attr name pair list) called),
          ih (i + 1) later]
        simp [Clause.openings, closings_succ, String.append_assoc]

end Display

end TreeQuery
