import TreeQuery.Display.Value
import TreeQuery.Proofs.Evaluation

namespace TreeQuery

namespace Eval

variable {α β : Type}

/-- The second evaluation does what the first one does, unless that one runs too deep. -/
def Deepens (x y : Eval α) : Prop :=
  ∀ s, (x.exec s).1 = .error .tooDeep ∨ y.exec s = x.exec s

namespace Deepens

theorem refl (x : Eval α) : Deepens x x := fun _ => .inr rfl

theorem tooDeep (y : Eval α) : Deepens (throw .tooDeep) y := fun _ => .inl rfl

theorem done {x y : Eval α} (deepens : Deepens x y) {s t : Session} {a : α}
    (run : x.exec s = (.ok a, t)) : y.exec s = (.ok a, t) := by
  rcases deepens s with deep | same
  · rw [run] at deep
    cases deep
  · exact same.trans run

theorem bind {x y : Eval α} {f g : α → Eval β} (first : Deepens x y)
    (second : ∀ a, Deepens (f a) (g a)) : Deepens (x >>= f) (y >>= g) := by
  intro s
  rw [exec_bind, exec_bind]
  rcases first s with deep | same
  · rcases run : x.exec s with ⟨r, t⟩
    rw [run] at deep
    subst deep
    exact .inl rfl
  · rw [same]
    rcases x.exec s with ⟨(fault | a), t⟩
    · exact .inr rfl
    · exact second a t

theorem after {f g : α → Eval β} (x : Eval α) (second : ∀ a, Deepens (f a) (g a)) :
    Deepens (x >>= f) (x >>= g) :=
  (refl x).bind second

theorem before {x y : Eval α} (first : Deepens x y) (f : α → Eval β) :
    Deepens (x >>= f) (y >>= f) :=
  first.bind fun a => refl (f a)

/-- A fault that is caught is none of running too deep. -/
theorem tryCatch {x y : Eval α} (deepens : Deepens x y) {f : Fault → Eval α}
    (passes : f .tooDeep = throw .tooDeep) : Deepens (tryCatch x f) (tryCatch y f) := by
  intro s
  rw [exec_tryCatch, exec_tryCatch]
  rcases deepens s with deep | same
  · rcases run : x.exec s with ⟨r, t⟩
    rw [run] at deep
    subst deep
    exact .inl (by simp only [passes, exec_throw])
  · exact .inr (by rw [same])

theorem mapM {f g : α → Eval β} (each : ∀ a, Deepens (f a) (g a)) (xs : List α) :
    Deepens (xs.mapM f) (xs.mapM g) := by
  induction xs with
  | nil => exact refl _
  | cons x xs ih =>
    rw [List.mapM_cons, List.mapM_cons]
    exact (each x).bind fun _ => ih.before _

theorem visitLeft {f g : Value → Eval β} (each : ∀ v, Deepens (f v) (g v)) (a : Addr)
    (fuel : Nat) : Deepens (visitLeft a f fuel) (visitLeft a g fuel) := by
  induction fuel with
  | zero => exact refl _
  | succ fuel ih =>
    refine after _ fun st => ?_
    split
    · exact after _ fun _ => (each _).bind fun _ => ih.before _
    · exact refl _

theorem visit {f g : Value → Eval β} (each : ∀ v, Deepens (f v) (g v)) (v : Value) :
    Deepens (visit v f) (visit v g) := by
  refine after _ fun st => ?_
  split
  · exact refl _
  · split
    · exact visitLeft each _ _
    · exact mapM each _
  · exact mapM each _

end Deepens

end Eval

open Eval

variable {render render' plain plain' : Renderer}

namespace Display

variable (deepens : ∀ v, Deepens (render v) (render' v))
include deepens

theorem deepens_attrWords (attrs : Entries) :
    Deepens (attrWords render attrs) (attrWords render' attrs) := by
  refine .before (.mapM (fun e => ?_) attrs) _
  unfold attrWord
  split
  · exact .before (deepens _) _
  · exact .refl _

theorem deepens_shown (t : Tree) : Deepens (t.shown render) (t.shown render') :=
  .tryCatch (.before (deepens_attrWords deepens _) _) rfl

theorem deepens_listed (vs : List Value) : Deepens (listed render vs) (listed render' vs) :=
  .before (.mapM deepens vs) _

theorem deepens_tupled (vs : List Value) : Deepens (tupled render vs) (tupled render' vs) := by
  unfold tupled
  split
  · exact .before (deepens _) _
  · exact .before (.mapM deepens vs) _

theorem deepens_ofEntries (es : Entries) :
    Deepens (ofEntries render es) (ofEntries render' es) :=
  .before (.mapM (fun e => .bind (deepens e.1) fun _ => .before (deepens e.2) _) es) _

theorem deepens_ofError (kind : ErrorClass) (args : List Value) :
    Deepens (ofError render kind args) (ofError render' kind args) := by
  unfold ofError
  split
  · exact .before (deepens _) _
  · exact .before (deepens_tupled deepens args) _

theorem deepens_ofStep (step : Step) : Deepens (ofStep render step) (ofStep render' step) := by
  cases step <;> exact .bind (deepens _) fun _ => .before (deepens _) _

theorem deepens_ofElementTag (tag : ElementTag) :
    Deepens (ofElementTag render tag) (ofElementTag render' tag) := by
  cases tag with
  | named tag => exact deepens tag
  | comment => exact .refl _
  | instruction => exact .refl _

theorem deepens_callName (v : Value) : Deepens (callName render v) (callName render' v) := by
  refine .after _ fun st => ?_
  split
  · exact deepens v
  · exact deepens v
  · exact .refl _

theorem deepens_searchHead (attr : Value) :
    Deepens (searchHead render attr) (searchHead render' attr) := by
  unfold searchHead
  split
  · exact .refl _
  · exact .before (deepens attr) _

section Queries

variable (deepensPlain : ∀ v, Deepens (plain v) (plain' v))
include deepensPlain

theorem deepens_stepExpression (i : Nat) (step : Step) (inner : Value) :
    Deepens (stepExpression render plain i step inner)
      (stepExpression render' plain' i step inner) := by
  refine .bind (deepens_searchHead deepens _) fun head => ?_
  cases step with
  | scalar attr v => exact .bind (deepens v) fun _ => .before (deepensPlain inner) _
  | branch attr form =>
    refine .after _ fun parts => .bind (.visit (fun c => .before (deepens c) _) _) fun calls => ?_
    exact .bind (deepens_callName deepens _) fun _ => .before (deepensPlain inner) _

theorem deepens_expressionFrom (steps : List Step) (i : Nat) (inner : Value) :
    Deepens (expressionFrom render plain i steps inner)
      (expressionFrom render' plain' i steps inner) := by
  induction steps generalizing i inner with
  | nil => exact .refl _
  | cons step steps ih =>
    exact .bind (deepens_stepExpression deepens deepensPlain i step inner) fun outer => ih _ _

theorem deepens_messageOf (kind : ErrorClass) (args : List Value) :
    Deepens (messageOf render plain kind args) (messageOf render' plain' kind args) := by
  unfold messageOf
  split
  · exact .refl _
  · split
    · exact deepens _
    · exact deepensPlain _
  · exact deepens_tupled deepens args

end Queries

theorem deepens_plainWithin (fuel : Nat) (v : Value) :
    Deepens (plainWithin render fuel v) (plainWithin render' fuel v) := by
  induction fuel generalizing v with
  | zero => exact deepens v
  | succ fuel ih =>
    unfold plainWithin
    split
    · exact .refl _
    · refine .after _ fun st => ?_
      split
      · exact deepens_messageOf deepens ih _ _
      · exact deepens v

theorem deepens_ofObject (v : Value) (o : Object) :
    Deepens (ofObject render v o) (ofObject render' v o) := by
  cases o with
  | tuple vs => exact deepens_tupled deepens vs
  | list vs => exact deepens_listed deepens vs
  | dict es => exact deepens_ofEntries deepens es
  | node n => exact .after _ fun _ => .after _ fun t => deepens_shown deepens t
  | step s => exact deepens_ofStep deepens s
  | query q =>
    refine .after _ fun st => ?_
    have deepensPlain := deepens_plainWithin deepens st.depth
    exact .bind (deepens_expressionFrom deepens deepensPlain _ _ _) fun _ =>
      .before (deepensPlain _) _
  | element e => exact .before (deepens_ofElementTag deepens e.tag) _
  | error kind args => exact deepens_ofError deepens kind args
  | _ => exact .refl _

omit deepens in
/-- With more room for what is inside, a value is shown as before. -/
theorem deepens_valueWithin (fuel : Nat) (opened : List Addr) (v : Value) :
    Deepens (valueWithin fuel opened v) (valueWithin (fuel + 1) opened v) := by
  induction fuel generalizing opened v with
  | zero =>
    cases v with
    | ref a => exact .tooDeep _
    | _ => exact .refl _
  | succ fuel ih =>
    cases v with
    | ref a =>
      refine .after _ fun st => ?_
      split
      · exact .refl _
      · split
        · exact deepens_ofObject (ih opened) _ _
        · split
          · exact .refl _
          · exact deepens_ofObject (ih (a :: opened)) _ _
    | _ => exact .refl _

end Display

variable {s t : Session}

theorem Display.exec_ofError_of_display {v : Value} {kind : ErrorClass} {args : List Value}
    {text : String} (object : s.store.object? v = some (.error kind args))
    (shown : (display v).exec s = (.ok text, t)) :
    (ofError display kind args).exec s = (.ok text, t) := by
  cases v with
  | ref a =>
    have read : s.store.read? a = some (.error kind args) := object
    have inside : (display (.ref a)).exec s =
        (ofError (valueWithin 999 []) kind args).exec s := by
      rw [display, deepest, valueWithin, exec_bind_ok (exec_getStore s), read]
      rfl
    have deepens := deepens_ofError (fun v => deepens_valueWithin 999 [] v) kind args
    exact deepens.done (inside.symm.trans shown)
  | _ => cases object

theorem Display.exec_messageOf_of_ofError {kind : ErrorClass} {args : List Value} {text : String}
    (shown : (ofError display kind args).exec s = (.ok text, t))
    (writes : ∀ {v text}, (display v).exec s = (.ok text, t) →
      ∃ written, (plain v).exec s = (.ok written, t)) :
    ∃ message, (messageOf display plain kind args).exec s = (.ok message, t) := by
  match args with
  | [] =>
    cases shown
    exact ⟨"", rfl⟩
  | [v] =>
    obtain ⟨inner, m, content, same⟩ := exec_bind_eq_ok.mp shown
    cases same
    unfold messageOf
    dsimp only
    split
    · exact ⟨inner, content⟩
    · exact writes content
  | v :: w :: vs =>
    obtain ⟨inner, m, content, same⟩ := exec_bind_eq_ok.mp shown
    cases same
    exact ⟨inner, content⟩

/-- Whatever can be shown can be written, and what is left of the session is the same. -/
theorem Display.exec_plainWithin_of_display (fuel : Nat) {v : Value} {text : String}
    (shown : (display v).exec s = (.ok text, t)) :
    ∃ written, (plainWithin display fuel v).exec s = (.ok written, t) := by
  induction fuel generalizing v text with
  | zero => exact ⟨text, shown⟩
  | succ fuel ih =>
    unfold plainWithin
    split
    · cases shown
      exact ⟨_, rfl⟩
    · rw [exec_bind_ok (exec_getStore s)]
      split
      · next kind args object =>
        exact exec_messageOf_of_ofError (exec_ofError_of_display object shown) ih
      · exact ⟨text, shown⟩

theorem exec_plain_of_display {v : Value} {text : String}
    (shown : (display v).exec s = (.ok text, t)) :
    ∃ written, (TreeQuery.plain v).exec s = (.ok written, t) := by
  rw [TreeQuery.plain, exec_bind_ok (exec_getStore s)]
  exact Display.exec_plainWithin_of_display s.store.depth shown

end TreeQuery
