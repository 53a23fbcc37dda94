import TreeQuery.Diagnostics
import TreeQuery.Proofs.Quiet

namespace TreeQuery

open Eval

variable {render plain : Renderer}

namespace Display

theorem quiet_attrWord (quiet : ∀ v, Quiet (render v)) (limit name v : Value) :
    Quiet (attrWord render limit name v) := by
  unfold attrWord
  split
  · exact .bind (quiet v) fun _ => .bind (.lift _) fun _ => .pure _
  · exact .throw _

theorem quiet_attrWords (quiet : ∀ v, Quiet (render v)) (attrs : Entries) :
    Quiet (attrWords render attrs) :=
  .bind (.mapM (fun e => quiet_attrWord quiet wordLimit e.1 e.2) attrs) fun _ => .pure _

end Display

theorem Tree.quiet_line (quiet : ∀ v, Quiet (render v)) (t : Tree) : Quiet (t.line render) :=
  .bind (Display.quiet_attrWords quiet _) fun _ => .bind (.lift _) fun _ => .pure _

theorem Tree.quiet_shown (quiet : ∀ v, Quiet (render v)) (t : Tree) : Quiet (t.shown render) := by
  refine .tryCatch (quiet_line quiet t) ?_
  intro fault
  split
  · exact .pure _
  · exact .throw _

theorem Tree.quiet_opened (quiet : ∀ v, Quiet (render v)) (levels : Levels) (t : Tree)
    {below : Eval String} (quietBelow : Quiet below) : Quiet (t.opened render levels below) := by
  unfold Tree.opened
  split
  · exact t.quiet_shown quiet
  · exact .bind (Display.quiet_attrWords quiet _) fun _ => .bind quietBelow fun _ => .pure _

theorem Forest.quiet_summary (quiet : ∀ v, Quiet (render v)) (indent : String) (levels : Levels)
    (f : Forest) : Quiet (f.summary render indent levels) := by
  induction f generalizing indent levels with
  | nil => exact .pure _
  | leaf v rest ih => exact .bind (quiet v) fun _ => .bind (ih _ _) fun _ => .pure _
  | node view kids rest ihKids ihRest =>
    refine .bind (.lift _) fun levels' => .bind ?_ fun _ => .bind (ihRest _ _) fun _ => .pure _
    exact Tree.quiet_opened quiet _ _ (ihKids _ _)

theorem Tree.quiet_summary (quiet : ∀ v, Quiet (render v)) (levels : Levels) (indent : Int)
    (t : Tree) : Quiet (t.summary render levels indent) :=
  t.quiet_opened quiet _ (t.kids.quiet_summary quiet _ _)

namespace Display

theorem quiet_callName (quiet : ∀ v, Quiet (render v)) (v : Value) :
    Quiet (callName render v) := by
  refine .getStore_bind ?_
  intro st
  split
  · exact quiet v
  · exact quiet v
  · exact .pure _

theorem quiet_searchHead (quiet : ∀ v, Quiet (render v)) (attr : Value) :
    Quiet (searchHead render attr) := by
  unfold searchHead
  split
  · exact .pure _
  · exact .bind (quiet attr) fun _ => .pure _

theorem quiet_stepExpression (quiet : ∀ v, Quiet (render v)) (quietPlain : ∀ v, Quiet (plain v))
    (i : Nat) (step : Step) (inner : Value) :
    Quiet (stepExpression render plain i step inner) := by
  refine .bind (quiet_searchHead quiet _) ?_
  intro head
  cases step with
  | scalar attr v =>
    exact .bind (quiet v) fun _ => .bind (quietPlain inner) fun _ => .pure _
  | branch attr form =>
    refine .bind (.pair form) ?_
    intro parts
    have calls : ∀ c, Quiet (render c >>= fun shown =>
        pure (head ++ shown ++ ", " ++ ("_" ++ toString i) ++ ")")) :=
      fun c => .bind (quiet c) fun _ => .pure _
    exact .bind (.visit calls _) fun _ => .bind (quiet_callName quiet _) fun _ =>
      .bind (quietPlain inner) fun _ => .pure _

theorem quiet_expressionFrom (quiet : ∀ v, Quiet (render v)) (quietPlain : ∀ v, Quiet (plain v))
    (steps : List Step) (i : Nat) (inner : Value) :
    Quiet (expressionFrom render plain i steps inner) := by
  induction steps generalizing i inner with
  | nil => exact .pure inner
  | cons step steps ih =>
    exact .bind (quiet_stepExpression quiet quietPlain i step inner) fun outer => ih (i + 1) outer

theorem quiet_listed (quiet : ∀ v, Quiet (render v)) (vs : List Value) :
    Quiet (listed render vs) :=
  .bind (.mapM quiet vs) fun _ => .pure _

theorem quiet_stepText (quiet : ∀ v, Quiet (render v)) (quietPlain : ∀ v, Quiet (plain v))
    (step : Step) : Quiet (stepText render plain step) := by
  cases step with
  | scalar attr v => exact .bind (quietPlain attr) fun _ => .bind (quiet v) fun _ => .pure _
  | branch attr form =>
    exact .bind (.pair form) fun _ => .bind (quietPlain attr) fun _ =>
      .bind (quiet_callName quiet _) fun _ => .bind (.items _) fun _ =>
      .bind (quiet_listed quiet _) fun _ => .pure _

theorem quiet_tupled (quiet : ∀ v, Quiet (render v)) (vs : List Value) :
    Quiet (tupled render vs) := by
  unfold tupled
  split
  · exact .bind (quiet _) fun _ => .pure _
  · exact .bind (.mapM quiet vs) fun _ => .pure _

theorem quiet_ofEntries (quiet : ∀ v, Quiet (render v)) (es : Entries) :
    Quiet (ofEntries render es) := by
  refine .bind (.mapM (fun e => ?_) es) fun _ => .pure _
  exact .bind (quiet _) fun _ => .bind (quiet _) fun _ => .pure _

theorem quiet_ofError (quiet : ∀ v, Quiet (render v)) (kind : ErrorClass) (args : List Value) :
    Quiet (ofError render kind args) := by
  unfold ofError
  split
  · exact .bind (quiet _) fun _ => .pure _
  · exact .bind (quiet_tupled quiet args) fun _ => .pure _

theorem quiet_ofElementTag (quiet : ∀ v, Quiet (render v)) (tag : ElementTag) :
    Quiet (ofElementTag render tag) := by
  cases tag with
  | named tag => exact quiet tag
  | comment => exact .pure _
  | instruction => exact .pure _

theorem quiet_ofStep (quiet : ∀ v, Quiet (render v)) (step : Step) :
    Quiet (ofStep render step) := by
  cases step <;> exact .bind (quiet _) fun _ => .bind (quiet _) fun _ => .pure _

theorem quiet_messageOf (quiet : ∀ v, Quiet (render v)) (quietPlain : ∀ v, Quiet (plain v))
    (kind : ErrorClass) (args : List Value) : Quiet (messageOf render plain kind args) := by
  unfold messageOf
  split
  · exact .pure _
  · split
    · exact quiet _
    · exact quietPlain _
  · exact quiet_tupled quiet args

theorem quiet_plainWithin (quiet : ∀ v, Quiet (render v)) (fuel : Nat) (v : Value) :
    Quiet (plainWithin render fuel v) := by
  induction fuel generalizing v with
  | zero => exact quiet v
  | succ fuel ih =>
    unfold plainWithin
    split
    · exact .pure _
    · refine .getStore_bind ?_
      intro st
      split
      · exact quiet_messageOf quiet ih _ _
      · exact quiet v

theorem quiet_ofObject (quiet : ∀ v, Quiet (render v)) (v : Value) (o : Object) :
    Quiet (ofObject render v o) := by
  cases o with
  | tuple vs => exact quiet_tupled quiet vs
  | list vs => exact quiet_listed quiet vs
  | dict es => exact quiet_ofEntries quiet es
  | node n => exact .getStore_bind fun _ => .bind (.lift _) fun t => t.quiet_shown quiet
  | step s => exact quiet_ofStep quiet s
  | query q =>
    refine .getStore_bind ?_
    intro st
    have quietPlain := fun v => quiet_plainWithin quiet st.depth v
    exact .bind (quiet_expressionFrom quiet quietPlain q.steps 1 rootName) fun _ =>
      .bind (quietPlain _) fun _ => .pure _
  | iterator vs => exact .pure _
  | element e => exact .bind (quiet_ofElementTag quiet e.tag) fun _ => .pure _
  | chooser n => exact .pure _
  | error kind args => exact quiet_ofError quiet kind args
  | pattern p => exact .pure _
  | closure c => exact .getStore_bind fun _ => .pure _

theorem quiet_valueWithin (fuel : Nat) (opened : List Addr) (v : Value) :
    Quiet (valueWithin fuel opened v) := by
  induction fuel generalizing opened v with
  | zero =>
    cases v with
    | ref a => exact .throw _
    | _ => exact .pure _
  | succ fuel ih =>
    cases v with
    | ref a =>
      refine .getStore_bind ?_
      intro st
      split
      · exact .throw _
      · split
        · exact quiet_ofObject (ih opened) _ _
        · split
          · exact .pure _
          · exact quiet_ofObject (ih (a :: opened)) _ _
    | _ => exact .pure _

end Display

theorem quiet_display (v : Value) : Quiet (display v) :=
  Display.quiet_valueWithin Display.deepest [] v

theorem quiet_plain (v : Value) : Quiet (TreeQuery.plain v) :=
  .getStore_bind fun st => Display.quiet_plainWithin quiet_display st.depth v

theorem Display.quiet_abbreviated (limit v : Value) : Quiet (abbreviated limit v) :=
  .bind (quiet_display v) fun _ => .lift _

end TreeQuery
