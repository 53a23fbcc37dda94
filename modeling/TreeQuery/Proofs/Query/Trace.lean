import TreeQuery.Proofs.Query.Combinators
import TreeQuery.Proofs.Store.TextKeys
import Mathlib.Tactic.Choose

/-! Traced queries: the same happens as without a trace, and behind what each completed step
wrote stands its record. -/

namespace TreeQuery

open Eval

/-- A step that has been completed, what it gave, and the session right behind it. -/
structure Moment where
  step : Step
  result : Value
  session : Session

def Shows (v : Value) (s : Session) : Prop := ∃ text, (display v).exec s = (.ok text, s)

namespace Moment

def Line (m : Moment) (line : String) : Prop :=
  ∃ step result, (Display.stepText display plain m.step).exec m.session = (.ok step, m.session) ∧
    (Display.abbreviated Display.usualLimit m.result).exec m.session = (.ok result, m.session) ∧
    line = "descend: " ++ step ++ " -> " ++ result ++ "\n"

/-- Right behind a completed step, it is still written in strings, and its result and the
combinator that gave it can be shown. -/
structure Tellable (m : Moment) : Prop where
  strings : m.step.isInStrings m.session.store
  result : Shows m.result m.session
  combinator : ∀ v ∈ m.step.combinator? m.session.store, Shows v m.session

end Moment

theorem exec_display_text (text : String) (s : Session) :
    (display (.text text)).exec s = (.ok (Text.quote text), s) := rfl

theorem exec_plain_text (text : String) (s : Session) :
    (plain (.text text)).exec s = (.ok text, s) := rfl

namespace Display

theorem exec_listed {vs : List Value} (strings : ∀ v ∈ vs, v.isText) (s : Session) :
    ∃ text, (listed display vs).exec s = (.ok text, s) := by
  have shown : ∃ texts, (vs.mapM display).exec s = (.ok texts, s) := by
    induction vs with
    | nil => exact ⟨[], rfl⟩
    | cons v vs ih =>
      obtain ⟨text, rfl⟩ := Value.eq_text_of_isText (strings v (.head _))
      obtain ⟨texts, rest⟩ := ih fun w member => strings w (.tail _ member)
      refine ⟨Text.quote text :: texts, ?_⟩
      rw [exec_mapM_cons, exec_bind_ok (exec_display_text text s), exec_bind_ok rest]
      rfl
  obtain ⟨texts, shown⟩ := shown
  exact ⟨_, exec_bind_ok shown _⟩

theorem exec_callName {v : Value} {s : Session} (shows : Shows v s) :
    ∃ text, (callName display v).exec s = (.ok text, s) := by
  unfold callName
  rw [exec_bind_ok (exec_getStore s)]
  split
  · exact shows
  · exact shows
  · exact ⟨_, rfl⟩

theorem exec_scalarText {attr v : Value} (attrText : attr.isText) (text : v.isText)
    (s : Session) : ∃ shown, (stepText display plain (.scalar attr v)).exec s = (.ok shown, s) := by
  obtain ⟨attr, rfl⟩ := Value.eq_text_of_isText attrText
  obtain ⟨text, rfl⟩ := Value.eq_text_of_isText text
  exact ⟨_, rfl⟩

theorem exec_branchText {attr form combinator candidates : Value} {ws : List Value} {s : Session}
    (attrText : attr.isText) (tuple : s.store.tupleItems? form = some [combinator, candidates])
    (gone : (items candidates).exec s = (.ok ws, s)) (strings : ∀ w ∈ ws, w.isText)
    (shows : Shows combinator s) :
    ∃ shown, (stepText display plain (.branch attr form)).exec s = (.ok shown, s) := by
  obtain ⟨attr, rfl⟩ := Value.eq_text_of_isText attrText
  obtain ⟨name, named⟩ := exec_callName shows
  obtain ⟨list, listed⟩ := exec_listed strings s
  unfold stepText
  rw [exec_bind_ok (pair_of_sequence (Store.sequence?_of_tupleItems? tuple)),
    exec_bind_ok (exec_plain_text attr s), exec_bind_ok named, exec_bind_ok gone,
    exec_bind_ok listed]
  exact ⟨_, rfl⟩

end Display

theorem Shows.abbreviated {v : Value} {s : Session} (shows : Shows v s) :
    ∃ text, (Display.abbreviated Display.usualLimit v).exec s = (.ok text, s) := by
  obtain ⟨text, shown⟩ := shows
  refine ⟨Text.cut 64 text, ?_⟩
  rw [Display.abbreviated, exec_bind_ok shown]
  rfl

namespace Query

def moments (call : Caller) : List Step → Value → Session → List Moment
  | [], _, _ => []
  | step :: steps, current, s =>
    match (step.carryOut call current).exec s with
    | (.ok next, t) => ⟨step, next, t⟩ :: moments call steps next t
    | (.error _, _) => []

theorem exists_line (c : Combinators) {step : Step} {current next : Value} {s t : Session}
    (formed : step.isFormed s.store)
    (done : (step.carryOut c.call current).exec s = (.ok next, t))
    (tellable : (Moment.mk step next t).Tellable) : ∃ line, (Moment.mk step next t).Line line := by
  obtain ⟨result, shown⟩ := tellable.result.abbreviated
  have told : ∃ text, (Display.stepText display plain step).exec t = (.ok text, t) := by
    cases step with
    | scalar attr v =>
      obtain ⟨attrText, text⟩ := (Bool.and_eq_true _ _).mp tellable.strings
      exact Display.exec_scalarText attrText text t
    | branch attr form =>
      obtain ⟨combinator, candidates, ws, tuple, gone, strings⟩ :=
        c.form_of_done formed done tellable.strings
      have attrText := ((Bool.and_eq_true _ _).mp tellable.strings).1
      exact Display.exec_branchText attrText tuple gone strings
        (tellable.combinator combinator (by simp [Step.combinator?, tuple]))
  obtain ⟨text, told⟩ := told
  exact ⟨_, text, result, told, shown, rfl⟩

theorem exec_elsewhere {α : Type} {x : Eval α} (quiet : Quiet x) {a : α} {t : Session}
    (run : x.exec t = (.ok a, t)) (log : String) :
    x.exec { t with log := log } = (.ok a, { t with log := log }) := by
  obtain ⟨r, st, _, runs⟩ := quiet t.store
  rw [runs t rfl] at run
  rw [runs { t with log := log } rfl]
  obtain ⟨rfl, same⟩ := Prod.mk.inj run
  rw [show st = t.store from congrArg Session.store same]

/-- The record of a completed step is its line, behind whatever was written before. -/
theorem exec_record {m : Moment} {line : String} (is : m.Line line) (log : String) :
    (record m.step m.result).exec { m.session with log := log } =
      (.ok (), { m.session with log := log ++ line }) := by
  obtain ⟨step, result, told, shown, rfl⟩ := is
  have told' := exec_elsewhere (Display.quiet_stepText quiet_display quiet_plain m.step) told log
  have shown' := exec_elsewhere (Display.quiet_abbreviated _ m.result) shown log
  unfold record
  rw [exec_bind_ok told', exec_bind_ok shown']
  rfl

/-- What tracing changes: nothing but the diagnostics. `pieces` are what the completed steps wrote
themselves and `last` what the one that failed did; the trace puts one line behind each piece. -/
structure Woven (ms : List Moment) (s : Session) (log : String) (plain traced : Course)
    (pieces lines : List String) (last : String) : Prop where
  told : List.Forall₂ Moment.Line ms lines
  each : pieces.length = ms.length
  between (i : Nat) (m : Moment) :
    ms[i]? = some m → m.session.log = s.log ++ String.join (pieces.take (i + 1))
  untold : plain.session.log = s.log ++ String.join pieces ++ last
  woven : traced = { plain with session := { plain.session with
    log := log ++ String.join (pieces.zipWith (· ++ ·) lines) ++ last } }

/-- A step does the same behind any other diagnostics, and writes the same piece. -/
theorem course_elsewhere (c : Combinators) (step : Step) (current : Value) (s : Session) :
    ∃ piece, (step.course c.call current s).session.log = s.log ++ piece ∧
      ∀ log, step.course c.call current { s with log := log } =
        { step.course c.call current s with
          session := { (step.course c.call current s).session with log := log ++ piece } } := by
  obtain ⟨r, st, _, runs⟩ := step.quiet_prepare current s.store
  unfold Step.course
  rw [runs s rfl]
  rcases r with fault | ⟨v⟩ | ⟨due⟩
  · exact ⟨"", by simp, fun log => by rw [runs { s with log := log } rfl]; simp⟩
  · exact ⟨"", by simp, fun log => by rw [runs { s with log := log } rfl]; simp⟩
  · have fair := c.fair due.combinator due.results
    refine ⟨_, fair.log_exec { s with store := st }, ?_⟩
    intro log
    rw [runs { s with log := log } rfl]
    simp only
    rw [fair.exec_behind { s with store := st } log]

theorem moments_cons (call : Caller) (step : Step) (steps : List Step) (current : Value)
    (s : Session) :
    moments call (step :: steps) current s =
      match step.course call current s with
      | ⟨_, .ok next, t⟩ => ⟨step, next, t⟩ :: moments call steps next t
      | ⟨_, .error _, _⟩ => [] := by
  rw [moments, Step.exec_carryOut]
  rcases step.course call current s with ⟨calls, (fault | next), t⟩ <;> rfl

theorem woven_loop (c : Combinators) (steps : List Step) (root : Value) (s : Session)
    (log : String) (formed : ∀ step ∈ steps, step.isFormed s.store)
    (tellable : ∀ m ∈ moments c.call steps root s, m.Tellable) :
    ∃ pieces lines last, Woven (moments c.call steps root s) s log
      (loop c.call false steps root s) (loop c.call true steps root { s with log := log })
      pieces lines last := by
  induction steps generalizing root s log with
  | nil => exact ⟨[], [], "", .nil, rfl, by simp [moments], by simp [loop], by simp [loop]⟩
  | cons step steps ih =>
    obtain ⟨piece, wrote, elsewhere⟩ := course_elsewhere c step root s
    have same := elsewhere log
    have ran := Step.exec_carryOut c.call step root s
    have evolves := (fair_carryOut c.fair step root).evolves s
    rw [moments_cons] at tellable ⊢
    rcases h : step.course c.call root s with ⟨calls, (fault | next), t⟩ <;>
      rw [h] at tellable ran wrote same
    · refine ⟨[], [], piece, .nil, rfl, by simp, ?_, ?_⟩
      · simpa [loop, h] using wrote
      · simp [loop, h, same]
    · rw [ran] at evolves
      have here := tellable _ (.head _)
      obtain ⟨line, is⟩ := exists_line c (formed step (.head _)) ran here
      -- The line of this step goes in front of all that the others write.
      have told := exec_record is (log ++ piece)
      obtain ⟨pieces, lines, last, rest⟩ := ih next t (log ++ piece ++ line)
        (fun step' member => evolves.isFormed (formed step' (.tail _ member)))
        (fun m member => tellable m (.tail _ member))
      refine ⟨piece :: pieces, line :: lines, last, .cons is rest.told, ?_, ?_, ?_, ?_⟩
      · simp [rest.each]
      · intro i m at_
        cases i with
        | zero =>
          cases at_
          simpa using wrote
        | succ i =>
          rw [rest.between i m at_, wrote]
          simp [String.append_assoc]
      · have untold := rest.untold
        rw [wrote] at untold
        simpa [loop, h, tell, Course.after, String.append_assoc] using untold
      · have woven := rest.woven
        simp only [loop, h, same, tell, Bool.false_eq_true, if_false, if_true, told, exec_pure,
          woven]
        simp [Course.after, String.append_assoc]

/-- On a root, in a session, queries do the same with a trace and without; the trace adds one line
for each completed step. Which of the two a query does was settled by what it was made with. -/
def AddsLines (c : Combinators) (steps : List Step) (q : Option Bool → Query)
    (traces : Option Bool → Bool) (root : Value) (s : Session) : Prop :=
  ∃ plain traced pieces lines last,
    plain = loop c.call false steps root s ∧ traced = loop c.call true steps root s ∧
    Woven (moments c.call steps root s) s s.log plain traced pieces lines last ∧
    ∀ trace, ((q trace).run c.call root).exec s =
      (if traces trace then traced else plain).ending

/-- A list of steps can be made into queries that are traced and others that are not, which is
settled then and not when they are run. If all steps are in strings and can be told of, the queries
do the same, but for the lines that the traced ones write. -/
theorem trace_adds_lines (c : Combinators) (s₀ : Session) (given : Value) (vs : List Value)
    (steps : List Step) (list : s₀.store.sequence? given = some vs)
    (reads : List.Forall₂ s₀.store.Reads vs steps) :
    ∃ q : Option Bool → Query,
      (∀ trace, ∃ st, (ofSteps given (traceValue trace)).exec s₀ =
        (.ok (q trace), { s₀ with store := st }) ∧ s₀.store.Grows st) ∧
      ∀ root s, (∀ step ∈ steps, step.isInStrings s.store) →
        (∀ m ∈ moments c.call steps root s, m.Tellable) →
        AddsLines c steps q (isTraced s₀.settings) root s := by
  choose q st made grows same traced using fun trace => exec_ofSteps trace list reads
  refine ⟨q, fun trace => ⟨st trace, made trace, grows trace⟩, ?_⟩
  intro root s strings tellable
  have formed := fun step member => Step.isFormed_of_isInStrings (strings step member)
  obtain ⟨pieces, lines, last, woven⟩ := woven_loop c steps root s s.log formed tellable
  refine ⟨_, _, pieces, lines, last, rfl, rfl, woven, ?_⟩
  intro trace
  rw [run, same, traced, exec_compose]
  cases isTraced s₀.settings trace <;> rfl

def pickedSteps : Session where
  store.objects := #[.list [.text "a", .text "b"], .tuple [.function .firstPresent, .ref 0],
    .tuple [.text "tag", .ref 1], .tuple [.text "class", .text "x"], .list [.ref 2, .ref 3]]

theorem pickedSteps_trace_adds_lines :
    ∃ q : Option Bool → Query,
      (∀ trace, ∃ st, (ofSteps (.ref 4) (traceValue trace)).exec pickedSteps =
        (.ok (q trace), { pickedSteps with store := st }) ∧ pickedSteps.store.Grows st) ∧
      AddsLines .ofValues [.branch (.text "tag") (.ref 1), .scalar (.text "class") (.text "x")] q
        (isTraced pickedSteps.settings) .null pickedSteps := by
  have form : pickedSteps.store.Live (.ref 1) := by
    intro a same
    cases same
    decide
  have plain : pickedSteps.store.Live (.text "x") := by
    intro a same
    cases same
  obtain ⟨q, made, adds⟩ := trace_adds_lines .ofValues pickedSteps (.ref 4) [.ref 2, .ref 3]
    [.branch (.text "tag") (.ref 1), .scalar (.text "class") (.text "x")] rfl
    (.cons (.pair rfl form) (.cons (.pair rfl plain) .nil))
  refine ⟨q, made, adds .null pickedSteps (by decide) fun m member => ?_⟩
  have two : moments Combinators.ofValues.call
      [.branch (.text "tag") (.ref 1), .scalar (.text "class") (.text "x")] .null pickedSteps =
      [⟨.branch (.text "tag") (.ref 1), .null, pickedSteps⟩,
        ⟨.scalar (.text "class") (.text "x"), .null, pickedSteps⟩] := rfl
  rw [two] at member
  rcases List.mem_cons.mp member with rfl | member
  · refine ⟨rfl, ⟨_, rfl⟩, ?_⟩
    intro v is
    cases is
    exact ⟨_, rfl⟩
  · cases List.mem_singleton.mp member
    exact ⟨rfl, ⟨_, rfl⟩, fun v is => nomatch is⟩

def IsShown (v : Value) (s : Session) : Prop := ∃ text t, (display v).exec s = (.ok text, t)

def tupleGiven : Except Fault Value × Session → Option (List Value)
  | (.ok v, s) => s.store.tupleItems? v
  | (.error _, _) => none

def spentQuery : Session where
  store.objects := #[.iterator [.text "a"], .tuple [.function (.script .tupleOf), .ref 0],
    .step (.branch (.text "tag") (.ref 1)), .tuple [.ref 2],
    .query ⟨[.branch (.text "tag") (.ref 1)], 3, .null, false⟩, .closure (.constant (.ref 4)),
    .list [], .tuple [.ref 5, .ref 6], .list [.text "x"], .tuple [.ref 4, .ref 8]]

def spentSteps : List Step := [.branch (.text "tag") (.ref 7), .branch (.text "tag") (.ref 9)]

/-- That values can be shown is not enough: showing the query that the first step gives goes over
its candidates, and there are none left for the second step. -/
theorem trace_spends_candidates :
    (∀ step ∈ spentSteps, step.isInStrings spentQuery.store) ∧
      (∀ m ∈ moments Combinators.ofValues.call spentSteps .null spentQuery,
        m.step.isInStrings m.session.store ∧ IsShown m.result m.session ∧
          ∀ v ∈ m.step.combinator? m.session.store, IsShown v m.session) ∧
      tupleGiven ((compose Combinators.ofValues.call false spentSteps .null).exec spentQuery) =
        some [.null] ∧
      tupleGiven ((compose Combinators.ofValues.call true spentSteps .null).exec spentQuery) =
        some [] := by
  refine ⟨by decide, ?_, rfl, rfl⟩
  have two : moments Combinators.ofValues.call spentSteps .null spentQuery =
      [⟨.branch (.text "tag") (.ref 7), .ref 4, spentQuery⟩,
        ⟨.branch (.text "tag") (.ref 9), .ref 10, { spentQuery with store :=
          ((spentQuery.store.write 0 (.iterator [])).alloc (.tuple [.null])).2 }⟩] := rfl
  rw [two]
  intro m member
  rcases List.mem_cons.mp member with rfl | member
  · refine ⟨rfl, ⟨_, _, rfl⟩, ?_⟩
    intro v is
    cases is
    exact ⟨_, _, rfl⟩
  · cases List.mem_singleton.mp member
    refine ⟨rfl, ⟨_, _, rfl⟩, ?_⟩
    intro v is
    cases is
    exact ⟨_, _, rfl⟩

end Query

end TreeQuery
