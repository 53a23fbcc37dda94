import TreeQuery.Check
import TreeQuery.Proofs.Display.Quiet

namespace TreeQuery

namespace Eval

variable {α : Type}

theorem Quiet.exec_log {x : Eval α} (quiet : Quiet x) (s : Session) (log : String) :
    x.exec { s with log := log } = ((x.exec s).1, { (x.exec s).2 with log := log }) := by
  obtain ⟨r, st, _, runs⟩ := quiet s.store
  rw [runs s rfl, runs { s with log := log } rfl]

theorem Quiet.exec_tally {x : Eval α} (quiet : Quiet x) (s : Session) (tally : Tally) :
    x.exec { s with tally := tally } = ((x.exec s).1, { (x.exec s).2 with tally := tally }) := by
  obtain ⟨r, st, _, runs⟩ := quiet s.store
  rw [runs s rfl, runs { s with tally := tally } rfl]

theorem Quiet.log_eq {x : Eval α} (quiet : Quiet x) {s t : Session} {r : Except Fault α}
    (run : x.exec s = (r, t)) : t.log = s.log := by
  have same := quiet.exec_eq s
  rw [run] at same
  exact congrArg (fun p => p.2.log) same

theorem Quiet.tally_eq {x : Eval α} (quiet : Quiet x) {s t : Session} {r : Except Fault α}
    (run : x.exec s = (r, t)) : t.tally = s.tally := by
  have same := quiet.exec_eq s
  rw [run] at same
  exact congrArg (fun p => p.2.tally) same

/-- The first evaluation writes to the diagnostics what the second one, which is quiet, gives as a
text, and does nothing else but what the second one does. Where it stops, it has written a part, and
it does not stop where the text can be had. -/
structure Writes (x : Eval Unit) (text : Eval String) : Prop where
  quiet : Quiet text
  completes {s u : Session} {w : String} : text.exec s = (.ok w, u) → ∃ t, x.exec s = (.ok (), t)
  done {s t : Session} : x.exec s = (.ok (), t) →
    ∃ w u, text.exec s = (.ok w, u) ∧ t = { u with log := s.log ++ w }
  stopped {s t : Session} {fault : Fault} : x.exec s = (.error fault, t) →
    t.tally = s.tally ∧ ∃ part, t.log = s.log ++ part

namespace Writes

theorem nothing : Writes (pure ()) (pure "") where
  quiet := .pure _
  completes _ := ⟨_, rfl⟩
  done := by
    intro s t run
    cases run
    exact ⟨"", s, rfl, by rw [String.append_empty]⟩
  stopped := by
    intro s t fault run
    cases run

theorem emitLine (text : String) : Writes (emitLine text) (pure (text ++ "\n")) where
  quiet := .pure _
  completes _ := ⟨_, rfl⟩
  done := by
    intro s t run
    cases run
    exact ⟨text ++ "\n", s, rfl, rfl⟩
  stopped := by
    intro s t fault run
    cases run

theorem line {shown : Eval α} (quiet : Quiet shown) (line : α → String) :
    Writes (do Eval.emitLine (line (← shown))) (do return line (← shown) ++ "\n") where
  quiet := .bind quiet fun _ => .pure _
  completes := by
    intro s u w run
    obtain ⟨a, m, first, _⟩ := exec_bind_eq_ok.mp run
    exact ⟨_, exec_bind_ok first _⟩
  done := by
    intro s t run
    obtain ⟨a, u, first, second⟩ := exec_bind_eq_ok.mp run
    cases second
    refine ⟨line a ++ "\n", u, exec_bind_ok first _, ?_⟩
    rw [← quiet.log_eq first]
  stopped := by
    intro s t fault run
    rcases exec_bind_eq_error.mp run with first | ⟨a, u, _, second⟩
    · exact ⟨quiet.tally_eq first, "", by simp [quiet.log_eq first]⟩
    · cases second

/-- One text is written behind another. -/
theorem append {x y : Eval Unit} {a b : Eval String} (first : Writes x a) (second : Writes y b) :
    Writes (do x; y) (do return (← a) ++ (← b)) where
  quiet := .bind first.quiet fun _ => .bind second.quiet fun _ => .pure _
  completes := by
    intro s u w run
    obtain ⟨text, m, given, rest⟩ := exec_bind_eq_ok.mp run
    obtain ⟨text', m', given', _⟩ := exec_bind_eq_ok.mp rest
    obtain ⟨t, before⟩ := first.completes given
    obtain ⟨_, _, same, rfl⟩ := first.done before
    cases given.symm.trans same
    -- What was written in the meantime plays no part in the second text.
    have shown := second.quiet.exec_log m (s.log ++ text)
    rw [given'] at shown
    obtain ⟨t, after⟩ := second.completes shown
    exact ⟨t, (exec_bind_ok before _).trans after⟩
  done := by
    intro s t run
    obtain ⟨_, m, before, after⟩ := exec_bind_eq_ok.mp run
    obtain ⟨w, u, given, rfl⟩ := first.done before
    obtain ⟨w', u', given', rfl⟩ := second.done after
    rw [second.quiet.exec_log] at given'
    obtain ⟨text, rfl⟩ := Prod.mk.inj given'
    have next : b.exec u = (.ok w', (b.exec u).2) := by rw [← text]
    refine ⟨w ++ w', (b.exec u).2, ?_, ?_⟩
    · rw [exec_bind_ok given, exec_bind_ok next, exec_pure]
    · rw [String.append_assoc]
  stopped := by
    intro s t fault run
    rcases exec_bind_eq_error.mp run with before | ⟨_, m, before, after⟩
    · exact first.stopped before
    · obtain ⟨w, u, given, rfl⟩ := first.done before
      obtain ⟨kept, part, log⟩ := second.stopped after
      have same : u.tally = s.tally := first.quiet.tally_eq given
      refine ⟨kept.trans same, w ++ part, ?_⟩
      rw [log, String.append_assoc]

end Writes

end Eval

namespace Failure

open Eval

def argText (label shown : String) : String := "  arg " ++ label ++ " = " ++ shown ++ "\n"

def outcomeText (returnedLabel : String) : Outcome → Eval String
  | .ok v => do return "  returned " ++ returnedLabel ++ ": " ++ (← display v) ++ "\n"
  | .error fault => do
    let shown ← Display.ofError display fault.kind fault.args
    return "  raised exception: " ++ shown ++ "\n" ++ "<traceback>\n"

/-- A failure is told by a heading, the arguments by place and then those by name, what was
expected, what came out, and an empty line. -/
def block (f : Failure) : Eval String := do
  let args ← f.args.mapM display
  let named ← f.named.mapM fun given => display given.2
  let expected ← display f.expected
  let outcome ← outcomeText f.returnedLabel f.outcome
  return "\nLOC: utest failure: " ++ f.name ++ "\n" ++
    String.join (args.mapIdx fun i shown => argText (toString i) shown) ++
    String.join (List.zipWith (fun given shown => argText given.1 shown) f.named named) ++
    "  expected " ++ f.expectedLabel ++ ": " ++ expected ++ "\n" ++ outcome ++ "\n"

theorem writes_argLine (label : String) (v : Value) :
    Writes (argLine label v) (do return argText label (← display v)) :=
  .line (quiet_display v) fun shown => "  arg " ++ label ++ " = " ++ shown

theorem writes_argLines (vs : List Value) (first : Nat) :
    Writes (argLines first vs) (do
      let args ← vs.mapM display
      return String.join (args.mapIdx fun i shown => argText (toString (first + i)) shown)) := by
  induction vs generalizing first with
  | nil => exact .nothing
  | cons v vs ih =>
    have both := (writes_argLine (toString first) v).append (ih (first + 1))
    have shift : ∀ i, first + 1 + i = first + (i + 1) := fun i => by omega
    simp only [bind_assoc, pure_bind, shift] at both
    simp only [List.mapM_cons, bind_assoc, pure_bind, List.mapIdx_cons, String.join_cons,
      Nat.add_zero]
    exact both

theorem writes_named (named : Keywords) :
    Writes (named.forM fun given => argLine given.1 given.2) (do
      let shown ← named.mapM fun given => display given.2
      return String.join (List.zipWith (fun given text => argText given.1 text) named shown)) := by
  induction named with
  | nil => exact .nothing
  | cons given named ih =>
    have both := (writes_argLine given.1 given.2).append ih
    simp only [bind_assoc, pure_bind] at both
    simp only [List.mapM_cons, bind_assoc, pure_bind, List.zipWith_cons_cons, String.join_cons]
    exact both

theorem writes_outcomeLines (label : String) (outcome : Outcome) :
    Writes (outcomeLines label outcome) (outcomeText label outcome) := by
  cases outcome with
  | ok v => exact .line (quiet_display v) fun shown => "  returned " ++ label ++ ": " ++ shown
  | error fault =>
    have shown := Writes.line (Display.quiet_ofError quiet_display fault.kind fault.args)
      fun shown => "  raised exception: " ++ shown
    have both := shown.append (.emitLine "<traceback>")
    simp only [bind_assoc, pure_bind] at both
    exact both

theorem writes_report (f : Failure) : Writes f.report f.block := by
  have heading := Writes.emitLine ("\nLOC: utest failure: " ++ f.name)
  have expectation := Writes.line (quiet_display f.expected)
    fun shown => "  expected " ++ f.expectedLabel ++ ": " ++ shown
  have ending := Writes.emitLine ""
  have outcome := writes_outcomeLines f.returnedLabel f.outcome
  have all := heading.append ((writes_argLines f.args 0).append ((writes_named f.named).append
    (expectation.append (outcome.append ending))))
  unfold report block
  simp only [bind_assoc, pure_bind, String.append_assoc, Nat.zero_add] at all ⊢
  exact all

end Failure

end TreeQuery
