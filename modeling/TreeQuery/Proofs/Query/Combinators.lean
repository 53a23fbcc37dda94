import TreeQuery.Proofs.Function.Fair

namespace TreeQuery

open Eval

/-- Ways to call combinators, which may keep state, write, change what can be changed, and fail.
They do not read back what has been written to the diagnostics. -/
structure Combinators where
  call : Caller
  fair (fn : Value) (args : List Value) : Fair (call fn args)

def Combinators.ofValues : Combinators :=
  ⟨Function.caller Eval.call, fun fn args => fair_call fn args []⟩

namespace Step

def isInStrings (st : Store) : Step → Bool
  | .scalar attr v => attr.isText && v.isText
  | .branch attr form => attr.isText && match st.tupleItems? form with
    | some [_, candidates] => ((st.items? candidates).getD []).all (·.isText)
    | some _ => true
    | none => false

def combinator? (st : Store) : Step → Option Value
  | .scalar _ _ => none
  | .branch _ form =>
    match st.tupleItems? form with
    | some [combinator, _] => some combinator
    | _ => none

def isFormed (st : Store) : Step → Bool
  | .scalar _ _ => true
  | .branch _ form => (st.tupleItems? form).isSome

theorem isFormed_of_isInStrings {st : Store} {step : Step} (strings : step.isInStrings st) :
    step.isFormed st := by
  cases step with
  | scalar attr v => rfl
  | branch attr form =>
    rcases tuple : st.tupleItems? form with _ | items
    · simp [isInStrings, tuple] at strings
    · simp [isFormed, tuple]

end Step

theorem Store.Evolves.isFormed {st st' : Store} (evolves : st.Evolves st') {step : Step}
    (formed : step.isFormed st) : step.isFormed st' := by
  cases step with
  | scalar attr v => rfl
  | branch attr form =>
    obtain ⟨items, tuple⟩ := Option.isSome_iff_exists.mp formed
    simp [Step.isFormed, evolves.tuples tuple]

namespace Eval

theorem pair_eq_ok {v : Value} {parts : Value × Value} {s t : Session}
    (done : (pair v).exec s = (.ok parts, t)) :
    s.store.items? v = some [parts.1, parts.2] := by
  unfold pair at done
  rw [exec_bind_ok (exec_getStore s)] at done
  split at done
  · cases done
  · next x y items =>
    obtain ⟨_, _, _, given⟩ := exec_bind_eq_ok.mp done
    cases given
    exact items
  · obtain ⟨_, _, _, given⟩ := exec_bind_eq_ok.mp done
    cases given
  · obtain ⟨_, _, _, given⟩ := exec_bind_eq_ok.mp done
    cases given

theorem visitLeft_spends {α : Type} {f : Value → Eval α} (quiet : ∀ v, Quiet (f v)) {a : Addr}
    {fuel : Nat} {xs : List Value} {ys : List α} {s t : Session} (enough : xs.length ≤ fuel)
    (read : s.store.read? a = some (.iterator xs))
    (done : (visitLeft a f fuel).exec s = (.ok ys, t)) :
    t.store.read? a = some (.iterator []) := by
  induction fuel generalizing xs ys s with
  | zero =>
    have none : xs = [] := List.length_eq_zero_iff.mp (Nat.le_zero.mp enough)
    cases done
    exact none ▸ read
  | succ fuel ih =>
    unfold visitLeft at done
    rw [exec_bind_ok (exec_getStore s), read] at done
    cases xs with
    | nil =>
      cases done
      exact read
    | cons x xs =>
      simp only at done
      rw [exec_bind_ok (exec_write a _ s)] at done
      obtain ⟨y, m, first, rest⟩ := exec_bind_eq_ok.mp done
      obtain ⟨ys', m', later, same⟩ := exec_bind_eq_ok.mp rest
      cases same
      obtain ⟨r, st, drains, runs⟩ := quiet x (s.store.write a (.iterator xs))
      have after : m.store = st := by
        have run := runs { s with store := s.store.write a (.iterator xs) } rfl
        rw [first] at run
        exact congrArg (fun p => p.2.store) run
      have left := Store.read?_write_self s.store (.iterator xs) (Store.lt_of_read? read)
      have short : xs.length ≤ fuel := by simpa using enough
      -- What is done with an item can take further ones out, but puts none back.
      rcases drains.2.2 a with unmoved | ⟨zs, ws, before, behind, suffix⟩
      · exact ih short (by rw [after, unmoved, left]) later
      · have same : zs = xs := by simpa using before.symm.trans left
        subst same
        have shorter : ws.length ≤ fuel := Nat.le_trans suffix.length_le short
        exact ih shorter (by rw [after, behind]) later

theorem visit_eq_ok {α : Type} {v : Value} {f : Value → Eval α} (quiet : ∀ v, Quiet (f v))
    {ys : List α} {s t : Session} (done : (visit v f).exec s = (.ok ys, t)) :
    (∃ xs, s.store.sequence? v = some xs) ∨
      ∃ a, v = .ref a ∧ t.store.read? a = some (.iterator []) := by
  rcases items : s.store.items? v with _ | xs
  · simp [visit, exec_bind, items] at done
  · cases v with
    | ref a =>
      rcases read : s.store.read? a with _ | o
      · exact .inl ⟨xs, by simpa [Store.sequence?, Store.object?, read] using items⟩
      · cases o with
        | iterator left =>
          have same : left = xs := by simpa [Store.items?, read] using items
          subst same
          simp only [visit, exec_bind_ok (exec_getStore s), items, read] at done
          exact .inr ⟨a, rfl, visitLeft_spends quiet (Nat.le_refl _) read done⟩
        | _ => exact .inl ⟨xs, by simpa [Store.sequence?, Store.object?, read] using items⟩
    | _ => exact .inl ⟨xs, items⟩

theorem items_of_spent {a : Addr} {s : Session}
    (spent : s.store.read? a = some (.iterator [])) :
    (items (.ref a)).exec s = (.ok [], s) := by
  unfold items visit
  rw [exec_bind_ok (exec_getStore s)]
  simp only [Store.items?, spent]
  rfl

end Eval

namespace Combinators

variable (c : Combinators)

/-- Behind a branch step that was carried out, its form is still the pair it was, and going over
its candidates once more gives strings and changes nothing. -/
theorem form_of_done {attr form current next : Value} {s t : Session}
    (before : (Step.branch attr form).isFormed s.store)
    (done : ((Step.branch attr form).carryOut c.call current).exec s = (.ok next, t))
    (behind : (Step.branch attr form).isInStrings t.store) :
    ∃ combinator candidates ws, t.store.tupleItems? form = some [combinator, candidates] ∧
      (items candidates).exec t = (.ok ws, t) ∧ ∀ w ∈ ws, w.isText := by
  obtain ⟨parts, tuple⟩ := Option.isSome_iff_exists.mp before
  have evolves := (Query.fair_carryOut c.fair (.branch attr form) current).evolves s
  rw [done] at evolves
  -- What the step itself found when it unpacked the form and went over the candidates.
  obtain ⟨⟨combinator, candidates⟩, m, unpacked, rest⟩ := exec_bind_eq_ok.mp done
  obtain ⟨results, m', visited, called⟩ := exec_bind_eq_ok.mp rest
  have sequence := Store.sequence?_of_tupleItems? tuple
  have two : parts = [combinator, candidates] := by
    simpa [Store.items?_of_sequence? sequence] using pair_eq_ok unpacked
  subst two
  have pair := evolves.tuples tuple
  rw [pair_of_sequence sequence] at unpacked
  cases unpacked
  have called : (c.call combinator results).exec m' = (.ok next, t) := called
  have later := (c.fair combinator results).evolves m'
  rw [called] at later
  simp only [Step.isInStrings, pair, Bool.and_eq_true, List.all_eq_true] at behind
  rcases visit_eq_ok (Step.quiet_select attr current) visited with ⟨xs, again⟩ | ⟨a, rfl, spent⟩
  · obtain ⟨ws, still⟩ := evolves.sequences again
    refine ⟨combinator, candidates, ws, pair, items_of_sequence still, ?_⟩
    intro w member
    exact behind.2 w (by simpa [Store.items?_of_sequence? still] using member)
  · exact ⟨combinator, .ref a, [], pair, items_of_spent (later.spent spent), by simp⟩

end Combinators

end TreeQuery
