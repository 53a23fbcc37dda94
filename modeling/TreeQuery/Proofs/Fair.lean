import TreeQuery.Proofs.Closed

/-! Fair evaluations. What they write to the diagnostics goes behind what was written before, which
they do not read; and they leave tuples, sequences and spent iterators what they are. -/

namespace TreeQuery

namespace Store

/-- Tuples have stayed as they were, what could be gone over again and again still can, and
iterators that were spent still are. -/
structure Evolves (st st' : Store) : Prop where
  tuples {v : Value} {items : List Value} :
    st.tupleItems? v = some items → st'.tupleItems? v = some items
  sequences {v : Value} {xs : List Value} :
    st.sequence? v = some xs → ∃ ys, st'.sequence? v = some ys
  spent {a : Addr} : st.read? a = some (.iterator []) → st'.read? a = some (.iterator [])

def overwrites : Object → Object → Bool
  | .list _, .list _ | .dict _, .dict _ | .element _, .element _ => true
  | .iterator (_ :: _), .iterator _ => true
  | _, _ => false

theorem Evolves.refl (st : Store) : st.Evolves st :=
  ⟨fun tuple => tuple, fun {_ xs} items => ⟨xs, items⟩, fun spent => spent⟩

theorem Evolves.trans {st st' st'' : Store} (first : st.Evolves st')
    (second : st'.Evolves st'') : st.Evolves st'' := by
  constructor
  · intro v items tuple
    exact second.tuples (first.tuples tuple)
  · intro v xs items
    obtain ⟨ys, items'⟩ := first.sequences items
    exact second.sequences items'
  · intro a spent
    exact second.spent (first.spent spent)

theorem evolves_of_reads {st st' : Store} (reads : ∀ a o, st.read? a = some o →
    st'.read? a = some o ∨ ∃ o', st'.read? a = some o' ∧ overwrites o o') : st.Evolves st' := by
  constructor
  · intro v items tuple
    cases v with
    | ref a =>
      rcases read : st.read? a with _ | o
      · simp [tupleItems?, object?, read] at tuple
      · rcases reads a o read with same | ⟨o', after, allowed⟩
        · simpa [tupleItems?, object?, read, same] using tuple
        · cases o <;> simp [tupleItems?, object?, read, overwrites] at tuple allowed
    | _ => exact tuple
  -- A container may have got other content, but it can still be gone over.
  · intro v xs items
    cases v with
    | ref a =>
      rcases read : st.read? a with _ | o
      · simp [sequence?, object?, items?, read] at items
      · rcases reads a o read with same | ⟨o', after, allowed⟩
        · revert items
          simp only [sequence?, object?, items?, read, same]
          cases o <;> simp
        · revert items allowed
          simp only [sequence?, object?, items?, read, after]
          cases o <;> cases o' <;> simp [overwrites]
    | _ => exact ⟨xs, items⟩
  · intro a spent
    rcases reads a _ spent with same | ⟨o', after, allowed⟩
    · exact same
    · cases o' <;> cases allowed

theorem Grows.evolves {st st' : Store} (grows : st.Grows st') : st.Evolves st' :=
  evolves_of_reads fun a o read => .inl (grows a o read)

theorem Drains.evolves {st st' : Store} (drains : st.Drains st') : st.Evolves st' := by
  refine evolves_of_reads ?_
  intro a o read
  rcases drains.2.2 a with same | ⟨xs, ys, before, after, suffix⟩
  · exact .inl (same.trans read)
  · cases read.symm.trans before
    cases xs with
    | nil => exact .inl (by rw [after, List.suffix_nil.mp suffix])
    | cons x xs => exact .inr ⟨.iterator ys, after, rfl⟩

theorem evolves_write {st : Store} {a : Addr} {o o' : Object} (read : st.read? a = some o)
    (allowed : overwrites o o') : st.Evolves (st.write a o') := by
  refine evolves_of_reads ?_
  intro b p here
  by_cases same : a = b
  · subst same
    cases read.symm.trans here
    exact .inr ⟨o', read?_write_self st o' (lt_of_read? read), allowed⟩
  · exact .inl ((read?_write_of_ne st o' same).trans here)

end Store

def Session.blank (s : Session) : Session := { s with log := "" }

def Session.behind (log : String) (s : Session) : Session := { s with log := log ++ s.log }

theorem Session.behind_behind (s : Session) (log log' : String) :
    (s.behind log').behind log = s.behind (log ++ log') := by
  simp [behind, String.append_assoc]

namespace Eval

variable {α β : Type}

/-- On one store, what comes out is that of a blank session, with what is written behind what was
there, and the store evolves. -/
def FairOn (st : Store) (x : Eval α) : Prop :=
  ∀ s : Session, s.store = st →
    x.exec s = ((x.exec s.blank).1, (x.exec s.blank).2.behind s.log) ∧
      st.Evolves (x.exec s).2.store

def Fair (x : Eval α) : Prop := ∀ st, FairOn st x

namespace FairOn

variable {st : Store} {x : Eval α}

theorem bind {f : α → Eval β} (first : FairOn st x)
    (second : ∀ a s t, s.store = st → x.exec s = (.ok a, t) → FairOn t.store (f a)) :
    FairOn st (x >>= f) := by
  intro s at_
  obtain ⟨same, evolves⟩ := first s at_
  rcases run : x.exec s.blank with ⟨(fault | a), t⟩
  · rw [run] at same
    rw [exec_bind_error run, exec_bind_error same]
    rw [same] at evolves
    exact ⟨rfl, evolves⟩
  · rw [run] at same
    obtain ⟨blank, _⟩ := second a s.blank t at_ run t rfl
    obtain ⟨behind, evolves'⟩ := second a s (t.behind s.log) at_ same (t.behind s.log) rfl
    rw [same] at evolves
    rw [exec_bind_ok run, exec_bind_ok same]
    refine ⟨?_, evolves.trans evolves'⟩
    rw [behind, blank]
    exact congrArg (Prod.mk _) (Session.behind_behind _ _ _).symm

theorem getStore_bind {f : Store → Eval β} (rest : FairOn st (f st)) :
    FairOn st (getStore >>= f) := by
  intro s at_
  have here := rest s at_
  rw [exec_bind_ok (exec_getStore s), exec_bind_ok (exec_getStore s.blank)]
  rw [show s.blank.store = s.store from rfl, at_]
  exact here

theorem write {a : Addr} {o o' : Object} (read : st.read? a = some o)
    (allowed : Store.overwrites o o') : FairOn st (Eval.write a o') := by
  intro s at_
  subst at_
  refine ⟨?_, Store.evolves_write read allowed⟩
  simp [Session.blank, Session.behind]

end FairOn

theorem Quiet.fair {x : Eval α} (quiet : Quiet x) : Fair x := by
  intro st s at_
  obtain ⟨r, st', drains, runs⟩ := quiet st
  rw [runs s at_, runs s.blank at_]
  exact ⟨by simp [Session.blank, Session.behind], drains.evolves⟩

namespace Fair

theorem pure (a : α) : Fair (pure a : Eval α) := (Quiet.pure a).fair

theorem throw (e : Fault) : Fair (throw e : Eval α) := (Quiet.throw e).fair

theorem lift (r : Except Fault α) : Fair (liftM r : Eval α) := (Quiet.lift r).fair

theorem bind {x : Eval α} {f : α → Eval β} (first : Fair x) (second : ∀ a, Fair (f a)) :
    Fair (x >>= f) :=
  fun st => (first st).bind fun a _ t _ _ => second a t.store

theorem getStore_bind {f : Store → Eval β} (rest : ∀ st, Fair (f st)) : Fair (getStore >>= f) :=
  fun st => .getStore_bind (rest st st)

theorem tryCatch {x : Eval α} {f : Fault → Eval α} (first : Fair x) (second : ∀ e, Fair (f e)) :
    Fair (tryCatch x f) := by
  intro st s at_
  obtain ⟨same, evolves⟩ := first st s at_
  rcases run : x.exec s.blank with ⟨(fault | a), t⟩ <;> rw [run] at same
  · obtain ⟨blank, _⟩ := second fault t.store t rfl
    obtain ⟨behind, evolves'⟩ := second fault t.store (t.behind s.log) rfl
    rw [same] at evolves
    simp only [exec_tryCatch, run, same]
    refine ⟨?_, evolves.trans evolves'⟩
    rw [behind, blank]
    exact congrArg (Prod.mk _) (Session.behind_behind _ _ _).symm
  · rw [same] at evolves
    simp only [exec_tryCatch, run, same]
    exact ⟨trivial, evolves⟩

theorem allocAt (o : Object) : Fair (allocAt o) := by
  rintro st s rfl
  exact ⟨by simp [Session.blank, Session.behind], (Store.grows_alloc _ o).evolves⟩

theorem alloc (o : Object) : Fair (alloc o) := bind (allocAt o) fun _ => pure _

theorem emit (text : String) : Fair (emit text) := by
  rintro st s rfl
  exact ⟨by simp [Session.blank, Session.behind], .refl _⟩

theorem modify {g : Session → Session} (store : ∀ s, (g s).store = s.store)
    (log : ∀ s log, g { s with log := log } = { g s with log := log }) :
    Fair (modify g : Eval Unit) := by
  rintro st s rfl
  change (Except.ok (), g s) = (Except.ok (), (g s.blank).behind s.log) ∧
    s.store.Evolves (g s).store
  have keeps : g s = { g s with log := s.log } := log s s.log
  refine ⟨?_, (store s).symm ▸ .refl _⟩
  rw [Session.blank, log s "", keeps]
  simp [Session.behind]

theorem get_bind {f : Session → Eval β} (same : ∀ s log, f { s with log := log } = f s)
    (rest : ∀ s, Fair (f s)) : Fair (get >>= f) := by
  intro st s at_
  have here := rest s st s at_
  change (f s).exec s = (((f s.blank).exec s.blank).1, ((f s.blank).exec s.blank).2.behind s.log) ∧
    st.Evolves ((f s).exec s).2.store
  rw [show f s.blank = f s from same s ""]
  exact here

theorem visitLeft {f : Value → Eval β} (each : ∀ v, Fair (f v)) (a : Addr) (fuel : Nat) :
    Fair (visitLeft a f fuel) := by
  induction fuel with
  | zero => exact pure []
  | succ fuel ih =>
    intro st
    refine .getStore_bind ?_
    split
    · next x rest read =>
      refine (FairOn.write read rfl).bind ?_
      intro _ _ t _ _
      exact bind (each x) (fun _ => bind ih fun _ => pure _) t.store
    · exact pure [] st

theorem closed : Closed @Fair where
  quiet := Quiet.fair
  bind := bind
  tryCatch := tryCatch
  get_bind := get_bind
  modify := modify
  emit := emit
  allocAt := allocAt
  container _ := allocAt _
  visitLeft := visitLeft

/-- What is written in a session is the same text in front of which anything may stand. -/
theorem exec_behind {x : Eval α} (fair : Fair x) (s : Session) (log : String) :
    x.exec { s with log := log } = ((x.exec s).1, { (x.exec s).2 with
      log := log ++ (x.exec s.blank).2.log }) := by
  rw [(fair s.store { s with log := log } rfl).1, (fair s.store s rfl).1]
  rfl

theorem log_exec {x : Eval α} (fair : Fair x) (s : Session) :
    (x.exec s).2.log = s.log ++ (x.exec s.blank).2.log := by
  rw [(fair s.store s rfl).1]
  rfl

theorem evolves {x : Eval α} (fair : Fair x) (s : Session) :
    s.store.Evolves (x.exec s).2.store :=
  (fair s.store s rfl).2

end Fair

/-- Looking at the store, and not changing it, leaves what is known of it. -/
theorem FairOn.lift_bind {st : Store} {r : Except Fault α} {f : α → Eval β}
    (rest : ∀ a, FairOn st (f a)) : FairOn st (liftM r >>= f) := by
  refine (Fair.lift r st).bind ?_
  intro a s t at_ run
  rw [exec_lift] at run
  cases run
  exact at_ ▸ rest a

end Eval

end TreeQuery
