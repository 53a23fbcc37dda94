import TreeQuery.Proofs.Closed

/-! Keeping evaluations, which make objects and take items out of iterators, and leave all other
objects as they are. -/

namespace TreeQuery

def Object.isIterator : Object → Bool
  | .iterator _ => true
  | _ => false

namespace Store

/-- Objects may have been made, and iterators have changed; all other objects are the same. -/
def Keeps (st st' : Store) : Prop :=
  ∀ a o, st.read? a = some o → o.isIterator = false → st'.read? a = some o

theorem Keeps.refl (st : Store) : st.Keeps st := fun _ _ read _ => read

theorem Keeps.trans {st st' st'' : Store} (first : st.Keeps st') (second : st'.Keeps st'') :
    st.Keeps st'' :=
  fun a o read fixed => second a o (first a o read fixed) fixed

theorem Grows.keeps {st st' : Store} (grows : st.Grows st') : st.Keeps st' :=
  fun a o read _ => grows a o read

theorem Drains.keeps {st st' : Store} (drains : st.Drains st') : st.Keeps st' := by
  intro a o read fixed
  rcases drains.2.2 a with same | ⟨xs, ys, before, after, suffix⟩
  · exact same.trans read
  · cases read.symm.trans before
    cases fixed

theorem keeps_write {st : Store} {a : Addr} {xs : List Value} (o : Object)
    (read : st.read? a = some (.iterator xs)) : st.Keeps (st.write a o) := by
  intro b p here fixed
  have other : a ≠ b := by
    rintro rfl
    cases read.symm.trans here
    cases fixed
  rw [read?_write_of_ne st o other, here]

/-- What has been made since may be changed. -/
theorem Keeps.write {st st' : Store} (keeps : st.Keeps st') {a : Addr} (fresh : st.size ≤ a)
    (o : Object) : st.Keeps (st'.write a o) := by
  intro b p here fixed
  have other : a ≠ b := by
    rintro rfl
    exact absurd (lt_of_read? here) (Nat.not_lt.mpr fresh)
  rw [read?_write_of_ne st' o other, keeps b p here fixed]

def IsFinding (st : Store) (v : Value) : Prop := v = .null ∨ st.isNode v

theorem Keeps.isNode {st st' : Store} (keeps : st.Keeps st') {v : Value} (node : st.isNode v) :
    st'.isNode v := by
  cases v with
  | ref a =>
    rcases read : st.read? a with _ | o
    · simp [Store.isNode, node?, object?, read] at node
    · cases o with
      | node n => simp [Store.isNode, node?, object?, keeps a _ read rfl]
      | _ => simp [Store.isNode, node?, object?, read] at node
  | _ => cases node

theorem Keeps.isFinding {st st' : Store} (keeps : st.Keeps st') {v : Value}
    (finding : st.IsFinding v) : st'.IsFinding v :=
  finding.imp_right keeps.isNode

end Store

namespace Eval

variable {α β : Type}

def KeepsFrom (s : Session) (x : Eval α) : Prop := s.store.Keeps (x.exec s).2.store

/-- All objects stay that are no iterators, as long as the store meets a condition. -/
def Keeping (K : Store → Prop) {α : Type} (x : Eval α) : Prop := ∀ s, K s.store → KeepsFrom s x

def Lasts (K : Store → Prop) : Prop := ∀ st st', st.Keeps st' → K st → K st'

def Always (_ : Store) : Prop := True

theorem lasts_always : Lasts Always := fun _ _ _ _ => trivial

theorem KeepsFrom.bind {x : Eval α} {f : α → Eval β} {s : Session} (first : KeepsFrom s x)
    (second : ∀ a t, x.exec s = (.ok a, t) → KeepsFrom t (f a)) : KeepsFrom s (x >>= f) := by
  unfold KeepsFrom at *
  rcases run : x.exec s with ⟨(fault | a), t⟩ <;> rw [run] at first
  · rw [exec_bind_error run]
    exact first
  · rw [exec_bind_ok run]
    exact first.trans (second a t run)

theorem Quiet.keepsFrom {x : Eval α} (quiet : Quiet x) (s : Session) : KeepsFrom s x := by
  obtain ⟨r, st, drains, runs⟩ := quiet s.store
  unfold KeepsFrom
  rw [runs s rfl]
  exact drains.keeps

namespace Keeping

variable {K : Store → Prop} (lasts : Lasts K)
include lasts

theorem bind {x : Eval α} {f : α → Eval β} (first : Keeping K x) (second : ∀ a, Keeping K (f a)) :
    Keeping K (x >>= f) := by
  intro s holds
  have kept := first s holds
  refine kept.bind ?_
  intro a t run
  unfold KeepsFrom at kept
  rw [run] at kept
  exact second a t (lasts _ _ kept holds)

theorem tryCatch {x : Eval α} {f : Fault → Eval α} (first : Keeping K x)
    (second : ∀ e, Keeping K (f e)) : Keeping K (tryCatch x f) := by
  intro s holds
  have kept := first s holds
  unfold KeepsFrom at *
  rw [exec_tryCatch]
  rcases run : x.exec s with ⟨(fault | a), t⟩ <;> rw [run] at kept
  · exact kept.trans (second fault t (lasts _ _ kept holds))
  · exact kept

theorem visitLeft {f : Value → Eval β} (each : ∀ v, Keeping K (f v)) (a : Addr) (fuel : Nat) :
    Keeping K (visitLeft a f fuel) := by
  induction fuel with
  | zero => exact fun s _ => (Quiet.pure []).keepsFrom s
  | succ fuel ih =>
    intro s holds
    unfold KeepsFrom Eval.visitLeft
    rw [exec_bind_ok (exec_getStore s)]
    split
    · next x rest read =>
      have written := Store.keeps_write (.iterator rest) read
      have later : Keeping K (f x >>= fun y => Eval.visitLeft a f fuel >>= fun ys =>
          pure (y :: ys)) :=
        bind lasts (each x) fun y => bind lasts ih fun ys s _ => (Quiet.pure _).keepsFrom s
      have kept := later { s with store := s.store.write a (.iterator rest) }
        (lasts _ _ written holds)
      rw [exec_bind_ok (exec_write a _ s)]
      exact written.trans kept
    · exact .refl s.store

omit lasts in
theorem modify {g : Session → Session} (store : ∀ s, (g s).store = s.store) :
    Keeping K (modify g : Eval PUnit) := by
  intro s _
  change s.store.Keeps (g s).store
  rw [store s]
  exact .refl s.store

theorem closed : Closed @(@Keeping K) where
  quiet quiet := fun s _ => quiet.keepsFrom s
  bind := bind lasts
  tryCatch := tryCatch lasts
  get_bind _ rest := fun s holds => rest s s holds
  modify store _ := modify store
  emit _ := fun s _ => .refl s.store
  allocAt o := fun s _ => (Store.grows_alloc s.store o).keeps
  container _ := fun s _ => (Store.grows_alloc s.store _).keeps
  visitLeft := visitLeft lasts

end Keeping

section Results

variable {f : Value → Eval β} {P : Store → β → Prop}
  (lasts : ∀ st st' y, st.Keeps st' → P st y → P st' y)
  (each : ∀ v s y t, (f v).exec s = (.ok y, t) → P t.store y)
include lasts each

theorem cons_all {x : Value} {rest : Eval (List β)} (stays : Keeping Always rest)
    (later : ∀ s ys t, rest.exec s = (.ok ys, t) → ∀ y ∈ ys, P t.store y) {s t : Session}
    {ys : List β}
    (done : (f x >>= fun y => rest >>= fun ys => pure (y :: ys)).exec s = (.ok ys, t)) :
    ∀ y ∈ ys, P t.store y := by
  obtain ⟨y, m, first, done⟩ := exec_bind_eq_ok.mp done
  obtain ⟨ys', m', others, same⟩ := exec_bind_eq_ok.mp done
  cases same
  have kept := stays m trivial
  unfold KeepsFrom at kept
  rw [others] at kept
  exact List.forall_mem_cons.mpr ⟨lasts _ _ y kept (each x s y m first), later m ys' t others⟩

variable (keeping : ∀ v, Keeping Always (f v))
include keeping

theorem mapM_all {xs : List Value} {s t : Session} {ys : List β}
    (done : (xs.mapM f).exec s = (.ok ys, t)) : ∀ y ∈ ys, P t.store y := by
  induction xs generalizing s ys t with
  | nil =>
    cases done
    simp
  | cons x xs ih =>
    rw [List.mapM_cons] at done
    exact cons_all lasts each ((Keeping.closed lasts_always).mapM keeping xs) (fun _ _ _ => ih) done

theorem visitLeft_all {a : Addr} {fuel : Nat} {s t : Session} {ys : List β}
    (done : (visitLeft a f fuel).exec s = (.ok ys, t)) : ∀ y ∈ ys, P t.store y := by
  induction fuel generalizing s ys t with
  | zero =>
    cases done
    simp
  | succ fuel ih =>
    unfold visitLeft at done
    rw [exec_bind_ok (exec_getStore s)] at done
    split at done
    · rw [exec_bind_ok (exec_write _ _ s)] at done
      have stays := (Keeping.closed lasts_always).visitLeft keeping a fuel
      exact cons_all lasts each stays (fun _ _ _ => ih) done
    · cases done
      simp

/-- What all results of going over a value have in common, if it lasts while objects stay. -/
theorem visit_all {v : Value} {s t : Session} {ys : List β}
    (done : (visit v f).exec s = (.ok ys, t)) : ∀ y ∈ ys, P t.store y := by
  unfold visit at done
  rw [exec_bind_ok (exec_getStore s)] at done
  split at done
  · cases done
  · split at done
    · exact visitLeft_all lasts each keeping done
    · exact mapM_all lasts each keeping done
  · exact mapM_all lasts each keeping done

end Results

end Eval

end TreeQuery
