import TreeQuery.Proofs.Query.Purity

/-! Branches that take the first present result. Such a branch can be replaced by a scalar step for
the first of its candidates that finds something; if none does, by starting from nothing. -/

namespace TreeQuery

open Eval

namespace Combine

theorem firstPresent_append {before later : List Value} {v : Value}
    (absent : ∀ w ∈ before, w = .null) (present : v ≠ .null) :
    firstPresent (before ++ v :: later) = v := by
  have none : before.find? isPresent = none := by
    simpa [isPresent] using absent
  have here : isPresent v := by simpa [isPresent] using present
  rw [firstPresent, List.find?_append, none, Option.none_or, List.find?_cons_of_pos here]
  rfl

theorem firstPresent_eq_null {results : List Value} (absent : ∀ v ∈ results, v = .null) :
    firstPresent results = .null := by
  have none : results.find? isPresent = none := by
    simpa [isPresent] using absent
  rw [firstPresent, none]
  rfl

end Combine

namespace Store

variable {st : Store} {v : Value}

def IsRooted (st : Store) (v : Value) : Prop := ∀ a, v = .ref a → st.isNode v → st.Formed a

theorem isRooted_null (st : Store) : st.IsRooted .null := fun _ same => nomatch same

theorem IsRooted.selectChild (rooted : st.IsRooted v) (selector wanted : String) :
    ∃ next, st.selectChild (.text selector) (.text wanted) v = .ok next ∧ st.IsRooted next := by
  let k : Ask := ⟨selector, wanted⟩
  rcases node : st.node? v with _ | n
  · exact ⟨.null, k.selectChild_other node, isRooted_null st⟩
  · obtain ⟨a, rfl, _⟩ := view?_of_node? node
    have formed := rooted a rfl (by simp [Store.isNode, node])
    rw [k.selectChild_node formed.isNode]
    rcases (k.tells formed).among_children with ⟨i, b, m, first, inner, found⟩ | ⟨_, nothing⟩
    · have below := formed.below (.single (parent_iff_childAt.mpr ⟨i, first.1⟩))
      rw [found]
      refine ⟨.ref b, rfl, ?_⟩
      rintro _ ⟨⟩ _
      exact below
    · rw [nothing]
      exact ⟨.null, rfl, isRooted_null st⟩

theorem selectAll_eq_map {selector : String} {pick : String → Value}
    (picks : ∀ wanted, st.selectChild (.text selector) (.text wanted) v = .ok (pick wanted))
    (candidates : List String) :
    st.selectAll selector candidates v = .ok (candidates.map pick) := by
  induction candidates with
  | nil => rfl
  | cons wanted candidates ih =>
    rw [selectAll_cons, picks, ih]
    rfl

end Store

def Step.isBranch : Step → Bool
  | scalar _ _ => false
  | branch _ _ => true

def Combinators.TakesFirst (c : Combinators) (fn : Value) : Prop :=
  ∀ results s, (c.call fn results).exec s = (.ok (Combine.firstPresent results), s)

namespace Query

/-- Steps come to a value, and whatever a combinator gives on the way is no node, or the root of a
well-formed tree. -/
structure Settles (call : Caller) (steps : List Step) (root : Value) (s : Session) : Prop where
  outcome : ∃ v, ((compose call false steps root).exec s).1 = .ok v
  trees : ∀ m ∈ moments call steps root s, m.step.isBranch → m.session.store.IsRooted m.result

def Gives (c : Combinators) (steps : List Step) (root : Value) (s : Session)
    (outcome : Except Fault Value) (st : Store) : Prop :=
  ∀ traced : Bool, (traced → ∀ m ∈ moments c.call steps root s, m.Tellable) →
    ∃ log, (compose c.call traced steps root).exec s =
      (outcome, { s with store := st, log := log })

section Runs

variable {base : Store} {steps : List Step} {cls : List Clause} {root : Value} {s t : Session}

theorem Settles.exists_value {call : Caller} (settles : Settles call steps root s)
    (means : List.Forall₂ base.Means steps cls)
    (pure : ∀ cl ∈ cls, ∀ fn ∈ cl.combinator?, IsPure call base fn)
    (grown : base.Grows s.store) (rooted : s.store.IsRooted root) :
    ∃ v t, (compose call false steps root).exec s = (.ok v, t) ∧ t.store.IsRooted v := by
  obtain ⟨⟨v, outcome⟩, trees⟩ := settles
  induction means generalizing root s with
  | nil => exact ⟨root, s, rfl, rooted⟩
  | @cons step cl steps cls first _ ih =>
    have here := grows_carryOut root first (pure cl (.head _)) grown
    rw [compose_cons_untraced] at outcome ⊢
    rcases ran : (step.carryOut call root).exec s with ⟨(fault | next), t⟩ <;> rw [ran] at here
    · rw [exec_bind_error ran] at outcome
      cases outcome
    · have moments_eq : moments call (step :: steps) root s =
          ⟨step, next, t⟩ :: moments call steps next t := by
        rw [moments, ran]
      rw [moments_eq] at trees
      rw [exec_bind_ok ran] at outcome ⊢
      -- A scalar step stays in the tree of its root; of what a combinator gives it is assumed.
      have later : t.store.IsRooted next := by
        cases first with
        | scalar selector wanted =>
          obtain ⟨found, selected, later⟩ := rooted.selectChild selector wanted
          rw [Step.exec_carryOut_scalar, selected] at ran
          cases ran
          exact later
        | branch => exact trees _ (.head _) rfl
      exact ih (Clause.pure_tail pure) (grown.trans here.store) later
        (fun m member => trees m (.tail _ member)) outcome

theorem gives_of_exec {c : Combinators} {outcome : Except Fault Value} {st : Store}
    (means : List.Forall₂ s.store.Means steps cls)
    (ran : (compose c.call false steps root).exec s = (outcome, { s with store := st })) :
    Gives c steps root s outcome st := by
  intro traced tellable
  cases traced with
  | false => exact ⟨s.log, ran⟩
  | true =>
    rw [exec_compose] at ran ⊢
    obtain ⟨_, outcomes, log, session⟩ :=
      loop_untraced_matches (isFormed_of_means means) (tellable rfl) false true
    obtain ⟨rfl, left⟩ := Prod.mk.inj ran
    refine ⟨log, Prod.ext outcomes.symm ?_⟩
    rw [Course.ending, session, left]

theorem Gives.exec {c : Combinators} {outcome : Except Fault Value} {st : Store}
    (gives : Gives c steps root s outcome st) : ((compose c.call false steps root).exec s).1 =
      outcome := by
  obtain ⟨log, ran⟩ := gives false (fun impossible => nomatch impossible)
  rw [ran]

end Runs

/-- What takes the place of a branch, behind some steps and in front of others. If its first
candidate that finds something finds it as a scalar step, this step comes to the same; and if none
finds anything, then the steps behind the branch come to the same from nothing, but for the
addresses of what they make. -/
structure Eliminates (c : Combinators) (pre post : List Step) (selector : String) (form : Value)
    (candidates : List String) (root : Value) (s : Session) : Prop where
  settled (candidate : String) : ∃ v st,
    Gives c (pre ++ [.scalar (.text selector) (.text candidate)]) root s (.ok v) st
  present (before later : List String) (chosen : String) (v : Value) (st : Store) :
    candidates = before ++ chosen :: later →
    (∀ candidate ∈ before, ∃ st,
      Gives c (pre ++ [.scalar (.text selector) (.text candidate)]) root s (.ok .null) st) →
    Gives c (pre ++ [.scalar (.text selector) (.text chosen)]) root s (.ok v) st → v ≠ .null →
    ∃ outcome st, Gives c (pre ++ .branch (.text selector) form :: post) root s outcome st ∧
      Gives c (pre ++ .scalar (.text selector) (.text chosen) :: post) root s outcome st
  absent : (∀ candidate ∈ candidates, ∃ st,
      Gives c (pre ++ [.scalar (.text selector) (.text candidate)]) root s (.ok .null) st) →
    ∃ f outcome st st', s.store.Fixes f ∧ st.Renames f st' ∧ Gives c post .null s outcome st ∧
      Gives c (pre ++ .branch (.text selector) form :: post) root s (renamedOutcome f outcome) st'

section Behind

/-! What stands behind steps that have come to a value. -/

variable {c : Combinators} {pre : List Step} {root v : Value} {s t : Session} {selector : String}
  {pick : String → Value} (ran : (compose c.call false pre root).exec s = (.ok v, t))
  (picks : ∀ wanted, t.store.selectChild (.text selector) (.text wanted) v = .ok (pick wanted))
include ran picks

theorem exec_behind_scalar (wanted : String) (more : List Step) :
    (compose c.call false (pre ++ .scalar (.text selector) (.text wanted) :: more) root).exec s =
      (compose c.call false more (pick wanted)).exec t := by
  rw [compose_append, exec_bind_ok ran, compose_cons_untraced, exec_bind,
    Step.exec_carryOut_scalar, picks]

theorem exec_behind_branch {name : String} {form first : Value} {candidates : List String}
    (means : t.store.Means (.branch (.text selector) form)
      (.branch selector name first candidates))
    (takes : c.TakesFirst first) (more : List Step) :
    (compose c.call false (pre ++ .branch (.text selector) form :: more) root).exec s =
      (compose c.call false more (Combine.firstPresent (candidates.map pick))).exec t := by
  have chosen : ((Step.branch (.text selector) form).carryOut c.call v).exec t =
      (.ok (Combine.firstPresent (candidates.map pick)), t) := by
    rw [Step.exec_carryOut_branch means, Store.selectAll_eq_map picks]
    exact takes _ t
  rw [compose_append, exec_bind_ok ran, compose_cons_untraced, exec_bind_ok chosen]

/-- The branch is the scalar step of its first candidate that finds something. -/
theorem exec_chosen_branch {name chosen : String} {form first : Value} {before later : List String}
    (means : t.store.Means (.branch (.text selector) form)
      (.branch selector name first (before ++ chosen :: later)))
    (takes : c.TakesFirst first) (absent : ∀ w ∈ before.map pick, w = .null)
    (present : pick chosen ≠ .null) (more : List Step) :
    (compose c.call false (pre ++ .branch (.text selector) form :: more) root).exec s =
      (compose c.call false (pre ++ .scalar (.text selector) (.text chosen) :: more) root).exec
        s := by
  rw [exec_behind_branch ran picks means takes, exec_behind_scalar ran picks, List.map_append,
    List.map_cons, Combine.firstPresent_append absent present]

/-- Where no candidate finds anything, the steps behind the branch start from nothing. -/
theorem exec_barren_branch {name : String} {form first : Value} {candidates : List String}
    (means : t.store.Means (.branch (.text selector) form)
      (.branch selector name first candidates))
    (takes : c.TakesFirst first) (absent : ∀ w ∈ candidates.map pick, w = .null)
    (more : List Step) :
    (compose c.call false (pre ++ .branch (.text selector) form :: more) root).exec s =
      (compose c.call false more .null).exec t := by
  rw [exec_behind_branch ran picks means takes, Combine.firstPresent_eq_null absent]

theorem Gives.picked {wanted : String} {found : Value} {st : Store}
    (gives : Gives c (pre ++ [.scalar (.text selector) (.text wanted)]) root s (.ok found) st) :
    pick wanted = found := by
  have outcome := gives.exec
  rw [exec_behind_scalar ran picks] at outcome
  exact Except.ok.inj outcome

theorem absent_of_gives {candidates : List String}
    (none : ∀ wanted ∈ candidates, ∃ st,
      Gives c (pre ++ [.scalar (.text selector) (.text wanted)]) root s (.ok .null) st) :
    ∀ w ∈ candidates.map pick, w = .null := by
  intro w member
  obtain ⟨wanted, inside, rfl⟩ := List.mem_map.mp member
  obtain ⟨st, gives⟩ := none wanted inside
  exact gives.picked ran picks

end Behind

/-- A branch that takes the first present result stands for the scalar step of its choice, whatever
the steps behind come to from there, and whatever candidates stand behind the choice. -/
theorem first_present_branch_eliminated (c : Combinators) (pre post : List Step)
    (preClauses postClauses : List Clause) (selector name : String) (form first : Value)
    (candidates : List String) (root : Value) (s : Session) (complete : s.store.IsComplete)
    (rooted : s.store.IsRooted root) (means : List.Forall₂ s.store.Means pre preClauses)
    (means' : List.Forall₂ s.store.Means post postClauses)
    (branch : s.store.Means (.branch (.text selector) form)
      (.branch selector name first candidates))
    (takes : c.TakesFirst first)
    (pure : ∀ cl ∈ preClauses ++ postClauses, ∀ fn ∈ cl.combinator?, IsPure c.call s.store fn)
    (settles : Settles c.call pre root s) :
    Eliminates c pre post selector form candidates root s := by
  obtain ⟨purePre, purePost⟩ := List.forall_mem_append.mp pure
  obtain ⟨v, t, ran, rooted'⟩ := settles.exists_value means purePre (.refl _) rooted
  obtain ⟨st₁, same, grows, marks⟩ := grows_compose root means purePre (.refl s.store)
  obtain rfl : t = { s with store := st₁ } := by rw [← same, ran]
  choose pick picks _ using rooted'.selectChild selector
  have whole : ∀ {step cl}, s.store.Means step cl → ∀ {more cls},
      List.Forall₂ s.store.Means more cls →
        List.Forall₂ s.store.Means (pre ++ step :: more) (preClauses ++ cl :: cls) :=
    fun one _ _ others => List.rel_append means (.cons one others)
  have scalar : ∀ wanted, s.store.Means (.scalar (.text selector) (.text wanted))
      (.scalar selector wanted) := .scalar selector
  have branch' := grows.keeps.means branch
  let behind : Session := { s with store := st₁ }
  have grown : s.store.Grows behind.store := grows
  constructor
  · intro wanted
    exact ⟨pick wanted, st₁, gives_of_exec (whole (scalar wanted) .nil)
      (exec_behind_scalar ran picks wanted [])⟩
  · rintro before later chosen w _ rfl none gives present
    have absent := absent_of_gives ran picks none
    obtain rfl := gives.picked ran picks
    obtain ⟨outcome, st, done⟩ := exists_ending (pick chosen) means' purePost grown
    have scalar_runs := (exec_behind_scalar ran picks chosen post).trans done
    have same := exec_chosen_branch ran picks branch' takes absent present post
    exact ⟨outcome, st, gives_of_exec (whole branch means') (same.trans scalar_runs),
      gives_of_exec (whole (scalar chosen) means') scalar_runs⟩
  · intro none
    have absent := absent_of_gives ran picks none
    have branch_runs := exec_barren_branch ran picks branch' takes absent post
    -- The branch has made objects that the shorter query has not, so the steps behind it run at
    -- other addresses.
    have fixes := Store.fixes_behind s.store (st₁.size - s.store.size)
    have renames : s.Renames _ behind := ⟨st₁, rfl, grows.renames complete marks⟩
    obtain ⟨outcomes, st', left, renamed⟩ :=
      corresponds_compose .null complete fixes means' purePost (.refl s.store) renames
    obtain ⟨outcome, st, ends⟩ := exists_ending .null means' purePost (.refl s.store)
    rw [ends] at outcomes left renamed
    exact ⟨_, outcome, st, st', fixes, renamed, gives_of_exec means' ends,
      gives_of_exec (whole branch means') (branch_runs.trans (Prod.ext outcomes left))⟩

def onChain : Session where
  store.objects := #[.list [], .dict [], .node ⟨"c", 1, 0⟩, .list [.text "t", .ref 2], .dict [],
    .node ⟨"b", 4, 3⟩, .list [.ref 5], .dict [], .node ⟨"a", 7, 6⟩,
    .list [.text "z", .text "b"], .tuple [.function .firstPresent, .ref 9],
    .list [.text "x", .text "c", .text "y"], .tuple [.function .firstPresent, .ref 11],
    .list [.text "u"], .tuple [.function .allPresent, .ref 13]]

def chainPre : List Step := [.branch (.text "tag") (.ref 10)]

def chainPost : List Step := [.branch (.text "class") (.ref 14)]

def chainClauses : List Clause := [.branch "tag" "" (.function .firstPresent) ["z", "b"]]

def chainClauses' : List Clause := [.branch "class" "" (.function .allPresent) ["u"]]

theorem takesFirst_ofValues : Combinators.ofValues.TakesFirst (.function .firstPresent) :=
  exec_call_firstPresent

theorem isRooted_onChain (v : Value) : onChain.store.IsRooted v := by
  rintro a rfl isNode
  exact Store.formed_of_earlier isNode (by decide)

theorem isPure_onChain : ∀ cl ∈ chainClauses ++ chainClauses', ∀ fn ∈ cl.combinator?,
    IsPure Combinators.ofValues.call onChain.store fn := by
  intro cl member fn is
  rcases List.mem_cons.mp member with rfl | member
  · cases is
    exact isPure_firstPresent _
  · cases List.mem_singleton.mp member
    cases is
    exact isPure_allPresent _

theorem settles_onChain : Settles Combinators.ofValues.call chainPre (.ref 8) onChain where
  outcome := ⟨.ref 5, rfl⟩
  trees := by
    have one : moments Combinators.ofValues.call chainPre (.ref 8) onChain =
        [⟨.branch (.text "tag") (.ref 10), .ref 5, onChain⟩] := rfl
    rw [one]
    intro m member _
    cases List.mem_singleton.mp member
    exact isRooted_onChain _

theorem first_present_branch_onChain_eliminated :
    onChain.store.IsComplete ∧ onChain.store.IsRooted (.ref 8) ∧
      List.Forall₂ onChain.store.Means chainPre chainClauses ∧
      List.Forall₂ onChain.store.Means chainPost chainClauses' ∧
      onChain.store.Means (.branch (.text "tag") (.ref 12))
        (.branch "tag" "" (.function .firstPresent) ["x", "c", "y"]) ∧
      Combinators.ofValues.TakesFirst (.function .firstPresent) ∧
      (∀ cl ∈ chainClauses ++ chainClauses', ∀ fn ∈ cl.combinator?,
        IsPure Combinators.ofValues.call onChain.store fn) ∧
      Settles Combinators.ofValues.call chainPre (.ref 8) onChain ∧
      Eliminates .ofValues chainPre chainPost "tag" (.ref 12) ["x", "c", "y"] (.ref 8) onChain := by
  have complete : onChain.store.IsComplete := by decide
  have pre : List.Forall₂ onChain.store.Means chainPre chainClauses :=
    .cons (.branch "tag" "" rfl rfl) .nil
  have post : List.Forall₂ onChain.store.Means chainPost chainClauses' :=
    .cons (.branch "class" "" rfl rfl) .nil
  have branch : onChain.store.Means (.branch (.text "tag") (.ref 12))
      (.branch "tag" "" (.function .firstPresent) ["x", "c", "y"]) := .branch "tag" "" rfl rfl
  exact ⟨complete, isRooted_onChain _, pre, post, branch, takesFirst_ofValues, isPure_onChain,
    settles_onChain, first_present_branch_eliminated .ofValues chainPre chainPost chainClauses
      chainClauses' "tag" "" (.ref 12) (.function .firstPresent) ["x", "c", "y"] (.ref 8) onChain
      complete (isRooted_onChain _) pre post branch takesFirst_ofValues isPure_onChain
      settles_onChain⟩

def unshown : Session where
  store.objects := #[.list [], .dict [(.int 1, .text "x")], .node ⟨"b", 1, 0⟩, .list [.ref 2],
    .closure (.constant (.ref 3)), .tuple [.ref 4, .ref 0], .list [.text "x"],
    .tuple [.function .firstPresent, .ref 6]]

/-- With a trace that cannot be told, a branch whose candidates find nothing does not come to what
the steps behind it come to from nothing. -/
theorem unshown_branch_not_eliminated :
    unshown.store.IsComplete ∧
      List.Forall₂ unshown.store.Means [.branch (.text "tag") (.ref 5)]
        [.branch "tag" "const" (.ref 4) []] ∧
      unshown.store.Means (.branch (.text "tag") (.ref 7))
        (.branch "tag" "first_present" (.function .firstPresent) ["x"]) ∧
      IsPure Combinators.ofValues.call unshown.store (.ref 4) ∧
      Settles Combinators.ofValues.call [.branch (.text "tag") (.ref 5)] .null unshown ∧
      Gives .ofValues [.branch (.text "tag") (.ref 5), .scalar (.text "tag") (.text "x")] .null
        unshown (.ok .null) unshown.store ∧
      ((compose Combinators.ofValues.call true
        [.branch (.text "tag") (.ref 5), .branch (.text "tag") (.ref 7)] .null).exec unshown).1 =
          .error (.wrongType "str") ∧
      ((compose Combinators.ofValues.call true [] .null).exec unshown).1 = .ok .null := by
  have complete : unshown.store.IsComplete := by decide
  have pre : List.Forall₂ unshown.store.Means [.branch (.text "tag") (.ref 5)]
      [.branch "tag" "const" (.ref 4) []] := .cons (.branch "tag" "const" rfl rfl) .nil
  refine ⟨complete, pre, .branch "tag" "first_present" rfl rfl, isPure_constant complete rfl, ?_,
    ?_, rfl, rfl⟩
  · refine ⟨⟨.ref 3, rfl⟩, ?_⟩
    have one : moments Combinators.ofValues.call [.branch (.text "tag") (.ref 5)] .null unshown =
        [⟨.branch (.text "tag") (.ref 5), .ref 3, unshown⟩] := rfl
    rw [one]
    rintro m member _ a same isNode
    cases List.mem_singleton.mp member
    cases same
    cases isNode
  · exact gives_of_exec (List.rel_append pre (.cons (.scalar "tag" "x") .nil)) rfl

end Query

end TreeQuery
