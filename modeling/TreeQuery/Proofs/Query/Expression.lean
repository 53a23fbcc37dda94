import TreeQuery.Proofs.Display.Expression
import TreeQuery.Proofs.Function.Keeping

/-! The expression of a query tells what it does: queries with the same expression run the same
course on every root, if both are traced or neither is, or if a trace of them can be told. -/

namespace TreeQuery

open Eval

def Session.Matches (s t : Session) : Prop := ∃ log, t = { s with log := log }

namespace Session.Matches

theorem refl (s : Session) : s.Matches s := ⟨s.log, rfl⟩

theorem symm {s t : Session} (matched : s.Matches t) : t.Matches s := by
  obtain ⟨log, rfl⟩ := matched
  exact ⟨s.log, rfl⟩

theorem trans {s t u : Session} (first : s.Matches t) (second : t.Matches u) : s.Matches u := by
  obtain ⟨log, rfl⟩ := first
  obtain ⟨log', rfl⟩ := second
  exact ⟨log', rfl⟩

end Session.Matches

structure Course.Matches (c d : Course) : Prop where
  calls : c.calls = d.calls
  outcome : c.outcome = d.outcome
  session : c.session.Matches d.session

namespace Course.Matches

theorem symm {c d : Course} (matched : c.Matches d) : d.Matches c :=
  ⟨matched.calls.symm, matched.outcome.symm, matched.session.symm⟩

theorem trans {c d e : Course} (first : c.Matches d) (second : d.Matches e) : c.Matches e :=
  ⟨first.calls.trans second.calls, first.outcome.trans second.outcome,
    first.session.trans second.session⟩

theorem after {c d : Course} (matched : c.Matches d) (calls : List Application) :
    (c.after calls).Matches (d.after calls) :=
  ⟨by simp [Course.after, matched.calls], matched.outcome, matched.session⟩

end Course.Matches

namespace Clause

/-- The clauses mean the same, whatever the name of the combinator. The selector of a branch without
candidates makes no difference. -/
inductive Same : Clause → Clause → Prop
  | scalar (attr value : String) : Same (.scalar attr value) (.scalar attr value)
  | branch {attr attr' : String} (name name' : String) (combinator : Value)
    {candidates : List String} (selector : candidates ≠ [] → attr = attr') :
    Same (.branch attr name combinator candidates) (.branch attr' name' combinator candidates)

/-- Of combinators in the one and in the other list, those that go by the same name are the same. -/
def Agree (cs cs' : List Clause) : Prop :=
  ∀ attr attr' name combinator combinator' candidates candidates',
    .branch attr name combinator candidates ∈ cs →
    .branch attr' name combinator' candidates' ∈ cs' → combinator = combinator'

theorem same_of_alike {c c' : Clause} {cs cs' : List Clause} (agree : Agree cs cs')
    (member : c ∈ cs) (member' : c' ∈ cs') (alike : c.Alike c') : c.Same c' := by
  rcases c with ⟨attr, value⟩ | ⟨attr, name, combinator, candidates⟩ <;>
    rcases c' with ⟨attr', value'⟩ | ⟨attr', name', combinator', candidates'⟩ <;>
    simp only [Alike] at alike
  · obtain ⟨rfl, rfl⟩ := alike
    exact .scalar attr value
  · obtain ⟨rfl, rfl, selector⟩ := alike
    obtain rfl := agree _ _ _ _ _ _ _ member member'
    exact .branch name name combinator selector

theorem forall_same {cs cs' : List Clause} (agree : Agree cs cs')
    (alike : List.Forall₂ Alike cs cs') : List.Forall₂ Same cs cs' := by
  induction alike with
  | nil => exact .nil
  | @cons c c' cs cs' first _ ih =>
    have here := same_of_alike agree List.mem_cons_self List.mem_cons_self first
    refine .cons here (ih ?_)
    intro attr attr' name f f' vs vs' member member'
    exact agree attr attr' name f f' vs vs' (.tail _ member) (.tail _ member')

end Clause

section Steps

variable {step step' : Step} {cl cl' : Clause}

theorem exec_prepare_branch {attr name : String} {form combinator : Value}
    {candidates : List String} {s : Session}
    (means : s.store.Means (.branch (.text attr) form) (.branch attr name combinator candidates))
    (current : Value) : ((Step.branch (.text attr) form).prepare current).exec s =
      ((candidates.map Value.text).mapM (fun wanted => do
        (← getStore).selectChild (.text attr) wanted current) >>= fun results =>
        pure (Due.call ⟨combinator, results⟩)).exec s := by
  cases means with
  | branch _ _ pair list =>
    have parts := pair_of_sequence (Store.sequence?_of_tupleItems? pair)
    unfold Step.prepare
    simp only
    rw [exec_bind_ok parts, exec_bind, visit_of_sequence _ (Store.sequence?_of_list list),
      ← exec_bind]

theorem exec_prepare_same {s : Session} (means : s.store.Means step cl)
    (means' : s.store.Means step' cl') (same : cl.Same cl') (current : Value) :
    (step.prepare current).exec s = (step'.prepare current).exec s := by
  cases same with
  | scalar attr value =>
    cases means
    cases means'
    rfl
  | @branch attr attr' name name' combinator candidates selector =>
    cases means with
    | branch _ _ pair list =>
      cases means' with
      | branch _ _ pair' list' =>
        rw [exec_prepare_branch (.branch attr name pair list) current,
          exec_prepare_branch (.branch attr' name' pair' list') current]
        rcases candidates with _ | ⟨candidate, candidates⟩
        · simp only [List.map_nil, List.mapM_nil]
        · rw [selector (List.cons_ne_nil _ _)]

def listing (candidates : List String) : String :=
  "[" ++ ", ".intercalate (candidates.map Text.quote) ++ "]"

theorem exec_listing (candidates : List String) (s : Session) :
    (Display.listed display (candidates.map .text)).exec s = (.ok (listing candidates), s) := by
  have shown : ((candidates.map Value.text).mapM display).exec s =
      (.ok (candidates.map Text.quote), s) := by
    induction candidates with
    | nil => rfl
    | cons candidate candidates ih =>
      rw [List.map_cons, exec_mapM_cons, exec_bind_ok (exec_display_text candidate s),
        exec_bind_ok ih]
      rfl
  unfold Display.listed
  rw [exec_bind_ok shown]
  rfl

theorem exec_stepText_branch {attr name : String} {form combinator : Value}
    {candidates : List String} {s : Session}
    (means : s.store.Means (.branch (.text attr) form) (.branch attr name combinator candidates)) :
    (Display.stepText display plain (.branch (.text attr) form)).exec s =
      (Display.callName display combinator >>= fun name =>
        pure (attr ++ "=" ++ name ++ listing candidates)).exec s := by
  cases means with
  | branch _ _ pair list =>
    have parts := pair_of_sequence (Store.sequence?_of_tupleItems? pair)
    have kept := (Display.quiet_callName quiet_display combinator).keepsFrom s
    unfold Display.stepText
    rw [exec_bind_ok parts, exec_bind_ok (exec_plain_text attr s), exec_bind, exec_bind]
    unfold KeepsFrom at kept
    rcases named : (Display.callName display combinator).exec s with ⟨(fault | name), m⟩ <;>
      rw [named] at kept
    have again := items_of_sequence (Store.sequence?_of_list (kept _ _ list rfl))
    simp only
    rw [exec_bind_ok again, exec_bind_ok (exec_listing candidates m)]

def Eval.EndAlike {α : Type} (st : Store) (x x' : Eval α) : Prop :=
  ∃ r r' st', Except.map (fun _ : α => ()) r = Except.map (fun _ : α => ()) r' ∧
    ∀ s : Session, s.store = st →
      x.exec s = (r, { s with store := st' }) ∧ x'.exec s = (r', { s with store := st' })

theorem stepText_endAlike {st : Store} (means : st.Means step cl) (means' : st.Means step' cl')
    (same : cl.Same cl') : EndAlike st (Display.stepText display plain step)
      (Display.stepText display plain step') := by
  cases same with
  | scalar attr value =>
    cases means
    cases means'
    exact ⟨_, _, st, rfl, fun s at_ => by subst at_; exact ⟨rfl, rfl⟩⟩
  | @branch attr attr' name name' combinator candidates selector =>
    obtain ⟨r, st', _, runs⟩ := Display.quiet_callName quiet_display combinator st
    cases means with
    | branch _ _ pair list =>
      cases means' with
      | branch _ _ pair' list' =>
        refine ⟨r.map fun name => attr ++ "=" ++ name ++ listing candidates,
          r.map fun name => attr' ++ "=" ++ name ++ listing candidates, st', ?_, ?_⟩
        · cases r <;> rfl
        · rintro s rfl
          rw [exec_stepText_branch (.branch attr name pair list),
            exec_stepText_branch (.branch attr' name' pair' list'), exec_bind, exec_bind,
            runs s rfl]
          cases r <;> exact ⟨rfl, rfl⟩

end Steps

namespace Query

theorem record_eq (step : Step) (result : Value) :
    record step result = Display.stepText display plain step >>= fun text =>
      Display.abbreviated Display.usualLimit result >>= fun shown =>
        emitLine ("descend: " ++ text ++ " -> " ++ shown) := rfl

theorem tell_matches {step step' : Step} {cl cl' : Clause} {s : Session}
    (means : s.store.Means step cl) (means' : s.store.Means step' cl') (same : cl.Same cl')
    (traced : Bool) (result : Value) (log : String) :
    ((tell traced step result).exec s).1 =
        ((tell traced step' result).exec { s with log := log }).1 ∧
      ((tell traced step result).exec s).2.Matches
        ((tell traced step' result).exec { s with log := log }).2 := by
  cases traced with
  | false => exact ⟨rfl, log, rfl⟩
  | true =>
    obtain ⟨r, r', st, alike, texts⟩ := stepText_endAlike means means' same
    obtain ⟨shown, st', _, results⟩ := Display.quiet_abbreviated Display.usualLimit result st
    have here := (texts s rfl).1
    have there := (texts { s with log := log } rfl).2
    have shows := results { s with store := st } rfl
    have shows' := results { s with store := st, log := log } rfl
    simp only [tell, if_true, record_eq]
    rcases r with fault | text <;> rcases r' with fault' | text' <;> cases alike
    · rw [exec_bind_error here, exec_bind_error there]
      exact ⟨rfl, log, rfl⟩
    · rw [exec_bind_ok here, exec_bind_ok there]
      cases shown with
      | error fault =>
        rw [exec_bind_error shows, exec_bind_error shows']
        exact ⟨rfl, log, rfl⟩
      | ok shown =>
        rw [exec_bind_ok shows, exec_bind_ok shows']
        exact ⟨rfl, _, rfl⟩

end Query

def Combinators.Leaves (c : Combinators) (step : Step) : Prop :=
  ∀ fn args (s : Session) cl, Store.AreFindings args s.store → s.store.Means step cl →
    ((c.call fn args).exec s).2.store.Means step cl

theorem ofValues_leaves (step : Step) : Combinators.ofValues.Leaves step :=
  fun fn args s _ findings means => (keeping_call fn args s findings).means means

namespace Query

section Runs

variable (c : Combinators)

theorem means_course {other : Step} {cl : Clause} (leaves : c.Leaves other) (step : Step)
    (current : Value) {s : Session} (means : s.store.Means other cl) :
    (step.course c.call current s).session.store.Means other cl := by
  have kept := (step.quiet_prepare current).keepsFrom s
  unfold KeepsFrom at kept
  unfold Step.course
  rcases prepared : (step.prepare current).exec s with ⟨(fault | v | due), t⟩ <;>
    rw [prepared] at kept
  · exact kept.means means
  · exact kept.means means
  · exact leaves _ _ t cl (areFindings_of_prepare prepared) (kept.means means)

theorem forall_means_course {steps : List Step} {cs : List Clause}
    (leaves : ∀ step ∈ steps, c.Leaves step) (step : Step) (current : Value) {s : Session}
    (means : List.Forall₂ s.store.Means steps cs) :
    List.Forall₂ (step.course c.call current s).session.store.Means steps cs := by
  induction means with
  | nil => exact .nil
  | cons first _ ih =>
    have here := means_course c (leaves _ List.mem_cons_self) step current first
    exact .cons here (ih fun other member => leaves other (.tail _ member))

theorem keeps_tell (traced : Bool) (step : Step) (result : Value) (s : Session) :
    KeepsFrom s (tell traced step result) := by
  cases traced with
  | false => exact .refl s.store
  | true => exact (Keeping.closed lasts_always).record step result s trivial

variable {c}

/-- Steps that are meant by the same clauses, but for the names, run the same course. -/
theorem loop_matches (traced : Bool) {steps steps' : List Step} {cs cs' : List Clause}
    (same : List.Forall₂ Clause.Same cs cs')
    (leaves : ∀ step ∈ steps, c.Leaves step) (leaves' : ∀ step ∈ steps', c.Leaves step)
    {s : Session} (means : List.Forall₂ s.store.Means steps cs)
    (means' : List.Forall₂ s.store.Means steps' cs') (root : Value) (log : String) :
    (loop c.call traced steps root s).Matches
      (loop c.call traced steps' root { s with log := log }) := by
  induction same generalizing steps steps' root s log with
  | nil =>
    cases means
    cases means'
    exact ⟨rfl, rfl, log, rfl⟩
  | @cons cl cl' cs cs' one _ ih =>
    rcases means with _ | @⟨step, _, steps, _, first, means⟩
    rcases means' with _ | @⟨step', _, steps', _, first', means'⟩
    have others : ∀ other ∈ steps, c.Leaves other := fun other member =>
      leaves other (.tail _ member)
    have others' : ∀ other ∈ steps', c.Leaves other := fun other member =>
      leaves' other (.tail _ member)
    -- The step leaves all forms and candidates in place, so that the clauses go on to mean the
    -- steps.
    have stays := means_course c (leaves step List.mem_cons_self) step root first
    have stays' := means_course c (leaves' step' List.mem_cons_self) step root first'
    have later := forall_means_course c others step root means
    have later' := forall_means_course c others' step root means'
    have course : step'.course c.call root s = step.course c.call root s := by
      unfold Step.course
      rw [exec_prepare_same first first' one root]
    -- The diagnostics differ from here on, and no step reads them.
    obtain ⟨piece, _, elsewhere⟩ := course_elsewhere c step' root s
    have there := elsewhere log
    rw [course] at there
    unfold loop
    rw [there]
    rcases ran : step.course c.call root s with ⟨calls, (fault | next), t⟩ <;>
      rw [ran] at stays stays' later later'
    · exact ⟨rfl, rfl, _, rfl⟩
    · obtain ⟨ends, matched⟩ := tell_matches stays stays' one traced next (log ++ piece)
      have kept := keeps_tell traced step next t
      unfold KeepsFrom at kept
      simp only
      rcases told : (tell traced step next).exec t with ⟨r, m⟩
      rcases told' : (tell traced step' next).exec { t with log := log ++ piece } with ⟨r', m'⟩
      rw [told, told'] at ends matched
      rw [told] at kept
      obtain rfl : r = r' := ends
      obtain ⟨log', rfl⟩ := matched
      cases r with
      | error fault => exact ⟨rfl, rfl, log', rfl⟩
      | ok _ =>
        have means := later.imp fun _ _ means => kept.means means
        have means' := later'.imp fun _ _ means => kept.means means
        exact (ih others others' means means' next log').after calls

/-- If a trace of it can be told, a run does the same with the trace and without. -/
theorem loop_untraced_matches {steps : List Step} {root : Value} {s : Session}
    (formed : ∀ step ∈ steps, step.isFormed s.store)
    (tellable : ∀ m ∈ moments c.call steps root s, m.Tellable) (traced traced' : Bool) :
    (loop c.call traced steps root s).Matches (loop c.call traced' steps root s) := by
  obtain ⟨pieces, lines, last, woven⟩ := woven_loop c steps root s s.log formed tellable
  have differ : (loop c.call false steps root s).Matches (loop c.call true steps root s) := by
    have same : loop c.call true steps root s = _ := woven.woven
    rw [same]
    exact ⟨rfl, rfl, _, rfl⟩
  have refl : ∀ course : Course, course.Matches course := fun course =>
    ⟨rfl, rfl, .refl course.session⟩
  cases traced <;> cases traced'
  · exact refl _
  · exact differ
  · exact differ.symm
  · exact refl _

end Runs

theorem isFormed_of_means {st : Store} {steps : List Step} {cs : List Clause}
    (means : List.Forall₂ st.Means steps cs) : ∀ step ∈ steps, step.isFormed st := by
  induction means with
  | nil => exact fun _ member => nomatch member
  | cons first _ ih =>
    refine List.forall_mem_cons.mpr ⟨?_, ih⟩
    cases first with
    | scalar => rfl
    | branch _ _ pair => simp [Step.isFormed, pair]

/-- A query is written with some clauses: these mean its steps, and its combinators go by the names
in them, none of which has a parenthesis. -/
structure Written (q : Query) (s : Session) (cs : List Clause) (t : Session) : Prop where
  means : List.Forall₂ s.store.Means q.steps cs
  names : Named s cs t
  plain : ∀ c ∈ cs, c.isNamed

def SameExpression (q q' : Query) (s s' : Session) : Prop :=
  ∃ text t t', (q.expression Display.rootName).exec s = (.ok text, t) ∧
    (q'.expression Display.rootName).exec s' = (.ok text, t')

/-- Whether both queries are traced or neither is, or a trace of them can be told on a root. -/
def TracedAlike (c : Combinators) (q q' : Query) (root : Value) (s : Session) : Prop :=
  q.traced = q'.traced ∨ (∀ m ∈ moments c.call q.steps root s, m.Tellable) ∧
    ∀ m ∈ moments c.call q'.steps root s, m.Tellable

def course (c : Combinators) (q : Query) (root : Value) (s : Session) : Course :=
  loop c.call q.traced q.steps root s

theorem exec_expression {q : Query} {s t : Session} {cs : List Clause}
    (written : q.Written s cs t) (r : String) : (q.expression (.text r)).exec s =
      (.ok (.text (Clause.openings 1 cs ++ r ++ Clause.closings cs.length)), t) :=
  Display.exec_expressionFrom 1 written.means written.names r

theorem forall_alike_of_sameExpression {q q' : Query} {s s' t t' : Session}
    {cs cs' : List Clause} (written : q.Written s cs t) (written' : q'.Written s' cs' t')
    (same : SameExpression q q' s s') : List.Forall₂ Clause.Alike cs cs' := by
  obtain ⟨text, m, m', first, second⟩ := same
  have here := (exec_expression written "root").symm.trans first
  have there := (exec_expression written' "root").symm.trans second
  have text_eq := Except.ok.inj (Prod.mk.inj here).1
  have text_eq' := Except.ok.inj (Prod.mk.inj there).1
  have texts := Value.text.inj (text_eq.trans text_eq'.symm)
  have chars := congrArg String.toList texts
  simp only [String.toList_append, List.append_assoc] at chars
  exact Clause.openings_append_inj written.plain written'.plain chars

/-- The root stands once in the expression of a query, between two texts that do not depend on it.
Where combinators of one name are the same, queries with the same expression run the same course on
every root: the same calls are made and the same comes of them. -/
theorem expression_determines_query (c : Combinators) {q q' : Query} {s s' t t' : Session}
    {cs cs' : List Clause} (written : q.Written s cs t) (written' : q'.Written s' cs' t') :
    (∃ before behind : String, ∀ r : String,
      (q.expression (.text r)).exec s = (.ok (.text (before ++ r ++ behind)), t)) ∧
    (Clause.Agree cs cs' → SameExpression q q' s s' → ∀ (u : Session) (root : Value),
      List.Forall₂ u.store.Means q.steps cs → List.Forall₂ u.store.Means q'.steps cs' →
      (∀ step ∈ q.steps ++ q'.steps, c.Leaves step) → TracedAlike c q q' root u →
      (q.run c.call root).exec u = (q.course c root u).ending ∧
        (q'.run c.call root).exec u = (q'.course c root u).ending ∧
        (q.course c root u).Matches (q'.course c root u)) := by
  refine ⟨⟨_, _, exec_expression written⟩, ?_⟩
  intro agree same u root means means' leaves traced
  have clauses := Clause.forall_same agree (forall_alike_of_sameExpression written written' same)
  have leaves₁ : ∀ step ∈ q.steps, c.Leaves step := fun step member =>
    leaves step (List.mem_append_left _ member)
  have leaves₂ : ∀ step ∈ q'.steps, c.Leaves step := fun step member =>
    leaves step (List.mem_append_right _ member)
  have runs : ∀ traced, (loop c.call traced q.steps root u).Matches
      (loop c.call traced q'.steps root u) := fun traced =>
    loop_matches traced clauses leaves₁ leaves₂ means means' root u.log
  refine ⟨exec_compose _ _ _ _ _, exec_compose _ _ _ _ _, ?_⟩
  unfold course
  rcases traced with traced | ⟨tellable, tellable'⟩
  · rw [traced]
    exact runs q'.traced
  · have first := loop_untraced_matches (isFormed_of_means means) tellable q.traced q'.traced
    exact first.trans (runs q'.traced)

def barrenBranches : Session where
  store.objects := #[.list [], .tuple [.function .firstPresent, .ref 0], .list [],
    .tuple [.function .firstPresent, .ref 2], .step (.scalar (.text "class") (.text "it's")),
    .step (.branch (.text "tag") (.ref 1)), .step (.branch (.text "id") (.ref 3)),
    .tuple [.ref 4, .ref 5], .tuple [.ref 4, .ref 6]]

def barrenTag : Query :=
  ⟨[.scalar (.text "class") (.text "it's"), .branch (.text "tag") (.ref 1)], 7, .null, false⟩

def barrenId : Query :=
  ⟨[.scalar (.text "class") (.text "it's"), .branch (.text "id") (.ref 3)], 8, .null, false⟩

theorem barren_expressions_determine_queries :
    (∃ before behind : String, ∀ r : String, (barrenTag.expression (.text r)).exec barrenBranches =
      (.ok (.text (before ++ r ++ behind)), barrenBranches)) ∧
    (barrenTag.run Combinators.ofValues.call .null).exec barrenBranches =
        (barrenTag.course .ofValues .null barrenBranches).ending ∧
      (barrenId.run Combinators.ofValues.call .null).exec barrenBranches =
        (barrenId.course .ofValues .null barrenBranches).ending ∧
      (barrenTag.course .ofValues .null barrenBranches).Matches
        (barrenId.course .ofValues .null barrenBranches) := by
  have means : List.Forall₂ barrenBranches.store.Means barrenTag.steps
      [.scalar "class" "it's", .branch "tag" "first_present" (.function .firstPresent) []] :=
    .cons (.scalar _ _) (.cons (.branch _ _ rfl rfl) .nil)
  have means' : List.Forall₂ barrenBranches.store.Means barrenId.steps
      [.scalar "class" "it's", .branch "id" "first_present" (.function .firstPresent) []] :=
    .cons (.scalar _ _) (.cons (.branch _ _ rfl rfl) .nil)
  have written : barrenTag.Written barrenBranches _ barrenBranches :=
    ⟨means, .scalar _ _ (.branch _ _ rfl (.nil _)), by decide⟩
  have written' : barrenId.Written barrenBranches _ barrenBranches :=
    ⟨means', .scalar _ _ (.branch _ _ rfl (.nil _)), by decide⟩
  have same : SameExpression barrenTag barrenId barrenBranches barrenBranches := by
    refine ⟨_, barrenBranches, barrenBranches, exec_expression written "root", ?_⟩
    rw [Display.rootName, exec_expression written' "root"]
    simp [Clause.openings, Clause.opening]
  obtain ⟨root, determines⟩ := expression_determines_query .ofValues written written'
  refine ⟨root, determines ?_ same barrenBranches .null means means'
    (fun step _ => ofValues_leaves step) (.inl rfl)⟩
  intro attr attr' name f f' vs vs' member member'
  simp at member member'
  exact member.2.2.1.trans member'.2.2.1.symm

def spiedQuery : Session where
  store.objects := #[.iterator [.text "a"], .tuple [.function (.script .tupleOf), .ref 0],
    .step (.branch (.text "tag") (.ref 1)), .tuple [.ref 2],
    .query ⟨[.branch (.text "tag") (.ref 1)], 3, .null, false⟩, .closure (.constant (.ref 4)),
    .closure (.spy (.ref 4)), .list [], .tuple [.ref 5, .ref 7], .list [.text "x"],
    .tuple [.ref 6, .ref 9], .step (.branch (.text "tag") (.ref 8)),
    .step (.branch (.text "tag") (.ref 10)), .tuple [.ref 11, .ref 12]]

def givenAndSpied (traced : Bool) : Query :=
  ⟨[.branch (.text "tag") (.ref 8), .branch (.text "tag") (.ref 10)], 13, .bool traced, traced⟩

def spiedClauses : List Clause :=
  [.branch "tag" "const" (.ref 5) [], .branch "tag" "spy" (.ref 6) ["x"]]

theorem written_givenAndSpied (traced : Bool) :
    (givenAndSpied traced).Written spiedQuery spiedClauses spiedQuery where
  means := .cons (.branch _ _ rfl rfl) (.cons (.branch _ _ rfl rfl) .nil)
  names := .branch _ _ rfl (.branch _ _ rfl (.nil _))
  plain := by decide

def equalLists : Session where
  store.objects := #[.list [.text "x"], .list [.text "x"], .list [],
    .tuple [.function .firstPresent, .ref 0], .tuple [.function .firstPresent, .ref 1],
    .tuple [.function .firstPresent, .ref 2], .step (.branch (.text "tag") (.ref 5)),
    .step (.branch (.text "tag") (.ref 3)), .step (.branch (.text "tag") (.ref 4)),
    .tuple [.ref 6, .ref 7], .tuple [.ref 6, .ref 8]]

def onFirstList : Query :=
  ⟨[.branch (.text "tag") (.ref 5), .branch (.text "tag") (.ref 3)], 9, .null, false⟩

def onSecondList : Query :=
  ⟨[.branch (.text "tag") (.ref 5), .branch (.text "tag") (.ref 4)], 10, .null, false⟩

def firstPresentClauses : List Clause :=
  [.branch "tag" "first_present" (.function .firstPresent) [],
    .branch "tag" "first_present" (.function .firstPresent) ["x"]]

theorem named_firstPresentClauses : Named equalLists firstPresentClauses equalLists :=
  .branch _ _ rfl (.branch _ _ rfl (.nil _))

theorem written_onFirstList : onFirstList.Written equalLists firstPresentClauses equalLists where
  means := .cons (.branch _ _ rfl rfl) (.cons (.branch _ _ rfl rfl) .nil)
  names := named_firstPresentClauses
  plain := by decide

theorem written_onSecondList :
    onSecondList.Written equalLists firstPresentClauses equalLists where
  means := .cons (.branch _ _ rfl rfl) (.cons (.branch _ _ rfl rfl) .nil)
  names := named_firstPresentClauses
  plain := by decide

theorem Written.sameExpression {q q' : Query} {s s' t t' : Session} {cs : List Clause}
    (written : q.Written s cs t) (written' : q'.Written s' cs t') : SameExpression q q' s s' :=
  ⟨_, t, t', exec_expression written "root", exec_expression written' "root"⟩

def adding : Combinators where
  call _ _ := do
    Eval.append (.ref 0) (.text "y")
    return .null
  fair _ _ := .bind (fair_append _ _) fun _ => .pure _

/-- An expression tells neither whether the query is traced nor which lists hold the candidates.
Showing the result of a step for the trace can spend the candidates that a later step goes over, and
a combinator can change one of two lists that are equal. -/
theorem equal_expressions_can_differ :
    ((∀ traced, (givenAndSpied traced).Written spiedQuery spiedClauses spiedQuery) ∧
      Clause.Agree spiedClauses spiedClauses ∧
      SameExpression (givenAndSpied false) (givenAndSpied true) spiedQuery spiedQuery ∧
      (∀ step ∈ (givenAndSpied false).steps, Combinators.ofValues.Leaves step) ∧
      tupleGiven (((givenAndSpied false).run Combinators.ofValues.call .null).exec spiedQuery) =
        some [.null] ∧
      tupleGiven (((givenAndSpied true).run Combinators.ofValues.call .null).exec spiedQuery) =
        some []) ∧
    onFirstList.Written equalLists firstPresentClauses equalLists ∧
      onSecondList.Written equalLists firstPresentClauses equalLists ∧
      Clause.Agree firstPresentClauses firstPresentClauses ∧
      SameExpression onFirstList onSecondList equalLists equalLists ∧
      (onFirstList.course adding .null equalLists).calls ≠
        (onSecondList.course adding .null equalLists).calls := by
  constructor
  · refine ⟨written_givenAndSpied, ?_, (written_givenAndSpied _).sameExpression
      (written_givenAndSpied _), fun step _ => ofValues_leaves step, rfl, rfl⟩
    intro attr attr' name f f' vs vs' member member'
    simp only [spiedClauses, List.mem_cons, Clause.branch.injEq, List.not_mem_nil, or_false]
      at member member'
    rcases member with ⟨_, rfl, rfl, _⟩ | ⟨_, rfl, rfl, _⟩ <;>
      rcases member' with ⟨_, same, rfl, _⟩ | ⟨_, same, rfl, _⟩
    · rfl
    · simp at same
    · simp at same
    · rfl
  · refine ⟨written_onFirstList, written_onSecondList, ?_,
      written_onFirstList.sameExpression written_onSecondList, ?_⟩
    · intro attr attr' name f f' vs vs' member member'
      simp only [firstPresentClauses, List.mem_cons, Clause.branch.injEq, List.not_mem_nil,
        or_false] at member member'
      rcases member with ⟨_, _, rfl, _⟩ | ⟨_, _, rfl, _⟩ <;>
        rcases member' with ⟨_, _, rfl, _⟩ | ⟨_, _, rfl, _⟩ <;> rfl
    · have first : (onFirstList.course adding .null equalLists).calls =
          [⟨.function .firstPresent, []⟩, ⟨.function .firstPresent, [.null, .null]⟩] := rfl
      have second : (onSecondList.course adding .null equalLists).calls =
          [⟨.function .firstPresent, []⟩, ⟨.function .firstPresent, [.null]⟩] := rfl
      rw [first, second]
      decide

end Query

end TreeQuery
