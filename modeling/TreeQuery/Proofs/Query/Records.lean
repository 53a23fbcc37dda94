import TreeQuery.Proofs.Display.Outline
import TreeQuery.Proofs.Node.Given
import TreeQuery.Proofs.Query.Paths

/-! The records of traced queries. Each completed step writes one, which is one line whatever texts
it tells of, and shows no more of the result than the limit. -/

namespace TreeQuery

open Eval

namespace Store

variable {st st' : Store}

/-- Values that are shown on one line: nothing, texts, well-formed trees whose tags have no line
breaks, and lists of such values. The number says how many of them may be inside each other. -/
inductive IsLined (st : Store) : Nat → Value → Prop
  | null (k : Nat) : IsLined st k .null
  | text (k : Nat) (text : String) : IsLined st k (.text text)
  | node {k : Nat} {a : Addr} (formed : st.Formed a) (lines : st.TagsAreLines a) :
      IsLined st (k + 1) (.ref a)
  | list {k : Nat} {a : Addr} {vs : List Value} (list : st.read? a = some (.list vs))
      (items : ∀ v ∈ vs, IsLined st k v) : IsLined st (k + 1) (.ref a)

def IsFit (st : Store) (v : Value) : Prop :=
  ∀ a, v = .ref a → st.isNode v → st.Formed a ∧ st.TagsAreLines a

theorem IsLined.isFit {k : Nat} {v : Value} (lined : st.IsLined k v) : st.IsFit v := by
  rintro a rfl isNode
  cases lined with
  | node formed lines => exact ⟨formed, lines⟩
  | list list _ => simp [Store.isNode, node?, object?, list] at isNode

theorem Drains.tagsAreLines (drains : st.Drains st') {a : Addr} (lines : st.TagsAreLines a) :
    st'.TagsAreLines a := by
  intro b n path node
  rw [drains.parent] at path
  rw [drains.sameNodes.node?] at node
  exact lines b n path node

theorem Drains.isLined (drains : st.Drains st') {k : Nat} {v : Value} (lined : st.IsLined k v) :
    st'.IsLined k v := by
  induction lined with
  | null k => exact .null k
  | text k text => exact .text k text
  | node formed lines => exact .node (drains.formed formed) (drains.tagsAreLines lines)
  | list list _ ih => exact .list ((drains.read?_iff (by simp) _).mpr list) ih

end Store

namespace Display

theorem exec_listed_lined {render : Renderer} {vs : List Value} {s : Session}
    (each : ∀ v ∈ vs, ∃ text, (render v).exec s = (.ok text, s) ∧ Text.IsLine text) :
    ∃ text, (listed render vs).exec s = (.ok text, s) ∧ Text.IsLine text := by
  have shown : ∃ texts, (vs.mapM render).exec s = (.ok texts, s) ∧
      ∀ text ∈ texts, Text.IsLine text := by
    induction vs with
    | nil => exact ⟨[], rfl, by simp⟩
    | cons v vs ih =>
      obtain ⟨⟨text, first, line⟩, others⟩ := List.forall_mem_cons.mp each
      obtain ⟨texts, later, lines⟩ := ih others
      refine ⟨text :: texts, ?_, List.forall_mem_cons.mpr ⟨line, lines⟩⟩
      rw [exec_mapM_cons, exec_bind_ok first, exec_bind_ok later]
      rfl
  obtain ⟨texts, shown, lines⟩ := shown
  refine ⟨_, exec_bind_ok shown _, ?_⟩
  have opening : Text.IsLine "[" := by decide
  have closing : Text.IsLine "]" := by decide
  simp only [Text.isLine_append]
  exact ⟨⟨opening, Text.isLine_intercalate (by decide) lines⟩, closing⟩

theorem exec_valueWithin_lined {k fuel : Nat} {v : Value} {s : Session}
    (lined : s.store.IsLined k v) (enough : k ≤ fuel) (opened : List Addr) :
    ∃ text, (valueWithin fuel opened v).exec s = (.ok text, s) ∧ Text.IsLine text := by
  induction lined generalizing fuel opened with
  | null k => exact ⟨"None", by cases fuel <;> rfl, by decide⟩
  | text k text =>
    exact ⟨Text.quote text, quotes_valueWithin fuel opened text s, Text.isLine_quote text⟩
  | node formed lines =>
    obtain ⟨fuel, rfl⟩ := Nat.exists_eq_add_of_le' enough
    obtain ⟨t, tree⟩ := formed.exists_tree
    exact ⟨_, exec_valueWithin_outline formed tree "" _ opened, Tree.isLine_outline tree lines ""⟩
  | @list k a vs list _ ih =>
    obtain ⟨fuel, rfl⟩ := Nat.exists_eq_add_of_le' enough
    have again : Text.IsLine "[...]" := by decide
    have items := exec_listed_lined fun v member =>
      ih v member (Nat.le_add_left k fuel) (a :: opened)
    change ∃ text, (valueWithin ((fuel + k) + 1) opened (.ref a)).exec s = (.ok text, s) ∧ _
    rw [valueWithin, exec_bind_ok (exec_getStore s)]
    simp only [list, reopened?]
    split
    · exact ⟨_, rfl, again⟩
    · exact items

end Display

namespace Step

/-- What a step tells of itself on one line: a selector and a value that are texts, the first
without line breaks; or for a branch such a selector, the name of its combinator, and candidates
that are texts when the combinator has been named. -/
inductive IsLined (s : Session) : Step → Prop
  | scalar {selector : String} (line : Text.IsLine selector) (value : String) :
      IsLined s (.scalar (.text selector) (.text value))
  | branch {selector name : String} {form combinator listed : Value} {candidates : List String}
      {t : Session} (line : Text.IsLine selector)
      (pair : s.store.sequence? form = some [combinator, listed])
      (named : (Display.callName display combinator).exec s = (.ok name, t))
      (nameLine : Text.IsLine name)
      (texts : t.store.items? listed = some (candidates.map .text)) :
      IsLined s (.branch (.text selector) form)

theorem IsLined.exec_stepText {step : Step} {s : Session} (lined : step.IsLined s) :
    ∃ text t, (Display.stepText display plain step).exec s = (.ok text, t) ∧
      Text.IsLine text := by
  have sign : Text.IsLine "=" := by decide
  cases lined with
  | scalar line value =>
    refine ⟨_, s, rfl, ?_⟩
    simp only [Text.isLine_append]
    exact ⟨⟨line, sign⟩, Text.isLine_quote value⟩
  | @branch selector name form combinator listed candidates t line pair named nameLine texts =>
    obtain ⟨u, gone⟩ := exec_items texts
    have each : ∀ v ∈ candidates.map Value.text,
        ∃ text, (display v).exec u = (.ok text, u) ∧ Text.IsLine text := by
      intro v member
      obtain ⟨text, _, rfl⟩ := List.mem_map.mp member
      exact ⟨_, exec_display_text text u, Text.isLine_quote text⟩
    obtain ⟨list, shown, listLine⟩ := Display.exec_listed_lined each
    refine ⟨selector ++ "=" ++ name ++ list, u, ?_, ?_⟩
    · rw [Display.stepText, exec_bind_ok (pair_of_sequence pair),
        exec_bind_ok (exec_plain_text selector s), exec_bind_ok named, exec_bind_ok gone,
        exec_bind_ok shown]
      rfl
    · simp only [Text.isLine_append]
      exact ⟨⟨⟨line, sign⟩, nameLine⟩, listLine⟩

end Step

namespace Moment

/-- The line that a completed step is recorded in: no line break stands before its end, and what it
shows of the result is not longer than the limit. -/
def IsRecord (m : Moment) (line : String) : Prop :=
  ∃ step t result, (Display.stepText display plain m.step).exec m.session = (.ok step, t) ∧
    ((Display.abbreviated Display.usualLimit m.result).exec t).1 = .ok result ∧
    Text.IsLine step ∧ Text.IsLine result ∧ result.length ≤ 64 ∧
    line = "descend: " ++ step ++ " -> " ++ result ++ "\n"

theorem IsRecord.lineBreaks_eq {m : Moment} {line : String} (is : m.IsRecord line) :
    Text.lineBreaks line = 1 := by
  obtain ⟨step, _, result, _, _, stepLine, resultLine, _, rfl⟩ := is
  have first : Text.lineBreaks "descend: " = 0 := by decide
  have arrow : Text.lineBreaks " -> " = 0 := by decide
  have last : Text.lineBreaks "\n" = 1 := by decide
  simp only [Text.lineBreaks_append, first, arrow, last, Text.lineBreaks_eq_zero.mpr stepLine,
    Text.lineBreaks_eq_zero.mpr resultLine]

/-- What a record takes to be one line: the step tells of itself on one, and so does what the
combinator of a branch gave. -/
structure IsLined (m : Moment) : Prop where
  step : m.step.IsLined m.session
  given (attr form : Value) : m.step = .branch attr form →
    m.session.store.IsLined Display.deepest m.result

end Moment

theorem exec_abbreviated_lined {v : Value} {s : Session}
    (lined : s.store.IsLined Display.deepest v) :
    ∃ text, (Display.abbreviated Display.usualLimit v).exec s = (.ok text, s) ∧
      Text.IsLine text ∧ text.length ≤ 64 := by
  obtain ⟨text, shown, line⟩ := Display.exec_valueWithin_lined lined (Nat.le_refl _) []
  refine ⟨Text.cut 64 text, ?_, Text.isLine_cut line 64, ?_⟩
  · rw [Display.abbreviated, display, exec_bind_ok shown]
    rfl
  · have short := Text.length_cut_le (by decide : (2 : Int) < 64) text
    omega

namespace Query

theorem exec_record_lined {m : Moment} (step : m.step.IsLined m.session)
    (result : m.session.store.IsLined Display.deepest m.result) :
    ∃ line st, m.IsRecord line ∧ m.session.store.Drains st ∧
      (record m.step m.result).exec m.session =
        (.ok (), { m.session with store := st, log := m.session.log ++ line }) := by
  obtain ⟨text, t, told, stepLine⟩ := step.exec_stepText
  have quiet := Display.quiet_stepText quiet_display quiet_plain m.step
  have drains := quiet.drains m.session
  have same := quiet.exec_eq m.session
  rw [told] at drains same
  obtain ⟨shown, abbreviated, resultLine, short⟩ := exec_abbreviated_lined (drains.isLined result)
  refine ⟨_, t.store, ⟨text, t, shown, told, ?_, stepLine, resultLine, short, rfl⟩, drains, ?_⟩
  · rw [abbreviated]
  · rw [record, exec_bind_ok told, exec_bind_ok abbreviated, emitLine, exec_emit,
      (Prod.mk.inj same).2]

def tracedMoments (call : Caller) : List Step → Value → Session → List Moment
  | [], _, _ => []
  | step :: steps, current, s =>
    match (step.carryOut call current).exec s with
    | (.error _, _) => []
    | (.ok next, t) => ⟨step, next, t⟩ ::
      match (record step next).exec t with
      | (.error _, _) => []
      | (.ok (), t') => tracedMoments call steps next t'

theorem lined_of_selected {call : Caller} (k : Ask) {current next : Value} {s t : Session}
    (fit : s.store.IsFit current) (done : (k.step.carryOut call current).exec s = (.ok next, t)) :
    t.store.IsLined Display.deepest next := by
  rcases node : s.store.node? current with _ | n
  · cases (k.carryOut_other call node).symm.trans done
    exact .null _
  · obtain ⟨a, rfl, _⟩ := Store.view?_of_node? node
    obtain ⟨formed, lines⟩ := fit a rfl (by simp [Store.isNode, node])
    rcases k.carryOut_node call formed with ⟨i, b, first, found⟩ | ⟨_, nothing⟩
    · cases found.symm.trans done
      have path := Relation.ReflTransGen.single (Store.parent_iff_childAt.mpr ⟨i, first.1⟩)
      exact .node (formed.below path) (lines.below path)
    · cases nothing.symm.trans done
      exact .null _

theorem lined_of_done {call : Caller} {step : Step} {current next : Value} {s t : Session}
    (fit : s.store.IsFit current) (done : (step.carryOut call current).exec s = (.ok next, t))
    (lined : (Moment.mk step next t).IsLined) : t.store.IsLined Display.deepest next := by
  obtain ⟨told, given⟩ := lined
  cases told with
  | branch => exact given _ _ rfl
  | @scalar selector _ value => exact lined_of_selected ⟨selector, value⟩ fit done

/-- What a traced run leaves in the diagnostics: behind what each completed step wrote itself, a
line that records it, and nothing more but what the step wrote that failed, if one did. -/
structure Recorded (call : Caller) (steps : List Step) (s : Session) (ms : List Moment)
    (run : Except Fault Value × Session) (pieces lines : List String) (last : String) : Prop where
  records : List.Forall₂ Moment.IsRecord ms lines
  lineBreaks : Text.lineBreaks (String.join lines) = ms.length
  each : pieces.length = ms.length
  between (i : Nat) (m : Moment) (piece : String) : ms[i]? = some m → pieces[i]? = some piece →
    m.session.log = s.log ++ String.join ((pieces.take i).zipWith (· ++ ·) lines) ++ piece
  whole : run.2.log = s.log ++ String.join (pieces.zipWith (· ++ ·) lines) ++ last
  completed (v : Value) : run.1 = .ok v → ms.map Moment.step = steps ∧ last = ""
  failed (fault : Fault) : run.1 = .error fault → ∃ step current t,
    ms.map Moment.step ++ [step] <+: steps ∧ (step.carryOut call current).exec t = run ∧
      t.log = s.log ++ String.join (pieces.zipWith (· ++ ·) lines)

namespace Recorded

variable {call : Caller} {steps : List Step} {s t : Session}

theorem nil (root : Value) (s : Session) : Recorded call [] s [] (.ok root, s) [] [] "" := by
  refine ⟨.nil, rfl, rfl, ?_, ?_, ?_, ?_⟩ <;> simp

theorem stopped {step : Step} {current : Value} {fault : Fault} {piece : String}
    (ran : (step.carryOut call current).exec s = (.error fault, t))
    (wrote : t.log = s.log ++ piece) (steps : List Step) :
    Recorded call (step :: steps) s [] (.error fault, t) [] [] piece := by
  refine ⟨.nil, rfl, rfl, ?_, ?_, ?_, ?_⟩
  · simp
  · simpa using wrote
  · simp
  · intro fault' _
    exact ⟨step, current, s, by simp, ran, by simp⟩

theorem cons {step : Step} {next : Value} {ms : List Moment} {run : Except Fault Value × Session}
    {pieces lines : List String} {last piece line : String} {t' : Session}
    (is : (Moment.mk step next t).IsRecord line) (wrote : t.log = s.log ++ piece)
    (told : t'.log = t.log ++ line) (rest : Recorded call steps t' ms run pieces lines last) :
    Recorded call (step :: steps) s (⟨step, next, t⟩ :: ms) run (piece :: pieces) (line :: lines)
      last := by
  have behind : t'.log = s.log ++ piece ++ line := by rw [told, wrote]
  refine ⟨.cons is rest.records, ?_, ?_, ?_, ?_, ?_, ?_⟩
  · rw [String.join_cons, Text.lineBreaks_append, is.lineBreaks_eq, rest.lineBreaks,
      List.length_cons, Nat.add_comm]
  · simp [rest.each]
  · intro i m own at_ wrote'
    cases i with
    | zero =>
      cases at_
      cases wrote'
      simpa using wrote
    | succ i =>
      rw [rest.between i m own at_ wrote', behind]
      simp [String.append_assoc]
  · rw [rest.whole, behind]
    simp [String.append_assoc]
  · intro v done
    obtain ⟨all, none⟩ := rest.completed v done
    exact ⟨by rw [List.map_cons, all], none⟩
  · intro fault ends
    obtain ⟨step', current, u, inside, ran, log⟩ := rest.failed fault ends
    refine ⟨step', current, u, ?_, ran, ?_⟩
    · exact (List.prefix_cons_inj step).mpr inside
    · rw [log, behind]
      simp [String.append_assoc]

end Recorded

theorem recorded_loop_lined (c : Combinators) (steps : List Step) (root : Value) (s : Session)
    (fit : s.store.IsFit root)
    (lined : ∀ m ∈ tracedMoments c.call steps root s, m.IsLined) :
    ∃ pieces lines last, Recorded c.call steps s (tracedMoments c.call steps root s)
      (loop c.call true steps root s).ending pieces lines last := by
  induction steps generalizing root s with
  | nil => exact ⟨[], [], "", .nil root s⟩
  | cons step steps ih =>
    obtain ⟨piece, wrote, _⟩ := course_elsewhere c step root s
    have ran := Step.exec_carryOut c.call step root s
    rw [tracedMoments, ran] at lined ⊢
    rw [loop]
    rcases h : step.course c.call root s with ⟨calls, (fault | next), t⟩ <;>
      rw [h] at lined ran wrote
    · exact ⟨[], [], piece, .stopped ran wrote steps⟩
    · have first := lined _ (.head _)
      have result := lined_of_done fit ran first
      obtain ⟨line, st, is, drains, told⟩ := exec_record_lined first.step result
      simp only [Course.ending, tell, if_true, told] at lined ⊢
      obtain ⟨pieces, lines, last, rest⟩ := ih next _ (drains.isLined result).isFit
        fun m member => lined m (.tail _ member)
      exact ⟨piece :: pieces, line :: lines, last, .cons is wrote rfl rest⟩

/-- The trace of a query has one line for each step that is completed. The texts, attributes,
values and candidates that it tells of may have line breaks, if tags, selectors and the names of
combinators have none. -/
theorem each_record_is_one_line (c : Combinators) (q : Query) (traced : q.traced = true)
    (root : Value) (s : Session) (fit : s.store.IsFit root)
    (lined : ∀ m ∈ tracedMoments c.call q.steps root s, m.IsLined) :
    ∃ pieces lines last, Recorded c.call q.steps s (tracedMoments c.call q.steps root s)
      ((q.run c.call root).exec s) pieces lines last := by
  rw [run, traced, exec_compose]
  exact recorded_loop_lined c q.steps root s fit lined

def onBroken : Session where
  store.objects := #[.list [.text "u\nv"], .dict [(.text "a\nb", .text "x\ny")], .node ⟨"c", 1, 0⟩,
    .list [.ref 2, .text "\n", .ref 2], .dict [], .node ⟨"a", 4, 3⟩,
    .list [.text "c", .text "x\ny"], .tuple [.function .allPresent, .ref 6]]

def brokenSteps : List Step :=
  [.branch (.text "tag") (.ref 7), .scalar (.text "class") (.text "u\nv")]

def brokenQuery : Query := ⟨brokenSteps, 0, .bool true, true⟩

theorem isFit_onBroken : onBroken.store.IsFit (.ref 5) := by
  rintro a same _
  cases same
  exact ⟨Store.formed_of_earlier rfl (by decide), Store.tagsAreLines_of_all (by decide)⟩

theorem lined_onBroken :
    ∀ m ∈ tracedMoments Combinators.ofValues.call brokenSteps (.ref 5) onBroken, m.IsLined := by
  have two : ∃ log, tracedMoments Combinators.ofValues.call brokenSteps (.ref 5) onBroken =
      [⟨.branch (.text "tag") (.ref 7), .ref 8,
        { onBroken with store := (onBroken.store.alloc (.list [.ref 2])).2 }⟩,
        ⟨.scalar (.text "class") (.text "u\nv"), .null,
          { onBroken with store := (onBroken.store.alloc (.list [.ref 2])).2, log := log }⟩] :=
    ⟨_, rfl⟩
  obtain ⟨log, two⟩ := two
  rw [two]
  intro m member
  rcases List.mem_cons.mp member with rfl | member
  · have texts : onBroken.store.items? (.ref 6) = some (["c", "x\ny"].map .text) := rfl
    refine ⟨.branch (by decide) rfl rfl (by decide) texts, ?_⟩
    intro _ _ _
    refine .list rfl fun v member => ?_
    cases List.mem_singleton.mp member
    exact .node (Store.formed_of_earlier rfl (by decide)) (Store.tagsAreLines_of_all (by decide))
  · cases List.mem_singleton.mp member
    exact ⟨.scalar (by decide) _, fun _ _ is => nomatch is⟩

theorem each_record_onBroken_is_one_line :
    brokenQuery.traced = true ∧ onBroken.store.IsFit (.ref 5) ∧
      (∀ m ∈ tracedMoments Combinators.ofValues.call brokenQuery.steps (.ref 5) onBroken,
        m.IsLined) ∧
      ∃ pieces lines last, Recorded Combinators.ofValues.call brokenQuery.steps onBroken
        (tracedMoments Combinators.ofValues.call brokenQuery.steps (.ref 5) onBroken)
        ((brokenQuery.run Combinators.ofValues.call (.ref 5)).exec onBroken) pieces lines last :=
  ⟨rfl, isFit_onBroken, lined_onBroken, each_record_is_one_line .ofValues brokenQuery rfl (.ref 5)
    onBroken isFit_onBroken lined_onBroken⟩

end Query

end TreeQuery
