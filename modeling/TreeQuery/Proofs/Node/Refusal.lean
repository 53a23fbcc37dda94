import TreeQuery.Proofs.Display.Json
import TreeQuery.Proofs.Node.Flaw

/-! Which records of plain data are refused, and by which errors. -/

namespace TreeQuery.Node

open Eval

variable {st : Store} {s : Session} {a : Addr} {v : Value} {es : Entries} {n N fuel : Nat}

theorem refuses_shown {α : Type} {k : ErrorClass} (json : st.IsJson n v) (grows : st.Grows s.store)
    (few : n ≤ N) {f : String → Eval α}
    (refuses : ∀ text, Refuses k (Display.deepest < N) s (f text)) :
    Refuses k (Display.deepest < N) s (display v >>= f) := by
  obtain ⟨r, done, allowed⟩ := Display.steady_display json grows
  refine Refuses.shown ⟨r, done, fun fault stops => ?_⟩ refuses
  obtain ⟨deep, more⟩ := allowed fault stops
  exact ⟨deep, by omega⟩

/-- One attribute that is neither a text nor a number is enough. -/
theorem refuses_checkEntries (grows : st.Grows s.store) (few : n ≤ N)
    (keys : ∀ e ∈ es, e.1.isText) (values : ∀ e ∈ es, st.IsJson n e.2)
    (bad : ∃ e ∈ es, attrText? e.2 = none) :
    Refuses .value (Display.deepest < N) s (es.forM checkEntry) := by
  induction es with
  | nil => simp at bad
  | cons e es ih =>
    obtain ⟨key, keys⟩ := List.forall_mem_cons.mp keys
    obtain ⟨value, values⟩ := List.forall_mem_cons.mp values
    change Refuses _ _ s (checkEntry e >>= fun _ => es.forM checkEntry)
    by_cases refused : attrText? e.2 = none
    · obtain ⟨name, text⟩ := Value.eq_text_of_isText key
      have plain : st.IsJson n e.1 := .plain (by rw [text]; rfl)
      have entry : checkEntry e = (do
          let key ← display e.1
          let shown ← display e.2
          throw (.recordValue key shown)) := by
        simp [checkEntry, key, refused]
      refine Refuses.bind ?_ _
      rw [entry]
      exact refuses_shown plain grows few fun _ => refuses_shown value grows few fun _ =>
        refuses_throw rfl
    · have later : ∃ e ∈ es, attrText? e.2 = none := by simpa [refused] using bad
      exact (ih keys values later).later (exec_checkEntry key refused)

theorem settles_checkAttrs (json : st.IsJson n v) (grows : st.Grows s.store) (few : n ≤ N) :
    Settles s (checkAttrs v) (fun _ es => ∀ e ∈ es, attrText? e.2 ≠ none)
      (fun k => k = .value ∧ st.FlawedAttrs v) (Display.deepest < N) := by
  have object := json.object? grows
  by_cases dict : ∃ es, st.object? v = some (.dict es)
  · obtain ⟨es, dict⟩ := dict
    rw [dict] at object
    cases v with
    | ref a =>
      obtain ⟨m, rfl, keys, values⟩ := json.dict_entries dict
      by_cases bad : ∃ e ∈ es, attrText? e.2 = none
      · have flawed : st.FlawedAttrs (.ref a) := by
          intro es' dict'
          cases dict.symm.trans dict'
          exact bad
        refine .inr ⟨.value, ⟨rfl, flawed⟩, ?_⟩
        unfold checkAttrs
        refine Refuses.later (exec_getStore s) ?_
        simp only [object]
        exact (refuses_checkEntries grows (by omega) keys values bad).bind _
      · have all : ∀ e ∈ es, attrText? e.2 ≠ none := fun e member none => bad ⟨e, member, none⟩
        refine .of_ok (exec_checkAttrs object fun e member => ⟨keys e member, all e member⟩) all ?_
        rintro k ⟨_, flawed⟩
        exact bad (flawed es dict)
    | _ => cases dict
  · refine .inr ⟨.value, ⟨rfl, fun es found => absurd ⟨es, found⟩ dict⟩, ?_⟩
    unfold checkAttrs
    refine Refuses.later (exec_getStore s) ?_
    split
    · next es found => exact absurd ⟨es, object.symm.trans found⟩ dict
    · exact refuses_shown json grows few fun _ => refuses_throw rfl

theorem settles_recordChild {below : Value → Eval Value} (json : st.IsJson n v)
    (grows : st.Grows s.store) (few : n ≤ N)
    (inner : ∀ fs, st.object? v = some (.dict fs) →
      Settles s (below v) (fun st w => st.isChild w) (st.Flaw fs) (Display.deepest < N)) :
    Settles s (recordChild below v) (fun st w => st.isChild w) (st.ChildFlaw v)
      (Display.deepest < N) := by
  -- Of data, a child is a text, a record, or neither of them and then refused.
  by_cases text : v.isText
  · have kept : (recordChild below v).exec s = (.ok v, s) := by
      unfold recordChild
      rw [exec_bind_ok (exec_getStore s)]
      simp [text]
    refine .of_ok kept (by simp [Store.isChild, text]) ?_
    obtain ⟨name, rfl⟩ := Value.eq_text_of_isText text
    rintro k (⟨_, other, _⟩ | ⟨fs, dict, _⟩)
    · exact other text
    · cases dict
  · have object := json.object? grows
    have other : s.store.isNode v = false := by
      have none := json.isNode
      simp only [Store.isNode, Store.node?] at none ⊢
      rwa [object]
    by_cases dict : ∃ fs, st.object? v = some (.dict fs)
    · obtain ⟨fs, dict⟩ := dict
      have same : (recordChild below v).exec s = (below v).exec s := by
        unfold recordChild
        rw [exec_bind_ok (exec_getStore s)]
        simp [text, other, object, dict]
      refine ((inner fs dict).after same (.refl s.store)).congr ?_
      intro k
      constructor
      · exact fun flaw => .inr ⟨fs, dict, flaw⟩
      · rintro (⟨_, _, none⟩ | ⟨fs', dict', flaw⟩)
        · exact absurd dict (none fs)
        · cases dict.symm.trans dict'
          exact flaw
    · have none : ∀ fs, st.object? v ≠ some (.dict fs) := fun fs found => dict ⟨fs, found⟩
      refine .inr ⟨.value, .inl ⟨rfl, text, none⟩, ?_⟩
      unfold recordChild
      refine Refuses.later (exec_getStore s) ?_
      simp only [text, other, Bool.or_self, Bool.false_eq_true, if_false]
      split
      · next fs found => exact absurd (object.symm.trans found) (none fs)
      · exact refuses_shown json grows few fun _ => refuses_throw rfl

theorem refuses_visit {α : Type} {f : Value → Eval α} {deep : Prop}
    (none : s.store.items? v = none) : Refuses .type deep s (visit v f) := by
  unfold visit
  refine Refuses.later (exec_getStore s) ?_
  simp only [none]
  exact refuses_throw rfl

theorem settles_visit {below : Value → Eval Value} (json : st.IsJson n v)
    (grows : st.Grows s.store) (few : n ≤ N)
    (inner : ∀ vs b fs, st.object? v = some (.list vs) → .ref b ∈ vs →
      st.read? b = some (.dict fs) → ∀ t : Session, st.Grows t.store →
        Settles t (below (.ref b)) (fun st w => st.isChild w) (st.Flaw fs) (Display.deepest < N)) :
    Settles s (visit v (recordChild below)) (fun st ws => ∀ w ∈ ws, st.isChild w)
      (st.ContentFlaw v) (Display.deepest < N) := by
  have items' := json.items? grows
  have sequence := json.sequence? grows
  rcases items : st.items? v with _ | vs
  · exact .inr ⟨.type, .inl ⟨rfl, items⟩, refuses_visit (items'.trans items)⟩
  · rw [items] at sequence
    have all : Settles s (vs.mapM (recordChild below)) (fun st ws => ∀ w ∈ ws, st.isChild w)
        (fun k => ∃ w ∈ vs, st.ChildFlaw w k) (Display.deepest < N) := by
      refine Settles.mapM (fun _ _ _ grows fine => grows.isChild fine) ?_
      intro w member t grows'
      -- Only the items of a list can be records; a text and a dictionary give nothing but texts.
      rcases json.item items member with ⟨text, rfl⟩ | ⟨m, rfl, json', list⟩
      · refine settles_recordChild (.plain rfl) (grows.trans grows') (Nat.zero_le N) ?_
        intro fs dict
        cases dict
      · refine settles_recordChild json' (grows.trans grows') (by omega) ?_
        intro fs dict
        cases w with
        | ref b => exact inner vs b fs list member dict t (grows.trans grows')
        | _ => cases dict
    refine (all.after (visit_of_sequence _ sequence) (.refl s.store)).congr ?_
    intro k
    simp [Store.ContentFlaw, items]

theorem refuses_makeCopy {deep : Prop} (es : Entries) (vs : List Value) :
    Refuses .value deep s (makeCopy (.text "") es vs) := by
  unfold makeCopy newList
  refine Refuses.later (exec_alloc _ _) (Refuses.later (exec_alloc _ _) ?_)
  rw [Parts.make_eq]
  refine Refuses.later (exec_getStore _) (Refuses.bind ?_ _)
  exact ⟨.emptyTag, _, exec_lift _ _, .inl rfl⟩

theorem settles_makeCopy {deep : Prop} {tag : String} {vs : List Value}
    (all : ∀ e ∈ es, attrText? e.2 ≠ none) (fine : ∀ v ∈ vs, s.store.isChild v) :
    Settles s (makeCopy (.text tag) es vs) (fun st w => st.isNode w)
      (fun k => k = .value ∧ tag = "") deep := by
  by_cases empty : tag = ""
  · subst empty
    exact .inr ⟨.value, ⟨rfl, rfl⟩, refuses_makeCopy es vs⟩
  · refine .inl ⟨_, _, exec_makeCopy s empty all fine, Store.grows_withNode _ _ _ _, ?_, ?_⟩
    · have node := Store.node?_withNode s.store tag (es.filterMap settled?) vs
      simp [Store.isNode, node]
    · rintro k ⟨_, none⟩
      exact empty none

/-- All records right inside a record settle. -/
def SettlesInside (st : Store) (N fuel : Nat) (a : Addr) : Prop :=
  ∀ b fs, st.Nests a b → st.read? b = some (.dict fs) → ∀ t : Session, st.Grows t.store →
    Settles t (ofRecordWithin fuel (.ref b)) (fun st w => st.isChild w) (st.Flaw fs)
      (Display.deepest < N)

theorem settles_attrs {c : Addr} (json : st.IsJson n (.ref a))
    (read : st.read? a = some (.dict es)) (grows : st.Grows s.store) (few : n ≤ N)
    (empty : s.store.read? c = some (.dict [])) :
    Settles s (checkAttrs ((Store.under? es "attrs").getD (.ref c)))
      (fun _ es => ∀ e ∈ es, attrText? e.2 ≠ none)
      (fun k => k = .value ∧ ∃ v, Store.under? es "attrs" = some v ∧ st.FlawedAttrs v)
      (Display.deepest < N) := by
  rcases given : Store.under? es "attrs" with _ | v
  · have none : (checkAttrs (.ref c)).exec s = (.ok [], s) := exec_checkAttrs empty (by simp)
    exact .of_ok none (by simp) (by simp)
  · obtain ⟨m, rfl, json'⟩ := json.under? read given
    exact (settles_checkAttrs json' grows (by omega)).congr (by simp)

theorem settles_content {c : Addr} (json : st.IsJson n (.ref a))
    (read : st.read? a = some (.dict es)) (grows : st.Grows s.store) (few : n ≤ N)
    (empty : s.store.read? c = some (.list [])) (inner : SettlesInside st N fuel a) :
    Settles s (visit ((Store.under? es "_").getD (.ref c)) (recordChild (ofRecordWithin fuel)))
      (fun st ws => ∀ w ∈ ws, st.isChild w)
      (fun k => ∃ v, Store.under? es "_" = some v ∧ st.ContentFlaw v k) (Display.deepest < N) := by
  rcases given : Store.under? es "_" with _ | v
  · have none : (visit (.ref c) (recordChild (ofRecordWithin fuel))).exec s = (.ok [], s) :=
      visit_of_sequence _ (Store.sequence?_of_list empty)
    exact .of_ok none (by simp) (by simp)
  · obtain ⟨m, rfl, json'⟩ := json.under? read given
    refine (settles_visit json' grows (by omega) ?_).congr (by simp)
    intro vs b fs list member read'
    have items : st.recordItems? es = some vs :=
      Store.held?_eq_some.mpr (.inr ⟨v, _, given, list, rfl⟩)
    exact inner b fs ⟨es, vs, fs, read, items, member, read'⟩ read'

theorem settles_fillRecord {tag : String} (json : st.IsJson n (.ref a))
    (read : st.read? a = some (.dict es)) (tagged : Store.under? es "tag" = some (.text tag))
    (grows : st.Grows s.store) (few : n ≤ N) (inner : SettlesInside st N fuel a) :
    Settles { s with store := s.store.withDefaults }
      (fillRecord fuel (.text tag) ((Store.under? es "attrs").getD (.ref s.store.size))
        ((Store.under? es "_").getD (.ref (s.store.size + 1))))
      (fun st w => st.isNode w) (st.Flaw es) (Display.deepest < N) := by
  have later := grows.trans (Store.grows_withDefaults s.store)
  have attrs := settles_attrs (s := { s with store := s.store.withDefaults }) json read later few
    (Store.object?_noAttrs s.store)
  rw [fillRecord_text]
  refine (attrs.bind ?_).congr fun k => (Store.flaw_iff_of_tag tagged k).symm
  intro entries st₁ grows₁ all
  have content := settles_content (s := { s with store := st₁ }) json read (later.trans grows₁) few
    (grows₁ _ _ (Store.object?_noChildren s.store)) inner
  refine content.bind ?_
  intro children st₂ _ fine
  exact settles_makeCopy all fine

theorem refuses_fillRecord (json : st.IsJson n v) (grows : st.Grows s.store) (few : n ≤ N)
    (other : ¬ v.isText) (fuel : Nat) (attrs content : Value) :
    Refuses .value (Display.deepest < N) s (fillRecord fuel v attrs content) := by
  unfold fillRecord
  simp only [other, Bool.not_false, if_true]
  exact refuses_shown json grows few fun _ => (refuses_throw rfl).bind _

theorem settles_ofRecordWithin (ranked : Ranked st.Nests fuel a) (json : st.IsJson n (.ref a))
    (read : st.read? a = some (.dict es)) (grows : st.Grows s.store) (few : n ≤ N) :
    Settles s (ofRecordWithin fuel (.ref a)) (fun st w => st.isNode w) (st.Flaw es)
      (Display.deepest < N) := by
  -- The tag is looked at before all else, so that a missing one hides what else is wrong.
  induction ranked generalizing s n es with
  | @step fuel a _ ih =>
    have run := exec_ofRecordWithin (grows _ _ read) fuel
    rcases tagged : Store.under? es "tag" with _ | v
    · refine .inr ⟨.key, .noTag tagged, .absentKey tagKey, s, ?_, .inl rfl⟩
      rw [run, tagged]
    · rw [tagged] at run
      by_cases text : v.isText
      · obtain ⟨tag, rfl⟩ := Value.eq_text_of_isText text
        refine (settles_fillRecord json read tagged grows few ?_).after run
          (Store.grows_withDefaults s.store)
        intro b fs edge read' t grows'
        obtain ⟨m, fewer, json'⟩ := json.nested edge
        have few' : m ≤ N := by omega
        rcases ih b edge json' read' grows' few' with ⟨w, st', done, more, node, none⟩ | flawed
        · exact .inl ⟨w, st', done, more, by simp [Store.isChild, node], none⟩
        · exact .inr flawed
      · obtain ⟨m, rfl, json'⟩ := json.under? read tagged
        have flaw : st.Flaw es .value := by
          refine .tag tagged ?_
          rintro tag rfl
          exact absurd rfl text
        have fewer : m ≤ N := by omega
        have refuses := refuses_fillRecord (s := { s with store := s.store.withDefaults }) json'
          (grows.trans (Store.grows_withDefaults s.store)) fewer text fuel
          ((Store.under? es "attrs").getD (.ref s.store.size))
          ((Store.under? es "_").getD (.ref (s.store.size + 1)))
        obtain ⟨fault, t, stops, kind⟩ := refuses
        exact .inr ⟨.value, flaw, fault, t, run.trans stops, kind⟩

theorem settles_ofRecord (json : s.store.IsJson n (.ref a))
    (read : s.store.read? a = some (.dict es)) :
    Settles s (ofRecord (.ref a)) (fun st w => st.isNode w) (s.store.Flaw es)
      (Display.deepest < n) := by
  have start : (ofRecord (.ref a)).exec s = (ofRecordWithin s.store.depth (.ref a)).exec s :=
    exec_bind_ok (exec_getStore s) _
  have settles := settles_ofRecordWithin json.ranked json read (.refl s.store) (Nat.le_refl n)
  exact settles.after start (.refl s.store)

/-- What comes to a draft is in order, as it becomes a node. -/
theorem flawless_of_drafts {tag : String} {attrs : Entries} {kids : Draft}
    (json : s.store.IsJson n (.ref a)) (read : s.store.read? a = some (.dict es))
    (drafts : s.store.Drafts [.ref a] (.node tag attrs kids .nil)) :
    ∀ k, ¬ s.store.Flaw es k := by
  obtain ⟨b, st, owned, done, _⟩ := givesOne_ofRecord drafts
  rcases settles_ofRecord json read with ⟨_, _, _, _, _, flawless⟩ | ⟨k, _, fault, t, stops, _⟩
  · exact flawless
  · rw [done] at stops
    cases stops

/-- A record of data, nested to any depth, becomes a node exactly if there is no flaw in it. If
there is, the error is of the class of some flaw in it, unless what it tells is nested deeper than
can be shown. Without a flaw the record has the form it should have, except that the characters of
a text and the keys of a dictionary can stand for a list of children. -/
theorem record_of_data_becomes_node_iff (json : s.store.IsJson n (.ref a))
    (read : s.store.read? a = some (.dict es)) :
    ((∃ b st, (ofRecord (.ref a)).exec s = (.ok b, { s with store := st }) ∧
        s.store.Grows st ∧ st.isNode b) ↔ ∀ k, ¬ s.store.Flaw es k) ∧
      (∀ fault t, (ofRecord (.ref a)).exec s = (.error fault, t) →
        (∃ k, s.store.Flaw es k ∧ fault.kind = k) ∨ fault = .tooDeep ∧ Display.deepest < n) ∧
      ((∃ tag attrs kids, s.store.Drafts [.ref a] (.node tag attrs kids .nil)) ↔
        (∀ k, ¬ s.store.Flaw es k) ∧ ¬ s.store.Loose es) := by
  refine ⟨?_, ?_, ?_⟩
  · rcases settles_ofRecord json read with
      ⟨b, st, done, grows, node, flawless⟩ | ⟨k, flaw, fault, t, stops, _⟩
    · exact iff_of_true ⟨b, st, done, grows, node⟩ flawless
    · refine iff_of_false ?_ fun flawless => flawless k flaw
      rintro ⟨b, st, done, _⟩
      rw [done] at stops
      cases stops
  · intro fault t stops
    rcases settles_ofRecord json read with ⟨b, st, done, _⟩ | ⟨k, flaw, fault', t', stops', kind⟩
    · rw [done] at stops
      cases stops
    · rw [stops'] at stops
      cases stops
      exact kind.imp_left fun same => ⟨k, flaw, same⟩
  · constructor
    · rintro ⟨tag, attrs, kids, drafts⟩
      exact ⟨flawless_of_drafts json read drafts, drafts.not_loose (.head _) read⟩
    · rintro ⟨flawless, strict⟩
      exact Store.exists_draft flawless json read strict

def oddRecords : Session where
  store := ⟨#[.dict [(.text "tag", .text "p"), (.text "_", .null)],
    .dict [(.text "tag", .text "p"), (.text "_", .text "ab")],
    .dict [(.text "tag", .text "b")], .list [.ref 2], .dict [(.text "_", .ref 3)]], 0⟩

theorem oddRecords_become_nodes_iff :
    (oddRecords.store.IsJson 3 (.ref 4) ∧
      oddRecords.store.read? 4 = some (.dict [(.text "_", .ref 3)])) ∧
      ((∃ b st, (ofRecord (.ref 4)).exec oddRecords = (.ok b, { oddRecords with store := st }) ∧
          oddRecords.store.Grows st ∧ st.isNode b) ↔
        ∀ k, ¬ oddRecords.store.Flaw [(.text "_", .ref 3)] k) ∧
      (∀ fault t, (ofRecord (.ref 4)).exec oddRecords = (.error fault, t) →
        (∃ k, oddRecords.store.Flaw [(.text "_", .ref 3)] k ∧ fault.kind = k) ∨
          fault = .tooDeep ∧ Display.deepest < 3) ∧
      ((∃ tag attrs kids, oddRecords.store.Drafts [.ref 4] (.node tag attrs kids .nil)) ↔
        (∀ k, ¬ oddRecords.store.Flaw [(.text "_", .ref 3)] k) ∧
          ¬ oddRecords.store.Loose [(.text "_", .ref 3)]) := by
  have record : oddRecords.store.read? 2 = some (.dict [(.text "tag", .text "b")]) := rfl
  have list : oddRecords.store.read? 3 = some (.list [.ref 2]) := rfl
  have outer : oddRecords.store.read? 4 = some (.dict [(.text "_", .ref 3)]) := rfl
  have inside : oddRecords.store.IsJson 1 (.ref 2) :=
    .dict record (by decide) (by simpa using Store.IsJson.plain rfl)
  have items : oddRecords.store.IsJson 2 (.ref 3) := .list list (by simpa using inside)
  have json : oddRecords.store.IsJson 3 (.ref 4) :=
    .dict outer (by decide) (by simpa using items)
  exact ⟨⟨json, outer⟩, record_of_data_becomes_node_iff json outer⟩

/-- Children that are nothing at all are refused by another error than what else has the wrong form,
and so is a record without a tag. A text is taken for a list of its characters. -/
theorem other_errors_and_text_for_children :
    (oddRecords.store.IsJson 1 (.ref 0) ∧
      ((ofRecord (.ref 0)).exec oddRecords).1 = .error .notIterable ∧
      Fault.notIterable.kind ≠ .value) ∧
    ((ofRecord (.ref 4)).exec oddRecords).1 = .error (.absentKey (.text "tag")) ∧
    (Fault.absentKey (.text "tag")).kind ≠ .value ∧
    ((ofRecord (.ref 1)).exec oddRecords).1 = .ok (.ref 9) := by
  have record : oddRecords.store.read? 0 =
      some (.dict [(.text "tag", .text "p"), (.text "_", .null)]) := rfl
  have json : oddRecords.store.IsJson 1 (.ref 0) := by
    refine .dict record (by decide) ?_
    simp only [List.forall_mem_cons]
    exact ⟨.plain rfl, .plain rfl, by simp⟩
  exact ⟨⟨json, rfl, by decide⟩, rfl, by decide, rfl⟩

end TreeQuery.Node
