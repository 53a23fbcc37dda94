import TreeQuery.Proofs.Node.Record
import TreeQuery.Proofs.Store.Json

namespace TreeQuery.Store

def FlawedAttrs (st : Store) (v : Value) : Prop :=
  ∀ es, st.object? v = some (.dict es) → ∃ e ∈ es, Node.attrText? e.2 = none

/-- What is wrong with a record or with a record inside it, and the class of the error for it. Only
what cannot be gone over at all is wrong as the children. -/
inductive Flaw (st : Store) : Entries → ErrorClass → Prop
  | noTag {es : Entries} (absent : under? es "tag" = none) : Flaw st es .key
  | tag {es : Entries} {v : Value} (given : under? es "tag" = some v)
      (wrong : ∀ s, v = .text s → s = "") : Flaw st es .value
  | attrs {es : Entries} {v : Value} (given : under? es "attrs" = some v)
      (wrong : st.FlawedAttrs v) : Flaw st es .value
  | content {es : Entries} {v : Value} (given : under? es "_" = some v)
      (wrong : st.items? v = none) : Flaw st es .type
  | child {es : Entries} {v w : Value} {vs : List Value} (given : under? es "_" = some v)
      (items : st.items? v = some vs) (member : w ∈ vs) (other : ¬ w.isText)
      (wrong : ∀ fs, st.object? w ≠ some (.dict fs)) : Flaw st es .value
  | inside {es fs : Entries} {v w : Value} {vs : List Value} {k : ErrorClass}
      (given : under? es "_" = some v) (items : st.items? v = some vs) (member : w ∈ vs)
      (dict : st.object? w = some (.dict fs)) (flaw : Flaw st fs k) : Flaw st es k

def ChildFlaw (st : Store) (w : Value) (k : ErrorClass) : Prop :=
  (k = .value ∧ ¬ w.isText ∧ ∀ fs, st.object? w ≠ some (.dict fs)) ∨
    ∃ fs, st.object? w = some (.dict fs) ∧ st.Flaw fs k

def ContentFlaw (st : Store) (v : Value) (k : ErrorClass) : Prop :=
  (k = .type ∧ st.items? v = none) ∨ ∃ vs, st.items? v = some vs ∧ ∃ w ∈ vs, st.ChildFlaw w k

variable {st st' : Store} {n : Nat} {a : Addr} {v : Value} {es : Entries}

theorem flaw_iff_of_tag {tag : String} (tagged : under? es "tag" = some (.text tag))
    (k : ErrorClass) :
    st.Flaw es k ↔ (k = .value ∧ ∃ v, under? es "attrs" = some v ∧ st.FlawedAttrs v) ∨
      (∃ v, under? es "_" = some v ∧ st.ContentFlaw v k) ∨ (k = .value ∧ tag = "") := by
  constructor
  · intro flaw
    cases flaw with
    | noTag absent => cases tagged.symm.trans absent
    | tag given wrong =>
      cases tagged.symm.trans given
      exact .inr (.inr ⟨rfl, wrong tag rfl⟩)
    | attrs given wrong => exact .inl ⟨rfl, _, given, wrong⟩
    | content given wrong => exact .inr (.inl ⟨_, given, .inl ⟨rfl, wrong⟩⟩)
    | child given items member other wrong =>
      exact .inr (.inl ⟨_, given, .inr ⟨_, items, _, member, .inl ⟨rfl, other, wrong⟩⟩⟩)
    | inside given items member dict inner =>
      exact .inr (.inl ⟨_, given, .inr ⟨_, items, _, member, .inr ⟨_, dict, inner⟩⟩⟩)
  · rintro (⟨rfl, v, given, wrong⟩ | ⟨v, given, wrong⟩ | ⟨rfl, empty⟩)
    · exact .attrs given wrong
    · rcases wrong with ⟨rfl, wrong⟩ | ⟨vs, items, w, member, wrong⟩
      · exact .content given wrong
      · rcases wrong with ⟨rfl, other, wrong⟩ | ⟨fs, dict, inner⟩
        · exact .child given items member other wrong
        · exact .inside given items member dict inner
    · refine .tag tagged ?_
      rintro s ⟨⟩
      exact empty

theorem IsJson.nested {b : Addr} (json : st.IsJson n (.ref a)) (edge : st.Nests a b) :
    ∃ m, m < n ∧ st.IsJson m (.ref b) := by
  obtain ⟨es, vs, fs, read, items, member, _⟩ := edge
  rcases held?_eq_some.mp items with ⟨_, rfl⟩ | ⟨v, o, given, object, inner⟩
  · cases member
  · rw [Object.list?_eq_some.mp inner] at object
    obtain ⟨m, rfl, json'⟩ := json.under? read given
    cases v with
    | ref c =>
      obtain ⟨l, rfl, each⟩ := json'.list_items object
      exact ⟨l, by omega, each _ member⟩
    | _ => cases object

theorem IsJson.ranked (json : st.IsJson n (.ref a)) : Ranked st.Nests st.depth a := by
  have ends : Acc (flip st.Nests) a := by
    induction n using Nat.strong_induction_on generalizing a with
    | _ n ih =>
      constructor
      intro b edge
      obtain ⟨m, fewer, json'⟩ := json.nested edge
      exact ih m fewer json'
  exact (Returnless.of_acc ends).ranked lt_of_nests (Nat.lt_succ_self _)

/-- In a record, or in one inside it, something stands for the children that can be gone over and is
no list. -/
inductive Loose (st : Store) : Entries → Prop
  | here {es : Entries} {v : Value} {vs : List Value} (given : under? es "_" = some v)
      (items : st.items? v = some vs) (other : ∀ ws, st.object? v ≠ some (.list ws)) : Loose st es
  | inside {es fs : Entries} {v w : Value} {vs : List Value} (given : under? es "_" = some v)
      (list : st.object? v = some (.list vs)) (member : w ∈ vs)
      (dict : st.object? w = some (.dict fs)) (loose : Loose st fs) : Loose st es

/-- A record that comes to a draft has lists of children throughout. -/
theorem Drafts.not_loose {vs : List Value} {draft : Draft} (drafts : st.Drafts vs draft) {w : Value}
    (member : w ∈ vs) (dict : st.object? w = some (.dict es)) : ¬ st.Loose es := by
  induction drafts generalizing w es with
  | nil => cases member
  | kept fine _ ih =>
    rcases List.mem_cons.mp member with rfl | member
    · cases w with
      | ref b => simp [isChild_of_record dict] at fine
      | _ => cases dict
    · exact ih member dict
  | record read _ _ _ _ list _ _ ihBelow ihLater =>
    rcases List.mem_cons.mp member with rfl | member
    · cases read.symm.trans dict
      intro loose
      -- What is left out is an empty list, in which nothing is loose.
      rcases held?_eq_some.mp list with ⟨absent, _⟩ | ⟨v, o, given, object, inner⟩
      · cases loose with
        | here given' => cases absent.symm.trans given'
        | inside given' => cases absent.symm.trans given'
      · rw [Object.list?_eq_some.mp inner] at object
        cases loose with
        | here given' _ other =>
          cases given.symm.trans given'
          exact other _ object
        | inside given' list' among dict' loose =>
          cases given.symm.trans given'
          cases object.symm.trans list'
          exact ihBelow among dict' loose
    · exact ihLater member dict

theorem Drafts.cons {w : Value} {ws : List Value} {draft draft' : Draft}
    (first : st.Drafts [w] draft) (later : st.Drafts ws draft') :
    ∃ whole, st.Drafts (w :: ws) whole := by
  cases first with
  | kept fine _ => exact ⟨_, .kept fine later⟩
  | record read tagged nonempty dict fine list below _ =>
    exact ⟨_, .record read tagged nonempty dict fine list below later⟩

theorem exists_drafts {ws : List Value} (each : ∀ w ∈ ws, ∃ draft, st.Drafts [w] draft) :
    ∃ draft, st.Drafts ws draft := by
  induction ws with
  | nil => exact ⟨.nil, .nil⟩
  | cons w ws ih =>
    obtain ⟨⟨first, drafts⟩, later⟩ := List.forall_mem_cons.mp each
    obtain ⟨rest, drafts'⟩ := ih later
    exact drafts.cons drafts'

section Flawless

variable (flawless : ∀ k, ¬ st.Flaw es k)
include flawless

theorem exists_tag : ∃ tag, under? es "tag" = some (.text tag) ∧ tag ≠ "" := by
  rcases given : under? es "tag" with _ | v
  · exact absurd (.noTag given) (flawless .key)
  · by_cases wrong : ∀ s, v = .text s → s = ""
    · exact absurd (.tag given wrong) (flawless .value)
    · push Not at wrong
      obtain ⟨tag, rfl, nonempty⟩ := wrong
      exact ⟨tag, rfl, nonempty⟩

theorem exists_attrs (json : st.IsJson n (.ref a)) (read : st.read? a = some (.dict es)) :
    ∃ attrs, st.recordAttrs? es = some attrs ∧
      ∀ e ∈ attrs, e.1.isText ∧ Node.attrText? e.2 ≠ none := by
  rcases given : under? es "attrs" with _ | v
  · exact ⟨[], held?_eq_some.mpr (.inl ⟨given, rfl⟩), by simp⟩
  · have right : ¬ st.FlawedAttrs v := fun wrong => flawless .value (.attrs given wrong)
    unfold FlawedAttrs at right
    push Not at right
    obtain ⟨attrs, dict, fine⟩ := right
    obtain ⟨m, rfl, json'⟩ := json.under? read given
    cases v with
    | ref b =>
      obtain ⟨_, _, keys, _⟩ := json'.dict_entries dict
      exact ⟨attrs, held?_eq_some.mpr (.inr ⟨_, _, given, dict, rfl⟩), fun e member =>
        ⟨keys e member, fine e member⟩⟩
    | _ => cases dict

theorem exists_items (strict : ¬ st.Loose es) :
    ∃ items, st.recordItems? es = some items := by
  rcases given : under? es "_" with _ | v
  · exact ⟨[], held?_eq_some.mpr (.inl ⟨given, rfl⟩)⟩
  · rcases items : st.items? v with _ | vs
    · exact absurd (.content given items) (flawless .type)
    · by_cases other : ∀ ws, st.object? v ≠ some (.list ws)
      · exact absurd (.here given items other) strict
      · push Not at other
        obtain ⟨ws, list⟩ := other
        exact ⟨ws, held?_eq_some.mpr (.inr ⟨v, _, given, list, rfl⟩)⟩

/-- A record of data without a flaw that has lists of children throughout comes to a draft. -/
theorem exists_draft (json : st.IsJson n (.ref a)) (read : st.read? a = some (.dict es))
    (strict : ¬ st.Loose es) :
    ∃ tag attrs kids, st.Drafts [.ref a] (.node tag attrs kids .nil) := by
  induction n using Nat.strong_induction_on generalizing a es with
  | _ n ih =>
    obtain ⟨tag, tagged, nonempty⟩ := exists_tag flawless
    obtain ⟨attrs, dict, fine⟩ := exists_attrs flawless json read
    obtain ⟨items, list⟩ := exists_items flawless strict
    have each : ∀ w ∈ items, ∃ draft, st.Drafts [w] draft := by
      intro w member
      rcases held?_eq_some.mp list with ⟨_, rfl⟩ | ⟨v, o, given, object, inner⟩
      · cases member
      · rw [Object.list?_eq_some.mp inner] at object
        have items' := items?_of_sequence? (sequence?_of_object? object)
        by_cases text : w.isText
        · exact ⟨_, .kept (by simp [isChild, text]) .nil⟩
        · by_cases record : ∃ fs, st.object? w = some (.dict fs)
          · obtain ⟨fs, dict'⟩ := record
            cases w with
            | ref b =>
              -- A record among the children is nested less deep, which is what the induction is on.
              have edge : st.Nests a b := ⟨es, items, fs, read, list, member, dict'⟩
              obtain ⟨m, fewer, json'⟩ := json.nested edge
              obtain ⟨_, _, _, drafts⟩ := ih m fewer
                (fun k flaw => flawless k (.inside given items' member dict' flaw)) json' dict'
                (fun loose => strict (.inside given object member dict' loose))
              exact ⟨_, drafts⟩
            | _ => cases dict'
          · have other : ∀ fs, st.object? w ≠ some (.dict fs) := fun fs found => record ⟨fs, found⟩
            exact absurd (.child given items' member text other) (flawless .value)
    obtain ⟨kids, below⟩ := exists_drafts each
    exact ⟨tag, attrs, kids, .record read tagged nonempty dict fine list below .nil⟩

end Flawless

end TreeQuery.Store
