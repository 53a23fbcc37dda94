import TreeQuery.Proofs.Node.Make

namespace TreeQuery.Node

open Eval

/-- What a node is to keep its attributes in: the dictionary that is given, or a new one. The last
store is the one in which it is there. -/
inductive Holds (st : Store) : Value → Addr → Entries → Store → Prop
  | fresh : Holds st .null st.size [] (st.alloc (.dict [])).2
  | given {a : Addr} {es : Entries} (read : st.read? a = some (.dict es)) :
      Holds st (.ref a) a es st

/-- Making a node that is refused spoils another node: the dictionary that is given belongs to one
and is left with a value that is no text, or the attributes are accepted, the list that is given
belongs to one, and something that cannot be a child is added to it. -/
inductive Spoils (st : Store) (parts : Parts) : Prop
  | attrs {tag : String} {a : Addr} {es : Entries} (tagged : checkTag st parts.tag = .ok tag)
      (given : parts.attrs = .ref a) (read : st.read? a = some (.dict es))
      (owned : st.OwnsAttrs a) (spoils : parts.spoilsDict st a es)
  | children {tag : String} {a c : Addr} {es : Entries} {st' : Store}
      (tagged : checkTag st parts.tag = .ok tag) (holds : Holds st parts.attrs a es st')
      (agrees : parts.conflicts st' a es = false) (clean : parts.spoilsDict st' a es = false)
      (given : parts.content = .ref c) (owned : st.OwnsChildren c)
      (refused : ∃ v ∈ parts.more, child? st v = none)

namespace Holds

variable {st st' : Store} {attrs : Value} {a : Addr} {es : Entries}

theorem read (holds : Holds st attrs a es st') : st'.read? a = some (.dict es) := by
  cases holds with
  | fresh => exact Store.read?_alloc_self st _
  | given read => exact read

theorem sameNodes (holds : Holds st attrs a es st') : st.SameNodes st' := by
  cases holds with
  | fresh => exact Store.sameNodes_alloc rfl
  | given => exact fun _ _ => .rfl

theorem sound (holds : Holds st attrs a es st') (sound : st.Sound) : st'.Sound := by
  cases holds with
  | fresh => exact sound.alloc rfl
  | given => exact sound

theorem unique {b : Addr} {fs : Entries} {st'' : Store} (holds : Holds st attrs a es st')
    (other : Holds st attrs b fs st'') : b = a ∧ fs = es ∧ st'' = st' := by
  cases holds with
  | fresh =>
    cases other
    exact ⟨rfl, rfl, rfl⟩
  | given read =>
    cases other with
    | given read' =>
      cases read.symm.trans read'
      exact ⟨rfl, rfl, rfl⟩

theorem exists_iff :
    (∃ a es st', Holds st attrs a es st') ↔
      attrs = .null ∨ ∃ es, st.object? attrs = some (.dict es) := by
  constructor
  · rintro ⟨a, es, st', holds⟩
    cases holds with
    | fresh => exact .inl rfl
    | given read => exact .inr ⟨es, read⟩
  · rintro (rfl | ⟨es, dict⟩)
    · exact ⟨_, _, _, .fresh⟩
    · cases attrs with
      | ref a => exact ⟨_, _, _, .given dict⟩
      | _ => cases dict

theorem exec {s : Session} (holds : Holds s.store attrs a es st') :
    (Parts.attrsOrNew attrs).exec s = (.ok (.ref a), { s with store := st' }) := by
  cases holds with
  | fresh => rfl
  | given => rfl

theorem given_of_owned (holds : Holds st attrs a es st') (sound : st.Sound)
    (owned : st'.OwnsAttrs a) : attrs = .ref a ∧ st' = st := by
  cases holds with
  | given => exact ⟨rfl, rfl⟩
  | fresh =>
    have old := ((sameNodes .fresh).ownsAttrs _).mp owned
    exact absurd (sound.lt_of_ownsAttrs old) (Nat.lt_irrefl _)

end Holds

namespace Parts

variable {parts : Parts} {s : Session} {a : Addr}

theorem sound_enterChildren {tag : String} {c : Addr} {vs : List Value} (sound : s.store.Sound)
    {dict : Object} (attrs : s.store.read? a = some dict) (texts : dict.isTextDict)
    (list : s.store.read? c = some (.list vs)) :
    ((do
      parts.enterChildren c
      alloc (.node ⟨tag, a, c⟩) : Eval Value).exec s).2.store.Sound ↔
      ¬ (s.store.OwnsChildren c ∧ ∃ v ∈ parts.more, child? s.store v = none) := by
  by_cases refused : ∃ v ∈ vs ++ parts.more, child? s.store v = none
  · obtain ⟨left, fails, v, among, other⟩ := enterChildren_refuses list refused
    obtain ⟨fault, st, stops, drains⟩ := fails.bind fun _ => alloc (.node ⟨tag, a, c⟩)
    rw [stops, drains.sound_iff, sound.write_list_iff list]
    constructor
    · rintro kept ⟨owned, _⟩
      exact other (kept owned v among)
    · intro allowed owned
      refine absurd ⟨owned, ?_⟩ allowed
      -- What belongs to a node is sound, so the refused child is one that was added.
      obtain ⟨v, member, none⟩ := refused
      rcases List.mem_append.mp member with old | more
      · obtain ⟨ws, list', fine⟩ := sound.exists_children owned
        cases list.symm.trans list'
        simp [child?_of_isChild (fine v old)] at none
      · exact ⟨v, more, none⟩
  · have all : ∀ v ∈ vs ++ parts.more, child? s.store v ≠ none := by
      intro v member none
      exact refused ⟨v, member, none⟩
    obtain ⟨left, done, fine⟩ := enterChildren_accepts list all
    have after := (sound.write_list_iff list left).mpr fun _ => fine
    have apart : c ≠ a := by
      rintro rfl
      cases list.symm.trans attrs
      cases texts
    rw [exec_bind_ok done, exec_alloc]
    refine iff_of_true ?_ ?_
    · have attrs' := (Store.read?_write_of_ne s.store (.list left) apart).trans attrs
      have list' := Store.read?_write_self s.store (.list left) (Store.lt_of_read? list)
      refine after.alloc_node attrs' texts list' ?_
      rw [(Store.sameNodes_write list rfl rfl).isChildList]
      exact List.all_eq_true.mpr fine
    · rintro ⟨_, v, member, none⟩
      exact all v (List.mem_append_right _ member) none

theorem sound_finish {tag : String} (sound : s.store.Sound) {dict : Object}
    (attrs : s.store.read? a = some dict) (texts : dict.isTextDict) :
    ((parts.finish tag a).exec s).2.store.Sound ↔
      ¬ ∃ c, parts.content = .ref c ∧ s.store.OwnsChildren c ∧
        ∃ v ∈ parts.more, child? s.store v = none := by
  -- Only a list that is given can be that of another node. One that is made here is of none.
  by_cases given : ∃ vs, s.store.object? parts.content = some (.list vs)
  · obtain ⟨vs, object⟩ := given
    rcases content : parts.content with _ | _ | _ | _ | _ | _ | _ | _ | c <;>
      rw [content] at object <;> try cases object
    unfold finish
    rw [content, exec_bind_ok (exec_childList_list object),
      sound_enterChildren sound attrs texts object]
    constructor
    · rintro kept ⟨c', same, spoilt⟩
      cases same
      exact kept spoilt
    · exact fun kept spoilt => kept ⟨c, rfl, spoilt⟩
  · have other : ∀ vs, s.store.object? parts.content ≠ some (.list vs) :=
      fun vs list => given ⟨vs, list⟩
    have foreign : ¬ ∃ c, parts.content = .ref c ∧ s.store.OwnsChildren c ∧
        ∃ v ∈ parts.more, child? s.store v = none := by
      rintro ⟨c, same, owned, _⟩
      obtain ⟨vs, list, _⟩ := sound.exists_children owned
      exact other vs (same ▸ list)
    refine iff_of_true ?_ foreign
    rcases exec_childList_other other with fails | ⟨st, vs, drains, made⟩
    · obtain ⟨fault, st, stops, drains⟩ := fails.bind fun c => do
        parts.enterChildren c
        alloc (.node ⟨tag, a, c⟩)
      unfold finish
      rw [stops, drains.sound_iff]
      exact sound
    · have kept := drains.sound_iff.mpr sound
      have attrs' : st.read? a = some dict := by
        refine (drains.read?_iff ?_ a).mpr attrs
        rintro xs rfl
        cases texts
      unfold finish
      rw [exec_bind_ok made]
      refine (sound_enterChildren (s := { s with store := (st.alloc (.list vs)).2 })
        (kept.alloc rfl) (Store.grows_alloc st _ a dict attrs') texts
        (Store.read?_alloc_self st _)).mpr ?_
      rintro ⟨owned, _⟩
      have old := ((Store.sameNodes_alloc rfl).ownsChildren _).mp owned
      obtain ⟨ws, list, _⟩ := kept.exists_children old
      exact absurd (Store.lt_of_read? list) (Nat.lt_irrefl _)

end Parts

/-- What spoils a node, once it is known what is to keep the attributes. -/
theorem spoils_iff {parts : Parts} {st st' : Store} {tag : String} {a : Addr} {es : Entries}
    (sound : st.Sound) (tagged : checkTag st parts.tag = .ok tag)
    (holds : Holds st parts.attrs a es st') :
    Spoils st parts ↔ (st'.OwnsAttrs a ∧ parts.spoilsDict st' a es) ∨
      (parts.conflicts st' a es = false ∧ parts.spoilsDict st' a es = false ∧
        ∃ c, parts.content = .ref c ∧ st.OwnsChildren c ∧
          ∃ v ∈ parts.more, child? st v = none) := by
  constructor
  · rintro (⟨_, given, read, owned, spoils⟩ | ⟨_, holds', agrees, clean, given, owned, refused⟩)
    · rw [given] at holds
      obtain ⟨rfl, rfl, rfl⟩ := holds.unique (.given read)
      exact .inl ⟨owned, spoils⟩
    · obtain ⟨rfl, rfl, rfl⟩ := holds.unique holds'
      exact .inr ⟨agrees, clean, _, given, owned, refused⟩
  · rintro (⟨owned, spoils⟩ | ⟨agrees, clean, c, given, owned, refused⟩)
    · obtain ⟨given, rfl⟩ := holds.given_of_owned sound owned
      exact .attrs tagged given holds.read owned spoils
    · exact .children tagged holds agrees clean given owned refused

theorem sound_make_iff_of_holds {parts : Parts} {s : Session} {a : Addr} {es : Entries}
    {st : Store} (sound : s.store.Sound) (holds : Holds s.store parts.attrs a es st) :
    ((make parts).exec s).2.store.Sound ↔ ¬ Spoils s.store parts := by
  rw [Parts.make_eq, exec_bind_ok (exec_getStore s)]
  rcases tagged : checkTag s.store parts.tag with fault | tag
  · refine iff_of_true ?_ ?_
    · simpa [exec_bind] using sound
    · rintro (⟨tagged', _⟩ | ⟨tagged', _⟩) <;> cases tagged.symm.trans tagged'
  · have start : (liftM (Except.ok tag : Except Fault String) : Eval String).exec s =
        (.ok tag, s) := exec_lift _ s
    have sound' := holds.sound sound
    rw [exec_bind_ok start, exec_bind_ok holds.exec, spoils_iff sound tagged holds]
    -- A call that is refused may leave its attributes in the dictionary of another node.
    by_cases refused : parts.conflicts st a es ∨ parts.spoilsDict st a es
    · obtain ⟨left, fails, texts⟩ :=
        Parts.enterAttrs_refuses (s := { s with store := st }) holds.read refused
      obtain ⟨fault, st', stops, drains⟩ := fails.bind (parts.finish tag)
      rw [stops, drains.sound_iff, sound'.write_dict_iff holds.read, texts]
      rcases Bool.eq_false_or_eq_true (parts.spoilsDict st a es) with spoils | clean
      · simp [spoils]
      · have conflicts := refused.resolve_right (by simp [clean])
        simp [clean, conflicts]
    · obtain ⟨agrees, clean⟩ := not_or.mp refused
      rw [Bool.not_eq_true] at agrees clean
      obtain ⟨left, done, texts⟩ :=
        Parts.enterAttrs_accepts (s := { s with store := st }) holds.read agrees clean
      have kept := (sound'.write_dict_iff holds.read left).mpr fun _ => texts
      have nodes : s.store.SameNodes (st.write a (.dict left)) := fun b n =>
        (Store.sameNodes_write holds.read rfl rfl b n).trans (holds.sameNodes b n)
      have attrs := Store.read?_write_self st (.dict left) (Store.lt_of_read? holds.read)
      have textDict : (Object.dict left).isTextDict := List.all_eq_true.mpr texts
      rw [exec_bind_ok done, Parts.sound_finish (s := { s with
        store := st.write a (.dict left) }) kept attrs textDict]
      simp [nodes.ownsChildren, nodes.child?, agrees, clean]

/-- A call that makes a node, or fails to, leaves a sound store sound unless it spoils a node. -/
theorem sound_make_iff {parts : Parts} {s : Session} (sound : s.store.Sound)
    (plain : ∀ e, s.store.object? parts.attrs ≠ some (.element e)) :
    ((make parts).exec s).2.store.Sound ↔ ¬ Spoils s.store parts := by
  by_cases holds : ∃ a es st, Holds s.store parts.attrs a es st
  · obtain ⟨a, es, st, holds⟩ := holds
    exact sound_make_iff_of_holds sound holds
  · refine iff_of_true ?_ ?_
    · obtain ⟨some, other⟩ := not_or.mp (Holds.exists_iff.not.mp holds)
      rw [Parts.make_eq, exec_bind_ok (exec_getStore s), exec_bind, exec_lift]
      rcases checkTag s.store parts.tag with fault | tag
      · exact sound
      · obtain ⟨fault, st, stops, drains⟩ :=
          (Parts.failsAt_enterAttrs parts plain (not_exists.mp other)).bind
            (parts.finish tag)
        simp only [Parts.attrsOrNew, if_neg some, pure_bind, stops]
        exact drains.sound_iff.mpr sound
    · rintro (⟨_, given, read, _, _⟩ | ⟨_, holds', _, _, _, _, _⟩)
      · exact holds ⟨_, _, _, given ▸ Holds.given read⟩
      · exact holds ⟨_, _, _, holds'⟩

end TreeQuery.Node
