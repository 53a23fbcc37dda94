import TreeQuery.Proofs.Node.Calls
import TreeQuery.Proofs.Search.Sound

/-! Runs of calls that make nodes, and of the containers that are made for them. The nodes stay
searchable exactly as long as no call spoils one. -/

namespace TreeQuery

open Eval

structure Store.Searchable (st : Store) : Prop where
  sound : st.Sound
  among (a : Addr) : st.isNode (.ref a) → st.AnswersAmong a
  below (a : Addr) : st.isNode (.ref a) → st.Acyclic a → st.AnswersBelow a

theorem Store.searchable_iff {st : Store} : st.Searchable ↔ st.Sound := by
  constructor
  · exact Searchable.sound
  · intro sound
    refine ⟨sound, ?_, ?_⟩
    · intro a isNode
      obtain ⟨n, node⟩ := node?_of_isNode isNode
      exact sound.answersAmong node
    · intro a isNode acyclic
      obtain ⟨n, node⟩ := node?_of_isNode isNode
      exact sound.answersBelow node acyclic

namespace Node

/-- A container is made, or a node is, or a fault comes of trying to. -/
inductive Move
  | fresh (o : Object)
  | call (parts : Parts)

namespace Move

def carryOut : Move → Session → Session
  | fresh o, s => { s with store := (s.store.alloc o).2 }
  | call parts, s => ((make parts).exec s).2

def isProper (s : Session) : Move → Bool
  | fresh o => !o.isNode
  | call parts =>
    match s.store.object? parts.attrs with
    | some (.element _) => false
    | _ => true

def Spoils (s : Session) : Move → Prop
  | fresh _ => False
  | call parts => Node.Spoils s.store parts

/-- What one move does to a sound store. -/
theorem sound_carryOut_iff {m : Move} {s : Session} (sound : s.store.Sound)
    (proper : m.isProper s) : (m.carryOut s).store.Sound ↔ ¬ m.Spoils s := by
  cases m with
  | fresh o =>
    have plain : o.isNode = false := by simpa [isProper] using proper
    exact iff_of_true (sound.alloc plain) not_false
  | call parts =>
    refine sound_make_iff sound ?_
    intro e element
    simp [isProper, element] at proper

end Move

def Throughout (p : Session → Prop) : List Move → Session → Prop
  | [], s => p s
  | m :: ms, s => p s ∧ Throughout p ms (m.carryOut s)

def EachMove (p : Session → Move → Prop) : List Move → Session → Prop
  | [], _ => True
  | m :: ms, s => p s m ∧ EachMove p ms (m.carryOut s)

theorem Throughout.start {p : Session → Prop} {ms : List Move} {s : Session}
    (holds : Throughout p ms s) : p s := by
  cases ms with
  | nil => exact holds
  | cons m ms => exact holds.1

theorem throughout_congr {p q : Session → Prop} (same : ∀ s, p s ↔ q s) (ms : List Move)
    (s : Session) : Throughout p ms s ↔ Throughout q ms s := by
  induction ms generalizing s with
  | nil => exact same s
  | cons m ms ih => exact and_congr (same s) (ih _)

/-- Throughout a run all nodes are sound exactly if no call of it spoils one. -/
theorem throughout_sound_iff {ms : List Move} {s : Session} (sound : s.store.Sound)
    (proper : EachMove (fun s m => m.isProper s) ms s) :
    Throughout (·.store.Sound) ms s ↔ EachMove (fun s m => ¬ m.Spoils s) ms s := by
  induction ms generalizing s with
  | nil => exact iff_of_true sound trivial
  | cons m ms ih =>
    have step := Move.sound_carryOut_iff sound proper.1
    constructor
    · rintro ⟨_, later⟩
      exact ⟨step.mp later.start, (ih later.start proper.2).mp later⟩
    · rintro ⟨clean, later⟩
      have sound' := step.mpr clean
      exact ⟨sound, (ih sound' proper.2).mpr later⟩

/-- Throughout a run all nodes are sound and can be searched exactly if no call of it spoils one,
where calls may be given the attributes and children of the nodes that were made before. -/
theorem nodes_stay_searchable_iff (ms : List Move) (s : Session) (sound : s.store.Sound)
    (proper : EachMove (fun s m => m.isProper s) ms s) :
    Throughout (·.store.Searchable) ms s ↔ EachMove (fun s m => ¬ m.Spoils s) ms s :=
  (throughout_congr (fun _ => Store.searchable_iff) ms s).trans (throughout_sound_iff sound proper)

def sharingRun : List Move :=
  [.fresh (.tuple []), .call ⟨.text "a", .null, [("x", .int 1)], .null, .ref 0, [.text "t"]⟩,
    .call ⟨.text "b", .ref 1, [("y", .text "2")], .null, .ref 2, [.text "u"]⟩]

theorem sound_empty : ({} : Session).store.Sound :=
  ⟨fun _ _ node => by simp [Store.read?] at node, fun _ _ node => by simp [Store.read?] at node⟩

theorem sharingRun_stays_searchable_iff :
    EachMove (fun s m => m.isProper s) sharingRun {} ∧
      (Throughout (·.store.Searchable) sharingRun {} ↔
        EachMove (fun s m => ¬ m.Spoils s) sharingRun {}) := by
  have proper : EachMove (fun s m => m.isProper s) sharingRun {} := ⟨rfl, rfl, rfl, trivial⟩
  exact ⟨proper, nodes_stay_searchable_iff sharingRun {} sound_empty proper⟩

def spoilingRun : List Move :=
  [.fresh (.tuple []), .call ⟨.text "a", .null, [], .null, .ref 0, []⟩, .fresh (.list []),
    .call ⟨.text "b", .ref 1, [("foo", .ref 4)], .null, .ref 0, []⟩]

/-- The refused call leaves the list among the attributes of the first node, at which a search
then stops. -/
theorem refused_call_spoils_node :
    EachMove (fun s m => m.isProper s) spoilingRun {} ∧
      ¬ Throughout (·.store.Searchable) spoilingRun {} ∧
      (spoilingRun.foldl (fun s m => Move.carryOut m s) ({} : Session)).store.firstWithAttr
        (.text "foo") (.text "x") (.ref 3) = .error (.noAttribute "strip") := by
  refine ⟨⟨rfl, rfl, rfl, rfl, trivial⟩, ?_, by decide +kernel⟩
  rintro ⟨_, _, _, _, last⟩
  obtain ⟨o, found, texts⟩ := last.sound.attrs 3 ⟨"a", 1, 2⟩ (by decide +kernel)
  have spoilt : o = .dict [(.text "foo", .ref 4)] :=
    Option.some.inj (found.symm.trans (by decide +kernel))
  subst spoilt
  cases texts

end Node

end TreeQuery
