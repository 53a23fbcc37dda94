import TreeQuery.Pattern.CharSet

namespace TreeQuery.Pattern

inductive Anchor
  | textStart | lineStart | textEnd | lineEnd | finalEnd
  | boundary (ascii : Bool) | inside (ascii : Bool)
  deriving DecidableEq, Repr

/-- How a repetition gives way: it takes as much as it can, as little as it can, or keeps all
that it took. -/
inductive Appetite
  | greedy | lazy | possessive
  deriving DecidableEq, Repr

inductive Program
  | empty
  | chars (set : CharSet)
  | any (newlineToo : Bool)
  | sequence (first second : Program)
  | either (first second : Program)
  | group (index : Nat) (body : Program)
  | scope (body : Program)
  | again (index : Nat) (folding : Folding)
  | anchor (anchor : Anchor)
  | look (behind : Option Nat) (negated : Bool) (body : Program)
  | atomic (body : Program)
  | repeated (least : Nat) (most : Option Nat) (appetite : Appetite) (body : Program)
  | given (index : Nat) (yes no : Program)
  deriving DecidableEq, Repr

namespace Program

def ofList : List Program → Program
  | [] => .empty
  | [p] => p
  | p :: ps => .sequence p (ofList ps)

def isAtom : Program → Bool
  | chars _ | any _ | anchor _ | again _ _ => true
  | _ => false

def single? : Program → Option (Char → Bool)
  | chars set => some set.has
  | any newlineToo => some fun c => newlineToo || c != '\n'
  | scope p => p.single?
  | _ => none

def opening? : Program → Option CharSet
  | chars set => if set.isCaseless then some set else none
  | sequence p _ | group _ p | scope p => p.opening?
  | _ => none

end Program

/-- The least and the greatest number of characters that a program can take; both stop at a
limit. -/
structure Width where
  least : Nat
  most : Nat
  deriving DecidableEq, Repr

namespace Width

def limit : Nat := 4294967295

def of (least most : Nat) : Width := ⟨min least (limit - 1), min most limit⟩

def add (a b : Width) : Width := of (a.least + b.least) (a.most + b.most)

def join (a b : Width) : Width := of (min a.least b.least) (max a.most b.most)

def times (least : Nat) (most : Option Nat) (w : Width) : Width :=
  of (w.least * least) (w.most * most.getD limit)

def length? (w : Width) : Option Nat := if w.least = w.most then some w.least else none

end Width

def Program.width (groups : Nat → Width) : Program → Width
  | empty | anchor _ | look _ _ _ => .of 0 0
  | chars _ | any _ => .of 1 1
  | sequence a b => (a.width groups).add (b.width groups)
  | either a b => (a.width groups).join (b.width groups)
  | group _ p | scope p | atomic p => p.width groups
  | again i _ => groups i
  | repeated least most _ p => (p.width groups).times least most
  | given _ yes no => (yes.width groups).join (no.width groups)

end TreeQuery.Pattern
