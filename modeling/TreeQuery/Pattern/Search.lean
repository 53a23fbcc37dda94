import TreeQuery.Pattern.Program

/-! Searching a text with a program, by trying one way after another. -/

namespace TreeQuery.Pattern

/-- The places at which groups were opened and closed: group `i` keeps its start at `2 * i` and
its end at `2 * i + 1`. The latest mark made is in the list; groups passed over have none. -/
abbrev Marks := List (Option Nat)

namespace Marks

def put (m : Marks) (i place : Nat) : Marks :=
  if i < m.length then m.set i (some place)
  else m ++ List.replicate (i - m.length) none ++ [some place]

def taken? (m : Marks) (i : Nat) : Option (Nat × Nat) :=
  match m[2 * i]?, m[2 * i + 1]? with
  | some (some start), some (some stop) => if start ≤ stop then some (start, stop) else none
  | _, _ => none

def isCrossed (m : Marks) : Bool :=
  (List.range (m.length / 2)).any fun i =>
    match m[2 * i]?, m[2 * i + 1]? with
    | some (some start), some (some stop) => stop < start
    | _, _ => false

/-- The marks after a way that failed: inside a repetition those from before it, and outside only
as many of them, so that the way may have moved some. -/
def fallBack (inside : Bool) (before after : Marks) : Marks :=
  if inside then before else after.take before.length

end Marks

abbrev Outcome := Option Nat × Marks

/-- What a program does with the rest of the search: from a place in the text it takes some
characters, in one way after another, and hands each place it comes to on, until one is
accepted. -/
abbrev Taker := (Nat → Marks → Outcome) → Nat → Marks → Outcome

def arrive (i : Nat) (m : Marks) : Outcome := (some i, m)

def fail (m : Marks) : Outcome := (none, m)

def orElse (first : Marks → Outcome) (second : Marks → Outcome) (m : Marks) : Outcome :=
  match first m with
  | (none, m) => second m
  | found => found

def attempt (inside : Bool) (way : Marks → Outcome) (m : Marks) : Outcome :=
  orElse way (fun after => fail (m.fallBack inside after)) m

def charAt (text : Array Char) (accepts : Char → Bool) (i : Nat) : Bool :=
  match text[i]? with
  | some c => accepts c
  | none => false

def countFrom (text : Array Char) (accepts : Char → Bool) : Nat → Nat → Nat
  | 0, _ => 0
  | limit + 1, i => if charAt text accepts i then countFrom text accepts limit (i + 1) + 1 else 0

def repeats (text : Array Char) (folding : Folding) (start i : Nat) : Nat → Bool
  | 0 => true
  | length + 1 =>
    match text[start]? with
    | some c => charAt text (folding.same c) i && repeats text folding (start + 1) (i + 1) length
    | none => false

def takeDown (inside : Bool) (next : Nat → Marks → Outcome) (i : Nat) : Nat → Marks → Outcome
  | 0 => attempt inside (next i)
  | extra + 1 =>
    orElse (attempt inside (next (i + extra + 1))) (takeDown inside next i extra)

def takeUp (text : Array Char) (accepts : Char → Bool) (inside : Bool)
    (next : Nat → Marks → Outcome) : Nat → Nat → Marks → Outcome
  | 0, i => attempt inside (next i)
  | extra + 1, i =>
    orElse (attempt inside (next i)) fun m =>
      if charAt text accepts i then takeUp text accepts inside next extra (i + 1) m else fail m

def takeSingles (text : Array Char) (least : Nat) (most : Option Nat) (appetite : Appetite)
    (accepts : Char → Bool) (inside : Bool) : Taker := fun next i m =>
  let left := text.size - i
  let limit := (most.getD left).min left
  if left < least then fail m
  else
    match appetite with
    | .lazy =>
      if countFrom text accepts least i < least then fail m
      else takeUp text accepts inside next (limit - least) (i + least) m
    | _ =>
      let count := countFrom text accepts limit i
      if count < least then fail m
      else if appetite = .possessive then next (i + count) m
      else takeDown inside next (i + least) (count - least) m

/-- Repeats `body`. Past the least count, a round that took nothing is the last one; `since` is
where the latest free round began. -/
def takeRounds (least : Nat) (most : Option Nat) (appetite : Appetite) (body : Taker)
    (inside : Bool) (next : Nat → Marks → Outcome) :
    Nat → Nat → Option Nat → Nat → Marks → Outcome
  | 0, _, _, _ => fail
  | fuel + 1, count, since, i =>
    let owed : Bool := count < least
    let free := (most.map fun n => decide (count < n)).getD true && since != some i
    let again := takeRounds least most appetite body inside next fuel (count + 1)
      (if owed then since else some i)
    match appetite with
    | .greedy =>
      if owed then body again i
      else if free then orElse (attempt true (body again i)) (next i)
      else next i
    | .lazy =>
      if owed then body again i
      else orElse (attempt inside (next i)) (if free then body again i else fail)
    | .possessive => fun m =>
      match (if owed then body arrive i m else if free then attempt true (body arrive i) m
        else fail m) with
      | (some j, m) => again j m
      | (none, m) => if owed then fail m else next i m

namespace Anchor

def isWordAt (text : Array Char) (ascii : Bool) (i : Nat) : Bool :=
  charAt text (CharKind.word.has ascii) i

def isEdge (text : Array Char) (ascii : Bool) (i : Nat) : Bool :=
  (0 < i && isWordAt text ascii (i - 1)) != isWordAt text ascii i

def holds (text : Array Char) (i : Nat) : Anchor → Bool
  | .textStart => i == 0
  | .lineStart => i == 0 || text[i - 1]? == some '\n'
  | .textEnd => i == text.size
  | .finalEnd => i == text.size || i + 1 == text.size && text[i]? == some '\n'
  | .lineEnd => i == text.size || text[i]? == some '\n'
  | .boundary ascii => isEdge text ascii i && !text.isEmpty
  | .inside ascii => !isEdge text ascii i && !text.isEmpty

end Anchor

def Program.take (text : Array Char) : Program → Bool → Taker
  | empty, _, next, i, m => next i m
  | chars set, _, next, i, m => if charAt text set.has i then next (i + 1) m else fail m
  | any newlineToo, _, next, i, m =>
    if charAt text (fun c => newlineToo || c != '\n') i then next (i + 1) m else fail m
  | sequence p q, inside, next, i, m => p.take text inside (q.take text inside next) i m
  | either p q, inside, next, i, m =>
    orElse (attempt inside (p.take text inside next i))
      (attempt inside (q.take text inside next i)) m
  | group index p, inside, next, i, m =>
    p.take text inside (fun j m => next j (m.put (2 * index + 1) j)) i (m.put (2 * index) i)
  | scope p, inside, next, i, m => p.take text inside next i m
  | again index folding, _, next, i, m =>
    match m.taken? index with
    | some (start, stop) =>
      if repeats text folding start i (stop - start) then next (i + (stop - start)) m else fail m
    | none => fail m
  | anchor a, _, next, i, m => if a.holds text i then next i m else fail m
  | look behind false p, inside, next, i, m =>
    if i < behind.getD 0 then fail m
    else
      match p.take text inside arrive (i - behind.getD 0) m with
      | (some _, m) => next i m
      | failed => failed
  | look behind true p, inside, next, i, m =>
    if i < behind.getD 0 then next i m
    else
      match attempt inside (p.take text inside arrive (i - behind.getD 0)) m with
      | (some _, m) => fail m
      | (none, m) => next i m
  | atomic p, inside, next, i, m =>
    match p.take text inside arrive i m with
    | (some j, m) => next j m
    | failed => failed
  | repeated least most appetite p, inside, next, i, m =>
    match p.single? with
    | some accepts => takeSingles text least most appetite accepts inside next i m
    | none =>
      let body := p.take text (inside || appetite != .possessive)
      takeRounds least most appetite body inside next (least + (text.size - i) + 2) 0 none i m
  | given index yes no, inside, next, i, m =>
    if (m.taken? index).isSome then yes.take text inside next i m
    else no.take text inside next i m

/-- Whether a search tries a place. It looks at the first character alone before, and takes kinds
of characters there as outside all groups: `ascii` tells how. -/
def Program.mayStart (p : Program) (ascii : Bool) (text : Array Char) (i : Nat) : Bool :=
  match p.opening? with
  | some set =>
    charAt text ({ set with items := set.items.map (·.inAlphabet ascii) } : CharSet).hasExactly i
  | none => true

def Program.find? (p : Program) (ascii : Bool) (text : Array Char) : Option Marks :=
  (List.range (text.size + 1)).findSome? fun i =>
    if p.mayStart ascii text i then
      match p.take text false arrive i [] with
      | (some _, m) => some m
      | (none, _) => none
    else none

end TreeQuery.Pattern
