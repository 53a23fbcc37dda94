import TreeQuery.Text.Quoted
import TreeQuery.Value

/-! What can go wrong, as causes; the class and the wording of each.

Two limits of the interpreter are idealised. What counts against its stack is how deep values are
shown and called inside each other, and nothing else: trees are searched, made and summarized however
deep they are, and `tooDeep` then tells of one without an end. And whole numbers are written whatever
their length, though none of more than `Number.digitLimit` digits is read. -/

namespace TreeQuery

/-- Texts in a cause are values as they are shown. -/
inductive Fault
  | raised (kind : ErrorClass) (args : List Value)
  | emptyTag
  | classConflict (present given : String)
  | attrValue (key kind shown : String)
  | childValue (kind shown : String)
  | recordTag (shown : String)
  | recordAttrs (shown : String)
  | recordKey (shown : String)
  | recordValue (key shown : String)
  | recordChild (shown : String)
  | noMatch (root : Value) (query : String)
  | absentKey (key : Value)
  | outOfRange
  | noAttribute (name : String)
  | notIterable
  | notCallable
  | notIndexable
  | notAssignable
  | unhashable
  | wrongArguments
  | wrongType (wanted : String)
  | tooFewItems (found : Nat)
  | tooManyItems
  | badPattern (refusal : Pattern.Refusal)
  | crossedGroup
  | badNumber (text : String)
  | badVariable (name : String)
  | namelessVariable
  | tooLarge
  | noMemory
  | noSubject
  | tooDeep
  deriving DecidableEq, Repr

namespace Fault

def kind : Fault → ErrorClass
  | raised kind _ => kind
  | emptyTag | classConflict _ _ => .value
  | attrValue _ _ _ | childValue _ _ => .type
  | recordTag _ | recordAttrs _ | recordKey _ | recordValue _ _ | recordChild _ => .value
  | noMatch _ _ => .noMatch
  | absentKey _ => .key
  | outOfRange => .index
  | noAttribute _ => .noAttribute
  | notIterable | notCallable | notIndexable | notAssignable | unhashable => .type
  | wrongArguments | wrongType _ => .type
  | tooFewItems _ | tooManyItems | badNumber _ | badVariable _ => .value
  | badPattern .countTooLarge | badPattern .codeTooLarge => .overflow
  | badPattern .countTooLong | badPattern .clashingFlags => .value
  | badPattern .tooFarBack => .runtime
  | badPattern (.malformed _ _) => .pattern
  | crossedGroup => .internal
  | namelessVariable => .system
  | tooLarge => .overflow
  | noMemory => .memory
  | noSubject => .assertion
  | tooDeep => .recursion

def nodeMessage? : Fault → Option String
  | emptyTag => some "Node requires a nonempty tag"
  | classConflict present given =>
    some ("conflicting class values: " ++ present ++ "; " ++ given)
  | attrValue key kind shown =>
    some ("Invalid attr value type: " ++ key ++ ": " ++ kind ++ "; value: " ++ shown)
  | childValue kind shown => some ("Invalid child type: " ++ kind ++ "; value: " ++ shown)
  | recordTag shown => some ("Node tag must be `str`; received: " ++ shown)
  | recordAttrs shown => some ("Node attrs must be `dict`; received: " ++ shown)
  | recordKey shown => some ("Node attr key must be `str`; received: " ++ shown)
  | recordValue key shown =>
    some ("Node attr value must be `str` or a number; received: " ++ key ++ ": " ++ shown)
  | recordChild shown => some ("Node child must be `str`, `Node`, or `dict`; received: " ++ shown)
  | _ => none

/-- The wording of an error that the interpreter raises, as far as its cause determines it: the
interpreter names the kinds of the values, too, and the called function. -/
def plainWording : Fault → String
  | outOfRange => "index out of range"
  | noAttribute name => "object has no attribute '" ++ name ++ "'"
  | notIterable => "object is not iterable"
  | notCallable => "object is not callable"
  | notIndexable => "object is not subscriptable"
  | notAssignable => "object does not support item assignment"
  | unhashable => "unhashable type"
  | wrongArguments => "wrong arguments"
  | wrongType wanted => "expected " ++ wanted
  | tooFewItems found =>
    "not enough values to unpack (expected 2, got " ++ toString found ++ ")"
  | tooManyItems => "too many values to unpack (expected 2)"
  | badPattern (.malformed reason place) => reason ++ " at position " ++ toString place
  | badPattern .countTooLarge => "the repetition number is too large"
  | badPattern .codeTooLarge => "the code point is too large"
  | badPattern .countTooLong => "Exceeds the limit (4300 digits) for integer string conversion"
  | badPattern .clashingFlags => "ASCII and UNICODE flags are incompatible"
  | badPattern .tooFarBack => "invalid SRE code"
  | crossedGroup =>
    "The span of capturing group is wrong, please report a bug for the re module."
  | badNumber text => "could not convert string to float: " ++ Text.quote text
  | badVariable _ => "illegal environment variable name"
  | namelessVariable => "Invalid argument"
  | tooLarge => "cannot fit 'int' into an index-sized integer"
  | tooDeep => "maximum recursion depth exceeded"
  | _ => ""

def argsIn (wording : Fault → String) : Fault → List Value
  | raised _ args => args
  | noMatch root query => [root, .text query]
  | absentKey key => [key]
  | noMemory | noSubject => []
  | fault => [.text (fault.nodeMessage?.getD (wording fault))]

def args : Fault → List Value := argsIn plainWording

def caught (wording : Fault → String) (fault : Fault) : Fault :=
  raised fault.kind (fault.argsIn wording)

end Fault

end TreeQuery
