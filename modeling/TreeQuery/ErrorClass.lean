namespace TreeQuery

inductive ErrorClass
  | base | interrupt | exit | generatorExit
  | general | arithmetic | floatingPoint | overflow | zeroDivision
  | assertion | noAttribute | buffer | endOfFile | importing | moduleAbsent
  | lookup | index | key | noMatch
  | memory | unboundName | unboundLocal | system | fileAbsent | permission | timeout
  | reference | runtime | notImplemented | recursion
  | stopIteration | stopAsyncIteration | grammar | internal | type
  | value | unicode | pattern | warning
  deriving DecidableEq, Repr

namespace ErrorClass

def name : ErrorClass → String
  | base => "BaseException"
  | interrupt => "KeyboardInterrupt"
  | exit => "SystemExit"
  | generatorExit => "GeneratorExit"
  | general => "Exception"
  | arithmetic => "ArithmeticError"
  | floatingPoint => "FloatingPointError"
  | overflow => "OverflowError"
  | zeroDivision => "ZeroDivisionError"
  | assertion => "AssertionError"
  | noAttribute => "AttributeError"
  | buffer => "BufferError"
  | endOfFile => "EOFError"
  | importing => "ImportError"
  | moduleAbsent => "ModuleNotFoundError"
  | lookup => "LookupError"
  | index => "IndexError"
  | key => "KeyError"
  | noMatch => "NoMatchError"
  | memory => "MemoryError"
  | unboundName => "NameError"
  | unboundLocal => "UnboundLocalError"
  | system => "OSError"
  | fileAbsent => "FileNotFoundError"
  | permission => "PermissionError"
  | timeout => "TimeoutError"
  | reference => "ReferenceError"
  | runtime => "RuntimeError"
  | notImplemented => "NotImplementedError"
  | recursion => "RecursionError"
  | stopIteration => "StopIteration"
  | stopAsyncIteration => "StopAsyncIteration"
  | grammar => "SyntaxError"
  | internal => "SystemError"
  | type => "TypeError"
  | value => "ValueError"
  | unicode => "UnicodeError"
  | pattern => "error"
  | warning => "Warning"

def publicName : ErrorClass → String
  | pattern => "re.error"
  | c => c.name

def fullName : ErrorClass → String
  | noMatch => "descend.exceptions.NoMatchError"
  | c => c.publicName

def all : List ErrorClass :=
  [base, interrupt, exit, generatorExit, general, arithmetic, floatingPoint, overflow,
   zeroDivision, assertion, noAttribute, buffer, endOfFile, importing, moduleAbsent, lookup, index,
   key, noMatch, memory, unboundName, unboundLocal, system, fileAbsent, permission, timeout,
   reference, runtime, notImplemented, recursion, stopIteration, stopAsyncIteration, grammar,
   internal, type, value, unicode, pattern, warning]

def ofName? (s : String) : Option ErrorClass := all.find? (·.publicName == s)

def parent? : ErrorClass → Option ErrorClass
  | base => none
  | interrupt | exit | generatorExit | general => some base
  | floatingPoint | overflow | zeroDivision => some arithmetic
  | moduleAbsent => some importing
  | index | key => some lookup
  | noMatch => some key
  | unboundLocal => some unboundName
  | fileAbsent | permission | timeout => some system
  | notImplemented | recursion => some runtime
  | unicode => some value
  | _ => some general

def depth : Nat := 6

def isWithin : Nat → ErrorClass → ErrorClass → Bool
  | 0, c, d => c == d
  | fuel + 1, c, d => c == d || (c.parent?.map fun p => isWithin fuel p d).getD false

def isA (c d : ErrorClass) : Bool := isWithin depth c d

end ErrorClass

end TreeQuery
