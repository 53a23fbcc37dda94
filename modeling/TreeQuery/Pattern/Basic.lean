import TreeQuery.Pattern.Reader
import TreeQuery.Pattern.Search

namespace TreeQuery

inductive Pattern.Source
  | text (s : String)
  | bytes (b : List UInt8)
  deriving DecidableEq, Repr

structure Pattern where
  source : Pattern.Source
  flags : Pattern.Flags
  program : Pattern.Program
  deriving DecidableEq, Repr

namespace Pattern

def bytesAsChars (b : List UInt8) : List Char := b.map fun x => Char.ofNat x.toNat

def Source.isText : Source → Bool
  | text _ => true
  | bytes _ => false

def Source.chars : Source → List Char
  | text s => s.toList
  | bytes b => bytesAsChars b

def compile (source : Source) (flags : Flags) : Except Refusal Pattern := do
  let (program, flags) ← read source.isText flags source.chars
  return ⟨source, flags, program⟩

def find? (p : Pattern) (cs : List Char) : Option Marks :=
  p.program.find? (p.flags.isAscii p.source.isText) cs.toArray

end Pattern

end TreeQuery
