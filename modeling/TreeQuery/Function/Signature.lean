namespace TreeQuery.Function

structure Parameter where
  name : String
  optional : Bool
  deriving DecidableEq, Repr

/-- What a function accepts: parameters filled by place or name, whether further places are
collected, parameters filled by name only, and whether further names are collected. -/
structure Signature where
  places : List Parameter
  rest : Bool
  named : List Parameter
  extra : Bool

namespace Signature

def needed (names : List String) : List Parameter := names.map (⟨·, false⟩)
def omissible (names : List String) : List Parameter := names.map (⟨·, true⟩)

def fixed (names : List String) : Signature := ⟨needed names, false, [], false⟩
def withOptional (names others : List String) : Signature :=
  ⟨needed names ++ omissible others, false, [], false⟩
def collecting (named : List String) : Signature := ⟨[], true, omissible named, false⟩
def checking (expected : String) : Signature :=
  ⟨needed [expected, "fn"], true, omissible ["_utest_depth"], true⟩

end Signature

end TreeQuery.Function
