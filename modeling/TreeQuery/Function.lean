import TreeQuery.Script

namespace TreeQuery

/-- A function of the library, as a value that can be stored, compared and called. -/
inductive Function
  -- texts
  | trim | isMatch | abbreviate
  -- nodes
  | canonicalTag | isNode | tagOf | attrsOf | childrenOf | attrSummary | childSummary
  | node | nodeOfRecord | nodeOfElement
  | shown | item | get | items | childNodes | texts | text | className | ident | tag | summarize
  -- searching
  | childrenTagged | childTagged | childWithAttr | childWithClass
  | firstTagged | firstWithAttr | firstWithMatch | firstWithClass | firstWithClassMatch
  | firstWithId | firstWithIdMatch
  -- combining results
  | firstPresent | allPresent | choosePresent
  -- queries
  | step | writtenStep | compile | query | descend
  | run | evaluate | require | expression | steps | trace | combinator | candidates | matcher
  -- diagnostics and settings
  | writeLine | flag | setVariable
  -- checks
  | check | checkShown | checkError | checkItems | checkValue | callOnce | report
  | script (f : ScriptFunction)
  deriving DecidableEq, Repr

namespace Function

def name : Function → String
  | trim => "trim"
  | isMatch => "matches"
  | abbreviate => "repr_lim"
  | canonicalTag => "intern_tag"
  | isNode => "is_node"
  | tagOf => "tag_of"
  | attrsOf => "attrs_of"
  | childrenOf => "children_of"
  | attrSummary => "attr_summary"
  | childSummary => "child_summary"
  | node => "Node"
  | nodeOfRecord => "from_raw"
  | nodeOfElement => "from_etree"
  | shown => "repr"
  | item => "getitem"
  | get => "get"
  | items => "iter"
  | childNodes => "child_nodes"
  | texts => "texts"
  | text => "text"
  | className => "cl"
  | ident => "id"
  | tag => "tag"
  | summarize => "summarize"
  | childrenTagged => "collect_children_by_tag"
  | childTagged => "find_child_by_tag"
  | childWithAttr => "find_child_by_attr"
  | childWithClass => "find_child_by_class"
  | firstTagged => "find_descendant_by_tag"
  | firstWithAttr => "find_descendant_by_attr"
  | firstWithMatch => "find_descendant_by_attr_match"
  | firstWithClass => "find_descendant_by_class"
  | firstWithClassMatch => "find_descendant_by_class_match"
  | firstWithId => "find_descendant_by_id"
  | firstWithIdMatch => "find_descendant_by_id_match"
  | firstPresent => "first_present"
  | allPresent => "all_present"
  | choosePresent => "random_present"
  | step => "mk_step"
  | writtenStep => "fmt_step"
  | compile => "compile_descent"
  | query => "Descent"
  | descend => "descend"
  | run => "run"
  | evaluate => "eval"
  | require => "require"
  | expression => "expand"
  | steps => "steps"
  | trace => "trace"
  | combinator => "combinator"
  | candidates => "candidates"
  | matcher => "step_matcher"
  | writeLine => "errL"
  | flag => "env_flag"
  | setVariable => "setenv"
  | check => "utest"
  | checkShown => "utest_repr"
  | checkError => "utest_exc"
  | checkItems => "utest_seq"
  | checkValue => "utest_val"
  | callOnce => "utest_call"
  | report => "utest_report"
  | script f => f.name

def all : List Function :=
  [trim, isMatch, abbreviate, canonicalTag, isNode, tagOf, attrsOf, childrenOf, attrSummary,
   childSummary, node, nodeOfRecord, nodeOfElement, shown, item, get, items, childNodes, texts,
   text, className, ident, tag, summarize, childrenTagged, childTagged, childWithAttr,
   childWithClass, firstTagged, firstWithAttr, firstWithMatch, firstWithClass,
   firstWithClassMatch, firstWithId, firstWithIdMatch, firstPresent, allPresent, choosePresent,
   step, writtenStep, compile, query, descend, run, evaluate, require, expression, steps, trace,
   combinator, candidates, matcher, writeLine, flag, setVariable, check, checkShown,
   checkError, checkItems, checkValue, callOnce, report] ++ ScriptFunction.all.map script

def ofName? (s : String) : Option Function := all.find? (·.name == s)

def qualifiedName : Function → String
  | nodeOfRecord => "Node.from_raw"
  | nodeOfElement => "Node.from_etree"
  | f => f.name

open Signature in
def signature : Function → Signature
  | trim => fixed ["string"]
  | isMatch => fixed ["pattern", "string"]
  | abbreviate => withOptional ["obj"] ["limit"]
  | canonicalTag => fixed ["name"]
  | isNode => fixed ["obj"]
  | tagOf | attrsOf | childrenOf => fixed ["node"]
  | attrSummary => ⟨needed ["key", "val"], false, needed ["text_limit"], false⟩
  | childSummary => fixed ["child", "text_limit"]
  | node => ⟨[], true, needed ["tag"] ++ omissible ["_", "cl", "attrs"], true⟩
  | nodeOfRecord => fixed ["raw"]
  | nodeOfElement => fixed ["el"]
  | shown | items | childNodes | texts | text | className | ident | tag => fixed ["n"]
  | item => fixed ["n", "key"]
  | get => withOptional ["n", "key"] ["default"]
  | summarize => withOptional ["n"] ["levels", "indent"]
  | childrenTagged | childTagged | firstTagged => fixed ["tag", "node"]
  | childWithAttr | firstWithAttr => fixed ["attr_name", "match_value", "node"]
  | childWithClass | firstWithClass | firstWithId => fixed ["match_value", "node"]
  | firstWithMatch => fixed ["attr_name", "pattern", "node"]
  | firstWithClassMatch | firstWithIdMatch => fixed ["pattern", "node"]
  | firstPresent | allPresent => collecting []
  | choosePresent => collecting ["rng"]
  | step | writtenStep | combinator | candidates => fixed ["step"]
  | compile | query => withOptional ["steps"] ["trace"]
  | descend => ⟨needed ["root"], true, omissible ["trace"], false⟩
  | run | require => fixed ["q", "root"]
  | evaluate => fixed ["q", "root_fn"]
  | expression => withOptional ["q"] ["root_expr"]
  | steps | trace => fixed ["q"]
  | matcher => fixed ["attr"]
  | writeLine => collecting ["sep", "flush"]
  | flag => fixed ["key"]
  | setVariable => fixed ["name", "value"]
  | check => checking "exp"
  | checkShown => checking "exp_repr"
  | checkError => checking "exp_exc"
  | checkItems => checking "exp_seq"
  | checkValue => withOptional ["exp_val", "act_val"] ["desc"]
  | callOnce => fixed ["callable"]
  | report => fixed []
  | script f => f.signature

end Function

end TreeQuery
