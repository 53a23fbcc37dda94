import TreeQuery.Proofs.Discovery.Lookup
import Mathlib.Data.List.Nodup
import Mathlib.Data.List.Lex
import Mathlib.Data.List.Count
import Mathlib.Data.String.Basic

/-! The runs of the test files that some arguments stand for: which paths are run how often, in
which order, and what comes of it. -/

namespace TreeQuery

namespace Path

theorem textLe_iff {s t : String} : textLe s t = true ↔ s ≤ t := by
  have less : (t.toList.lex s.toList fun c d => decide (c < d)) = true ↔ t < s := by
    rw [List.lex_eq_true_iff_lex, String.lt_iff_toList_lt]
    simp only [decide_eq_true_eq]
    rfl
  rw [← not_lt, ← less, textLe]
  simp

theorem keyLe_iff {ss ts : List String} : keyLe ss ts = true ↔ ss ≤ ts := by
  rw [← not_lt]
  induction ss generalizing ts with
  | nil => simp [keyLe]
  | cons s ss ih =>
    cases ts with
    | nil => simp [keyLe]
    | cons t ts =>
      rw [List.cons_lt_cons_iff, keyLe]
      by_cases same : s = t
      · subst same
        simp [ih]
      · have other : ¬ t = s := fun h => same h.symm
        rw [if_neg same, textLe_iff, ← not_lt]
        simp only [other, false_and, or_false]

theorem le_iff {p q : Path} : p.le q = true ↔ p.key ≤ q.key := keyLe_iff

theorem eq_of_names {p q : Path} (roots : p.root = q.root) (names : p.names = q.names) :
    p = q := by
  have parts : p.parts = q.parts := List.map_injective_iff.mpr Subtype.val_injective names
  cases p
  cases q
  cases roots
  cases parts
  rfl

theorem slash_mem_text {root : Root} (given : root ≠ .working) : '/' ∈ root.text.toList := by
  cases root with
  | working => exact absurd rfl given
  | top => decide
  | doubled => decide

-- A root is never taken for a component, which has no slash.
theorem names_ne_cons {p : Path} {root : Root} {names : List String} (given : root ≠ .working) :
    p.names ≠ root.text :: names := by
  intro same
  have first : root.text ∈ p.names := same ▸ List.mem_cons_self
  obtain ⟨name, _, text⟩ := List.mem_map.mp first
  exact name.2 (text ▸ slash_mem_text given)

theorem text_injective {r s : Root} (same : r.text = s.text) : r = s := by
  cases r <;> cases s <;> first | rfl | exact absurd same (by decide)

theorem key_injective {p q : Path} (same : p.key = q.key) : p = q := by
  unfold key at same
  by_cases bare : p.root = .working
  · by_cases bare' : q.root = .working
    · rw [if_pos bare, if_pos bare'] at same
      exact eq_of_names (bare.trans bare'.symm) same
    · rw [if_pos bare, if_neg bare'] at same
      exact absurd same (names_ne_cons bare')
  · by_cases bare' : q.root = .working
    · rw [if_neg bare, if_pos bare'] at same
      exact absurd same.symm (names_ne_cons bare)
    · rw [if_neg bare, if_neg bare'] at same
      obtain ⟨roots, names⟩ := List.cons.inj same
      exact eq_of_names (text_injective roots) names

theorem le_of_le_of_le (p q r : Path) (first : p.le q) (second : q.le r) : p.le r :=
  le_iff.mpr ((le_iff.mp first).trans (le_iff.mp second))

theorem le_or_le (p q : Path) : p.le q || q.le p := by
  rw [Bool.or_eq_true, le_iff, le_iff]
  exact le_total p.key q.key

end Path

namespace ArgumentKind

theorem ofString_of_head {arg : String} (plain : arg.toList.head? ≠ some '-') :
    ofString arg = .path := by
  unfold ofString ofChars
  split
  · simp_all
  · simp_all
  · simp_all
  · rfl

end ArgumentKind

namespace Request

def asked (args : List String) : List String := if args = [] then usualPaths else args

theorem asked_perm {args args' : List String} (perm : args.Perm args') :
    (asked args).Perm (asked args') := by
  unfold asked
  by_cases none : args = []
  · subst none
    rw [List.nil_perm.mp perm]
  · have some : args' ≠ [] := by
      rintro rfl
      exact none perm.eq_nil
    rwa [if_neg none, if_neg some]

theorem read_paths {args : List String} (plain : ∀ arg ∈ args, arg.toList.head? ≠ some '-')
    (found : List String) : read found false args = paths (found ++ args) := by
  induction args generalizing found with
  | nil => simp [read]
  | cons arg args ih =>
    have head := plain arg List.mem_cons_self
    have rest : ∀ arg ∈ args, arg.toList.head? ≠ some '-' :=
      fun arg member => plain arg (List.mem_cons_of_mem _ member)
    have goes : arg ≠ endOfOptions := by
      rintro rfl
      exact head rfl
    simp [read, goes, ArgumentKind.ofString_of_head head, ih rest]

theorem ofArguments_paths {args : List String}
    (plain : ∀ arg ∈ args, arg.toList.head? ≠ some '-') :
    ofArguments args = paths (asked args) := by
  unfold ofArguments
  rw [read_paths plain []]
  cases args <;> rfl

end Request

namespace Host

theorem nodup_eraseDups {α : Type} [BEq α] [LawfulBEq α] (xs : List α) : xs.eraseDups.Nodup := by
  match xs with
  | [] => simp
  | x :: xs =>
    rw [List.eraseDups_cons, List.nodup_cons]
    constructor
    · simp [List.mem_eraseDups]
    · exact nodup_eraseDups (xs.filter fun y => !y == x)
termination_by xs.length
decreasing_by exact Nat.lt_succ_of_le (List.length_filter_le _ _)

variable {h : Host} {arg : String} {p q : Path} {fault : HostFault}

def Untold (h : Host) (p : Path) (fault : HostFault) : Prop :=
  '\x00' ∉ p.toString.toList ∧ h.stat p = .error fault ∧ fault.isAbsence = false

/-- Looking for what a path stands for meets a refusal. -/
def Refuses (h : Host) (p : Path) (fault : HostFault) : Prop :=
  h.Untold p fault ∨ h.Is .directory p ∧ h.Unreadable fault p

/-- The paths that an argument stands for: itself if it is a file, and otherwise whatever is
strictly below it under a name with the ending of test files. -/
def Yields (h : Host) (arg : String) (p : Path) : Prop :=
  h.Is .file (.ofString arg) ∧ p = .ofString arg ∨
    h.Is .directory (.ofString arg) ∧ h.Below (.ofString arg) p ∧ p.IsTest

open Classical in
noncomputable def timesYielded (h : Host) (args : List String) (p : Path) : Nat :=
  args.countP fun arg => decide (h.Yields arg p)

theorem not_untold_of_is {kind : FileKind} (is : h.Is kind p) : ¬ h.Untold p fault := by
  rintro ⟨_, refused, _⟩
  cases is.2.symm.trans refused

theorem is_unique {kind kind' : FileKind} (is : h.Is kind p) (is' : h.Is kind' p) :
    kind = kind' := Except.ok.inj (is.2.symm.trans is'.2)

theorem isKind_error {kind : FileKind} (refused : h.isKind kind p = .error fault) :
    h.Untold p fault := by
  unfold isKind at refused
  split at refused
  · cases refused
  · next nullless =>
    split at refused
    · cases refused
    · next fault' unanswered =>
      split at refused
      · cases refused
      · next present =>
        cases refused
        exact ⟨nullless, unanswered, by simpa using present⟩

theorem isKind_ok {kind : FileKind} {answer : Bool} (told : h.isKind kind p = .ok answer) :
    (answer = true ↔ h.Is kind p) ∧ ∀ fault, ¬ h.Untold p fault := by
  unfold isKind at told
  split at told
  · next null =>
    cases told
    exact ⟨⟨nofun, fun is => absurd null is.1⟩, fun fault untold => untold.1 null⟩
  · next nullless =>
    split at told
    · next found answered =>
      cases told
      have is : h.Is found p := ⟨nullless, answered⟩
      refine ⟨?_, fun fault => not_untold_of_is is⟩
      rw [beq_iff_eq]
      exact ⟨fun same => same ▸ is, is_unique is⟩
    · next fault unanswered =>
      split at told
      · next absence =>
        cases told
        refine ⟨⟨nofun, ?_⟩, ?_⟩
        · intro is
          cases is.2.symm.trans unanswered
        · rintro fault' ⟨_, refused, present⟩
          cases unanswered.symm.trans refused
          cases absence.symm.trans present
      · cases told

/-- Everything below a directory is found once, unless the system refuses. -/
theorem testsBelow_ends (h : Host) (p : Path) :
    (∃ ps, h.testsBelow p = .ok ps ∧ ps.Nodup ∧
        (∀ q, q ∈ ps ↔ h.Is .directory p ∧ h.Below p q ∧ q.IsTest) ∧
        ∀ fault, ¬ h.Refuses p fault) ∨
      ∃ fault, h.testsBelow p = .error fault ∧ h.Refuses p fault := by
  unfold testsBelow isDirectory
  rcases told : h.isKind .directory p with fault | _ | _
  · exact .inr ⟨fault, rfl, .inl (isKind_error told)⟩
  · obtain ⟨is, answered⟩ := isKind_ok told
    have not : ¬ h.Is .directory p := fun directory => Bool.noConfusion (is.mpr directory)
    refine .inl ⟨[], rfl, List.nodup_nil, fun q => by simp [not], ?_⟩
    rintro fault (untold | ⟨directory, _⟩)
    · exact answered fault untold
    · exact not directory
  · obtain ⟨is, answered⟩ := isKind_ok told
    have directory := is.mp rfl
    rcases h.walk_ends p with ⟨found, done, walked⟩ | ⟨fault, stopped, unreadable⟩
    · refine .inl ⟨found.eraseDups, by rw [done]; rfl, nodup_eraseDups found, ?_, ?_⟩
      · intro q
        rw [List.mem_eraseDups, walked.found q]
        simp [directory]
      · rintro fault (untold | ⟨_, unreadable⟩)
        · exact answered fault untold
        · exact walked.readable fault unreadable
    · exact .inr ⟨fault, by rw [stopped]; rfl, .inr ⟨directory, unreadable⟩⟩

end Host

namespace TestRun

variable {h : Host} {arg : String} {args args' : List String}

/-- One argument selects just what it stands for, each path once, unless the system refuses. -/
theorem selected_ends (h : Host) (arg : String) :
    (∃ ps, selected h arg = .ok ps ∧ ps.Nodup ∧ (∀ p, p ∈ ps ↔ h.Yields arg p) ∧
        ∀ fault, ¬ h.Refuses (.ofString arg) fault) ∨
      ∃ fault, selected h arg = .error fault ∧ h.Refuses (.ofString arg) fault := by
  simp only [selected, Host.isFile]
  rcases told : h.isKind .file (.ofString arg) with fault | _ | _
  · exact .inr ⟨fault, rfl, .inl (Host.isKind_error told)⟩
  · obtain ⟨is, _⟩ := Host.isKind_ok told
    have not : ¬ h.Is .file (.ofString arg) := fun file => Bool.noConfusion (is.mpr file)
    rcases h.testsBelow_ends (.ofString arg) with ⟨ps, found, once, members, free⟩ | refused
    · refine .inl ⟨ps, found, once, ?_, free⟩
      intro p
      rw [members p, Host.Yields]
      simp [not]
    · exact .inr refused
  · obtain ⟨is, answered⟩ := Host.isKind_ok told
    have file := is.mp rfl
    have other : ¬ h.Is .directory (.ofString arg) :=
      fun directory => FileKind.noConfusion (Host.is_unique file directory)
    refine .inl ⟨[.ofString arg], rfl, List.nodup_singleton _, ?_, ?_⟩
    · intro p
      rw [List.mem_singleton, Host.Yields]
      simp [file, other]
    · rintro fault (untold | ⟨directory, _⟩)
      · exact answered fault untold
      · exact other directory

theorem selected_ok {ps : List Path} (chosen : selected h arg = .ok ps) :
    ps.Nodup ∧ (∀ p, p ∈ ps ↔ h.Yields arg p) ∧ ∀ fault, ¬ h.Refuses (.ofString arg) fault := by
  rcases selected_ends h arg with ⟨ps', chosen', facts⟩ | ⟨fault, refused, _⟩
  · cases chosen.symm.trans chosen'
    exact facts
  · cases chosen.symm.trans refused

theorem selected_error {fault : HostFault} (refused : selected h arg = .error fault) :
    h.Refuses (.ofString arg) fault := by
  rcases selected_ends h arg with ⟨ps, chosen, _⟩ | ⟨fault', refused', refuses⟩
  · cases refused.symm.trans chosen
  · cases refused.symm.trans refused'
    exact refuses

open Classical in
/-- Taken together, the arguments select each path as often as there are some that stand for
it. -/
theorem count_flatten {lists : List (List Path)}
    (each : List.Forall₂ (fun arg ps => selected h arg = .ok ps) args lists) (p : Path) :
    lists.flatten.count p = h.timesYielded args p := by
  induction each with
  | nil => rfl
  | @cons arg ps args lists chosen _ ih =>
    obtain ⟨once, members, _⟩ := selected_ok chosen
    have here : ps.count p = if h.Yields arg p then 1 else 0 := by
      by_cases yields : h.Yields arg p
      · rw [if_pos yields]
        exact List.count_eq_one_of_mem once ((members p).mpr yields)
      · rw [if_neg yields]
        exact List.count_eq_zero_of_not_mem fun member => yields ((members p).mp member)
    rw [List.flatten_cons, List.count_append, ih, here]
    simp [Host.timesYielded, List.countP_cons, Nat.add_comm]

def printed (h : Host) (p : Path) : String :=
  p.toString ++ "\n" ++ if h.run p = 0 then "" else "\n"

theorem add_eq (h : Host) (done : TestRun) (p : Path) :
    add h done p = ⟨if h.run p = 0 then done.exitCode else 1, done.ran ++ [p.toString],
      done.output ++ printed h p⟩ := by
  unfold add printed
  split <;> simp [String.append_assoc]

/-- No failure ends a run, and none is forgotten. -/
theorem foldl_add (h : Host) (done : TestRun) (paths : List Path) :
    paths.foldl (add h) done =
      ⟨if ∀ p ∈ paths, h.run p = 0 then done.exitCode else 1,
        done.ran ++ paths.map Path.toString,
        done.output ++ String.join (paths.map (printed h))⟩ := by
  induction paths generalizing done with
  | nil => simp
  | cons p paths ih =>
    rw [List.foldl_cons, ih, add_eq]
    by_cases well : h.run p = 0
    · simp [well, String.append_assoc]
    · simp [well, String.append_assoc]

/-- What comes of running paths: all of them are run, those that an argument stands for once for
each such argument, in the order of their components; each is printed, with an empty line behind
one that failed, and the exit code tells whether one did. -/
structure Covers (h : Host) (args : List String) (run : TestRun) (paths : List Path) : Prop where
  ran : run.ran = paths.map Path.toString
  counts : ∀ p, paths.count p = h.timesYielded args p
  ascending : paths.Pairwise fun p q => p.key ≤ q.key
  output : run.output = String.join (paths.map fun p =>
    p.toString ++ "\n" ++ if h.run p = 0 then "" else "\n")
  exitCode : run.exitCode = if ∀ p ∈ paths, h.run p = 0 then 0 else 1

theorem covers_mergeSort {lists : List (List Path)}
    (each : List.Forall₂ (fun arg ps => selected h arg = .ok ps) args lists) :
    Covers h args ((lists.flatten.mergeSort Path.le).foldl (add h) {})
      (lists.flatten.mergeSort Path.le) where
  ran := by simp [foldl_add]
  counts p := by
    rw [← count_flatten each p]
    exact (List.mergeSort_perm _ _).count_eq p
  ascending := by
    have sorted := List.pairwise_mergeSort Path.le_of_le_of_le Path.le_or_le lists.flatten
    exact sorted.imp Path.le_iff.mp
  output := by
    rw [foldl_add]
    exact String.empty_append
  exitCode := by rw [foldl_add]

/-- The arguments are looked up in order before anything is run, up to one that is refused. -/
theorem ofPaths_ends (h : Host) (args : List String) :
    (∃ run paths, ofPaths h args = .ok run ∧ Covers h args run paths ∧
        ∀ arg ∈ args, ∀ fault, ¬ h.Refuses (.ofString arg) fault) ∨
      ∃ arg ∈ args, ∃ fault, ofPaths h args = .error fault ∧ h.Refuses (.ofString arg) fault := by
  unfold ofPaths schedule
  rcases Except.mapM_ends (selected h) args with
    ⟨lists, done, each⟩ | ⟨arg, member, fault, refused, stopped⟩
  · refine .inl ⟨_, _, by rw [done]; rfl, covers_mergeSort each, ?_⟩
    intro arg member
    obtain ⟨ps, chosen⟩ := Except.ok_of_mem each member
    exact (selected_ok chosen).2.2
  · exact .inr ⟨arg, member, fault, by rw [stopped]; rfl, selected_error refused⟩

namespace Covers

variable {run run' : TestRun} {paths paths' : List Path}

/-- The order of the arguments plays no part. -/
theorem eq_of_perm (covers : Covers h args run paths) (covers' : Covers h args' run' paths')
    (perm : args.Perm args') : run = run' := by
  have counts : paths.Perm paths' := by
    rw [List.perm_iff_count]
    intro p
    rw [covers.counts, covers'.counts]
    exact perm.countP_eq _
  have same : paths = paths' := by
    refine List.Perm.eq_of_pairwise ?_ covers.ascending covers'.ascending counts
    intro p q _ _ le ge
    exact Path.key_injective (le_antisymm le ge)
  subst same
  have ran := covers.ran.trans covers'.ran.symm
  have output := covers.output.trans covers'.output.symm
  have exitCode := covers.exitCode.trans covers'.exitCode.symm
  cases run
  cases run'
  simp_all

end Covers

theorem ofArguments_eq (plain : ∀ arg ∈ args, arg.toList.head? ≠ some '-') :
    ofArguments h args = ofPaths h (Request.asked args) := by
  rw [ofArguments, Request.ofArguments_paths plain]

-- The arguments in another order may be refused at another one of them.
theorem ofPaths_perm (perm : args.Perm args') :
    (∀ run, ofPaths h args = .ok run → ofPaths h args' = .ok run) ∧
      ∀ fault, ofPaths h args = .error fault →
        ∃ arg ∈ args, ∃ fault', ofPaths h args' = .error fault' ∧
          h.Refuses (.ofString arg) fault' := by
  rcases ofPaths_ends h args with ⟨run, paths, done, covers, free⟩ | ⟨arg, member, _, refused, bad⟩
  · rcases ofPaths_ends h args' with
      ⟨run', paths', done', covers', _⟩ | ⟨arg, member, fault, _, bad⟩
    · rw [done, done', covers.eq_of_perm covers' perm]
      exact ⟨fun _ same => same, nofun⟩
    · exact absurd bad (free arg (perm.mem_iff.mpr member) fault)
  · rcases ofPaths_ends h args' with ⟨_, _, _, _, free⟩ | ⟨arg', member', fault', refused', bad'⟩
    · exact absurd bad (free arg (perm.mem_iff.mp member) _)
    · rw [refused]
      exact ⟨nofun, fun _ _ => ⟨arg', perm.mem_iff.mpr member', fault', refused', bad'⟩⟩

/-- Arguments that are no options are paths. Unless the system refuses something that they ask
for, everything that they stand for is run; if it refuses, one of its refusals ends the program
before anything is run. The order of the arguments plays no part in either. -/
theorem runs_what_is_asked_for (h : Host) (args : List String)
    (plain : ∀ arg ∈ args, arg.toList.head? ≠ some '-') :
    ((∀ arg ∈ Request.asked args, ∀ fault, ¬ h.Refuses (.ofString arg) fault) →
      ∃ run paths, ofArguments h args = .ok run ∧ Covers h (Request.asked args) run paths) ∧
    ((∃ arg ∈ Request.asked args, ∃ fault, h.Refuses (.ofString arg) fault) →
      ∃ arg ∈ Request.asked args, ∃ fault, ofArguments h args = .error fault ∧
        h.Refuses (.ofString arg) fault) ∧
    ∀ args', args.Perm args' →
      (∀ run, ofArguments h args = .ok run → ofArguments h args' = .ok run) ∧
        ∀ fault, ofArguments h args = .error fault →
          ∃ arg ∈ Request.asked args, ∃ fault', ofArguments h args' = .error fault' ∧
            h.Refuses (.ofString arg) fault' := by
  rw [ofArguments_eq plain]
  refine ⟨?_, ?_, ?_⟩
  · intro free
    rcases ofPaths_ends h (Request.asked args) with
      ⟨run, paths, done, covers, _⟩ | ⟨arg, member, fault, _, bad⟩
    · exact ⟨run, paths, done, covers⟩
    · exact absurd bad (free arg member fault)
  · rintro ⟨arg, member, fault, bad⟩
    rcases ofPaths_ends h (Request.asked args) with ⟨_, _, _, _, free⟩ | stopped
    · exact absurd bad (free arg member fault)
    · exact stopped
  -- No reordering makes an option of a path.
  · intro args' perm
    have plain' : ∀ arg ∈ args', arg.toList.head? ≠ some '-' :=
      fun arg member => plain arg (perm.mem_iff.mpr member)
    rw [ofArguments_eq plain']
    exact ofPaths_perm (Request.asked_perm perm)

def smallTree : FileTree where
  items := [("/home/test/b.ut.py", FileKind.file), ("/home/test/a.ut.py", .file),
    ("/home/test/x.ut.py", .directory), ("/home/locked/c.ut.py", .file)].map
      fun item => ((Path.ofString item.1).parts, item.2)
  working := (Path.ofString "/home").parts
  closed place := if place = (Path.ofString "/home/locked").parts then some .denied else none

def smallHost : Host := smallTree.host fun p => if p.toString = "test/x.ut.py" then 1 else 0

theorem smallHost_test_readable (fault : HostFault) :
    ¬ smallHost.Unreadable fault (.ofString "test") := by
  intro unreadable
  have scanned : smallHost.scan (.ofString "test") =
      .ok (smallTree.listed (Path.ofString "/home/test").parts) := rfl
  have only : ∀ item ∈ smallTree.listed (Path.ofString "/home/test").parts,
      item.isDirectory = true →
        (Path.ofString "test").child item.name = .ofString "test/x.ut.py" := by decide
  have empty : smallHost.scan (.ofString "test/x.ut.py") = .ok [] := rfl
  obtain ⟨item, member, directory, below⟩ := (Host.unreadable_iff scanned).mp unreadable
  rw [only item member directory] at below
  obtain ⟨_, none, _⟩ := (Host.unreadable_iff empty).mp below
  cases none

theorem smallHost_runs :
    (∃ run paths, ofArguments smallHost ["test", "/home/test/b.ut.py"] = .ok run ∧
      Covers smallHost ["test", "/home/test/b.ut.py"] run paths) ∧
    (∃ arg ∈ ["test", "locked/c.ut.py"], ∃ fault,
      ofArguments smallHost ["test", "locked/c.ut.py"] = .error fault ∧
        smallHost.Refuses (.ofString arg) fault) ∧
    ∀ run, ofArguments smallHost ["test", "/home/test/b.ut.py"] = .ok run →
      ofArguments smallHost ["/home/test/b.ut.py", "test"] = .ok run := by
  have plain : ∀ arg ∈ ["test", "/home/test/b.ut.py"], arg.toList.head? ≠ some '-' := by decide
  have plain' : ∀ arg ∈ ["test", "locked/c.ut.py"], arg.toList.head? ≠ some '-' := by decide
  have directory : smallHost.Is .directory (.ofString "test") := ⟨by decide, rfl⟩
  have file : smallHost.Is .file (.ofString "/home/test/b.ut.py") := ⟨by decide, rfl⟩
  have free : ∀ arg ∈ ["test", "/home/test/b.ut.py"], ∀ fault,
      ¬ smallHost.Refuses (.ofString arg) fault := by
    intro arg member fault
    rcases List.mem_pair.mp member with rfl | rfl
    · rintro (untold | ⟨_, unreadable⟩)
      · exact Host.not_untold_of_is directory untold
      · exact smallHost_test_readable fault unreadable
    · rintro (untold | ⟨directory, _⟩)
      · exact Host.not_untold_of_is file untold
      · exact FileKind.noConfusion (Host.is_unique file directory)
  have denied : smallHost.Refuses (.ofString "locked/c.ut.py") .denied :=
    .inl ⟨by decide, rfl, rfl⟩
  obtain ⟨runs, _, perm⟩ := runs_what_is_asked_for smallHost ["test", "/home/test/b.ut.py"] plain
  obtain ⟨_, refuses, _⟩ := runs_what_is_asked_for smallHost ["test", "locked/c.ut.py"] plain'
  refine ⟨runs free, refuses ⟨_, by decide, .denied, denied⟩, ?_⟩
  exact (perm _ (List.Perm.swap _ _ _)).1

def sealedTree : FileTree where
  items := [((Path.ofString "/home/test/a.ut.py").parts, FileKind.file)]
  working := (Path.ofString "/home").parts
  hidden place := if place = (Path.ofString "/home/test").parts then some .denied else none

theorem sealedTree_passed_over (run : Path → Int) :
    ofArguments (sealedTree.host run) ["test"] = .ok {} := by
  have denied : (sealedTree.host run).scan (.ofString "test") = .error .denied := rfl
  have none : (sealedTree.host run).walk (.ofString "test") = .ok [] := by
    rw [Host.walk]
    split
    · next fault refused =>
      cases denied.symm.trans refused
      rfl
    · next scanned => cases denied.symm.trans scanned
  have file : (sealedTree.host run).isFile (.ofString "test") = .ok false := rfl
  have directory : (sealedTree.host run).isDirectory (.ofString "test") = .ok true := rfl
  have chosen : selected (sealedTree.host run) "test" = .ok [] := by
    simp only [selected, Host.testsBelow, file, directory, none]
    rfl
  have nothing : schedule (sealedTree.host run) ["test"] = .ok [] := by
    simp [schedule, chosen, bind, Except.bind, pure, Except.pure]
  have plain : ∀ arg ∈ ["test"], arg.toList.head? ≠ some '-' := by decide
  have asked : Request.asked ["test"] = ["test"] := rfl
  rw [ofArguments_eq plain, asked, ofPaths, nothing]
  rfl

/-- Where there is nothing at all, a name that is too long is not passed over; but a directory that
must not be read is, with the test file in it. -/
theorem overlong_name_stops_and_denial_hides :
    ((∀ arg ∈ [(Path.nameOfSize 256).1], arg.toList.head? ≠ some '-') ∧
      ¬ ∃ run paths, ofArguments ([] : Listing) [(Path.nameOfSize 256).1] = .ok run ∧
        Covers ([] : Listing) [(Path.nameOfSize 256).1] run paths) ∧
    sealedTree.Holds (Path.ofString "/home/test/a.ut.py").parts ∧
      ofArguments (sealedTree.host fun _ => 0) ["test"] = .ok {} := by
  have plain : ∀ arg ∈ [(Path.nameOfSize 256).1], arg.toList.head? ≠ some '-' := by
    intro arg member
    rw [List.mem_singleton.mp member]
    exact Path.head_nameOfSize 256
  have long : FileTree.longestName < (Path.nameOfSize 256).1.utf8ByteSize := by
    rw [Path.utf8ByteSize_nameOfSize]
    decide
  obtain ⟨some, other⟩ := FileTree.ne_of_long long
  have refused : Host.Refuses ([] : Listing) (.ofString (Path.nameOfSize 256).1) .tooLong := by
    refine .inl ⟨?_, FileTree.stat_of_long (Listing.tree []) rfl long, rfl⟩
    rw [Path.toString_ofString_name _ some other]
    exact Path.not_mem_nameOfSize (by decide) 256
  refine ⟨⟨plain, ?_⟩, ⟨_, List.mem_cons_of_mem _ List.mem_cons_self, List.prefix_refl _⟩,
    sealedTree_passed_over _⟩
  rintro ⟨run, paths, done, _⟩
  rw [ofArguments_eq plain] at done
  rcases ofPaths_ends ([] : Listing) (Request.asked [(Path.nameOfSize 256).1]) with
    ⟨_, _, _, _, free⟩ | ⟨_, _, _, stopped, _⟩
  · exact free _ List.mem_cons_self .tooLong refused
  · cases done.symm.trans stopped

end TestRun

end TreeQuery
