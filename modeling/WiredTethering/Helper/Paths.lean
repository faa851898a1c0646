import Mathlib.Data.List.Infix
import WiredTethering.Text.Components

/-!
# The paths that the helper accepts

`HelperSecurity.isAllowedIPCPath`, which the helper asks before it opens a socket or a log
for a client.  Paths are sequences of scalars; what the file system says about a path is a
parameter.
-/

namespace WiredTethering.Helper

open WiredTethering.Text

/-- The answers of the file system. -/
structure FileSystem where
  /-- `fileExists(atPath:isDirectory:)`: nothing, or whether it is a directory. -/
  fileExists : List Char → Option Bool
  /-- `resolvingSymlinksInPath()`. -/
  resolvingSymlinksInPath : List Char → List Char

/-- `contains` of a string. -/
def contains (path part : List Char) : Bool :=
  path.tails.any part.isPrefixOf

def hasPrefix (path front : List Char) : Bool :=
  front.isPrefixOf path

def hasSuffix (path suffix : List Char) : Bool :=
  suffix.isSuffixOf path

def allowedPrefixes : List (List Char) :=
  ["/var/folders/".toList, "/private/var/folders/".toList, "/tmp/".toList,
    "/private/tmp/".toList]

/-- `HelperSecurity.hasAllowedTempPrefix`. -/
def hasAllowedTempPrefix (path : List Char) : Bool :=
  allowedPrefixes.any (hasPrefix path)

/-- `HelperSecurity.isAllowedIPCPath`. -/
def isAllowedIPCPath (files : FileSystem) (path suffix : List Char) : Bool :=
  if path.isEmpty || contains path ['\x00'] then false
  else if !hasPrefix path ['/'] then false
  else if contains path "/../".toList || hasSuffix path "/..".toList ||
      contains path "//".toList then false
  else if !hasSuffix path suffix then false
  else if 512 < path.length then false
  else if !hasAllowedTempPrefix path then false
  else
    match files.fileExists path with
    | none => true
    | some isDir =>
        if isDir then false
        else
          let resolved := files.resolvingSymlinksInPath path
          if contains resolved "/../".toList || !hasAllowedTempPrefix resolved then false
          else hasSuffix resolved suffix

/-! ## Paths and their names -/

/-- The components of a path. -/
def components (path : List Char) : List (List Char) :=
  path.splitOn '/'

/-- The path without its `.` components. -/
def withoutDots (path : List Char) : List Char :=
  ['/'].intercalate ((components path).filter (· ≠ ['.']))

/-- The temporary trees. -/
def tempRoots : List (List Char) :=
  ["/var/folders".toList, "/private/var/folders".toList, "/tmp".toList, "/private/tmp".toList]

theorem allowedPrefixes_eq : allowedPrefixes = tempRoots.map (· ++ ['/']) := by
  decide

/-- A component that is the name of a file or a directory. -/
structure IsName (name : List Char) : Prop where
  some_ : name ≠ []
  dot : name ≠ ['.']
  dotdot : name ≠ ['.', '.']
  slash : '/' ∉ name

/-- The path leads from `root` down the names. -/
structure Leads (root : List Char) (names : List (List Char)) (path : List Char) : Prop where
  areNames : ∀ name ∈ names, IsName name
  whole : path = root ++ names.flatMap ('/' :: ·)

/-- What the check ensures of a path, whatever the file system answers. -/
structure Checked (path suffix : List Char) : Prop where
  absolute : hasPrefix path ['/'] = true
  parent : contains path "/../".toList = false
  parentEnd : hasSuffix path "/..".toList = false
  empty : contains path "//".toList = false
  ends : suffix <:+ path
  root : ∃ root ∈ tempRoots, root ++ ['/'] <+: path

theorem checked_of_isAllowed {files : FileSystem} {path suffix : List Char}
    (allowed : isAllowedIPCPath files path suffix = true) : Checked path suffix := by
  rw [isAllowedIPCPath] at allowed
  split_ifs at allowed with empty absolute parents ends long root
  simp only [Bool.or_eq_true, not_or, Bool.not_eq_true, Bool.not_eq_eq_eq_not, Bool.not_true,
    Bool.not_eq_false] at absolute parents ends root
  rw [hasAllowedTempPrefix, allowedPrefixes_eq, List.any_map, List.any_eq_true] at root
  obtain ⟨found, mem, front⟩ := root
  exact ⟨absolute, parents.1.1, parents.1.2, parents.2, List.isSuffixOf_iff_suffix.mp ends,
    found, mem, List.isPrefixOf_iff_prefix.mp front⟩

theorem contains_eq_false {path part : List Char} (none_ : contains path part = false)
    (front back : List Char) (whole : path = front ++ part ++ back) : False := by
  rw [contains, List.any_eq_false] at none_
  apply none_ (part ++ back)
  · rw [List.mem_tails, whole, List.append_assoc]
    exact List.suffix_append front _
  · rw [List.isPrefixOf_iff_prefix]
    exact List.prefix_append part back

namespace Checked

variable {path suffix : List Char}

/-- A parent directory would stand between two slashes, or behind the last one. -/
theorem not_parent (checked : Checked path suffix) :
    ∀ name ∈ components path, name ≠ ['.', '.'] := by
  rintro name mem rfl
  obtain ⟨front, back, whole, precedes, follows⟩ := component_between mem
  rcases precedes with rfl | ⟨before, rfl⟩
  · have absolute := checked.absolute
    rw [whole] at absolute
    cases absolute
  · rcases follows with rfl | ⟨behind, rfl⟩
    · have ends : hasSuffix path "/..".toList = true := by
        rw [hasSuffix, List.isSuffixOf_iff_suffix]
        exact ⟨before, by rw [whole]; simp⟩
      rw [checked.parentEnd] at ends
      cases ends
    · exact contains_eq_false checked.parent before behind (by
        rw [whole]
        simp)

theorem last (checked : Checked path suffix) (free : '/' ∉ suffix) :
    ∃ last, (components path).getLast? = some last ∧ suffix <:+ last := by
  obtain ⟨front, rfl⟩ := checked.ends
  exact last_component front free

/-- The path does not end with a slash. -/
theorem not_slash_end (checked : Checked path suffix) (some_ : suffix ≠ []) (free : '/' ∉ suffix)
    (front : List Char) : path ≠ front ++ ['/'] := by
  rintro rfl
  obtain ⟨before, whole⟩ := checked.ends
  obtain ⟨init, c, rfl⟩ := List.eq_nil_or_concat' suffix |>.resolve_left some_
  rw [← List.append_assoc] at whole
  have same := List.append_inj_right' whole rfl
  rw [List.singleton_inj.mp same] at free
  exact free (List.mem_append_right _ List.mem_cons_self)

/-- Behind the first slash no component is empty. -/
theorem nonempty (checked : Checked path suffix) (some_ : suffix ≠ []) (free : '/' ∉ suffix)
    {root more : List Char} (whole : path = root ++ '/' :: more) :
    ∀ name ∈ components more, name ≠ [] := by
  rintro name mem rfl
  obtain ⟨front, back, rfl, precedes, follows⟩ := component_between mem
  rw [List.append_nil] at whole
  rcases follows with rfl | ⟨behind, rfl⟩
  · rcases precedes with rfl | ⟨before, rfl⟩
    · exact checked.not_slash_end some_ free root whole
    · refine checked.not_slash_end some_ free (root ++ '/' :: before) ?_
      rw [whole]
      simp
  · rcases precedes with rfl | ⟨before, rfl⟩
    · exact contains_eq_false checked.empty root behind (by
        rw [whole]
        simp)
    · refine contains_eq_false checked.empty (root ++ '/' :: before) behind ?_
      rw [whole]
      simp

end Checked

/-- A root is made of names. -/
theorem tempRoots_components : ∀ root ∈ tempRoots,
    components root = [] :: (components root).tail ∧
      ∀ name ∈ components root, name ≠ ['.'] := by
  decide

/-- A path below a root without its dots. -/
theorem withoutDots_below {root : List Char} (mem : root ∈ tempRoots) (more : List Char) :
    withoutDots (root ++ '/' :: more) =
      root ++ ((components more).filter (· ≠ ['.'])).flatMap ('/' :: ·) := by
  obtain ⟨shape, kept⟩ := tempRoots_components root mem
  have root_ : (components root).filter (· ≠ ['.']) = components root := by
    rw [List.filter_eq_self]
    intro name mem
    exact decide_eq_true (kept name mem)
  have whole : root = (components root).tail.flatMap ('/' :: ·) := by
    have joined : ['/'].intercalate (root.splitOn '/') = root := List.intercalate_splitOn '/'
    rw [← components, shape, intercalate_cons_eq_flatMap, List.nil_append] at joined
    exact joined.symm
  have split : components (root ++ '/' :: more) = components root ++ components more :=
    List.splitOn_append_cons_self root more
  rw [withoutDots, split, List.filter_append, root_, shape, List.cons_append,
    intercalate_cons_eq_flatMap, List.nil_append, List.flatMap_append, ← whole]

/-- What the helper accepts is an absolute path without parent directories, which ends as
asked and leads down from a root; it is a root only where the ending asked for is a dot. -/
theorem isAllowedIPCPath_sound {files : FileSystem} {path suffix : List Char}
    (some_ : suffix ≠ []) (free : '/' ∉ suffix)
    (allowed : isAllowedIPCPath files path suffix = true) :
    hasPrefix path ['/'] = true ∧ (∀ name ∈ components path, name ≠ ['.', '.']) ∧
      (∃ root ∈ tempRoots, ∃ names, Leads root names (withoutDots path) ∧
        (names = [] → suffix = ['.'])) ∧
      ∃ last, (components path).getLast? = some last ∧ suffix <:+ last := by
  have checked := checked_of_isAllowed allowed
  obtain ⟨last, found, ends⟩ := checked.last free
  refine ⟨checked.absolute, checked.not_parent, ?_, last, found, ends⟩
  obtain ⟨root, mem, more, whole⟩ := checked.root
  rw [List.append_assoc, List.singleton_append] at whole
  subst whole
  have split : components (root ++ '/' :: more) = components root ++ components more :=
    List.splitOn_append_cons_self root more
  refine ⟨root, mem, _, ⟨?_, withoutDots_below mem more⟩, ?_⟩
  · intro name inside
    obtain ⟨inside, dot⟩ := List.mem_filter.mp inside
    refine ⟨checked.nonempty some_ free rfl name inside, of_decide_eq_true dot, ?_,
      component_free inside⟩
    apply checked.not_parent
    rw [split]
    exact List.mem_append_right _ inside
  · intro none_
    have inside : last ∈ components more := by
      have some_ : components more ≠ [] := List.splitOn_ne_nil '/' more
      rw [split, List.getLast?_append_of_ne_nil _ some_] at found
      exact List.mem_of_getLast? found
    have dot : last = ['.'] := by
      by_contra other
      have kept : last ∈ (components more).filter (· ≠ ['.']) :=
        List.mem_filter.mpr ⟨inside, decide_eq_true other⟩
      rw [none_] at kept
      exact absurd kept List.not_mem_nil
    rw [dot] at ends
    rcases List.suffix_cons_iff.mp ends with same | none_
    · exact same
    · exact absurd (List.suffix_nil.mp none_) some_

/-- A path of the app. -/
theorem isAllowedIPCPath_sound_log :
    hasPrefix "/tmp/engine.log".toList ['/'] = true ∧
      (∀ name ∈ components "/tmp/engine.log".toList, name ≠ ['.', '.']) ∧
      (∃ root ∈ tempRoots, ∃ names, Leads root names (withoutDots "/tmp/engine.log".toList) ∧
        (names = [] → ".log".toList = ['.'])) ∧
      ∃ last, (components "/tmp/engine.log".toList).getLast? = some last ∧
        ".log".toList <:+ last :=
  @isAllowedIPCPath_sound ⟨fun _ => none, id⟩ _ _ (by decide) (by decide) (by decide)

/-- With a dot for its ending a root is accepted, if the file system says that it is not
there. -/
theorem isAllowedIPCPath_dot :
    isAllowedIPCPath ⟨fun _ => none, id⟩ "/tmp/.".toList ['.'] = true ∧
      ¬ ∃ root ∈ tempRoots, ∃ names, names ≠ [] ∧
        Leads root names (withoutDots "/tmp/.".toList) := by
  refine ⟨by decide, ?_⟩
  rintro ⟨root, mem, names, some_, leads⟩
  have long : ∀ root ∈ tempRoots, 4 ≤ root.length := by decide
  have length := congrArg List.length leads.whole
  rw [List.length_append, show (withoutDots "/tmp/.".toList).length = 4 by decide] at length
  cases names with
  | nil => exact some_ rfl
  | cons name names =>
      rw [List.flatMap_cons, List.length_append, List.length_cons] at length
      have room := long root mem
      omega

end WiredTethering.Helper
