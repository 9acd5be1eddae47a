import UnityBuild.Proofs.FileSystem.Normal

/-!
# Trees without links

In a tree of directories a name leads to a node below, and the step up leads back from it. So a name
and the step up behind it can be left out of a way, and the names and steps up that are left of a
path in its normal form lead where the path does. Names that are taken back are never looked up
again, so the normal form may lead somewhere where the path itself does not.

A file system without links is such a tree. What its system finds at a path, it finds at the normal
form of the path.
-/

namespace UnityBuild

universe u

/-- A tree of directories and other nodes. The root is its own parent, and an entry of a directory
has the directory as its parent. -/
structure DirectoryTree (Node : Type u) where
  root : Node
  isDirectory : Node → Bool
  parent : Node → Node
  entry? : Node → String → Option Node
  parent_root : parent root = root
  parent_entry : ∀ {directory : Node} {name : String} {node : Node},
    entry? directory name = some node → parent node = directory

theorem NormalPath.steps_concat (anchor : Anchor) (names : List String) (name : String) :
    steps ⟨anchor, names ++ [name]⟩ = steps ⟨anchor, names⟩ ++ [name] := by
  cases anchor with
  | root => rfl
  | above levels => exact (List.append_assoc _ _ _).symm

namespace DirectoryTree

variable {Node : Type u} (tree : DirectoryTree Node)

/-- Follows one piece of a path. Names are looked up in directories, and the way up is one from a
directory. -/
def step (node : Node) (piece : String) : Option Node :=
  if Path.isIdle piece then some node
  else if !tree.isDirectory node then none
  else if piece = ".." then some (tree.parent node)
  else tree.entry? node piece

/-- Follows pieces one by one. -/
def walk (node : Node) (pieces : List String) : Option Node :=
  pieces.foldlM tree.step node

/-- Follows the pieces of a path, from the root if the path is absolute. -/
def follow (start : Node) (path : String) : Option Node :=
  tree.walk (if Path.isAbsolute path then tree.root else start) (Path.pieces path)

variable {tree} {start node next last : Node} {piece : String} {pieces : List String}

theorem step_idle (idle : Path.isIdle piece = true) : tree.step node piece = some node := by
  simp [step, idle]

theorem step_parent_eq_some_iff :
    tree.step node ".." = some next ↔ tree.isDirectory node = true ∧ tree.parent node = next := by
  simp [step, Path.isIdle]

theorem step_name_eq_some_iff (named : Path.isName piece = true) :
    tree.step node piece = some next ↔
      tree.isDirectory node = true ∧ tree.entry? node piece = some next := by
  simp [step, Path.isIdle_of_isName named, Path.ne_parent_of_isName named]

@[simp] theorem walk_nil (tree : DirectoryTree Node) (node : Node) :
    tree.walk node [] = some node := rfl

theorem walk_cons_eq_some_iff :
    tree.walk node (piece :: pieces) = some last ↔
      ∃ next, tree.step node piece = some next ∧ tree.walk next pieces = some last := by
  simp [walk, Option.bind_eq_some_iff]

theorem walk_concat_eq_some_iff :
    tree.walk node (pieces ++ [piece]) = some last ↔
      ∃ next, tree.walk node pieces = some next ∧ tree.step next piece = some last := by
  simp [walk, List.foldlM_append, Option.bind_eq_some_iff]

theorem walk_filter (pieces : List String) (node : Node) :
    tree.walk node (pieces.filter (!Path.isIdle ·)) = tree.walk node pieces := by
  induction pieces generalizing node with
  | nil => rfl
  | cons piece rest ih =>
    by_cases idle : Path.isIdle piece = true
    · rw [List.filter_cons_of_neg (by simp [idle]), ih]
      simp [walk, step_idle idle]
    · rw [List.filter_cons_of_pos (by simp [idle])]
      simp only [walk, List.foldlM_cons]
      exact congrArg _ (funext ih)

/-- Where a normal path is read from. -/
def origin (tree : DirectoryTree Node) (start : Node) : Anchor → Node
  | .root => tree.root
  | .above _ => start

/-- A step that changes a normal path changes what its pieces lead to. The step up takes back the
last name, which is an entry of the directory above, or leads further up. -/
theorem walk_steps_enter {path : NormalPath} (spelled : path.IsSpelled)
    (reached : tree.walk (tree.origin start path.anchor) path.steps = some node)
    (onward : tree.step node piece = some next) :
    tree.walk (tree.origin start (path.enter piece).anchor) (path.enter piece).steps =
      some next := by
  obtain ⟨anchor, names⟩ := path
  by_cases idle : Path.isIdle piece = true
  · rw [step_idle idle] at onward
    rw [NormalPath.enter_idle idle, reached, onward]
  by_cases up : piece = ".."
  · subst up
    obtain ⟨directory, rfl⟩ := step_parent_eq_some_iff.mp onward
    rw [NormalPath.enter_parent]
    rcases List.eq_nil_or_concat' names with rfl | ⟨above, name, rfl⟩
    · cases anchor with
      | root =>
        obtain rfl : tree.root = node := Option.some.inj reached
        exact congrArg some tree.parent_root.symm
      | above levels =>
        have higher : (NormalPath.leave ⟨.above levels, []⟩).steps =
            (NormalPath.mk (.above levels) []).steps ++ [".."] := by
          simp [NormalPath.leave, NormalPath.steps, List.replicate_succ']
        rw [higher]
        exact walk_concat_eq_some_iff.mpr ⟨node, reached, onward⟩
    · rw [NormalPath.steps_concat] at reached
      obtain ⟨directory, before, entered⟩ := walk_concat_eq_some_iff.mp reached
      have named : Path.isName name = true := (spelled name (by simp)).1
      have entry := (step_name_eq_some_iff named).mp entered
      rw [NormalPath.leave_append, tree.parent_entry entry.2]
      exact before
  · have named : Path.isName piece = true := by simp [Path.isName, idle, up]
    rw [NormalPath.enter_name named, NormalPath.steps_concat]
    exact walk_concat_eq_some_iff.mpr ⟨node, reached, onward⟩

/-- What pieces lead to behind a normal path, the normal path leads to that enters them. -/
theorem walk_steps_foldl_enter {path : NormalPath} (spelled : path.IsSpelled)
    (slashless : ∀ piece ∈ pieces, '/' ∉ piece.toList)
    (reached : tree.walk (tree.origin start path.anchor) path.steps = some node)
    (onward : tree.walk node pieces = some last) :
    tree.walk (tree.origin start (pieces.foldl NormalPath.enter path).anchor)
      (pieces.foldl NormalPath.enter path).steps = some last := by
  induction pieces generalizing path node with
  | nil =>
    obtain rfl := Option.some.inj onward
    exact reached
  | cons piece rest ih =>
    obtain ⟨next, first, others⟩ := walk_cons_eq_some_iff.mp onward
    exact ih (spelled.enter (slashless piece (by simp)))
      (fun other member => slashless other (by simp [member]))
      (walk_steps_enter spelled reached first) others

theorem follow_text {path : NormalPath} (spelled : path.IsSpelled) :
    tree.follow start path.text = tree.walk (tree.origin start path.anchor) path.steps := by
  rw [follow, ← walk_filter, ← Path.steps, NormalPath.steps_text spelled]
  obtain ⟨anchor, names⟩ := path
  cases anchor with
  | root => rw [if_pos (NormalPath.isAbsolute_text_root names), origin]
  | above levels =>
    rw [if_neg (by simp [NormalPath.isAbsolute_text_above spelled]), origin]

/-- The normal form of a path leads where the path does. -/
theorem follow_text_ofText {path : String} (reached : tree.follow start path = some last) :
    tree.follow start (NormalPath.ofText path).text = some last := by
  have anchor : tree.origin start (NormalPath.start path).anchor =
      if Path.isAbsolute path then tree.root else start := by
    rw [NormalPath.start]
    split <;> rfl
  have nothing : (NormalPath.start path).steps = [] := by
    rw [NormalPath.start]
    split <;> rfl
  rw [follow_text (NormalPath.isSpelled_ofText path)]
  refine walk_steps_foldl_enter (by simp [NormalPath.IsSpelled, NormalPath.start])
    (fun _ => Path.slash_not_mem_of_mem_pieces) ?_ reached
  rw [anchor, nothing, walk_nil]

end DirectoryTree

namespace FileSystem

variable {fs : FileSystem} {start last : Place} {pieces : List String} {used : Nat}

/-- No node is a link, and so the parent of what a name leads to is the directory in which the name
was looked up. -/
def LinkFree (fs : FileSystem) : Prop :=
  ∀ location target, fs.node? location ≠ some (.link target)

/-- The tree of a file system, in which links are left as they are. -/
def tree (fs : FileSystem) : DirectoryTree Place where
  root := .root
  isDirectory := fs.isDirectoryAt
  parent := Place.parent
  entry? place name :=
    match fs.entry? place name with
    | .ok (some _) => some (.standing (place.names ++ [name]))
    | _ => none
  parent_root := rfl
  parent_entry := by
    intro place name node entered
    split at entered
    · rename_i found entry
      obtain ⟨exist, -, -⟩ := entry?_eq_ok_iff.mp entry
      obtain ⟨names, removed⟩ := place
      obtain rfl := Option.some.inj entered
      cases exist
      exact Place.parent_standing_append names name
    · cases entered

theorem step_tree_name_eq_some_iff {place next : Place} {name : String}
    (named : Path.isName name = true) :
    fs.tree.step place name = some next ↔
      (∃ node, fs.Meets place name node) ∧ .standing (place.names ++ [name]) = next := by
  rw [DirectoryTree.step_name_eq_some_iff named]
  constructor
  · rintro ⟨directory, entered⟩
    change (match fs.entry? place name with
      | .ok (some _) => some (Place.standing (place.names ++ [name]))
      | _ => none) = some next at entered
    split at entered
    · rename_i node entry
      exact ⟨⟨node, directory, named, entry⟩, Option.some.inj entered⟩
    · cases entered
  · rintro ⟨⟨node, meets⟩, rfl⟩
    refine ⟨meets.directory, ?_⟩
    change (match fs.entry? place name with
      | .ok (some _) => some (Place.standing (place.names ++ [name]))
      | _ => none) = _
    rw [meets.entry]

/-- A way of the system that passes no link is one in the tree. -/
theorem Reaches.walk_tree (reaches : fs.Reaches start pieces used last) (linkFree : fs.LinkFree) :
    fs.tree.walk start pieces = some last := by
  induction reaches with
  | arrive => rfl
  | stay _ idle _ ih =>
    exact DirectoryTree.walk_cons_eq_some_iff.mpr ⟨_, DirectoryTree.step_idle idle, ih⟩
  | climb directory _ ih =>
    exact DirectoryTree.walk_cons_eq_some_iff.mpr
      ⟨_, DirectoryTree.step_parent_eq_some_iff.mpr ⟨directory, rfl⟩, ih⟩
  | enter meets _ _ ih =>
    exact DirectoryTree.walk_cons_eq_some_iff.mpr
      ⟨_, (step_tree_name_eq_some_iff meets.name).mpr ⟨⟨_, meets⟩, rfl⟩, ih⟩
  | turn meets => exact absurd meets.node? (linkFree _ _)

/-- A way in the tree without idle pieces is one of the system. -/
theorem reaches_of_walk_tree (linkFree : fs.LinkFree)
    (busy : ∀ piece ∈ pieces, Path.isIdle piece = false)
    (walked : fs.tree.walk start pieces = some last) : fs.Reaches start pieces 0 last := by
  induction pieces generalizing start with
  | nil =>
    obtain rfl := Option.some.inj walked
    exact .arrive _
  | cons piece rest ih =>
    obtain ⟨next, first, others⟩ := DirectoryTree.walk_cons_eq_some_iff.mp walked
    have onward := ih (fun other member => busy other (by simp [member])) others
    by_cases up : piece = ".."
    · subst up
      obtain ⟨directory, rfl⟩ := DirectoryTree.step_parent_eq_some_iff.mp first
      exact .climb directory onward
    · have named := NormalPath.isName_of_step (busy piece (by simp)) up
      obtain ⟨⟨node, meets⟩, rfl⟩ := (step_tree_name_eq_some_iff named).mp first
      refine .enter meets (fun target link => ?_) onward
      rw [link] at meets
      exact linkFree _ _ meets.node?

/-- What the system finds at a path below an absolute base, it finds where the path is resolved to,
if no link is in the way and the resolved path is not too long. -/
theorem place?_resolve (linkFree : fs.LinkFree) {base reference : String} {place : Place}
    (absolute : Path.isAbsolute base = true)
    (found : fs.place? (Path.join base reference) = .ok place)
    (short : (resolve base reference).utf8ByteSize ≤ longestPath) :
    fs.place? (resolve base reference) = .ok place := by
  obtain ⟨nulless, -, -, used, -, reaches⟩ := place?_eq_ok_iff.mp found
  obtain ⟨names, normal, spelled, resolved⟩ := exists_resolve_eq_text absolute reference
  have rooted := NormalPath.isAbsolute_text_root names
  have followed : fs.tree.follow fs.here (Path.join base reference) = some place :=
    reaches.walk_tree linkFree
  have walked := DirectoryTree.follow_text_ofText followed
  rw [normal, DirectoryTree.follow_text spelled] at walked
  have way := reaches_of_walk_tree linkFree
    (fun name member => Path.isIdle_of_isName (spelled name member).1) walked
  rw [resolved] at short ⊢
  refine place?_eq_ok_iff.mpr ⟨mt (NormalPath.nul_mem_toList_of_ofText normal) nulless,
    Path.ne_empty_of_isAbsolute rooted, short, ?_⟩
  rw [origin, if_pos rooted]
  refine walk_eq_found_iff.mp ?_
  rw [walk_pieces_text_root spelled]
  exact walk_eq_found_iff.mpr ⟨0, Nat.zero_le _, way⟩

end FileSystem

/-- Resolving a reference does not change what it leads to from a base, wherever in a tree the two
are followed. -/
theorem DirectoryTree.follow_resolve {Node : Type u} (tree : DirectoryTree Node)
    {start last : Node} {base reference : String}
    (reached : tree.follow start (Path.join base reference) = some last) :
    tree.follow start (resolve base reference) = some last := by
  rw [resolve_eq]
  exact follow_text_ofText reached

/-- Directories inside each other. -/
def FileSystem.nested : FileSystem where
  nodes := [(["r"], .directory), (["r", "a"], .directory), (["r", "a", "b"], .directory)]
  here := .root

/-- The steps up of the reference take back the name of the base, leave the place where both are
read, and are absorbed at the root. -/
theorem nested_follow_resolve :
    resolve "b/./" "../../../..//r" = "../../../r" ∧
    FileSystem.nested.tree.follow (.standing ["r", "a"]) (Path.join "b/./" "../../../..//r") =
      some (.standing ["r"]) ∧
    FileSystem.nested.tree.follow (.standing ["r", "a"]) "../../../r" = some (.standing ["r"]) := by
  have resolved : resolve "b/./" "../../../..//r" = "../../../r" := by with_unfolding_all rfl
  have reached : FileSystem.nested.tree.follow (.standing ["r", "a"])
      (Path.join "b/./" "../../../..//r") = some (.standing ["r"]) := by
    with_unfolding_all rfl
  exact ⟨resolved, reached, resolved ▸ DirectoryTree.follow_resolve _ reached⟩

end UnityBuild
