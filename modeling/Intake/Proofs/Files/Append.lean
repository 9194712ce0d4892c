/-
What is added to a file is read back behind what the file held.

Adding to a file changes its octets and nothing else. A path is followed by
looking at what kind of thing is at a place and where links point to, never
at octets, so trees that are alike but for those (`Alike`) lead every path to
the same place.
-/
import Intake.Files.Tree

namespace Intake

/-- What a path that leads through a place can see there. -/
def FileNode.shape : FileNode → FileNode
  | .directory => .directory
  | .file _ => .file []
  | .link target => .link target

namespace FileTree

variable {t t' : FileTree}

-- ====================================================== places

/-- Removing a place leaves the others. -/
theorem lookup_filter_ne {place p : List String} (h : p ≠ place)
    (nodes : List (List String × FileNode)) :
    (nodes.filter fun entry => entry.1 != place).lookup p
      = nodes.lookup p := by
  induction nodes with
  | nil => rfl
  | cons entry nodes ih =>
      obtain ⟨q, node⟩ := entry
      by_cases hq : q = place
      · have hne : (p == q) = false :=
          beq_false_of_ne fun heq => h (heq.trans hq)
        rw [List.filter_cons_of_neg (by simp [hq]), ih, List.lookup_cons, hne]
      · rw [List.filter_cons_of_pos (by simp [hq]), List.lookup_cons,
          List.lookup_cons, ih]

/-- A place that is removed is not found. -/
theorem lookup_filter_self (place : List String)
    (nodes : List (List String × FileNode)) :
    (nodes.filter fun entry => entry.1 != place).lookup place = none := by
  rw [List.lookup_eq_none_iff]
  intro entry hentry
  have hne := (List.mem_filter.mp hentry).2
  rw [bne_iff_ne] at hne
  exact bne_iff_ne.mpr hne.symm

/-- What is put at a place is there, and every other place is as it was. -/
theorem node?_put {place : List String} (hplace : place ≠ []) (node : FileNode)
    (p : List String) :
    (t.put place node).node? p
      = if p = place then some node else t.node? p := by
  by_cases hp : p = place
  · subst hp
    have hempty : p.isEmpty = false := List.isEmpty_eq_false_iff.mpr hplace
    rw [if_pos rfl, node?, hempty, if_neg Bool.false_ne_true, put,
      List.lookup_append, lookup_filter_self, List.lookup_cons_self]
    rfl
  · have hlast : [(place, node)].lookup p = none := by
      rw [List.lookup_cons, beq_false_of_ne hp]
      rfl
    rw [if_neg hp, node?, node?, put, List.lookup_append, lookup_filter_ne hp,
      hlast, Option.or_none]

/-- A file does not stand at the root. -/
theorem ne_nil_of_file {place : List String} {octets : List UInt8}
    (h : t.node? place = some (.file octets)) : place ≠ [] := by
  rintro rfl
  cases h

-- ====================================================== trees alike

/-- The trees differ in the octets of files alone. -/
def Alike (t t' : FileTree) : Prop :=
  ∀ p, (t.node? p).map FileNode.shape = (t'.node? p).map FileNode.shape

namespace Alike

variable (h : Alike t t') {p : List String}

include h

/-- Trees are alike in either direction. -/
theorem symm : Alike t' t := fun p => (h p).symm

/-- A place with nothing there has nothing in a tree that is alike. -/
theorem node?_none (hp : t.node? p = none) : t'.node? p = none := by
  have heq := h p
  rw [hp] at heq
  exact Option.map_eq_none_iff.mp heq.symm

/-- A node has one of the same shape in a tree that is alike. -/
theorem node?_some {node : FileNode} (hp : t.node? p = some node) :
    ∃ node', t'.node? p = some node' ∧ node'.shape = node.shape := by
  have heq := h p
  rw [hp] at heq
  exact Option.map_eq_some_iff.mp heq.symm

/-- A directory is one in a tree that is alike. -/
theorem node?_directory (hp : t.node? p = some .directory) :
    t'.node? p = some .directory := by
  obtain ⟨node, hnode, hshape⟩ := h.node?_some hp
  cases node with
  | directory => exact hnode
  | file octets => cases hshape
  | link target => cases hshape

/-- A file is one in a tree that is alike, with whatever octets. -/
theorem node?_file {octets : List UInt8}
    (hp : t.node? p = some (.file octets)) :
    ∃ octets', t'.node? p = some (.file octets') := by
  obtain ⟨node, hnode, hshape⟩ := h.node?_some hp
  cases node with
  | directory => cases hshape
  | file octets' => exact ⟨octets', hnode⟩
  | link target => cases hshape

/-- A link is one to the same place in a tree that is alike. -/
theorem node?_link {target : String} (hp : t.node? p = some (.link target)) :
    t'.node? p = some (.link target) := by
  obtain ⟨node, hnode, hshape⟩ := h.node?_some hp
  cases node with
  | directory => cases hshape
  | file octets => cases hshape
  | link target' =>
      cases hshape
      exact hnode

/-- Paths lead to the same places in trees that are alike, since files are not
looked into on the way. -/
theorem resolveFrom (links : Nat) (base names : List String) :
    t.resolveFrom links base names = t'.resolveFrom links base names := by
  fun_induction FileTree.resolveFrom t links base names with
  | case1 links base => rw [FileTree.resolveFrom]
  | case2 links base rest hbase =>
      rw [FileTree.resolveFrom, if_pos rfl, if_pos hbase]
  | case3 links base rest hbase ih =>
      rw [FileTree.resolveFrom, if_pos rfl, if_neg hbase, ih]
  | case4 links base name rest hname hnode =>
      rw [FileTree.resolveFrom, if_neg hname, h.node?_none hnode]
  | case5 links base name rest hname hnode ih =>
      rw [FileTree.resolveFrom, if_neg hname, h.node?_directory hnode, ih]
  | case6 links base name rest hname octets hnode hrest =>
      obtain ⟨octets', hnode'⟩ := h.node?_file hnode
      rw [FileTree.resolveFrom, if_neg hname, hnode']
      exact (if_pos hrest).symm
  | case7 links base name rest hname octets hnode hrest =>
      obtain ⟨octets', hnode'⟩ := h.node?_file hnode
      rw [FileTree.resolveFrom, if_neg hname, hnode']
      exact (if_neg hrest).symm
  | case8 base name rest hname target hnode =>
      rw [FileTree.resolveFrom, if_neg hname, h.node?_link hnode]
  | case9 base name rest hname target hnode links habsolute =>
      rw [FileTree.resolveFrom, if_neg hname, h.node?_link hnode]
      exact (if_pos habsolute).symm
  | case10 base name rest hname target hnode links hrelative ih =>
      rw [FileTree.resolveFrom, if_neg hname, h.node?_link hnode, ih]
      exact (if_neg hrelative).symm

/-- A path leads to the same place in both. -/
theorem resolve (path : String) : t.resolve path = t'.resolve path := by
  have hdirectory (place : List String) :
      (t.node? place != some .directory)
        = (t'.node? place != some .directory) := by
    rw [Bool.eq_iff_iff, bne_iff_ne, bne_iff_ne]
    exact not_congr ⟨h.node?_directory, h.symm.node?_directory⟩
  rw [FileTree.resolve, FileTree.resolve, h.resolveFrom]
  simp only [hdirectory]

end Alike

/-- A file that is put where a file was leaves the tree alike. -/
theorem alike_put_file {place : List String} {before : List UInt8}
    (hplace : t.node? place = some (.file before)) (octets : List UInt8) :
    Alike t (t.put place (.file octets)) := by
  intro p
  rw [node?_put (ne_nil_of_file hplace)]
  split
  · next hp =>
      rw [hp, hplace]
      rfl
  · rfl

-- ====================================================== reading

/-- A path can be read if it leads to a file. -/
theorem read_eq_ok {path : String} {octets : List UInt8} :
    t.read path = .ok octets
      ↔ ∃ place, t.resolve path = some place
          ∧ t.node? place = some (.file octets) := by
  rw [read, ← Option.bind_eq_some_iff]
  split
  · next heq =>
      rw [heq]
      simp
  · next heq =>
      rw [heq]
      simp
  · next hfile hdirectory =>
      refine ⟨nofun, fun heq => absurd heq (hfile octets)⟩

-- ====================================================== one file

/-- A short name is a path of one step. -/
theorem splitOn_f : "f".splitOn "/" = ["f"] := by
  unfold String.splitOn
  rw [if_neg (by decide)]
  unfold String.splitOnAux
  rw [if_neg (by decide), if_neg (by decide)]
  unfold String.splitOnAux
  rw [if_pos (by decide)]
  decide

/-- The file of a tree that holds nothing else is read. -/
theorem read_f (octets : List UInt8) :
    (mk [(["f"], .file octets)]).read "f" = .ok octets := by
  have hsteps : steps "f" = ["f"] := by
    rw [steps, splitOn_f]
    rfl
  have hname : namesDirectory "f" = false := by
    rw [namesDirectory, splitOn_f]
    rfl
  rw [read, resolve, hsteps, hname, resolveFrom, if_neg (by decide)]
  rfl

-- ====================================================== adding

/-- A file that can be read can be added to, and is then read as what it held
with what was added behind it. -/
theorem read_append {path : String} {before : List UInt8}
    (h : t.read path = .ok before) (octets : List UInt8) :
    ∃ t', t.append path octets = some t'
      ∧ t'.read path = .ok (before ++ octets) := by
  obtain ⟨place, hresolve, hplace⟩ := read_eq_ok.mp h
  have halike := alike_put_file hplace (before ++ octets)
  refine ⟨t.put place (.file (before ++ octets)), ?_, ?_⟩
  · rw [append, hresolve]
    simp only [hplace]
  · refine read_eq_ok.mpr ⟨place, ?_, ?_⟩
    · rw [← halike.resolve, hresolve]
    · rw [node?_put (ne_nil_of_file hplace), if_pos rfl]

end FileTree

end Intake
