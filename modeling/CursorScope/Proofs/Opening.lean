import CursorScope.Proofs.Shape
import CursorScope.Tree.Parse

/-!
# The opening of a text

When a tree is refused because of the way its text opens. In a tree whose nodes are nested in bytes
the nodes on the way to a byte are those that cover it, if no node is empty right there
(`Node.NestedInBytes.pathTo_eq_covering`). So a tree is refused exactly when its root is an error,
or a faulty node below the root covers the byte at which the first construct starts
(`Language.parse_error_iff`).
-/

namespace CursorScope

namespace Node

/-- A byte is among those of a node. -/
def Covers (node : Node) (byte : Nat) : Prop := node.startByte ≤ byte ∧ byte < node.endByte

instance (node : Node) (byte : Nat) : Decidable (node.Covers byte) :=
  inferInstanceAs (Decidable (_ ∧ _))

/-- In bytes, every child lies inside its parent, and of two siblings the first one ends before the
second one starts. -/
def NestedInBytes (root : Node) : Prop :=
  root.All fun node =>
    (∀ child ∈ node.children, node.startByte ≤ child.startByte ∧ child.endByte ≤ node.endByte) ∧
    node.children.Pairwise fun first second => first.endByte ≤ second.startByte

/-- A node is empty and stands right at a byte. -/
def IsEmptyAt (node : Node) (byte : Nat) : Prop := node.startByte = byte ∧ node.endByte = byte

instance (node : Node) (byte : Nat) : Decidable (node.IsEmptyAt byte) :=
  inferInstanceAs (Decidable (_ ∧ _))

variable {node : Node} {above : List Node} {site : Site} {byte : Nat}

/-- The nodes above a site of a tree end with those above the tree. -/
theorem isSuffix_above_of_mem_sites (h : site ∈ node.sites above) : above <:+ site.above := by
  induction node using inductionOnChildren generalizing above with
  | step node ih =>
      rcases mem_sites_iff.1 h with rfl | ⟨child, hchild, hsite⟩
      · exact List.suffix_refl above
      · exact (List.suffix_cons node above).trans (ih child hchild hsite)

/-- A byte of a node is a byte of all nodes around it. -/
theorem NestedInBytes.covers_of_mem_sites (h : node.NestedInBytes)
    (hsite : site ∈ node.sites above) (hcovers : site.node.Covers byte) : node.Covers byte := by
  induction h generalizing above with
  | @intro node here below ih =>
      rcases mem_sites_iff.1 hsite with rfl | ⟨child, hchild, hsite⟩
      · exact hcovers
      · obtain ⟨hstart, hend⟩ := ih child hchild hsite
        obtain ⟨hstartInside, hendInside⟩ := here.1 child hchild
        exact ⟨Nat.le_trans hstartInside hstart, Nat.lt_of_lt_of_le hend hendInside⟩

/-- The nodes of sites that cover a byte, in the order of the sites. -/
def covering (byte : Nat) (sites : List Site) : List Node :=
  (sites.filter (·.node.Covers byte)).map (·.node)

theorem mem_covering {sites : List Site} {other : Node} :
    other ∈ covering byte sites ↔ ∃ site ∈ sites, site.node.Covers byte ∧ site.node = other := by
  simp only [covering, List.mem_map, List.mem_filter, decide_eq_true_iff, and_assoc]

theorem covering_append (byte : Nat) (sites others : List Site) :
    covering byte (sites ++ others) = covering byte sites ++ covering byte others := by
  rw [covering, List.filter_append, List.map_append]
  rfl

/-- A tree whose root does not cover a byte has no node that does. -/
theorem NestedInBytes.covering_eq_nil (h : node.NestedInBytes) (hnot : ¬ node.Covers byte) :
    covering byte (node.sites above) = [] := by
  rw [covering, List.map_eq_nil_iff, List.filter_eq_nil_iff]
  intro site hsite hcovers
  exact hnot (h.covers_of_mem_sites hsite (of_decide_eq_true hcovers))

theorem covering_sitesOfAll_eq_nil {nodes : List Node} (h : ∀ node ∈ nodes, node.NestedInBytes)
    (hnot : ∀ node ∈ nodes, ¬ node.Covers byte) : covering byte (sitesOfAll above nodes) = [] := by
  induction nodes with
  | nil => rfl
  | cons node rest ih =>
      obtain ⟨hnode, hrest⟩ := List.forall_mem_cons.1 h
      obtain ⟨hnotNode, hnotRest⟩ := List.forall_mem_cons.1 hnot
      rw [sitesOfAll, covering_append, hnode.covering_eq_nil hnotNode, ih hrest hnotRest]
      rfl

/-! ## The way to a byte -/

theorem endsBefore_iff (h : ¬ node.IsEmptyAt byte) :
    node.endsBefore byte = true ↔ node.endByte ≤ byte := by
  simp only [endsBefore, IsEmptyAt, Bool.or_eq_true, Bool.and_eq_true, decide_eq_true_iff,
    bne_iff_ne] at h ⊢
  omega

/-- The way to a byte from some siblings on leads over the nodes that cover it, if it does so below
each of the siblings. -/
theorem pathAmong_eq_covering {nodes : List Node} (hnested : ∀ node ∈ nodes, node.NestedInBytes)
    (hpairwise : nodes.Pairwise fun first second => first.endByte ≤ second.startByte)
    (hempty : ∀ node ∈ nodes, ¬ node.IsEmptyAt byte)
    (hbelow : ∀ node ∈ nodes,
      node.pathTo byte = covering byte (sitesOfAll (node :: above) node.children)) :
    pathAmong byte nodes = covering byte (sitesOfAll above nodes) := by
  induction nodes with
  | nil => rfl
  | cons node rest ih =>
      obtain ⟨hnode, hrest⟩ := List.forall_mem_cons.1 hnested
      obtain ⟨hlater, hpairwise⟩ := List.pairwise_cons.1 hpairwise
      obtain ⟨hemptyNode, hemptyRest⟩ := List.forall_mem_cons.1 hempty
      obtain ⟨hbelowNode, hbelowRest⟩ := List.forall_mem_cons.1 hbelow
      have hends := endsBefore_iff hemptyNode
      rw [pathAmong, sitesOfAll, covering_append]
      split
      · rename_i hbefore
        have hnot : ¬ node.Covers byte := fun h => absurd (hends.1 hbefore) (Nat.not_le.2 h.2)
        rw [hnode.covering_eq_nil hnot, List.nil_append]
        exact ih hrest hpairwise hemptyRest hbelowRest
      · rename_i hreaches
        -- The node ends after the byte, so all later siblings start after it.
        have hend : byte < node.endByte := Nat.not_le.1 fun h => hreaches (hends.2 h)
        have hnotRest (other : Node) (hother : other ∈ rest) : ¬ other.Covers byte := fun h =>
          absurd (hlater other hother) (Nat.not_le.2 (Nat.lt_of_le_of_lt h.1 hend))
        rw [covering_sitesOfAll_eq_nil hrest hnotRest, List.append_nil]
        split
        · rename_i hstart
          have hnot : ¬ node.Covers byte := fun h => absurd h.1 (Nat.not_le.2 hstart)
          rw [hnode.covering_eq_nil hnot]
        · rename_i hstart
          have hcovers : node.Covers byte := ⟨Nat.not_lt.1 hstart, hend⟩
          rw [sites_eq, covering, List.filter_cons, if_pos (decide_eq_true hcovers), List.map_cons,
            hbelowNode]
          rfl

/-- In a tree whose nodes are nested in bytes, the nodes on the way to a byte are the nodes below
the root that cover it, if no node is empty right there. -/
theorem NestedInBytes.pathTo_eq_covering (h : node.NestedInBytes)
    (hempty : node.All fun node => ¬ node.IsEmptyAt byte) (above : List Node) :
    node.pathTo byte = covering byte (sitesOfAll (node :: above) node.children) := by
  induction node using inductionOnChildren generalizing above with
  | step node ih =>
      rw [pathTo_eq]
      refine pathAmong_eq_covering (fun child hchild => h.child hchild) h.here.2
        (fun child hchild => (hempty.child hchild).here) fun child hchild => ?_
      exact ih child hchild (h.child hchild) (hempty.child hchild) _

end Node

/-! ## Refused trees -/

/-- A tree opens with a fault when its root is an error, or when a faulty node below the root covers
the byte at which the first construct starts. -/
def Tree.OpensWithFault (tree : Tree) : Prop :=
  tree.root.type = Node.errorType ∨
    ∃ first, tree.root.firstConstruct? = some first ∧ ∃ site ∈ tree.sites, site.above ≠ [] ∧
      site.node.Covers first.startByte ∧ site.node.isFaulty

/-- No node of a tree is empty right where the first construct starts. -/
def Tree.NoneEmptyAtStart (tree : Tree) : Prop :=
  ∀ first, tree.root.firstConstruct? = some first →
    ∀ site ∈ tree.sites, ¬ site.node.IsEmptyAt first.startByte

variable {tree : Tree}

/-- The sites below the root are the sites with nodes above them. -/
theorem Node.mem_sitesOfAll_children_iff {root : Node} {site : Site} :
    site ∈ sitesOfAll [root] root.children ↔ site ∈ root.sites [] ∧ site.above ≠ [] := by
  rw [sites_eq, List.mem_cons]
  constructor
  · intro h
    refine ⟨.inr h, fun hnil => ?_⟩
    rw [sitesOfAll_eq_flatMap] at h
    obtain ⟨child, -, hsite⟩ := List.mem_flatMap.1 h
    have hsuffix := isSuffix_above_of_mem_sites hsite
    rw [hnil, List.suffix_nil] at hsuffix
    cases hsuffix
  · rintro ⟨rfl | h, habove⟩
    · exact absurd rfl habove
    · exact h

theorem Tree.opensWithError_iff (hnested : tree.root.NestedInBytes)
    (hempty : tree.NoneEmptyAtStart) :
    tree.root.opensWithError = true ↔ ∃ first, tree.root.firstConstruct? = some first ∧
      ∃ site ∈ tree.sites, site.above ≠ [] ∧ site.node.Covers first.startByte ∧
        site.node.isFaulty := by
  unfold Node.opensWithError
  cases hfirst : tree.root.firstConstruct? with
  | none => simp only [Bool.false_eq_true, reduceCtorEq, false_and, exists_false]
  | some first =>
      have hnone : tree.root.All fun node => ¬ node.IsEmptyAt first.startByte :=
        (Node.all_iff_sites []).2 (hempty first hfirst)
      simp only [Option.some.injEq, exists_eq_left']
      rw [hnested.pathTo_eq_covering hnone [], List.any_eq_true]
      constructor
      · rintro ⟨node, hnode, hfaulty⟩
        obtain ⟨site, hsite, hcovers, rfl⟩ := Node.mem_covering.1 hnode
        obtain ⟨hmem, habove⟩ := Node.mem_sitesOfAll_children_iff.1 hsite
        exact ⟨site, hmem, habove, hcovers, hfaulty⟩
      · rintro ⟨site, hmem, habove, hcovers, hfaulty⟩
        have hsite := Node.mem_sitesOfAll_children_iff.2 ⟨hmem, habove⟩
        exact ⟨site.node, Node.mem_covering.2 ⟨site, hsite, hcovers, rfl⟩, hfaulty⟩

/-- The first construct of a tree stands at a site below the root. -/
theorem Tree.exists_site_of_firstConstruct? {first : Node}
    (h : tree.root.firstConstruct? = some first) :
    ∃ site ∈ tree.sites, site.above ≠ [] ∧ site.node = first := by
  have hchild := Node.mem_children_of_mem_namedChildren (List.mem_of_find?_eq_some h)
  have hsite := Node.mem_sites_of_child hchild (Node.mem_sites_self [tree.root] first)
  exact ⟨⟨first, [tree.root]⟩, hsite, List.cons_ne_nil _ _, rfl⟩

/-! ## Parsing -/

/-- A language reads the usable tree of an answer, or reports why there is none. -/
theorem Tree.opensWithFault_iff (hnested : tree.root.NestedInBytes)
    (hempty : tree.NoneEmptyAtStart) :
    tree.root.type = Node.errorType ∨ tree.root.opensWithError ↔ tree.OpensWithFault :=
  or_congr_right (opensWithError_iff hnested hempty)

theorem Language.parse_of_opensWithFault (language : Language) (hnested : tree.root.NestedInBytes)
    (hempty : tree.NoneEmptyAtStart) (h : tree.OpensWithFault) :
    (language.parse (.parsed tree)).value = .error ⟨language, .unreadableStart⟩ := by
  rw [value_parse, ParserAnswer.tree?, if_pos ((Tree.opensWithFault_iff hnested hempty).2 h)]
  rfl

theorem Language.parse_of_not_opensWithFault (language : Language)
    (hnested : tree.root.NestedInBytes) (hempty : tree.NoneEmptyAtStart)
    (h : ¬ tree.OpensWithFault) :
    (language.parse (.parsed tree)).value = .ok tree := by
  rw [value_parse, ParserAnswer.tree?, if_neg (mt (Tree.opensWithFault_iff hnested hempty).1 h)]
  rfl

/-- A tree that is nested in bytes is refused exactly when it opens with a fault, if none of its
nodes is empty right where the first construct starts. A first construct that is an error is always
such a fault, and nodes that start after the first construct does never are. -/
theorem Language.parse_error_iff (language : Language) {tree : Tree}
    (hnested : tree.root.NestedInBytes) (hempty : tree.NoneEmptyAtStart) :
    let answer := (language.parse (.parsed tree)).value
    (answer = .error ⟨language, .unreadableStart⟩ ↔ tree.OpensWithFault) ∧
    (answer = .ok tree ↔ ¬ tree.OpensWithFault) ∧
    (∀ first, tree.root.firstConstruct? = some first → first.type = Node.errorType →
      first.startByte ≤ first.endByte → answer = .error ⟨language, .unreadableStart⟩) ∧
    (tree.root.type ≠ Node.errorType →
      (∀ first, tree.root.firstConstruct? = some first → ∀ site ∈ tree.sites, site.above ≠ [] →
        site.node.isFaulty → first.startByte < site.node.startByte) →
      answer = .ok tree) := by
  intro answer
  have herror (h : tree.OpensWithFault) : answer = .error ⟨language, .unreadableStart⟩ :=
    language.parse_of_opensWithFault hnested hempty h
  have hok (h : ¬ tree.OpensWithFault) : answer = .ok tree :=
    language.parse_of_not_opensWithFault hnested hempty h
  refine ⟨⟨fun h => ?_, herror⟩, ⟨fun h hfault => ?_, hok⟩, fun first hfirst htype hle => ?_,
    fun hroot hlater => hok ?_⟩
  · by_contra hnot
    cases h.symm.trans (hok hnot)
  · cases h.symm.trans (herror hfault)
  · obtain ⟨site, hsite, habove, rfl⟩ := Tree.exists_site_of_firstConstruct? hfirst
    -- The construct is not empty, so it covers its own first byte.
    have hlt : site.node.startByte < site.node.endByte :=
      Nat.lt_of_le_of_ne hle fun heq => hempty _ hfirst site hsite ⟨rfl, heq.symm⟩
    refine herror (.inr ⟨_, hfirst, site, hsite, habove, ⟨Nat.le_refl _, hlt⟩, ?_⟩)
    rw [Node.isFaulty, htype]
    rfl
  · rintro (htype | ⟨first, hfirst, site, hsite, habove, hcovers, hfaulty⟩)
    · exact hroot htype
    · exact absurd hcovers.1 (Nat.not_le.2 (hlater first hfirst site hsite habove hfaulty))

/-- A comment and a call whose function is a node of some type. The argument list of the call lacks
its end, and an error follows the call. -/
def commentedCall (type : String) : Tree :=
  let function : Node := ⟨3, type, true, false, some "function", 4, 7, ⟨1, 0⟩, ⟨1, 3⟩,
    [⟨4, "identifier", true, false, none, 4, 5, ⟨1, 0⟩, ⟨1, 1⟩, []⟩,
      ⟨5, ".", false, false, none, 5, 6, ⟨1, 1⟩, ⟨1, 2⟩, []⟩]⟩
  let arguments : Node := ⟨6, "argument_list", true, false, some "arguments", 7, 8, ⟨1, 3⟩, ⟨1, 4⟩,
    [⟨7, "(", false, false, none, 7, 8, ⟨1, 3⟩, ⟨1, 4⟩, []⟩,
      ⟨8, ")", false, true, none, 8, 8, ⟨1, 4⟩, ⟨1, 4⟩, []⟩]⟩
  ⟨⟨0, "module", true, false, none, 0, 11, ⟨0, 0⟩, ⟨3, 0⟩,
    [⟨1, "comment", true, false, none, 0, 3, ⟨0, 0⟩, ⟨0, 3⟩, []⟩,
      ⟨2, "call", true, false, none, 4, 8, ⟨1, 0⟩, ⟨1, 4⟩, [function, arguments]⟩,
      ⟨9, "ERROR", true, false, none, 9, 10, ⟨2, 0⟩, ⟨2, 1⟩, []⟩]⟩, true⟩

/-- A call whose function is an error is refused. With another function the missing end and the
later error do not matter. -/
theorem parse_error_iff_commentedCall :
    let broken := commentedCall "ERROR"
    let readable := commentedCall "attribute"
    (broken.root.NestedInBytes ∧ broken.NoneEmptyAtStart ∧ broken.OpensWithFault ∧
      (Language.python.parse (.parsed broken)).value = .error ⟨.python, .unreadableStart⟩) ∧
    readable.root.NestedInBytes ∧ readable.NoneEmptyAtStart ∧
      (∃ site ∈ readable.sites, site.above ≠ [] ∧ site.node.isFaulty) ∧
      (Language.python.parse (.parsed readable)).value = .ok readable := by
  intro broken readable
  have hnested : broken.root.NestedInBytes := (Node.all_iff_sites []).2 (by decide)
  have hempty : broken.NoneEmptyAtStart := by
    intro first hfirst
    cases hfirst
    decide
  have hfault : broken.OpensWithFault := .inr ⟨_, rfl, by decide⟩
  have hnestedReadable : readable.root.NestedInBytes := (Node.all_iff_sites []).2 (by decide)
  have hemptyReadable : readable.NoneEmptyAtStart := by
    intro first hfirst
    cases hfirst
    decide
  refine ⟨⟨hnested, hempty, hfault, ?_⟩, hnestedReadable, hemptyReadable, by decide, ?_⟩
  · exact (Language.python.parse_error_iff hnested hempty).1.2 hfault
  · refine (Language.python.parse_error_iff hnestedReadable hemptyReadable).2.2.2 (by decide) ?_
    intro first hfirst
    cases hfirst
    decide

end CursorScope
