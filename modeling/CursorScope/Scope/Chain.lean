import CursorScope.Describe.Classification
import CursorScope.Scope.Arena
import CursorScope.Scope.Trail

/-!
# The chain of scopes around a target

The recognized nodes on the trail of a target are its entries. Each gets a handle in an arena. Of
neighbouring entries with one range only the innermost stays in the chain, but the handles of the
others stay in the arena.
-/

namespace CursorScope

/-- A recognized node that encloses a target. -/
structure Scope where
  handle : Nat
  kind : Kind
  signature : String
  name : String
  standsAlone : Bool
  range : Range
  deriving DecidableEq

/-- A recognized node on a trail. -/
structure Entry where
  classification : Classification
  range : Range
  deriving DecidableEq

namespace Entry

/-- The scope that an entry reports under a handle. -/
def toScope (entry : Entry) (handle : Nat) : Scope :=
  ⟨handle, entry.classification.kind, entry.classification.signature, entry.classification.name,
    entry.classification.standsAlone, entry.range⟩

end Entry

/-- What was recognized on a trail: the nodes that got handles, their entries, and the failure
that broke the search off. -/
structure Walk where
  nodes : List Node
  entries : List Entry
  failure : Option RangeError

namespace Walk

/-- The walk over sites, up to the first failure. A node gets its handle as soon as it is
classified, even if it turns out to have no range. -/
def ofSites (classifier : Classifier) (doc : Document) : List Site → Walk
  | [] => ⟨[], [], none⟩
  | site :: rest =>
      match classifier.classify site doc with
      | .error failure => ⟨[], [], some failure⟩
      | .ok none => ofSites classifier doc rest
      | .ok (some classification) =>
          match site.node.range doc with
          | .error failure => ⟨[site.node], [], some failure⟩
          | .ok range =>
              let walk := ofSites classifier doc rest
              ⟨site.node :: walk.nodes, ⟨classification, range⟩ :: walk.entries, walk.failure⟩

/-- The walk along the trail of a target. A failure to describe a node comes before a failure to
go on from it. -/
def along (classifier : Classifier) (root : Node) (target : Range) (doc : Document) : Walk :=
  let trail := (Site.ofRoot root).trail target doc
  let walk := ofSites classifier doc trail.sites
  { walk with failure := walk.failure <|> trail.failure }

/-- The scopes of a walk, with handles from `first` on. -/
def scopes (walk : Walk) (first : Nat) : List Scope :=
  (walk.entries.zipIdx first).map fun (entry, handle) => entry.toScope handle

end Walk

/-- The scopes without those that the next scope covers with the same range. -/
def innermostOfRanges : List Scope → List Scope
  | [] => []
  | [scope] => [scope]
  | scope :: next :: rest =>
      if scope.range = next.range then innermostOfRanges (next :: rest)
      else scope :: innermostOfRanges (next :: rest)

/-- The chain of scopes around a target, outermost first, and the arena with the handles of all
recognized nodes on the way. -/
def Classifier.chain (classifier : Classifier) (root : Node) (target : Range) (doc : Document)
    (arena : Arena) : Arena × Except RangeError (List Scope) :=
  let walk := Walk.along classifier root target doc
  let result := match walk.failure with
    | some failure => .error failure
    | none => .ok (innermostOfRanges (walk.scopes arena.size))
  (arena.addAll walk.nodes, result)

end CursorScope
