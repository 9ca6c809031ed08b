import Restyle.Change.Result

/-!
# Notices

What a service tells its listeners: that a project was configured, that stylesheets were
indexed, that a change was applied, that one failed.
-/
namespace Restyle

/-- The kinds of notices. -/
inductive NoticeKind where
  /-- A project was configured. -/
  | projectConfigured
  /-- Stylesheets were indexed. -/
  | filesIndexed
  /-- A change was applied. -/
  | changeApplied
  /-- A change failed. -/
  | changeFailed
deriving DecidableEq, Repr

/-- What listeners are told. -/
inductive Notice where
  /-- The root and the domain mappings are set. -/
  | projectConfigured (root : Text) (mappings : OrderedMap Text Text)
  /-- A root was loaded and has so many stylesheets. -/
  | filesIndexed (root : Text) (count : Nat)
  /-- A change to a selector came to a result. -/
  | changeApplied (selector : Text) (result : PatchResult)
  /-- A change to a selector failed. -/
  | changeFailed (selector error : Text)

/-- The kind of a notice. -/
def Notice.kind : Notice → NoticeKind
  | .projectConfigured _ _ => .projectConfigured
  | .filesIndexed _ _ => .filesIndexed
  | .changeApplied _ _ => .changeApplied
  | .changeFailed _ _ => .changeFailed

end Restyle
