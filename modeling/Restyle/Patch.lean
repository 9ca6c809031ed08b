import Restyle.Fault

/-!
# Patching stylesheets

A patch touches one rule block. An update replaces the block of a rule by the rule with its
changes merged in; everything else in the file stays. A new rule is appended to the longest
stylesheet of a root, or to a new one where there is none. The index is read again from a file
that was written, and only then.
-/
namespace Restyle

/-- The index and the disk it is an index of. -/
structure Workspace where
  /-- The index. -/
  index : Index
  /-- The disk. -/
  disk : Disk

namespace Workspace

/-- Name of the stylesheet that is made where there is none. -/
def newFileName : Text := "main.css".toText

/-- What a new stylesheet starts with. -/
def newFileHeader : Text := "/* CSS DevTools Sync */\n".toText

/-- Write a text to the file at a path. -/
def overwrite (workspace : Workspace) (path content : Text) : Except Fault Unit × Workspace :=
  let (outcome, disk) := workspace.disk.write workspace.index.place path content
  (outcome.mapError (.writeFailed path), { workspace with disk })

/-- Read a file into the index again. -/
def refresh (workspace : Workspace) (path : Text) : Except Fault Unit × Workspace :=
  match workspace.index.loadFile workspace.disk path with
  | .error fault => (.error (.skipped fault), workspace)
  | .ok (_, index) => (.ok (), { workspace with index })

/-- Write the file of an entry and read it into the index again. -/
def replaceFile (workspace : Workspace) (path content : Text) : Except Fault Unit × Workspace :=
  match workspace.overwrite path content with
  | (.error fault, workspace) => (.error fault, workspace)
  | (.ok (), workspace) => workspace.refresh path

/-- The text with the span of a rule replaced. -/
def splice (content : Text) (rule : Rule) (block : Text) : Text :=
  content.take rule.start.toNat ++ block ++ content.drop rule.stop.toNat

/-- Write changes into the block of a rule of a file. -/
def updateRule (workspace : Workspace) (path : Text) (rule : Rule) (changes : Changes) :
    Except Fault Patched × Workspace :=
  match Path.resolve workspace.index.place path, workspace.index.get? path with
  | .error fault, _ => (.error (.noPath fault), workspace)
  | .ok _, none => (.error (.notIndexed path), workspace)
  | .ok _, some entry =>
    if !entry.rules.any rule.same then (.error (.ruleGone rule.selector path), workspace)
    else
      let block := Rule.write rule.selector (changes.applyTo rule.properties)
      match workspace.replaceFile entry.path (splice entry.content rule block) with
      | (.error fault, workspace) => (.error fault, workspace)
      | (.ok (), workspace) =>
        (.ok ⟨entry.path, rule.selector, changes.keys, false⟩, workspace)

/-- The file that a new rule of a root goes to: the longest stylesheet of the index, else a new
one. -/
def targetFile (workspace : Workspace) (root : Text) : Except Fault Text × Workspace :=
  match Path.resolve workspace.index.place root, workspace.index.largest? root with
  | .error fault, _ => (.error (.noPath fault), workspace)
  | .ok _, some entry => (.ok entry.path, workspace)
  | .ok _, none =>
    let path := Path.append (Path.absolute workspace.index.place root) newFileName
    let (outcome, workspace) :=
      if workspace.disk.leadsSomewhere workspace.index.place path then (.ok (), workspace)
      else workspace.overwrite path newFileHeader
    match outcome with
    | .error fault => (.error fault, workspace)
    | .ok () =>
      match workspace.refresh path with
      | (.error fault, workspace) => (.error fault, workspace)
      | (.ok (), workspace) => (.ok path, workspace)

/-- Append a rule with the properties that changes give to a stylesheet of a root. -/
def createRule (workspace : Workspace) (selector : Text) (changes : Changes) (root : Text) :
    Except Fault Patched × Workspace :=
  let properties := changes.applyTo .empty
  if properties.isEmpty then (.error (.noProperties selector), workspace)
  else
    match workspace.targetFile root with
    | (.error fault, workspace) => (.error fault, workspace)
    | (.ok path, workspace) =>
      match workspace.index.get? path with
      | none => (.error (.notIndexed path), workspace)
      | some entry =>
        let block := .char '\n' :: .char '\n' :: Rule.write selector properties
        match workspace.replaceFile entry.path (entry.content ++ block) with
        | (.error fault, workspace) => (.error fault, workspace)
        | (.ok (), workspace) => (.ok ⟨entry.path, selector, changes.keys, true⟩, workspace)

end Workspace

end Restyle
