import Reshape.Binding.Basic
import Reshape.Catalog.Basic
import Reshape.Configuration
import Reshape.Mapping.Error

/-!
Contract: which members of the source go to which members of the target.

Owns:
- `MemberPath`, a chain of members on each side with the pair of shapes that governs
  the conversion between their ends;
- `MemberScope.resolve`, which finds the paths of a pair: in the order of the source
  members, and for one source member those by name before those by a bound path.

Does not own: how values are carried along a path.
-/

namespace Reshape

/-- A chain of members to read and a chain of members to write.  The pair is that of
the last members, with an override of the target shape. -/
structure MemberPath where
  source : List AnnotatedMember
  target : List AnnotatedMember
  pair : ShapePair
deriving DecidableEq

namespace MemberPath

/-- One member on each side. -/
def isSingleLevel (path : MemberPath) : Bool :=
  path.source.length == 1 && path.target.length == 1

/-- The names of the target members as a key of overrides and converters. -/
def targetKey (path : MemberPath) : String :=
  DottedPath.key (path.target.map fun member => member.name)

end MemberPath

/-- What the resolution of a pair depends on. -/
structure MemberScope where
  catalog : Catalog
  configuration : Configuration
  binding : Binding
  pair : ShapePair

namespace MemberScope

/-- The members to read. -/
def sources (scope : MemberScope) : List AnnotatedMember :=
  scope.catalog.readableMembers scope.pair.source

/-- The members to write. -/
def targets (scope : MemberScope) : List AnnotatedMember :=
  scope.catalog.writableMembers scope.pair.target

/-- Whether a source member is left out, by an annotation for this target or for all,
or by the binding. -/
def isIgnored (scope : MemberScope) (member : AnnotatedMember) : Bool :=
  (member.annotations.any fun annotation =>
      match annotation with
      | .ignore none => true
      | .ignore (some target) => scope.pair.target.declaredName? == some target
      | .bind .. => false) ||
    scope.binding.isIgnored member.name

/-- The names in the annotations of a source member that are restricted to this
target. -/
def restrictedNames (scope : MemberScope) (member : AnnotatedMember) : List String :=
  member.annotations.filterMap fun annotation =>
    match annotation with
    | .bind name (some target) =>
        if scope.pair.target.declaredName? = some target then some name else none
    | _ => none

/-- The names in the annotations of a source member that hold for every target. -/
def unrestrictedNames (member : AnnotatedMember) : List String :=
  member.annotations.filterMap fun annotation =>
    match annotation with
    | .bind name none => some name
    | _ => none

/-- Whether a target member is annotated as the counterpart of a source member. -/
def claims (scope : MemberScope) (target : AnnotatedMember) (member : String) : Bool :=
  target.annotations.any fun annotation =>
    match annotation with
    | .bind name none => name == member
    | .bind name (some source) =>
        name == member && scope.pair.source.declaredName? == some source
    | .ignore _ => false

/-- The names of the target members that are annotated as counterparts of a source
member. -/
def claimedNames (scope : MemberScope) (member : String) : List String :=
  (scope.targets.filter fun target => scope.claims target member).map fun target => target.name

/-- A list, or another one in place of the empty list. -/
def orIfEmpty {α : Type} (preferred otherwise : List α) : List α :=
  if preferred.isEmpty then otherwise else preferred

/-- The names under which the counterparts of a source member are looked for: those of
its annotations, the renames of the binding, those of annotations in the target, and
else its own. -/
def candidateNames (scope : MemberScope) (member : AnnotatedMember) : List String :=
  orIfEmpty (scope.restrictedNames member) <|
    orIfEmpty (unrestrictedNames member) <|
      match scope.binding.renamesOf? member.name with
      | some names => names
      | none => orIfEmpty (scope.claimedNames member.name) [member.name]

/-- The path from a source member to the target member that a name stands for. -/
def pathByName? (scope : MemberScope) (member : AnnotatedMember) (name : String) :
    Option MemberPath :=
  (scope.targets.find? fun target => scope.configuration.namesMatch name target.name).map
    fun target =>
      { source := [member]
        target := [target]
        pair := ⟨member.shape, (scope.binding.shapeOf? target.name).getD target.shape⟩ }

/-- The two sides of a path. -/
inductive Side where
  | source
  | target
deriving DecidableEq

/-- The members of a shape that a path can continue with. -/
def membersOf (scope : MemberScope) : Side → Shape → List AnnotatedMember
  | .source, owner => scope.catalog.readableMembers owner
  | .target, owner => scope.catalog.writableMembers owner

/-- Whether an instance member of a name can be read. -/
def isReadable (scope : MemberScope) (owner : Shape) (name : String) : Bool :=
  (scope.catalog.readableMembers owner).any fun member => member.name == name && !member.isStatic

/-- Whether a path can go on below a member: it is an object, and on the target side
its present value can be read. -/
def canDescend (scope : MemberScope) (side : Side) (owner : Shape) (member : AnnotatedMember) :
    Bool :=
  member.shape.isObject && (side = .source || scope.isReadable owner member.name)

/-- The members that the segments of a path stand for. -/
def walk (scope : MemberScope) (side : Side) (owner : Shape) :
    List String → Except BindError (List AnnotatedMember)
  | [] => .ok []
  | segment :: rest =>
      match (scope.membersOf side owner).find? fun member =>
          scope.configuration.namesMatch segment member.name with
      | none => .error (.memberNotFound owner segment)
      | some member =>
          if rest.isEmpty || scope.canDescend side owner member then
            (scope.walk side member.shape rest).map (member :: ·)
          else
            .error (.memberNotFound owner segment)

/-- The path of a bound path; the source side is looked at first. -/
def resolveBind (scope : MemberScope) (bind : PathBind) : Except BindError MemberPath :=
  match scope.walk .source scope.pair.source bind.source with
  | .error error => .error error
  | .ok source =>
      match scope.walk .target scope.pair.target bind.target with
      | .error error => .error error
      | .ok target =>
          match source.getLast?, target.getLast? with
          | some sourceEnd, some targetEnd =>
              .ok
                { source, target
                  pair := ⟨sourceEnd.shape,
                    (scope.binding.shapeOf? bind.targetKey).getD targetEnd.shape⟩ }
          | _, _ => .error (.memberNotFound scope.pair.target bind.targetKey)

/-- The paths of bound paths, or the first failure. -/
def resolveBinds (scope : MemberScope) : List PathBind → Except BindError (List MemberPath)
  | [] => .ok []
  | bind :: rest =>
      match scope.resolveBind bind with
      | .error error => .error error
      | .ok path => (scope.resolveBinds rest).map (path :: ·)

/-- The paths that start with a source member. -/
def pathsOfMember (scope : MemberScope) (member : AnnotatedMember) :
    Except BindError (List MemberPath) :=
  if scope.isIgnored member then .ok []
  else
    (scope.resolveBinds ((scope.binding.pathsOf? member.name).getD [])).map
      ((scope.candidateNames member).filterMap (scope.pathByName? member) ++ ·)

/-- The paths of source members, or the first failure. -/
def pathsOfMembers (scope : MemberScope) : List AnnotatedMember → Except BindError (List MemberPath)
  | [] => .ok []
  | member :: rest =>
      match scope.pathsOfMember member with
      | .error error => .error error
      | .ok paths => (scope.pathsOfMembers rest).map (paths ++ ·)

/-- The paths of the pair. -/
def resolve (scope : MemberScope) : Except BindError (List MemberPath) :=
  scope.pathsOfMembers scope.sources

end MemberScope

end Reshape
