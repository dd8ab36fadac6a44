import Reshape.Document.Basic
import Reshape.Text.Case

/-!
Contract: the settings that all mappers of a registry share.

Owns:
- the ways in which names are matched, and what binding a pair twice does;
- `Configuration`, `Configuration.namesMatch`, and its document form.

Does not own: what is set for a single pair.
-/

namespace Reshape

/-- How a candidate name is compared with the name of a member. -/
inductive NameMatching where
  | exact
  /-- ASCII letters match in either case. -/
  | ignoreCase
  /-- As before, and `_` and `-` do not count. -/
  | normalized
deriving DecidableEq

namespace NameMatching

/-- The characters of a name without `_` and `-`, and with small ASCII letters. -/
def normalForm (name : String) : List Char :=
  (name.toList.filter fun character => character ≠ '_' && character ≠ '-').map Char.toLower

/-- Whether a candidate names a member. -/
def names (matching : NameMatching) (candidate member : String) : Bool :=
  match matching with
  | .exact => candidate == member
  | .ignoreCase => Text.sameIgnoringCase candidate member
  | .normalized => normalForm candidate == normalForm member

/-- The words for the ways of matching. -/
def words : List (String × NameMatching) :=
  [("exact", .exact), ("ignore_case", .ignoreCase), ("normalized", .normalized)]

/-- The word for a way of matching. -/
def word : NameMatching → String
  | .exact => "exact"
  | .ignoreCase => "ignore_case"
  | .normalized => "normalized"

end NameMatching

/-- What binding a pair does when the pair is bound. -/
inductive RebindPolicy where
  /-- The new mapper takes the place of the old one. -/
  | replace
  /-- The bind fails. -/
  | reject
deriving DecidableEq

namespace RebindPolicy

/-- The words for the policies. -/
def words : List (String × RebindPolicy) :=
  [("replace", .replace), ("reject", .reject)]

/-- The word for a policy. -/
def word : RebindPolicy → String
  | .replace => "replace"
  | .reject => "reject"

end RebindPolicy

/-- The settings of a registry.  A matcher of its own takes precedence over the way of
matching. -/
structure Configuration where
  nameMatching : NameMatching := .exact
  rebind : RebindPolicy := .replace
  matcher : Option (String → String → Bool) := none

namespace Configuration

open DocumentTree

/-- Whether a candidate names a member. -/
def namesMatch (configuration : Configuration) (candidate member : String) : Bool :=
  match configuration.matcher with
  | some matches? => matches? candidate member
  | none => configuration.nameMatching.names candidate member

/-- Read a configuration; whatever is left out has its default. -/
def ofDocument {δ : Type} {m : Type → Type} [Monad m] [Alternative m] [DocumentTree δ m]
    (document : δ) : m Configuration := do
  let record ← fields ["name_matching", "rebind"] document
  let nameMatching ← withDefault record "name_matching" .exact (oneOf NameMatching.words)
  let rebind ← withDefault record "rebind" .replace (oneOf RebindPolicy.words)
  return { nameMatching, rebind }

/-- The document form; a matcher has none. -/
def toJson (configuration : Configuration) : Json :=
  .object [("name_matching", .string configuration.nameMatching.word),
    ("rebind", .string configuration.rebind.word)]

end Configuration

end Reshape
