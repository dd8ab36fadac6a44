import Reshape.Catalog.Document
import Reshape.Document.Yaml.Grammar
import Reshape.Profile

/-!
Contract: catalogs and profiles in files.

Owns: the format of a file, which its name tells, and the loading of catalogs and
profiles.  A file is read before its name is looked at.

Does not own: access to files; they are given as a function from paths to texts.
-/

namespace Reshape

/-- The texts of files by path; one that cannot be read has none. -/
abbrev Files := String → Option String

/-- The formats of documents. -/
inductive TextFormat where
  | yaml
  | json
deriving DecidableEq

namespace TextFormat

/-- The characters after the last separator, and those before it if there is one. -/
def splitLast (separator : Char) (characters : List Char) : Option (List Char) × List Char :=
  let backwards := characters.reverse
  match backwards.dropWhile fun character => character ≠ separator with
  | [] => (none, characters)
  | _ :: before =>
      (some before.reverse,
        (backwards.takeWhile fun character => character ≠ separator).reverse)

/-- The extension of a file name: what follows its last point, unless the name begins
with that point. -/
def extension? (name : List Char) : Option String :=
  match splitLast '.' name with
  | (some (_ :: _), extension) => if name = ['.', '.'] then none else some (String.ofList extension)
  | _ => none

/-- The format that a path tells. -/
def ofPath? (path : String) : Option TextFormat :=
  match extension? (splitLast '/' path.toList).2 with
  | some "yaml" | some "yml" => some .yaml
  | some "json" => some .json
  | _ => none

end TextFormat

/-- The catalog of a YAML text. -/
def Catalog.ofYamlText (text : String) : Except CatalogError Catalog :=
  match (Yaml.Tree.ofText? text).bind (Yaml.Tree.read? CatalogEntries.ofDocument) with
  | some entries => Catalog.ofEntries entries
  | none => .error .yamlText

/-- The profile of a YAML text. -/
def Profile.ofYamlText (text : String) : Except ProfileError Profile :=
  match (Yaml.Tree.ofText? text).bind (Yaml.Tree.read? Profile.ofDocument) with
  | some profile => .ok profile
  | none => .error .yamlText

/-- Load a catalog. -/
def Catalog.load (files : Files) (path : String) : Except CatalogError Catalog :=
  match files path with
  | none => .error .unreadableFile
  | some text =>
      match TextFormat.ofPath? path with
      | some .yaml => Catalog.ofYamlText text
      | some .json => Catalog.ofJsonText text
      | none => .error (.unsupportedFormat path)

/-- Load a profile. -/
def Profile.load (files : Files) (path : String) : Except ProfileError Profile :=
  match files path with
  | none => .error .unreadableFile
  | some text =>
      match TextFormat.ofPath? path with
      | some .yaml => Profile.ofYamlText text
      | some .json => Profile.ofJsonText text
      | none => .error (.unsupportedFormat path)

end Reshape
