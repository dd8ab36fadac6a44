import Reshape.Files
import Reshape.Proofs.Catalog.Loading
import Reshape.Proofs.Document.Reading

/-!
Contract: the enumerations that documents declare.

Owns:
- `TypeEntry.HasDistinctVariants`, what the reading of a document sees to, in either notation;
- `Catalog.exists_entry_of_enumeration`, that enumerations are declared as their entries say;
- `EnumType.IsLoaded`, the enumerations of catalogs that are loaded, whose variants have distinct
  names.

Does not own: object types, and enumerations that are declared without a document.
-/

namespace Reshape

open ReadingMonad

/-! ## Entries -/

/-- The variants of an enumeration have distinct names. -/
def TypeEntry.HasDistinctVariants : TypeEntry → Prop
  | .object .. => True
  | .enumeration _ variants => (variants.map Prod.fst).Nodup

namespace CatalogEntries

theorem hasDistinctVariants_of_readObject {content : Content} {entry : TypeEntry}
    (read : readObject content = some entry) : entry.HasDistinctVariants := by
  obtain ⟨record, -, read⟩ := Option.bind_eq_some_iff.mp read
  obtain ⟨members, -, read⟩ := Option.bind_eq_some_iff.mp read
  obtain ⟨hasConstructor, -, read⟩ := Option.bind_eq_some_iff.mp read
  obtain ⟨isValueKind, -, read⟩ := Option.bind_eq_some_iff.mp read
  cases read
  trivial

theorem hasDistinctVariants_of_readEnumeration {content : Content} {entry : TypeEntry}
    (read : readEnumeration content = some entry) : entry.HasDistinctVariants := by
  obtain ⟨record, -, read⟩ := Option.bind_eq_some_iff.mp read
  obtain ⟨underlying, -, read⟩ := Option.bind_eq_some_iff.mp read
  obtain ⟨variants, areVariants, read⟩ := Option.bind_eq_some_iff.mp read
  cases read
  have areVariants : Gives (DocumentTree.required record "variants"
      (DocumentTree.tableOf Content.signed?)) variants := areVariants
  obtain ⟨document, isTable⟩ := DocumentTree.of_required areVariants
  exact (DocumentTree.of_tableOf isTable).1

section Documents

variable {δ : Type} {m : Type → Type} [ReadingMonad m] [DocumentTree δ m]

theorem hasDistinctVariants_of_readType {document : δ} {entry : TypeEntry}
    (gives : Gives (readType document) entry) : entry.HasDistinctVariants := by
  obtain ⟨⟨kind, contents⟩, -, isRead⟩ := of_bind gives
  split at isRead
  · exact hasDistinctVariants_of_readObject (eq_some_of_getM isRead)
  · exact hasDistinctVariants_of_readEnumeration (eq_some_of_getM isRead)
  · exact absurd isRead of_failure

/-- A name that a document gives to several variants stands for the last of them only. -/
theorem hasDistinctVariants_of_ofDocument {document : δ} {entries : CatalogEntries}
    (gives : Gives (ofDocument document) entries) :
    ∀ entry ∈ entries, entry.2.HasDistinctVariants := by
  obtain ⟨record, -, areTypes⟩ := of_bind gives
  intro entry isEntry
  rcases DocumentTree.of_withDefault areTypes with rfl | ⟨types, areEntries⟩
  · cases isEntry
  · obtain ⟨part, isPart⟩ := (DocumentTree.of_tableOf areEntries).2 entry isEntry
    exact hasDistinctVariants_of_readType isPart

end Documents

end CatalogEntries

/-! ## Catalogs -/

namespace Catalog

/-- A declared enumeration has the variants of an entry. -/
theorem exists_entry_of_enumeration {entries : CatalogEntries} {catalog : Catalog}
    (loaded : ofEntries entries = .ok catalog) {type : EnumType}
    (isDeclared : .enumeration type ∈ catalog.declarations) :
    ∃ variants, (type.name, .enumeration type.underlying variants) ∈ entries ∧
      type.variants = variants.map fun variant => ⟨variant.1, variant.2⟩ := by
  obtain ⟨declared, pending, values, isComplete, -, rfl⟩ := ofEntries_eq_ok_iff.mp loaded
  obtain ⟨distinctNames, parts, reads, rfl, -⟩ :=
    (declareEntries_eq_ok_iff isSeeded_empty.names_nodup).mp isComplete
  have declares : List.Forall₂ (TypeEntry.Declares entries.shapeOf?) entries
      (parts.map Prod.fst) :=
    List.forall₂_map_right_iff.mpr
      (reads.imp fun entry part read => (TypeEntry.toDeclaration_declares read).1)
  have inOrder : (empty.insertAll (parts.map Prod.fst)).declarations =
      empty.declarations ++ parts.map Prod.fst :=
    declarations_insertAll (by rwa [TypeEntry.map_name_of_declares declares])
  -- Initial values change nothing about an enumeration, which is the same with and without them.
  have isBare := List.mem_map_of_mem isDeclared (f := Declaration.bare)
  rw [map_bare_setInitials, inOrder, List.mem_map] at isBare
  obtain ⟨declaration, isPart, sameBare⟩ := isBare
  obtain ⟨entry, isEntry, declares⟩ :=
    exists_of_forall₂ (List.Forall₂.flip declares)
      (show declaration ∈ parts.map Prod.fst from isPart)
  cases declares with
  | object => cases sameBare
  | enumeration name underlying variants =>
      cases sameBare
      exact ⟨variants, isEntry, rfl⟩

/-- A catalog is loaded from entries whose variants have distinct names. -/
theorem exists_entries_of_load {files : Files} {path : String} {catalog : Catalog}
    (loaded : load files path = .ok catalog) :
    ∃ entries, ofEntries entries = .ok catalog ∧
      ∀ entry ∈ entries, entry.2.HasDistinctVariants := by
  unfold load at loaded
  split at loaded
  · cases loaded
  · split at loaded
    · unfold ofYamlText at loaded
      split at loaded
      · next entries isDocument =>
          obtain ⟨tree, -, isRead⟩ := Option.bind_eq_some_iff.mp isDocument
          obtain ⟨⟨_, rest⟩, gives, rfl⟩ := Option.map_eq_some_iff.mp isRead
          have gives : Gives (CatalogEntries.ofDocument tree) _ := ⟨_, rest, gives⟩
          exact ⟨_, loaded, CatalogEntries.hasDistinctVariants_of_ofDocument gives⟩
      · cases loaded
    · unfold ofJsonText at loaded
      split at loaded
      · next entries isDocument =>
          obtain ⟨tree, -, gives⟩ := Option.bind_eq_some_iff.mp isDocument
          have gives : Gives (CatalogEntries.ofDocument tree) entries := gives
          exact ⟨_, loaded, CatalogEntries.hasDistinctVariants_of_ofDocument gives⟩
      · cases loaded
    · cases loaded

end Catalog

/-! ## Enumerations -/

/-- A document declares the enumeration. -/
def EnumType.IsLoaded (type : EnumType) : Prop :=
  ∃ files path catalog, Catalog.load files path = .ok catalog ∧
    .enumeration type ∈ catalog.declarations

theorem EnumType.IsLoaded.of_load {files : Files} {path : String} {type : EnumType}
    (loads : ((Catalog.load files path).toOption.bind fun catalog =>
      catalog.enumeration? type.name) = some type) : type.IsLoaded := by
  obtain ⟨catalog, isCatalog, found⟩ := Option.bind_eq_some_iff.mp loads
  cases loaded : Catalog.load files path with
  | error =>
      rw [loaded] at isCatalog
      cases isCatalog
  | ok =>
      rw [loaded] at isCatalog
      cases isCatalog
      exact ⟨files, path, catalog, loaded, (Catalog.mem_of_enumeration? found).1⟩

theorem EnumType.IsLoaded.distinctNames {type : EnumType} (isLoaded : type.IsLoaded) :
    (type.variants.map Variant.name).Nodup := by
  obtain ⟨files, path, catalog, loaded, isDeclared⟩ := isLoaded
  obtain ⟨entries, isCatalog, distinct⟩ := Catalog.exists_entries_of_load loaded
  obtain ⟨variants, isEntry, areVariants⟩ :=
    Catalog.exists_entry_of_enumeration isCatalog isDeclared
  rw [areVariants, List.map_map]
  exact distinct _ isEntry

end Reshape
