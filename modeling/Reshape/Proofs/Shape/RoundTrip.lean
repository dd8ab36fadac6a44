import Reshape.Catalog.Basic
import Reshape.Proofs.Shape.Grammar
import Reshape.Proofs.Shape.Tokens
import Reshape.Proofs.Typing.Instance

/-!
Contract: shapes and their texts.

Owns:
- `Expression.IsSpelled`, texts that spell a shape wherever no word goes on behind them, and
  that the text of a shape is one of them;
- `Catalog.Knows`, shapes whose declared names the catalog reads as these very shapes;
- `Catalog.parseShape_text`, that what is read from any text is read again from its own text,
  and that so is every shape that the catalog knows.

Does not own: failures of reading.
-/

namespace Reshape

theorem Shape.isProper_of_isValueKind {shape : Shape} (isValueKind : shape.isValueKind = true) :
    shape.isProper = true := by
  cases shape with
  | nullable _ | list _ | array _ | sequence _ | dictionary _ _ => cases isValueKind
  | _ => rfl

namespace Expression

variable {resolve : String → Option Shape}

/-! ## Texts that spell shapes -/

/-- The tokens of a text spell a shape, whatever follows that does not continue a word. -/
def IsSpelled (resolve : String → Option Shape) (text : List Char) (shape : Shape) : Prop :=
  ∀ rest, EndsWord rest → ∀ offset, ∃ written following,
    tokens offset (text ++ rest) = written ++ tokens following rest ∧
      Spells resolve written shape

theorem exists_tokens_name {name : String} (named : isName name = true) {rest : List Char}
    (ends : EndsWord rest) (offset : Nat) :
    ∃ first more following, name = String.ofList (first :: more) ∧
      isNameStart first = true ∧
      tokens offset (name.toList ++ rest) = .word offset first more :: tokens following rest := by
  obtain ⟨first, more, split, starts, inWord⟩ := isName_iff.mp named
  obtain ⟨following, read⟩ := tokens_word ends offset first more
    (List.forall_mem_cons.mpr ⟨isWordCharacter_of_isNameStart starts, inWord⟩)
  refine ⟨first, more, following, ?_, starts, ?_⟩
  · rw [← split, String.ofList_toList]
  · rw [split, read]

theorem IsSpelled.name {name : String} {shape : Shape} (named : isName name = true)
    (denotes : denote resolve name [] = .ok shape) : IsSpelled resolve name.toList shape := by
  intro rest ends offset
  obtain ⟨first, more, following, rfl, starts, read⟩ := exists_tokens_name named ends offset
  exact ⟨[.word offset first more], following, read, .name starts denotes⟩

theorem IsSpelled.orNull {text : List Char} {shape : Shape}
    (spelled : IsSpelled resolve text shape) :
    IsSpelled resolve (text ++ ['?']) shape.orNull := by
  intro rest _ offset
  obtain ⟨written, between, read, spells⟩ :=
    spelled ('?' :: rest) (endsWord_cons (by decide)) offset
  rw [tokens_mark (by decide) (by decide)] at read
  exact ⟨_, between + '?'.utf8Size, by simpa using read, .orNull spells⟩

theorem IsSpelled.unary {name : String} {text whole : List Char} {argument shape : Shape}
    (split : whole = name.toList ++ '<' :: (text ++ ['>'])) (named : isName name = true)
    (spelled : IsSpelled resolve text argument)
    (denotes : denote resolve name [argument] = .ok shape) : IsSpelled resolve whole shape := by
  intro rest _ offset
  subst split
  have ends : EndsWord ('<' :: (text ++ '>' :: rest)) := endsWord_cons (by decide)
  obtain ⟨first, more, opens, rfl, starts, read⟩ := exists_tokens_name named ends offset
  obtain ⟨written, closes, readArgument, spells⟩ :=
    spelled ('>' :: rest) (endsWord_cons (by decide)) (opens + '<'.utf8Size)
  rw [tokens_mark (by decide) (by decide), readArgument, tokens_mark (by decide) (by decide)]
    at read
  have spelling : Spells resolve
      (.word offset first more :: .mark opens '<' :: written ++ [.mark closes '>']) shape :=
    .unary starts spells denotes
  exact ⟨_, closes + '>'.utf8Size, by simpa using read, spelling⟩

theorem IsSpelled.binary {name : String} {keyText valueText whole : List Char}
    {key value shape : Shape}
    (split : whole = name.toList ++ '<' :: (keyText ++ ',' :: ' ' :: (valueText ++ ['>'])))
    (named : isName name = true) (spelledKey : IsSpelled resolve keyText key)
    (spelledValue : IsSpelled resolve valueText value)
    (denotes : denote resolve name [key, value] = .ok shape) : IsSpelled resolve whole shape := by
  intro rest _ offset
  subst split
  have ends : EndsWord ('<' :: (keyText ++ ',' :: ' ' :: (valueText ++ '>' :: rest))) :=
    endsWord_cons (by decide)
  obtain ⟨first, more, opens, rfl, starts, read⟩ := exists_tokens_name named ends offset
  obtain ⟨writtenKey, parts, readKey, spellsKey⟩ :=
    spelledKey (',' :: ' ' :: (valueText ++ '>' :: rest)) (endsWord_cons (by decide))
      (opens + '<'.utf8Size)
  obtain ⟨writtenValue, closes, readValue, spellsValue⟩ :=
    spelledValue ('>' :: rest) (endsWord_cons (by decide))
      (parts + ','.utf8Size + ' '.utf8Size)
  rw [tokens_mark (by decide) (by decide), readKey, tokens_mark (by decide) (by decide),
    tokens_blank (by decide), readValue, tokens_mark (by decide) (by decide)] at read
  have spelling : Spells resolve
      (.word offset first more :: .mark opens '<' :: writtenKey ++ .mark parts ',' ::
        writtenValue ++ [.mark closes '>']) shape :=
    .binary starts spellsKey spellsValue denotes
  exact ⟨_, closes + '>'.utf8Size, by simpa using read, spelling⟩

/-- A text that spells a shape is read as this shape. -/
theorem IsSpelled.parse {text : String} {shape : Shape}
    (spelled : IsSpelled resolve text.toList shape) : Shape.parse resolve text = .ok shape := by
  obtain ⟨written, following, read, spells⟩ := spelled [] endsWord_nil 0
  have onlyWritten : tokens 0 text.toList = written := by simpa [tokens] using read
  rw [Shape.parse, onlyWritten, readAll_eq_ok_iff.mpr spells]

/-! ## Built-in names -/

theorem builtIn?_keyword (kind : PrimitiveKind) :
    builtIn? kind.keyword = some (.shape (.primitive kind)) := by
  cases kind <;> rfl

theorem isName_keyword (kind : PrimitiveKind) : isName kind.keyword = true := by
  cases kind <;> decide

/-- What a built-in name makes of shapes. -/
inductive BuiltIn.IsKnown : BuiltIn → Prop where
  | shape {shape : Shape} (isProper : shape.isProper = true)
      (noName : ∀ inner ∈ shape.subshapes, inner.declaredName? = none) : IsKnown (.shape shape)
  | orNull : IsKnown (.unary Shape.orNull)
  | list : IsKnown (.unary .list)
  | array : IsKnown (.unary .array)
  | sequence : IsKnown (.unary .sequence)
  | dictionary : IsKnown (.binary .dictionary)

theorem builtIn?_isKnown {name : String} {builtIn : BuiltIn}
    (found : builtIn? name = some builtIn) : builtIn.IsKnown := by
  have plain : ∀ {shape : Shape}, shape.isProper = true → shape.subshapes = [shape] →
      shape.declaredName? = none → (BuiltIn.shape shape).IsKnown := by
    intro shape isProper alone unnamed
    refine .shape isProper fun inner isInner => ?_
    rw [alone, List.mem_singleton] at isInner
    rw [isInner, unnamed]
  unfold builtIn? at found
  split at found
  · cases found
    exact plain rfl rfl rfl
  · split at found
    case h_1 | h_2 | h_3 | h_4 | h_5 | h_6 | h_7 | h_8 | h_9 =>
      cases found
      exact plain rfl rfl rfl
    case h_10 | h_11 =>
      cases found
      exact .orNull
    case h_12 | h_13 =>
      cases found
      exact .list
    case h_14 =>
      cases found
      exact .array
    case h_15 | h_16 | h_17 =>
      cases found
      exact .sequence
    case h_18 | h_19 | h_20 =>
      cases found
      exact .dictionary
    case h_21 => cases found

/-! ## What names denote -/

theorem denote_nil_eq_ok {name : String} {shape : Shape}
    (denotes : denote resolve name [] = .ok shape) :
    builtIn? name = some (.shape shape) ∨ builtIn? name = none ∧ resolve name = some shape := by
  unfold denote at denotes
  split at denotes
  · next found _ =>
      cases denotes
      exact .inl found
  · contradiction
  · contradiction
  · contradiction
  · next absent _ =>
      split at denotes
      · next found =>
          cases denotes
          exact .inr ⟨absent, found⟩
      · cases denotes
  · contradiction

theorem denote_singleton_eq_ok {name : String} {argument shape : Shape}
    (denotes : denote resolve name [argument] = .ok shape) :
    ∃ build, builtIn? name = some (.unary build) ∧ shape = build argument := by
  unfold denote at denotes
  split at denotes <;> simp_all

theorem denote_pair_eq_ok {name : String} {key value shape : Shape}
    (denotes : denote resolve name [key, value] = .ok shape) :
    ∃ build, builtIn? name = some (.binary build) ∧ shape = build key value := by
  unfold denote at denotes
  split at denotes <;> simp_all

end Expression

/-! ## Shapes that a catalog can read -/

namespace Catalog

open Expression

variable {catalog : Catalog} {shape : Shape}

/-- If a shape refers to a declaration, its name is a word of its own which the catalog
resolves to the shape. -/
def KnowsName (catalog : Catalog) (shape : Shape) : Prop :=
  ∀ name, shape = .object name ∨ shape = .enumeration name →
    isName name = true ∧ builtIn? name = none ∧ catalog.resolve name = some shape

/-- Every declared name in a shape is one that the catalog resolves to it. -/
def Knows (catalog : Catalog) (shape : Shape) : Prop :=
  ∀ inner ∈ shape.subshapes, catalog.KnowsName inner

theorem knowsName_of_declaredName? (unnamed : shape.declaredName? = none) :
    catalog.KnowsName shape := by
  intro name isDeclared
  rcases isDeclared with rfl | rfl <;> cases unnamed

theorem resolve_eq_some {name : String} (found : catalog.resolve name = some shape) :
    shape = .object name ∨ shape = .enumeration name := by
  obtain ⟨declaration, isDeclared, rfl⟩ := Option.map_eq_some_iff.mp found
  have sameName : declaration.name = name := by simpa using List.find?_some isDeclared
  cases declaration with
  | object type => exact .inl (congrArg Shape.object sameName)
  | enumeration type => exact .inr (congrArg Shape.enumeration sameName)

/-- A shape with wrappers around value kinds only and with names that the catalog knows. -/
structure CanRead (catalog : Catalog) (shape : Shape) : Prop where
  isProper : shape.isProper = true
  knows : catalog.Knows shape

theorem canRead_of_resolve {name : String} (named : isName name = true)
    (notBuiltIn : builtIn? name = none) (found : catalog.resolve name = some shape) :
    catalog.CanRead shape := by
  have knowsName : catalog.KnowsName shape := by
    intro other isOther
    rcases resolve_eq_some found with rfl | rfl
    · rcases isOther with ⟨⟨⟩⟩ | ⟨⟨⟩⟩
      exact ⟨named, notBuiltIn, found⟩
    · rcases isOther with ⟨⟨⟩⟩ | ⟨⟨⟩⟩
      exact ⟨named, notBuiltIn, found⟩
  rcases resolve_eq_some found with rfl | rfl
  · exact ⟨rfl, List.forall_mem_singleton.mpr knowsName⟩
  · exact ⟨rfl, List.forall_mem_singleton.mpr knowsName⟩

theorem CanRead.orNull (canRead : catalog.CanRead shape) : catalog.CanRead shape.orNull := by
  by_cases isValueKind : shape.isValueKind = true
  · rw [Shape.orNull, if_pos isValueKind]
    refine ⟨isValueKind, List.forall_mem_cons.mpr ⟨?_, canRead.knows⟩⟩
    rintro name (⟨⟨⟩⟩ | ⟨⟨⟩⟩)
  · rwa [Shape.orNull, if_neg isValueKind]

theorem CanRead.array (canRead : catalog.CanRead shape) : catalog.CanRead (.array shape) :=
  ⟨canRead.isProper, List.forall_mem_cons.mpr ⟨knowsName_of_declaredName? rfl, canRead.knows⟩⟩

/-- The shapes that built-in names make of shapes can be read if these can. -/
theorem CanRead.unary {build : Shape → Shape} (isKnown : (BuiltIn.unary build).IsKnown)
    (canRead : catalog.CanRead shape) : catalog.CanRead (build shape) := by
  have unnamed : ∀ {outer : Shape}, outer.declaredName? = none → outer.isProper = true →
      outer.subshapes = outer :: shape.subshapes → catalog.CanRead outer := by
    intro outer noName isProper split
    refine ⟨isProper, ?_⟩
    rw [Knows, split]
    exact List.forall_mem_cons.mpr ⟨knowsName_of_declaredName? noName, canRead.knows⟩
  cases isKnown with
  | orNull => exact canRead.orNull
  | list => exact unnamed rfl canRead.isProper rfl
  | array => exact unnamed rfl canRead.isProper rfl
  | sequence => exact unnamed rfl canRead.isProper rfl

theorem CanRead.binary {build : Shape → Shape → Shape} {key value : Shape}
    (isKnown : (BuiltIn.binary build).IsKnown) (canReadKey : catalog.CanRead key)
    (canReadValue : catalog.CanRead value) : catalog.CanRead (build key value) := by
  cases isKnown with
  | dictionary =>
      refine ⟨?_, List.forall_mem_cons.mpr ⟨knowsName_of_declaredName? rfl, ?_⟩⟩
      · show (key.isProper && value.isProper) = true
        rw [canReadKey.isProper, canReadValue.isProper]
        rfl
      · intro inner isInner
        rcases List.mem_append.mp isInner with inKey | inValue
        · exact canReadKey.knows inner inKey
        · exact canReadValue.knows inner inValue

/-- Whatever the words of a text spell can be read again. -/
theorem canRead_of_spells {written : List Token} (spells : Spells catalog.resolve written shape)
    (clean : ∀ token ∈ written, token.IsClean) : catalog.CanRead shape := by
  induction spells with
  | @name _ first more _ starts denotes =>
      rcases denote_nil_eq_ok denotes with isBuiltIn | ⟨notBuiltIn, found⟩
      · cases builtIn?_isKnown isBuiltIn with
        | shape isProper noName =>
            exact ⟨isProper, fun inner isInner =>
              knowsName_of_declaredName? (noName inner isInner)⟩
      · have isWord : (Token.word _ first more).IsClean := clean _ List.mem_cons_self
        exact canRead_of_resolve
          (isName_ofList starts fun character present => isWord character (.tail _ present))
          notBuiltIn found
  | unary _ _ denotes inductionHypothesis =>
      obtain ⟨build, isBuiltIn, rfl⟩ := denote_singleton_eq_ok denotes
      exact (inductionHypothesis fun token present => clean token (by simp [present])).unary
        (builtIn?_isKnown isBuiltIn)
  | binary _ _ _ denotes keyHypothesis valueHypothesis =>
      obtain ⟨build, isBuiltIn, rfl⟩ := denote_pair_eq_ok denotes
      exact .binary (builtIn?_isKnown isBuiltIn)
        (keyHypothesis fun token present => clean token (by simp [present]))
        (valueHypothesis fun token present => clean token (by simp [present]))
  | orNull _ inductionHypothesis =>
      exact (inductionHypothesis fun token present =>
        clean token (List.mem_append_left _ present)).orNull
  | array _ inductionHypothesis =>
      exact (inductionHypothesis fun token present =>
        clean token (List.mem_append_left _ present)).array

theorem canRead_of_parseShape {text : String} (read : catalog.parseShape text = .ok shape) :
    catalog.CanRead shape := by
  unfold parseShape Shape.parse at read
  split at read
  · cases read
  · next readTokens =>
      cases read
      exact canRead_of_spells (readAll_eq_ok_iff.mp readTokens) (tokens_isClean 0 text.toList)

/-! ## The text of a shape -/

theorem isSpelled_builtIn {name : String} (named : isName name = true)
    (isBuiltIn : builtIn? name = some (.shape shape)) :
    IsSpelled catalog.resolve name.toList shape :=
  .name named (by simp [denote, isBuiltIn])

theorem isSpelled_declared {name : String} (knowsName : catalog.KnowsName shape)
    (isDeclared : shape = .object name ∨ shape = .enumeration name) :
    IsSpelled catalog.resolve name.toList shape := by
  obtain ⟨named, notBuiltIn, found⟩ := knowsName name isDeclared
  exact .name named (by simp [denote, notBuiltIn, found])

/-- The text of a shape that can be read spells the shape. -/
theorem CanRead.isSpelled (canRead : catalog.CanRead shape) :
    IsSpelled catalog.resolve shape.text.toList shape := by
  obtain ⟨isProper, knows⟩ := canRead
  -- What a shape is made of can be read as well, which the induction hypotheses ask for.
  induction shape with
  | primitive kind => exact isSpelled_builtIn (isName_keyword kind) (builtIn?_keyword kind)
  | string => exact isSpelled_builtIn (by decide) rfl
  | decimal => exact isSpelled_builtIn (by decide) rfl
  | dateTime => exact isSpelled_builtIn (by decide) rfl
  | duration => exact isSpelled_builtIn (by decide) rfl
  | uuid => exact isSpelled_builtIn (by decide) rfl
  | enumeration name => exact isSpelled_declared (knows _ List.mem_cons_self) (.inr rfl)
  | object name => exact isSpelled_declared (knows _ List.mem_cons_self) (.inl rfl)
  | nullable inner inductionHypothesis =>
      have isValueKind : inner.isValueKind = true := isProper
      have spelled := inductionHypothesis (Shape.isProper_of_isValueKind isValueKind)
        (List.forall_mem_cons.mp knows).2
      have wrapped := spelled.orNull
      rw [Shape.orNull, if_pos isValueKind] at wrapped
      rw [Shape.text, String.toList_append]
      exact wrapped
  | list element inductionHypothesis =>
      have spelled := inductionHypothesis isProper (List.forall_mem_cons.mp knows).2
      have split : (Shape.list element).text.toList =
          "List".toList ++ '<' :: (element.text.toList ++ ['>']) := by simp [Shape.text]
      exact .unary split (by decide) spelled rfl
  | array element inductionHypothesis =>
      have spelled := inductionHypothesis isProper (List.forall_mem_cons.mp knows).2
      have split : (Shape.array element).text.toList =
          "Array".toList ++ '<' :: (element.text.toList ++ ['>']) := by simp [Shape.text]
      exact .unary split (by decide) spelled rfl
  | sequence element inductionHypothesis =>
      have spelled := inductionHypothesis isProper (List.forall_mem_cons.mp knows).2
      have split : (Shape.sequence element).text.toList =
          "Seq".toList ++ '<' :: (element.text.toList ++ ['>']) := by simp [Shape.text]
      exact .unary split (by decide) spelled rfl
  | dictionary key value keyHypothesis valueHypothesis =>
      have bothProper : key.isProper = true ∧ value.isProper = true := by
        simpa [Shape.isProper] using isProper
      have inside := (List.forall_mem_cons.mp knows).2
      have spelledKey := keyHypothesis bothProper.1 fun inner isInner =>
        inside inner (List.mem_append_left _ isInner)
      have spelledValue := valueHypothesis bothProper.2 fun inner isInner =>
        inside inner (List.mem_append_right _ isInner)
      have split : (Shape.dictionary key value).text.toList =
          "Map".toList ++
            '<' :: (key.text.toList ++ ',' :: ' ' :: (value.text.toList ++ ['>'])) := by
        simp [Shape.text]
      exact .binary split (by decide) spelledKey spelledValue rfl

/-- Reading and writing shapes agree.  What is read from any text has wrappers around value
kinds only, and its own text is read as the same shape again.  So is the text of every shape
with wrappers around value kinds only, if its declared names are words that are not built in
and that the catalog resolves to what they stand for in the shape. -/
theorem parseShape_text (catalog : Catalog) :
    (∀ text shape, catalog.parseShape text = .ok shape →
      shape.isProper = true ∧ catalog.parseShape shape.text = .ok shape) ∧
    ∀ shape : Shape, shape.isProper = true → catalog.Knows shape →
      catalog.parseShape shape.text = .ok shape := by
  refine ⟨?_, ?_⟩
  · intro text shape read
    have canRead := canRead_of_parseShape read
    exact ⟨canRead.isProper, canRead.isSpelled.parse⟩
  · intro shape isProper knows
    have canRead : catalog.CanRead shape := ⟨isProper, knows⟩
    exact canRead.isSpelled.parse

/-- A catalog of an enumeration and an object type that refers to itself. -/
def paletteCatalog : Catalog :=
  ⟨[.enumeration ⟨"Farbe", .i32, [⟨"Rot", 1⟩]⟩,
    .object ⟨"Größe", [⟨"Teile", .list (.object "Größe"), .readWrite, false, [], none⟩], true,
      false⟩], []⟩

theorem parseShape_text_palette :
    let shape : Shape :=
      .dictionary (.nullable (.enumeration "Farbe")) (.list (.array (.object "Größe")))
    paletteCatalog.parseShape " Map < Farbe ? , Vec<Größe[ ]> >" = .ok shape ∧
      shape.isProper = true ∧
      paletteCatalog.parseShape "Map<Farbe?, List<Array<Größe>>>" = .ok shape ∧
      paletteCatalog.Knows shape ∧ paletteCatalog.parseShape shape.text = .ok shape := by
  intro shape
  have read : paletteCatalog.parseShape " Map < Farbe ? , Vec<Größe[ ]> >" = .ok shape := by
    decide +kernel
  have isText : shape.text = "Map<Farbe?, List<Array<Größe>>>" := by decide
  have knows : paletteCatalog.Knows shape := by
    intro inner isInner name isDeclared
    simp only [shape, Shape.subshapes, List.mem_cons, List.mem_append, List.not_mem_nil,
      or_false] at isInner
    rcases isInner with rfl | (rfl | rfl) | rfl | rfl | rfl <;>
      rcases isDeclared with ⟨⟨⟩⟩ | ⟨⟨⟩⟩ <;>
      exact ⟨by decide, rfl, by rfl⟩
  obtain ⟨isProper, again⟩ := (parseShape_text paletteCatalog).1 _ _ read
  rw [isText] at again
  exact ⟨read, isProper, again, knows, (parseShape_text paletteCatalog).2 shape isProper knows⟩

end Catalog

end Reshape
