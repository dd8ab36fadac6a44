import Reshape.Proofs.Shape.RoundTrip

/-!
Contract: the grammar of shape expressions over characters.

Owns:
- the productions: `type := name args? suffix*`, `args := '<' type (',' type)* '>'`,
  `suffix := '?' | '[' ']'`, with white space before and after every token;
- `Expression.Denotes`, what a name with arguments stands for, and `Expression.Derives`, the
  texts that derive from `type` together with the shapes that their derivations denote;
- `Shape.parse_derives`, that reading accepts what derives, with the shape it denotes, and
  nothing else, and that a character it does not expect stands where the failure says.

Does not own: which of several failures is reported.

## Characters and tokens

The reader works on tokens, and the grammar on characters.  In one direction the tokens of a
derived text spell its shape wherever no word goes on behind it.  In the other direction a
spelling is taken off the front of the tokens of a text, each token with the white space before
and behind it, so that nothing is left of the text when no token is left.
-/

namespace Reshape

namespace Expression

open Reshape.Text

/-! ## The grammar -/

/-- The text of a token, with white space before and after it. -/
def IsToken (token text : List Char) : Prop :=
  ∃ before after, text = before ++ (token ++ after) ∧
    (∀ character ∈ before, isBlank character = true) ∧
    ∀ character ∈ after, isBlank character = true

/-- What may follow a name and its arguments. -/
inductive Suffix where
  | orNull
  | array

/-- Apply a suffix to what stands before it. -/
def Suffix.wrap (shape : Shape) : Suffix → Shape
  | .orNull => shape.orNull
  | .array => .array shape

/-- The production `suffix := '?' | '[' ']'`. -/
inductive DerivesSuffix : Suffix → List Char → Prop where
  | orNull {text : List Char} (mark : IsToken ['?'] text) : DerivesSuffix .orNull text
  | array {opening closing : List Char} (opens : IsToken ['['] opening)
      (closes : IsToken [']'] closing) : DerivesSuffix .array (opening ++ closing)

/-- Any number of suffixes. -/
inductive DerivesSuffixes : List Suffix → List Char → Prop where
  | none : DerivesSuffixes [] []
  | more {suffix : Suffix} {suffixes : List Suffix} {text rest : List Char}
      (first : DerivesSuffix suffix text) (others : DerivesSuffixes suffixes rest) :
      DerivesSuffixes (suffix :: suffixes) (text ++ rest)

/-- Types with commas between them, by the texts of the types. -/
inductive DerivesItems : List (List Char) → List Char → Prop where
  | last (text : List Char) : DerivesItems [text] text
  | more {text between rest : List Char} {texts : List (List Char)}
      (comma : IsToken [','] between) (others : DerivesItems texts rest) :
      DerivesItems (text :: texts) (text ++ (between ++ rest))

/-- The production `args := '<' type (',' type)* '>'`, or no arguments, by the texts of the
types. -/
inductive DerivesArguments : List (List Char) → List Char → Prop where
  | none : DerivesArguments [] []
  | some {opening inside closing : List Char} {texts : List (List Char)}
      (opens : IsToken ['<'] opening) (items : DerivesItems texts inside)
      (closes : IsToken ['>'] closing) :
      DerivesArguments texts (opening ++ (inside ++ closing))

/-- What a name with arguments stands for.  A built-in name has as many arguments as it takes;
any other name has none and resolves. -/
inductive Denotes (resolve : String → Option Shape) (name : String) :
    List Shape → Shape → Prop where
  | plain {shape : Shape} (isBuiltIn : builtIn? name = some (.shape shape)) :
      Denotes resolve name [] shape
  | unary {build : Shape → Shape} (isBuiltIn : builtIn? name = some (.unary build))
      (argument : Shape) : Denotes resolve name [argument] (build argument)
  | binary {build : Shape → Shape → Shape} (isBuiltIn : builtIn? name = some (.binary build))
      (key value : Shape) : Denotes resolve name [key, value] (build key value)
  | declared {shape : Shape} (notBuiltIn : builtIn? name = none)
      (resolves : resolve name = some shape) : Denotes resolve name [] shape

/-- The production `type := name args? suffix*`, with the shape that the derivation denotes. -/
inductive Derives (resolve : String → Option Shape) : List Char → Shape → Prop where
  | type {name : String} {arguments : List (List Char × Shape)} {suffixes : List Suffix}
      {nameText argumentsText suffixesText : List Char} {named : Shape}
      (isName : isName name = true) (nameDerives : IsToken name.toList nameText)
      (argumentsDerive : DerivesArguments (arguments.map Prod.fst) argumentsText)
      (areTypes : ∀ argument ∈ arguments, Derives resolve argument.1 argument.2)
      (denotes : Denotes resolve name (arguments.map Prod.snd) named)
      (suffixesDerive : DerivesSuffixes suffixes suffixesText) :
      Derives resolve (nameText ++ (argumentsText ++ suffixesText))
        (suffixes.foldl Suffix.wrap named)

variable {resolve : String → Option Shape}

theorem denote_eq_ok_iff {name : String} {arguments : List Shape} {shape : Shape} :
    denote resolve name arguments = .ok shape ↔ Denotes resolve name arguments shape := by
  constructor
  · intro denotes
    match arguments with
    | [] =>
        rcases denote_nil_eq_ok denotes with isBuiltIn | ⟨notBuiltIn, resolves⟩
        · exact .plain isBuiltIn
        · exact .declared notBuiltIn resolves
    | [argument] =>
        obtain ⟨build, isBuiltIn, rfl⟩ := denote_singleton_eq_ok denotes
        exact .unary isBuiltIn argument
    | [key, value] =>
        obtain ⟨build, isBuiltIn, rfl⟩ := denote_pair_eq_ok denotes
        exact .binary isBuiltIn key value
    | first :: second :: third :: others =>
        exact absurd denotes (denote_ne_ok_of_three name first second third others)
  · intro denotes
    cases denotes with
    | plain isBuiltIn => simp [denote, isBuiltIn]
    | unary isBuiltIn argument => simp [denote, isBuiltIn]
    | binary isBuiltIn key value => simp [denote, isBuiltIn]
    | declared notBuiltIn resolves => simp [denote, notBuiltIn, resolves]

/-! ## The tokens of derived texts -/

theorem tokens_blanks {blanks : List Char}
    (areBlank : ∀ character ∈ blanks, isBlank character = true) (offset : Nat)
    (rest : List Char) : ∃ following, tokens offset (blanks ++ rest) = tokens following rest := by
  induction blanks generalizing offset with
  | nil => exact ⟨offset, rfl⟩
  | cons character others inductionHypothesis =>
      obtain ⟨isFirst, areOthers⟩ := List.forall_mem_cons.mp areBlank
      obtain ⟨following, read⟩ := inductionHypothesis areOthers (offset + character.utf8Size)
      exact ⟨following, by rw [List.cons_append, tokens_blank isFirst, read]⟩

/-- White space ends a word, and so does whatever does not continue it. -/
theorem endsWord_blanks {blanks rest : List Char}
    (areBlank : ∀ character ∈ blanks, isBlank character = true) (ends : EndsWord rest) :
    EndsWord (blanks ++ rest) := by
  cases blanks with
  | nil => exact ends
  | cons character others =>
      refine endsWord_cons (Bool.eq_false_iff.mpr fun inWord => ?_)
      have notBlank := isBlank_of_isWordCharacter inWord
      rw [areBlank character List.mem_cons_self] at notBlank
      cases notBlank

theorem IsToken.exists_tokens_mark {mark : Char} {text : List Char} (isMark : IsToken [mark] text)
    (notBlank : isBlank mark = false) (notWord : isWordCharacter mark = false) (offset : Nat)
    (rest : List Char) : ∃ position following,
      tokens offset (text ++ rest) = .mark position mark :: tokens following rest := by
  obtain ⟨before, after, rfl, areBefore, areAfter⟩ := isMark
  obtain ⟨position, readBefore⟩ := tokens_blanks areBefore offset (mark :: (after ++ rest))
  obtain ⟨following, readAfter⟩ :=
    tokens_blanks areAfter (position + mark.utf8Size) rest
  refine ⟨position, following, ?_⟩
  rw [List.append_assoc, List.append_assoc, List.singleton_append, readBefore,
    tokens_mark notBlank notWord, readAfter]

theorem IsToken.endsWord {mark : Char} {text : List Char} (isMark : IsToken [mark] text)
    (notWord : isWordCharacter mark = false) (rest : List Char) : EndsWord (text ++ rest) := by
  obtain ⟨before, after, rfl, areBefore, -⟩ := isMark
  rw [List.append_assoc]
  exact endsWord_blanks areBefore (endsWord_cons notWord)

theorem IsToken.exists_tokens_name {name : String} {text : List Char}
    (isToken : IsToken name.toList text) (named : isName name = true) {rest : List Char}
    (ends : EndsWord rest) (offset : Nat) :
    ∃ position first more following, name = String.ofList (first :: more) ∧
      isNameStart first = true ∧
      tokens offset (text ++ rest) = .word position first more :: tokens following rest := by
  obtain ⟨before, after, rfl, areBefore, areAfter⟩ := isToken
  obtain ⟨position, readBefore⟩ :=
    tokens_blanks areBefore offset (name.toList ++ (after ++ rest))
  obtain ⟨first, more, between, isFirst, starts, read⟩ :=
    Expression.exists_tokens_name named (endsWord_blanks areAfter ends) position
  obtain ⟨following, readAfter⟩ := tokens_blanks areAfter between rest
  refine ⟨position, first, more, following, isFirst, starts, ?_⟩
  rw [List.append_assoc, List.append_assoc, readBefore, read, readAfter]

/-- A name with arguments spells what it denotes, if each argument spells its shape. -/
theorem isSpelled_named {name : String} {arguments : List (List Char × Shape)}
    {nameText argumentsText : List Char} {named : Shape} (isName : isName name = true)
    (nameDerives : IsToken name.toList nameText)
    (argumentsDerive : DerivesArguments (arguments.map Prod.fst) argumentsText)
    (areSpelled : ∀ argument ∈ arguments, IsSpelled resolve argument.1 argument.2)
    (denotes : Denotes resolve name (arguments.map Prod.snd) named) :
    IsSpelled resolve (nameText ++ argumentsText) named := by
  have isDenoted := denote_eq_ok_iff.mpr denotes
  intro rest ends offset
  match arguments with
  | [] =>
      cases argumentsDerive with
      | some _ items _ => cases items
      | none =>
          obtain ⟨position, first, more, following, rfl, starts, read⟩ :=
            nameDerives.exists_tokens_name isName ends offset
          rw [List.append_nil]
          exact ⟨[.word position first more], following, read, .name starts isDenoted⟩
  | [(text, argument)] =>
      cases argumentsDerive with
      | @some opening _ closing _ opens items closes =>
          cases items with
          | more _ others => cases others
          | last =>
              obtain ⟨position, first, more, between, rfl, starts, readName⟩ :=
                nameDerives.exists_tokens_name isName
                  (opens.endsWord (by decide) (text ++ (closing ++ rest))) offset
              obtain ⟨openPosition, inside, readOpening⟩ :=
                opens.exists_tokens_mark (by decide) (by decide) between (text ++ (closing ++ rest))
              obtain ⟨written, behind, readArgument, spells⟩ :=
                areSpelled _ List.mem_cons_self (closing ++ rest)
                  (closes.endsWord (by decide) rest) inside
              obtain ⟨closePosition, following, readClosing⟩ :=
                closes.exists_tokens_mark (by decide) (by decide) behind rest
              rw [readOpening, readArgument, readClosing] at readName
              have spelled : Spells resolve (.word position first more ::
                  .mark openPosition '<' :: written ++ [.mark closePosition '>']) named :=
                .unary starts spells isDenoted
              exact ⟨_, following, by simpa using readName, spelled⟩
  | [(keyText, key), (valueText, value)] =>
      cases argumentsDerive with
      | @some opening _ closing _ opens items closes =>
          cases items with
          | @more _ between _ _ comma others =>
              cases others with
              | more _ others => cases others
              | last =>
                  let tail := keyText ++ (between ++ (valueText ++ (closing ++ rest)))
                  obtain ⟨position, first, more, behindName, rfl, starts, readName⟩ :=
                    nameDerives.exists_tokens_name isName (opens.endsWord (by decide) tail) offset
                  obtain ⟨openPosition, inside, readOpening⟩ :=
                    opens.exists_tokens_mark (by decide) (by decide) behindName tail
                  obtain ⟨writtenKey, behindKey, readKey, spellsKey⟩ :=
                    areSpelled _ List.mem_cons_self (between ++ (valueText ++ (closing ++ rest)))
                      (comma.endsWord (by decide) _) inside
                  obtain ⟨partPosition, behindComma, readComma⟩ :=
                    comma.exists_tokens_mark (by decide) (by decide) behindKey
                      (valueText ++ (closing ++ rest))
                  obtain ⟨writtenValue, behindValue, readValue, spellsValue⟩ :=
                    areSpelled _ (.tail _ List.mem_cons_self) (closing ++ rest)
                      (closes.endsWord (by decide) rest) behindComma
                  obtain ⟨closePosition, following, readClosing⟩ :=
                    closes.exists_tokens_mark (by decide) (by decide) behindValue rest
                  rw [readOpening, readKey, readComma, readValue, readClosing] at readName
                  have spelled : Spells resolve (.word position first more ::
                      .mark openPosition '<' :: writtenKey ++ .mark partPosition ',' ::
                        writtenValue ++ [.mark closePosition '>']) named :=
                    .binary starts spellsKey spellsValue isDenoted
                  exact ⟨_, following, by simpa using readName, spelled⟩
  | _ :: _ :: _ :: _ => exact absurd isDenoted (denote_ne_ok_of_three _ _ _ _ _)

theorem isSpelled_suffix {suffix : Suffix} {text suffixText : List Char} {shape : Shape}
    (derives : DerivesSuffix suffix suffixText) (spelled : IsSpelled resolve text shape) :
    IsSpelled resolve (text ++ suffixText) (suffix.wrap shape) := by
  intro rest ends offset
  rw [List.append_assoc]
  cases derives with
  | orNull mark =>
      obtain ⟨written, behind, read, spells⟩ :=
        spelled (suffixText ++ rest) (mark.endsWord (by decide) rest) offset
      obtain ⟨position, following, readMark⟩ :=
        mark.exists_tokens_mark (by decide) (by decide) behind rest
      rw [readMark] at read
      exact ⟨_, following, by simpa using read, .orNull spells⟩
  | @array opening closing opens closes =>
      obtain ⟨written, behind, read, spells⟩ :=
        spelled (opening ++ (closing ++ rest)) (opens.endsWord (by decide) _) offset
      obtain ⟨openPosition, between, readOpening⟩ :=
        opens.exists_tokens_mark (by decide) (by decide) behind (closing ++ rest)
      obtain ⟨closePosition, following, readClosing⟩ :=
        closes.exists_tokens_mark (by decide) (by decide) between rest
      rw [readOpening, readClosing] at read
      exact ⟨_, following, by simpa using read, .array spells⟩

theorem isSpelled_suffixes {suffixes : List Suffix} {text suffixesText : List Char}
    {shape : Shape} (derives : DerivesSuffixes suffixes suffixesText)
    (spelled : IsSpelled resolve text shape) :
    IsSpelled resolve (text ++ suffixesText) (suffixes.foldl Suffix.wrap shape) := by
  induction derives generalizing text shape with
  | none => rwa [List.append_nil]
  | more first _ inductionHypothesis =>
      rw [← List.append_assoc]
      exact inductionHypothesis (isSpelled_suffix first spelled)

/-- Derived texts spell the shapes that their derivations denote. -/
theorem Derives.isSpelled {text : List Char} {shape : Shape}
    (derives : Derives resolve text shape) : IsSpelled resolve text shape := by
  induction derives with
  | type isName nameDerives argumentsDerive _ denotes suffixesDerive inductionHypothesis =>
      rw [← List.append_assoc]
      exact isSpelled_suffixes suffixesDerive
        (isSpelled_named isName nameDerives argumentsDerive inductionHypothesis denotes)

/-! ## The texts of tokens -/

/-- The characters of a token. -/
def Token.characters : Token → List Char
  | .word _ first more => first :: more
  | .mark _ character => [character]

/-- No white space is at the front of a text. -/
def StartsSolid (text : List Char) : Prop :=
  ∀ character ∈ text.head?, isBlank character = false

/-- The first token stands in the text behind white space. -/
theorem exists_token_of_tokens {offset : Nat} {text : List Char} {token : Token}
    {rest : List Token} (read : tokens offset text = token :: rest) :
    ∃ before after following, text = before ++ (token.characters ++ after) ∧
      (∀ character ∈ before, isBlank character = true) ∧ tokens following after = rest := by
  induction text generalizing offset token rest with
  | nil => cases read
  | cons character remaining inductionHypothesis =>
      by_cases blank : isBlank character = true
      · rw [tokens_blank blank] at read
        obtain ⟨before, after, following, rfl, areBlank, readAfter⟩ := inductionHypothesis read
        exact ⟨character :: before, after, following, rfl,
          List.forall_mem_cons.mpr ⟨blank, areBlank⟩, readAfter⟩
      · by_cases inWord : isWordCharacter character = true
        · rw [tokens, if_neg blank, if_pos inWord, prependWordCharacter.eq_def] at read
          split at read
          · next next others _ first more tail readRemaining =>
              split at read
              · next goesOn =>
                  -- The word goes on, so that there is no white space in front of the rest of it.
                  obtain ⟨before, after, following, split, areBlank, readAfter⟩ :=
                    inductionHypothesis readRemaining
                  cases before with
                  | nil =>
                      cases read
                      refine ⟨[], after, following, ?_, List.forall_mem_nil _, readAfter⟩
                      rw [split]
                      rfl
                  | cons blankCharacter _ =>
                      cases split
                      have notBlank := isBlank_of_isWordCharacter goesOn
                      rw [areBlank _ List.mem_cons_self] at notBlank
                      cases notBlank
              · cases read
                exact ⟨[], next :: others, _, rfl, List.forall_mem_nil _, readRemaining⟩
          · cases read
            exact ⟨[], _, _, rfl, List.forall_mem_nil _, rfl⟩
        · rw [tokens_mark (by simpa using blank) (by simpa using inWord)] at read
          cases read
          exact ⟨[], remaining, _, rfl, List.forall_mem_nil _, rfl⟩

/-- The first token with all the white space around it can be taken off the text. -/
theorem exists_isToken_of_tokens {offset : Nat} {text : List Char} {token : Token}
    {rest : List Token} (read : tokens offset text = token :: rest) :
    ∃ piece after following, text = piece ++ after ∧ IsToken token.characters piece ∧
      StartsSolid after ∧ tokens following after = rest := by
  obtain ⟨before, behind, position, rfl, areBefore, readBehind⟩ := exists_token_of_tokens read
  have areBlank : ∀ character ∈ behind.takeWhile isBlank, isBlank character = true :=
    List.all_eq_true.mp List.all_takeWhile
  have isSplit : behind.takeWhile isBlank ++ behind.dropWhile isBlank = behind :=
    List.takeWhile_append_dropWhile
  obtain ⟨following, readAfter⟩ := tokens_blanks areBlank position (behind.dropWhile isBlank)
  rw [isSplit, readBehind] at readAfter
  refine ⟨before ++ (token.characters ++ behind.takeWhile isBlank), behind.dropWhile isBlank,
    following, ?_, ⟨before, _, rfl, areBefore, areBlank⟩, ?_, readAfter.symm⟩
  · rw [List.append_assoc, List.append_assoc, isSplit]
  · intro character isFirst
    have notBlank := List.head?_dropWhile_not isBlank behind
    rw [Option.mem_def.mp isFirst] at notBlank
    exact notBlank

theorem eq_nil_of_tokens {offset : Nat} {text : List Char} (solid : StartsSolid text)
    (read : tokens offset text = []) : text = [] := by
  cases text with
  | nil => rfl
  | cons character remaining =>
      have notBlank : isBlank character = false := solid character rfl
      by_cases inWord : isWordCharacter character = true
      · rw [tokens, if_neg (by simp [notBlank]), if_pos inWord, prependWordCharacter.eq_def]
          at read
        split at read
        · split at read <;> cases read
        · cases read
      · rw [tokens_mark notBlank (by simpa using inWord)] at read
        cases read

/-! ## The derivations of spelled texts -/

/-- A text begins with a derivation, behind which stand the remaining tokens. -/
def BeginsWith (resolve : String → Option Shape) (text : List Char) (shape : Shape)
    (remaining : List Token) : Prop :=
  ∃ derived after following, text = derived ++ after ∧ Derives resolve derived shape ∧
    StartsSolid after ∧ tokens following after = remaining

theorem DerivesSuffixes.concat {suffixes : List Suffix} {suffix : Suffix} {text rest : List Char}
    (first : DerivesSuffixes suffixes text) (last : DerivesSuffix suffix rest) :
    DerivesSuffixes (suffixes ++ [suffix]) (text ++ rest) := by
  induction first with
  | none =>
      have single : DerivesSuffixes [suffix] (rest ++ []) := .more last .none
      rwa [List.append_nil] at single
  | more isFirst _ inductionHypothesis =>
      rw [List.append_assoc]
      exact .more isFirst inductionHypothesis

/-- A name with arguments, without suffixes. -/
theorem Derives.named {name : String} (arguments : List (List Char × Shape))
    {nameText argumentsText : List Char} {shape : Shape} (isName : isName name = true)
    (nameDerives : IsToken name.toList nameText)
    (argumentsDerive : DerivesArguments (arguments.map Prod.fst) argumentsText)
    (areTypes : ∀ argument ∈ arguments, Derives resolve argument.1 argument.2)
    (denotes : Denotes resolve name (arguments.map Prod.snd) shape) :
    Derives resolve (nameText ++ argumentsText) shape := by
  have derives := Derives.type isName nameDerives argumentsDerive areTypes denotes .none
  rwa [List.append_nil] at derives

/-- A suffix behind a derived text applies to the shape that the text denotes. -/
theorem Derives.wrap {text suffixText : List Char} {shape : Shape} {suffix : Suffix}
    (derives : Derives resolve text shape) (derivesSuffix : DerivesSuffix suffix suffixText) :
    Derives resolve (text ++ suffixText) (suffix.wrap shape) := by
  cases derives with
  | @type _ _ suffixes nameText argumentsText suffixesText named isName nameDerives
      argumentsDerive areTypes denotes suffixesDerive =>
      have wrapped := Derives.type isName nameDerives argumentsDerive areTypes denotes
        (suffixesDerive.concat derivesSuffix)
      rw [List.foldl_append] at wrapped
      rw [List.append_assoc, List.append_assoc]
      exact wrapped

theorem exists_name_of_tokens {offset position : Nat} {text : List Char} {first : Char}
    {more : List Char} {rest : List Token} (starts : isNameStart first = true)
    (read : tokens offset text = .word position first more :: rest) :
    ∃ piece after following, text = piece ++ after ∧
      isName (String.ofList (first :: more)) = true ∧
      IsToken (String.ofList (first :: more)).toList piece ∧ StartsSolid after ∧
      tokens following after = rest := by
  obtain ⟨piece, after, following, isSplit, isToken, solid, readAfter⟩ :=
    exists_isToken_of_tokens read
  have isClean : (Token.word position first more).IsClean :=
    tokens_isClean offset text _ (read ▸ List.mem_cons_self)
  refine ⟨piece, after, following, isSplit,
    isName_ofList starts fun character present => isClean character (.tail _ present), ?_, solid,
    readAfter⟩
  rw [String.toList_ofList]
  exact isToken

/-- The tokens of a spelling come from a derived text. -/
theorem Spells.beginsWith {written : List Token} {shape : Shape}
    (spells : Spells resolve written shape) {offset : Nat} {text : List Char}
    {remaining : List Token} (read : tokens offset text = written ++ remaining) :
    BeginsWith resolve text shape remaining := by
  induction spells generalizing offset text remaining with
  | name starts denotes =>
      obtain ⟨piece, after, following, rfl, isName, isToken, solid, readAfter⟩ :=
        exists_name_of_tokens starts read
      have derives := Derives.named [] isName isToken .none (List.forall_mem_nil _)
        (denote_eq_ok_iff.mp denotes)
      rw [List.append_nil] at derives
      exact ⟨piece, after, following, rfl, derives, solid, readAfter⟩
  | @unary _ _ _ _ _ _ argument _ starts _ denotes inductionHypothesis =>
      simp only [List.cons_append, List.append_assoc, List.nil_append] at read
      obtain ⟨piece, behindName, _, rfl, isName, isToken, -, readName⟩ :=
        exists_name_of_tokens starts read
      obtain ⟨opening, inside, _, rfl, opens, -, readInside⟩ :=
        exists_isToken_of_tokens readName
      obtain ⟨argumentText, behind, _, rfl, derivesArgument, -, readArgument⟩ :=
        inductionHypothesis readInside
      obtain ⟨closing, after, following, rfl, closes, solid, readAfter⟩ :=
        exists_isToken_of_tokens readArgument
      have derives := Derives.named [(argumentText, argument)] isName isToken
        (.some opens (.last argumentText) closes) (List.forall_mem_singleton.mpr derivesArgument)
        (denote_eq_ok_iff.mp denotes)
      exact ⟨_, after, following, by simp only [List.append_assoc], derives, solid, readAfter⟩
  | @binary _ _ _ _ _ _ _ _ key value _ starts _ _ denotes keyHypothesis valueHypothesis =>
      simp only [List.cons_append, List.append_assoc, List.nil_append] at read
      obtain ⟨piece, behindName, _, rfl, isName, isToken, -, readName⟩ :=
        exists_name_of_tokens starts read
      obtain ⟨opening, inside, _, rfl, opens, -, readInside⟩ :=
        exists_isToken_of_tokens readName
      obtain ⟨keyText, behindKey, _, rfl, derivesKey, -, readKey⟩ := keyHypothesis readInside
      obtain ⟨between, behindComma, _, rfl, comma, -, readComma⟩ :=
        exists_isToken_of_tokens readKey
      obtain ⟨valueText, behindValue, _, rfl, derivesValue, -, readValue⟩ :=
        valueHypothesis readComma
      obtain ⟨closing, after, following, rfl, closes, solid, readAfter⟩ :=
        exists_isToken_of_tokens readValue
      have derives := Derives.named [(keyText, key), (valueText, value)] isName isToken
        (.some opens (.more comma (.last valueText)) closes)
        (List.forall_mem_cons.mpr ⟨derivesKey, List.forall_mem_singleton.mpr derivesValue⟩)
        (denote_eq_ok_iff.mp denotes)
      exact ⟨_, after, following, by simp only [List.append_assoc], derives, solid, readAfter⟩
  | orNull _ inductionHypothesis =>
      rw [List.append_assoc] at read
      obtain ⟨derived, behind, between, rfl, derives, -, readBehind⟩ := inductionHypothesis read
      obtain ⟨piece, after, following, rfl, isMark, solid, readAfter⟩ :=
        exists_isToken_of_tokens readBehind
      exact ⟨derived ++ piece, after, following, by rw [List.append_assoc],
        derives.wrap (.orNull isMark), solid, readAfter⟩
  | array _ inductionHypothesis =>
      rw [List.append_assoc] at read
      obtain ⟨derived, behind, between, rfl, derives, -, readBehind⟩ := inductionHypothesis read
      obtain ⟨opening, inside, opened, rfl, opens, -, readInside⟩ :=
        exists_isToken_of_tokens readBehind
      obtain ⟨closing, after, following, rfl, closes, solid, readAfter⟩ :=
        exists_isToken_of_tokens readInside
      exact ⟨derived ++ (opening ++ closing), after, following, by simp only [List.append_assoc],
        derives.wrap (.array opens closes), solid, readAfter⟩

/-! ## Failures -/

/-- A failure that says where it arose names one of the tokens. -/
def Failure.NamesOneOf (input : List Token) : Failure → Prop
  | .unexpected offset found => ∃ token ∈ input, token.offset = offset ∧ token.first = found
  | _ => True

/-- A reader stays within its tokens: what it leaves is their end, and if it does not expect a
character then one of them starts with it. -/
def StaysWithin {α : Type} {bound : List Token → Prop} (input : List Token)
    (read : Except Failure (α × { rest : List Token // bound rest })) : Prop :=
  match read with
  | .error failure => failure.NamesOneOf input
  | .ok (_, rest) => rest.1 <:+ input

theorem Failure.NamesOneOf.mono {first second : List Token} {failure : Failure}
    (names : failure.NamesOneOf first) (isEnd : first <:+ second) :
    failure.NamesOneOf second := by
  cases failure with
  | unexpected offset found =>
      obtain ⟨token, present, isToken⟩ := names
      exact ⟨token, isEnd.subset present, isToken⟩
  | _ => trivial

theorem namesOneOf_stopAt (input : List Token) : (stopAt input).NamesOneOf input := by
  cases input with
  | nil => trivial
  | cons token rest => exact ⟨token, List.mem_cons_self, rfl, rfl⟩

theorem namesOneOf_of_denote {name : String} {arguments : List Shape} {failure : Failure}
    (denotes : denote resolve name arguments = .error failure) (input : List Token) :
    failure.NamesOneOf input := by
  unfold denote at denotes
  repeat' split at denotes
  all_goals cases denotes
  all_goals trivial

theorem readSuffixes_staysWithin (shape : Shape) (input : List Token) :
    StaysWithin input (readSuffixes shape input) := by
  rw [readSuffixes.eq_def]
  split
  · next rest shorter found =>
      obtain ⟨offset, rfl⟩ := mark_of_afterMark? found
      have within := readSuffixes_staysWithin shape.orNull rest
      split
      · next failure read =>
          rw [read] at within
          exact Failure.NamesOneOf.mono within (List.suffix_cons _ _)
      · next result remaining remainingShorter read =>
          rw [read] at within
          exact List.IsSuffix.trans within (List.suffix_cons _ _)
  · split
    · next opened openShorter found =>
        obtain ⟨opens, rfl⟩ := mark_of_afterMark? found
        split
        · next rest closeShorter found =>
            obtain ⟨closes, rfl⟩ := mark_of_afterMark? found
            have within := readSuffixes_staysWithin (.array shape) rest
            have isEnd : rest <:+ .mark opens '[' :: .mark closes ']' :: rest :=
              (List.suffix_cons _ _).trans (List.suffix_cons _ _)
            split
            · next failure read =>
                rw [read] at within
                exact Failure.NamesOneOf.mono within isEnd
            · next result remaining remainingShorter read =>
                rw [read] at within
                exact List.IsSuffix.trans within isEnd
        · exact (namesOneOf_stopAt opened).mono (List.suffix_cons _ _)
    · exact List.suffix_refl input
termination_by input.length

mutual

theorem readShape_staysWithin (resolve : String → Option Shape) (input : List Token) :
    StaysWithin input (readShape resolve input) := by
  rw [readShape.eq_def]
  split
  · next offset first more afterName =>
      have isEnd : afterName <:+ .word offset first more :: afterName := List.suffix_cons _ _
      split
      · have within := readArguments_staysWithin resolve afterName
        split
        · next failure read =>
            rw [read] at within
            exact Failure.NamesOneOf.mono within isEnd
        · next arguments afterArguments argumentsShorter read =>
            rw [read] at within
            have isEnd : afterArguments <:+ .word offset first more :: afterName :=
              List.IsSuffix.trans within isEnd
            split
            · next failure denotes => exact namesOneOf_of_denote denotes _
            · next named denotes =>
                have within := readSuffixes_staysWithin named afterArguments
                split
                · next failure read =>
                    rw [read] at within
                    exact Failure.NamesOneOf.mono within isEnd
                · next result remaining remainingShorter read =>
                    rw [read] at within
                    exact List.IsSuffix.trans within isEnd
      · exact ⟨_, List.mem_cons_self, rfl, rfl⟩
  · exact namesOneOf_stopAt _
termination_by 2 * input.length

theorem readArguments_staysWithin (resolve : String → Option Shape) (input : List Token) :
    StaysWithin input (readArguments resolve input) := by
  rw [readArguments.eq_def]
  split
  · next opened openShorter found =>
      obtain ⟨opens, rfl⟩ := mark_of_afterMark? found
      have within := readItems_staysWithin resolve opened
      split
      · next failure read =>
          rw [read] at within
          exact Failure.NamesOneOf.mono within (List.suffix_cons _ _)
      · next items remaining remainingShorter read =>
          rw [read] at within
          exact List.IsSuffix.trans within (List.suffix_cons _ _)
  · exact List.suffix_refl input
termination_by 2 * input.length

theorem readItems_staysWithin (resolve : String → Option Shape) (input : List Token) :
    StaysWithin input (readItems resolve input) := by
  rw [readItems.eq_def]
  have within := readShape_staysWithin resolve input
  split
  · next failure read =>
      rw [read] at within
      exact within
  · next item afterItem itemShorter read =>
      rw [read] at within
      have isEnd : afterItem <:+ input := within
      split
      · next rest commaShorter found =>
          obtain ⟨parts, rfl⟩ := mark_of_afterMark? found
          have within := readItems_staysWithin resolve rest
          have isEnd : rest <:+ input := (List.suffix_cons _ _).trans isEnd
          split
          · next failure read =>
              rw [read] at within
              exact Failure.NamesOneOf.mono within isEnd
          · next items remaining remainingShorter read =>
              rw [read] at within
              exact List.IsSuffix.trans within isEnd
      · split
        · next rest closeShorter found =>
            obtain ⟨closes, rfl⟩ := mark_of_afterMark? found
            exact (List.suffix_cons _ _).trans isEnd
        · exact (namesOneOf_stopAt afterItem).mono isEnd
termination_by 2 * input.length + 1

end

theorem namesOneOf_of_readAll {input : List Token} {failure : Failure}
    (read : readAll resolve input = .error failure) : failure.NamesOneOf input := by
  have within := readShape_staysWithin resolve input
  unfold readAll at read
  split at read
  · next failure readInput =>
      rw [readInput] at within
      cases read
      exact within
  · cases read
  · next result rest isRest notNil readInput =>
      rw [readInput] at within
      cases read
      exact (namesOneOf_stopAt rest).mono within

theorem mem_prependWordCharacter {offset : Nat} {character : Char} {remaining : List Char}
    {following : List Token} {token : Token}
    (present : token ∈ prependWordCharacter offset character remaining following) :
    token.offset = offset ∧ token.first = character ∨ token ∈ following := by
  unfold prependWordCharacter at present
  split at present
  · split at present
    · rcases List.mem_cons.mp present with rfl | later
      · exact .inl ⟨rfl, rfl⟩
      · exact .inr (.tail _ later)
    · rcases List.mem_cons.mp present with rfl | later
      · exact .inl ⟨rfl, rfl⟩
      · exact .inr later
  · rcases List.mem_cons.mp present with rfl | later
    · exact .inl ⟨rfl, rfl⟩
    · exact .inr later

/-- A token stands where its offset says, counted in bytes from the offset of the text. -/
theorem exists_first_of_mem_tokens {offset : Nat} {text : List Char} {token : Token}
    (present : token ∈ tokens offset text) :
    ∃ before after, text = before ++ token.first :: after ∧
      token.offset = offset + (String.ofList before).utf8ByteSize := by
  induction text generalizing offset with
  | nil => cases present
  | cons character remaining inductionHypothesis =>
      have split : token.offset = offset ∧ token.first = character ∨
          token ∈ tokens (offset + character.utf8Size) remaining := by
        by_cases blank : isBlank character = true
        · rw [tokens_blank blank] at present
          exact .inr present
        · by_cases inWord : isWordCharacter character = true
          · rw [tokens, if_neg blank, if_pos inWord] at present
            exact mem_prependWordCharacter present
          · rw [tokens_mark (by simpa using blank) (by simpa using inWord)] at present
            rcases List.mem_cons.mp present with rfl | later
            · exact .inl ⟨rfl, rfl⟩
            · exact .inr later
      rcases split with ⟨isOffset, rfl⟩ | later
      · exact ⟨[], remaining, rfl, isOffset⟩
      · obtain ⟨before, after, rfl, isOffset⟩ := inductionHypothesis later
        refine ⟨character :: before, after, rfl, ?_⟩
        rw [isOffset, String.ofList_cons, String.utf8ByteSize_append,
          String.utf8ByteSize_singleton, Nat.add_assoc]

end Expression

namespace Shape

open Expression

variable {resolve : String → Option Shape}

theorem parse_eq_ok_iff {text : String} {shape : Shape} :
    parse resolve text = .ok shape ↔ Derives resolve text.toList shape := by
  constructor
  · intro read
    unfold parse at read
    split at read
    · cases read
    · next readTokens =>
        cases read
        have spells := readAll_eq_ok_iff.mp readTokens
        have begins : BeginsWith resolve text.toList _ [] :=
          spells.beginsWith (List.append_nil _).symm
        obtain ⟨derived, after, following, isSplit, derives, solid, readAfter⟩ := begins
        rw [isSplit, eq_nil_of_tokens solid readAfter, List.append_nil]
        exact derives
  · intro derives
    exact derives.isSpelled.parse

/-- Reading accepts exactly what the grammar derives: a text is read as a shape if it derives
from `type` and its derivation denotes the shape, and every other text is refused.  Where
reading stops at a character that it does not expect, this character stands in the text, behind
as many bytes as the failure says. -/
theorem parse_derives (resolve : String → Option Shape) (text : String) :
    (∀ shape, parse resolve text = .ok shape ↔ Derives resolve text.toList shape) ∧
    ((¬∃ shape, Derives resolve text.toList shape) ↔
      ∃ failure, parse resolve text = .error failure) ∧
    ∀ input offset found, parse resolve text = .error (.unexpected input offset found) →
      input = text ∧ ∃ before after, text = before ++ String.singleton found ++ after ∧
        offset = before.utf8ByteSize := by
  refine ⟨fun shape => parse_eq_ok_iff, ?_, ?_⟩
  · simp only [← parse_eq_ok_iff]
    cases parse resolve text <;> simp
  · intro input offset found failed
    unfold parse at failed
    split at failed
    · next failure readTokens =>
        have names := namesOneOf_of_readAll readTokens
        cases failure with
        | unexpected =>
            cases failed
            obtain ⟨token, present, rfl, rfl⟩ := names
            obtain ⟨before, after, isSplit, isOffset⟩ := exists_first_of_mem_tokens present
            refine ⟨rfl, String.ofList before, String.ofList after, ?_, by
              rw [isOffset, Nat.zero_add]⟩
            rw [← String.ofList_toList (s := text), isSplit, String.ofList_append,
              String.ofList_cons, String.append_assoc]
        | unexpectedEnd | arity | unknownType => cases failed
    · cases failed

/-- A resolver that knows a single name, which has two letters of two bytes each. -/
def resolveSize (name : String) : Option Shape :=
  if name = "Größe" then some (.object name) else none

theorem parse_derives_size :
    Derives resolveSize " Map < Uuid ? , Vec<Größe[ ]> >".toList
        (.dictionary (.nullable .uuid) (.list (.array (.object "Größe")))) ∧
      parse resolveSize "Größe ü" = .error (.unexpected "Größe ü" 8 'ü') ∧
      ∃ before after, "Größe ü" = before ++ String.singleton 'ü' ++ after ∧
        8 = before.utf8ByteSize := by
  have read : parse resolveSize " Map < Uuid ? , Vec<Größe[ ]> >" =
      .ok (.dictionary (.nullable .uuid) (.list (.array (.object "Größe")))) := by
    decide +kernel
  have failed : parse resolveSize "Größe ü" = .error (.unexpected "Größe ü" 8 'ü') := by
    decide +kernel
  exact ⟨((parse_derives resolveSize _).1 _).mp read, failed,
    ((parse_derives resolveSize _).2.2 _ _ _ failed).2⟩

end Shape

end Reshape
