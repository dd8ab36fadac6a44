import Reshape.Shape.Expression

/-!
Contract: the grammar of shape expressions.

Owns:
- `Spells`, the token sequences that spell a shape: a name, arguments in angle brackets, and
  suffixes that wrap what stands before them;
- `readAll_eq_ok_iff`, that the reader accepts what spells a shape, with this shape, and
  nothing else.

Does not own: how characters fall into tokens, and which shapes have a spelling.

The grammar is left-recursive in its suffixes while the reader holds what it has read so far.
`Spells.leaves` therefore says what the reader makes of a spelling for any tokens behind it,
among them further suffixes.
-/

namespace Reshape.Expression

/-- The tokens that spell a shape. -/
inductive Spells (resolve : String → Option Shape) : List Token → Shape → Prop where
  | name {offset : Nat} {first : Char} {more : List Char} {shape : Shape}
      (starts : isNameStart first = true)
      (denotes : denote resolve (String.ofList (first :: more)) [] = .ok shape) :
      Spells resolve [.word offset first more] shape
  | unary {offset opens closes : Nat} {first : Char} {more : List Char}
      {written : List Token} {argument shape : Shape}
      (starts : isNameStart first = true) (spells : Spells resolve written argument)
      (denotes : denote resolve (String.ofList (first :: more)) [argument] = .ok shape) :
      Spells resolve
        (.word offset first more :: .mark opens '<' :: written ++ [.mark closes '>']) shape
  | binary {offset opens parts closes : Nat} {first : Char} {more : List Char}
      {writtenKey writtenValue : List Token} {key value shape : Shape}
      (starts : isNameStart first = true) (spellsKey : Spells resolve writtenKey key)
      (spellsValue : Spells resolve writtenValue value)
      (denotes : denote resolve (String.ofList (first :: more)) [key, value] = .ok shape) :
      Spells resolve
        (.word offset first more :: .mark opens '<' :: writtenKey ++ .mark parts ',' ::
          writtenValue ++ [.mark closes '>']) shape
  | orNull {offset : Nat} {written : List Token} {shape : Shape}
      (spells : Spells resolve written shape) :
      Spells resolve (written ++ [.mark offset '?']) shape.orNull
  | array {opens closes : Nat} {written : List Token} {shape : Shape}
      (spells : Spells resolve written shape) :
      Spells resolve (written ++ [.mark opens '[', .mark closes ']']) (.array shape)

/-- A reader ends with a result and leaves tokens behind. -/
def Leaves {α : Type} {bound : List Token → Prop}
    (read : Except Failure (α × { rest : List Token // bound rest })) (result : α)
    (rest : List Token) : Prop :=
  ∃ isRest : bound rest, read = .ok (result, ⟨rest, isRest⟩)

theorem Leaves.bound {α : Type} {bound : List Token → Prop}
    {read : Except Failure (α × { rest : List Token // bound rest })} {result : α}
    {rest : List Token} (leaves : Leaves read result rest) : bound rest :=
  leaves.1

/-! ## Marks -/

theorem afterMark?_mark (expected : Char) (offset : Nat) (rest : List Token) :
    afterMark? expected (.mark offset expected :: rest) = some ⟨rest, Nat.lt_succ_self _⟩ := by
  simp [afterMark?]

theorem afterMark?_other {expected character : Char} (other : character ≠ expected)
    (offset : Nat) (rest : List Token) :
    afterMark? expected (.mark offset character :: rest) = none := by
  simp [afterMark?, other]

theorem mark_of_afterMark? {expected : Char} {input tail : List Token}
    {shorter : tail.length < input.length}
    (found : afterMark? expected input = some ⟨tail, shorter⟩) :
    ∃ offset, input = .mark offset expected :: tail := by
  unfold afterMark? at found
  split at found
  · next offset character rest =>
      split at found
      · next same =>
          cases found
          exact ⟨offset, by rw [same]⟩
      · cases found
  · cases found

/-! ## Suffixes -/

section Suffixes

variable {shape result : Shape} {input rest : List Token}

theorem leaves_suffixes_orNull {offset : Nat}
    (leaves : Leaves (readSuffixes shape.orNull input) result rest) :
    Leaves (readSuffixes shape (.mark offset '?' :: input)) result rest := by
  obtain ⟨shorter, read⟩ := leaves
  refine ⟨Nat.le_succ_of_le shorter, ?_⟩
  rw [readSuffixes, afterMark?_mark]
  simp only [read]

theorem leaves_suffixes_array {opens closes : Nat}
    (leaves : Leaves (readSuffixes (.array shape) input) result rest) :
    Leaves (readSuffixes shape (.mark opens '[' :: .mark closes ']' :: input)) result rest := by
  obtain ⟨shorter, read⟩ := leaves
  refine ⟨Nat.le_succ_of_le (Nat.le_succ_of_le shorter), ?_⟩
  rw [readSuffixes, afterMark?_other (by decide), afterMark?_mark]
  simp only [afterMark?_mark, read]

theorem leaves_suffixes_none (notOrNull : afterMark? '?' input = none)
    (notArray : afterMark? '[' input = none) :
    Leaves (readSuffixes shape input) shape input := by
  refine ⟨Nat.le_refl _, ?_⟩
  rw [readSuffixes, notOrNull, notArray]

theorem Leaves.suffixes_cases (leaves : Leaves (readSuffixes shape input) result rest) :
    (∃ offset tail, input = .mark offset '?' :: tail ∧
      Leaves (readSuffixes shape.orNull tail) result rest) ∨
    (∃ opens closes tail, input = .mark opens '[' :: .mark closes ']' :: tail ∧
      Leaves (readSuffixes (.array shape) tail) result rest) ∨
    result = shape ∧ rest = input := by
  obtain ⟨shorter, read⟩ := leaves
  rw [readSuffixes.eq_def] at read
  split at read
  · next tail markShorter found =>
      obtain ⟨offset, rfl⟩ := mark_of_afterMark? found
      split at read
      · cases read
      · next other remaining tailShorter readTail =>
          cases read
          exact .inl ⟨offset, tail, rfl, tailShorter, readTail⟩
  · split at read
    · next opened openShorter foundOpen =>
        obtain ⟨opens, rfl⟩ := mark_of_afterMark? foundOpen
        split at read
        · next tail closeShorter foundClose =>
            obtain ⟨closes, rfl⟩ := mark_of_afterMark? foundClose
            split at read
            · cases read
            · next other remaining tailShorter readTail =>
                cases read
                exact .inr (.inl ⟨opens, closes, tail, rfl, tailShorter, readTail⟩)
        · cases read
    · cases read
      exact .inr (.inr ⟨rfl, rfl⟩)

/-- What suffixes make of a spelled shape is spelled by the tokens up to their end. -/
theorem Spells.suffixes {resolve : String → Option Shape} {written input : List Token}
    {shape : Shape} (spells : Spells resolve written shape)
    (leaves : Leaves (readSuffixes shape input) result rest) :
    ∃ suffixes, input = suffixes ++ rest ∧ Spells resolve (written ++ suffixes) result := by
  rcases leaves.suffixes_cases with ⟨offset, tail, rfl, tailLeaves⟩ |
    ⟨opens, closes, tail, rfl, tailLeaves⟩ | ⟨rfl, rfl⟩
  · have wrapped : Spells resolve (written ++ [.mark offset '?']) shape.orNull := .orNull spells
    obtain ⟨suffixes, rfl, spelled⟩ := Spells.suffixes wrapped tailLeaves
    exact ⟨.mark offset '?' :: suffixes, rfl, by simpa using spelled⟩
  · have wrapped : Spells resolve (written ++ [.mark opens '[', .mark closes ']'])
        (.array shape) := .array spells
    obtain ⟨suffixes, rfl, spelled⟩ := Spells.suffixes wrapped tailLeaves
    exact ⟨.mark opens '[' :: .mark closes ']' :: suffixes, rfl, by simpa using spelled⟩
  · exact ⟨[], rfl, by rwa [List.append_nil]⟩
termination_by input.length

end Suffixes

/-! ## Names with arguments -/

section Shapes

variable {resolve : String → Option Shape} {shape : Shape} {input rest : List Token}

theorem leaves_arguments_none (none : afterMark? '<' input = none) :
    Leaves (readArguments resolve input) [] input := by
  refine ⟨Nat.le_refl _, ?_⟩
  rw [readArguments, none]

theorem leaves_arguments {items : List Shape} {offset : Nat}
    (leaves : Leaves (readItems resolve input) items rest) :
    Leaves (readArguments resolve (.mark offset '<' :: input)) items rest := by
  obtain ⟨shorter, read⟩ := leaves
  refine ⟨Nat.le_succ_of_le (Nat.le_of_lt shorter), ?_⟩
  rw [readArguments, afterMark?_mark]
  simp only [read]

theorem Leaves.arguments_cases {items : List Shape}
    (leaves : Leaves (readArguments resolve input) items rest) :
    items = [] ∧ rest = input ∨
    ∃ offset opened, input = .mark offset '<' :: opened ∧
      Leaves (readItems resolve opened) items rest := by
  obtain ⟨shorter, read⟩ := leaves
  rw [readArguments.eq_def] at read
  split at read
  · next opened openShorter found =>
      obtain ⟨offset, rfl⟩ := mark_of_afterMark? found
      split at read
      · cases read
      · next others remaining itemsShorter readOpened =>
          cases read
          exact .inr ⟨offset, opened, rfl, itemsShorter, readOpened⟩
  · cases read
    exact .inl ⟨rfl, rfl⟩

theorem leaves_items_last {offset : Nat}
    (leaves : Leaves (readShape resolve input) shape (.mark offset '>' :: rest)) :
    Leaves (readItems resolve input) [shape] rest := by
  obtain ⟨shorter, read⟩ := leaves
  refine ⟨Nat.lt_of_succ_lt shorter, ?_⟩
  rw [readItems, read]
  simp only [afterMark?_other (show '>' ≠ ',' by decide), afterMark?_mark]

theorem leaves_items_more {offset : Nat} {items : List Shape} {tail : List Token}
    (leaves : Leaves (readShape resolve input) shape (.mark offset ',' :: tail))
    (others : Leaves (readItems resolve tail) items rest) :
    Leaves (readItems resolve input) (shape :: items) rest := by
  obtain ⟨shorter, read⟩ := leaves
  obtain ⟨othersShorter, readOthers⟩ := others
  refine ⟨Nat.lt_trans othersShorter (Nat.lt_of_succ_lt shorter), ?_⟩
  rw [readItems, read]
  simp only [afterMark?_mark, readOthers]

theorem Leaves.items_cases {items : List Shape}
    (leaves : Leaves (readItems resolve input) items rest) :
    ∃ item afterItem, Leaves (readShape resolve input) item afterItem ∧
      ((∃ offset, afterItem = .mark offset '>' :: rest ∧ items = [item]) ∨
      ∃ offset tail others, afterItem = .mark offset ',' :: tail ∧
        Leaves (readItems resolve tail) others rest ∧ items = item :: others) := by
  obtain ⟨shorter, read⟩ := leaves
  rw [readItems.eq_def] at read
  split at read
  · cases read
  · next item afterItem itemShorter readItem =>
      refine ⟨item, afterItem, ⟨itemShorter, readItem⟩, ?_⟩
      split at read
      · next tail commaShorter found =>
          obtain ⟨offset, rfl⟩ := mark_of_afterMark? found
          split at read
          · cases read
          · next others remaining othersShorter readOthers =>
              cases read
              exact .inr ⟨offset, tail, others, rfl, ⟨othersShorter, readOthers⟩, rfl⟩
      · split at read
        · next tail closeShorter found =>
            obtain ⟨offset, rfl⟩ := mark_of_afterMark? found
            cases read
            exact .inl ⟨offset, rfl, rfl⟩
        · cases read

theorem leaves_shape {offset : Nat} {first : Char} {more : List Char} {arguments : List Shape}
    {afterArguments : List Token} {named : Shape} (starts : isNameStart first = true)
    (argumentsLeave : Leaves (readArguments resolve input) arguments afterArguments)
    (denotes : denote resolve (String.ofList (first :: more)) arguments = .ok named)
    (suffixesLeave : Leaves (readSuffixes named afterArguments) shape rest) :
    Leaves (readShape resolve (.word offset first more :: input)) shape rest := by
  obtain ⟨argumentsShorter, readArguments⟩ := argumentsLeave
  obtain ⟨suffixesShorter, readSuffixes⟩ := suffixesLeave
  refine ⟨Nat.lt_succ_of_le (Nat.le_trans suffixesShorter argumentsShorter), ?_⟩
  rw [readShape, if_pos starts, readArguments]
  simp only [denotes, readSuffixes]

theorem Leaves.shape_cases (leaves : Leaves (readShape resolve input) shape rest) :
    ∃ offset first more afterName arguments afterArguments named,
      input = .word offset first more :: afterName ∧ isNameStart first = true ∧
      Leaves (readArguments resolve afterName) arguments afterArguments ∧
      denote resolve (String.ofList (first :: more)) arguments = .ok named ∧
      Leaves (readSuffixes named afterArguments) shape rest := by
  obtain ⟨shorter, read⟩ := leaves
  rw [readShape.eq_def] at read
  split at read
  · next offset first more afterName =>
      split at read
      · next starts =>
          split at read
          · cases read
          · next arguments afterArguments argumentsShorter readArguments =>
              split at read
              · cases read
              · next named denotes =>
                  split at read
                  · cases read
                  · next result remaining suffixesShorter readSuffixes =>
                      cases read
                      exact ⟨offset, first, more, afterName, arguments, afterArguments, named,
                        rfl, starts, ⟨argumentsShorter, readArguments⟩, denotes,
                        suffixesShorter, readSuffixes⟩
      · cases read
  · cases read

/-- No name takes more than two arguments. -/
theorem denote_ne_ok_of_three (name : String) (first second third : Shape)
    (others : List Shape) :
    denote resolve name (first :: second :: third :: others) ≠ .ok shape := by
  unfold denote
  split <;> simp_all

/-- The tokens that a reader has taken spell what it has read. -/
theorem spells_of_leaves {shape : Shape} {input rest : List Token}
    (leaves : Leaves (readShape resolve input) shape rest) :
    ∃ written, input = written ++ rest ∧ Spells resolve written shape := by
  obtain ⟨offset, first, more, afterName, arguments, afterArguments, named, rfl, starts,
    argumentsLeave, denotes, suffixesLeave⟩ := leaves.shape_cases
  have heading : ∃ written, .word offset first more :: afterName = written ++ afterArguments ∧
      Spells resolve written named := by
    rcases argumentsLeave.arguments_cases with ⟨rfl, rfl⟩ | ⟨opens, opened, rfl, itemsLeave⟩
    · exact ⟨[.word offset first more], rfl, .name starts denotes⟩
    · obtain ⟨item, afterItem, itemLeaves, closed | goesOn⟩ := itemsLeave.items_cases
      · obtain ⟨closes, rfl, rfl⟩ := closed
        obtain ⟨written, rfl, spells⟩ := spells_of_leaves itemLeaves
        have spelled : Spells resolve
            (.word offset first more :: .mark opens '<' :: written ++ [.mark closes '>'])
            named := .unary starts spells denotes
        exact ⟨_, by simp, spelled⟩
      · obtain ⟨parts, tail, others, rfl, othersLeave, rfl⟩ := goesOn
        obtain ⟨writtenKey, rfl, spellsKey⟩ := spells_of_leaves itemLeaves
        obtain ⟨value, afterValue, valueLeaves, closed | goesOn⟩ := othersLeave.items_cases
        · obtain ⟨closes, rfl, rfl⟩ := closed
          obtain ⟨writtenValue, rfl, spellsValue⟩ := spells_of_leaves valueLeaves
          have spelled : Spells resolve
              (.word offset first more :: .mark opens '<' :: writtenKey ++ .mark parts ',' ::
                writtenValue ++ [.mark closes '>']) named :=
            .binary starts spellsKey spellsValue denotes
          exact ⟨_, by simp, spelled⟩
        · obtain ⟨_, _, later, -, laterLeave, rfl⟩ := goesOn
          obtain ⟨third, _, -, ⟨_, _, rfl⟩ | ⟨_, _, _, _, _, rfl⟩⟩ := laterLeave.items_cases
          · exact (denote_ne_ok_of_three _ _ _ _ _ denotes).elim
          · exact (denote_ne_ok_of_three _ _ _ _ _ denotes).elim
  obtain ⟨written, split, spells⟩ := heading
  obtain ⟨suffixes, rfl, spelled⟩ := spells.suffixes suffixesLeave
  exact ⟨written ++ suffixes, by rw [split, List.append_assoc], spelled⟩
termination_by input.length

/-- Behind a spelled shape the reader goes on with suffixes. -/
theorem Spells.leaves {written : List Token} {named : Shape}
    (spells : Spells resolve written named) {behind : List Token}
    (noArguments : afterMark? '<' behind = none)
    (suffixesLeave : Leaves (readSuffixes named behind) shape rest) :
    Leaves (readShape resolve (written ++ behind)) shape rest := by
  induction spells generalizing behind shape rest with
  | name starts denotes =>
      exact leaves_shape starts (leaves_arguments_none noArguments) denotes suffixesLeave
  | @unary _ _ closes _ _ written argument _ starts _ denotes inductionHypothesis =>
      have argumentLeaves : Leaves (readShape resolve (written ++ .mark closes '>' :: behind))
          argument (.mark closes '>' :: behind) :=
        inductionHypothesis (afterMark?_other (by decide) _ _)
          (leaves_suffixes_none (afterMark?_other (by decide) _ _)
            (afterMark?_other (by decide) _ _))
      rw [List.append_assoc]
      exact leaves_shape starts (leaves_arguments (leaves_items_last argumentLeaves)) denotes
        suffixesLeave
  | @binary _ _ parts closes _ _ writtenKey writtenValue key value _ starts _ _ denotes
      keyHypothesis valueHypothesis =>
      have valueLeaves : Leaves (readShape resolve (writtenValue ++ .mark closes '>' :: behind))
          value (.mark closes '>' :: behind) :=
        valueHypothesis (afterMark?_other (by decide) _ _)
          (leaves_suffixes_none (afterMark?_other (by decide) _ _)
            (afterMark?_other (by decide) _ _))
      have keyLeaves : Leaves
          (readShape resolve
            (writtenKey ++ .mark parts ',' :: (writtenValue ++ .mark closes '>' :: behind)))
          key (.mark parts ',' :: (writtenValue ++ .mark closes '>' :: behind)) :=
        keyHypothesis (afterMark?_other (by decide) _ _)
          (leaves_suffixes_none (afterMark?_other (by decide) _ _)
            (afterMark?_other (by decide) _ _))
      rw [List.append_assoc, List.append_assoc]
      exact leaves_shape starts
        (leaves_arguments (leaves_items_more keyLeaves (leaves_items_last valueLeaves)))
        denotes suffixesLeave
  | orNull _ inductionHypothesis =>
      rw [List.append_assoc]
      exact inductionHypothesis (afterMark?_other (by decide) _ _)
        (leaves_suffixes_orNull suffixesLeave)
  | array _ inductionHypothesis =>
      rw [List.append_assoc]
      exact inductionHypothesis (afterMark?_other (by decide) _ _)
        (leaves_suffixes_array suffixesLeave)

/-- The reader accepts the spellings of shapes and nothing else. -/
theorem readAll_eq_ok_iff : readAll resolve input = .ok shape ↔ Spells resolve input shape := by
  unfold readAll
  constructor
  · intro read
    split at read
    · cases read
    · next isRest readInput =>
        cases read
        obtain ⟨written, rfl, spells⟩ := spells_of_leaves ⟨isRest, readInput⟩
        rwa [List.append_nil]
    · cases read
  · intro spells
    have leaves : Leaves (readShape resolve (input ++ [])) shape [] :=
      spells.leaves rfl (leaves_suffixes_none rfl rfl)
    rw [List.append_nil] at leaves
    obtain ⟨isRest, read⟩ := leaves
    rw [read]

end Shapes

end Reshape.Expression
