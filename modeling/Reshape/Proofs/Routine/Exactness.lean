import Mathlib.Algebra.GroupWithZero.Nat
import Reshape.Proofs.Routine.Guarded

/-!
Contract: which programs verification accepts, and what its errors say about the others.

Owns:
- `Program.IsWellFormed`, the accepted programs, said by counting what is pushed, popped and
  declared before an instruction;
- `Program.Keeps` and `Program.Breaks`, an instruction that keeps all rules at its place, and one
  that breaks the rule of an error;
- `StackFacts.Tracks`, the invariant between the abstract pass and the code behind it;
- `Program.verify_exact`, that exactly the well-formed programs are accepted, and that an error is
  about the first instruction that breaks a rule.

Does not own: what accepted programs do.

## Why the counts are those of the code before

The pass subtracts what an instruction takes from the depth that it has reached, and stops where
that is too little.  Up to the place where it stops nothing was cut off by the subtraction, so that
the depth is the number of values pushed less the number of values popped.  An error that the pass
reports is therefore true of the counts, which know nothing of the pass.
-/

namespace Reshape

/-- The local that an instruction uses. -/
def Instruction.local? : Instruction → Option Nat
  | .loadLocal index | .storeLocal index => some index
  | _ => none

/-- The position of the instruction that an error names. -/
def ProgramError.position? : ProgramError → Option Nat
  | .empty | .missingReturn => none
  | .stackUnderflow position _ | .undeclaredLocal position .. | .siblingOutOfRange position ..
  | .staticStore position _ | .unbalancedReturn position _ | .codeAfterReturn position =>
      some position

namespace Program

/-! ## Rules -/

/-- The number of values that code puts on the stack. -/
def pushCount (code : List Instruction) : Nat :=
  (code.map Instruction.pushes).sum

/-- The number of values that code takes from the stack. -/
def popCount (code : List Instruction) : Nat :=
  (code.map Instruction.pops).sum

/-- The number of locals that code begins. -/
def localCount (code : List Instruction) : Nat :=
  (code.map Instruction.declares).sum

/-- The programs that keep all rules. -/
structure IsWellFormed (program : Program) : Prop where
  nonempty : program.instructions ≠ []
  /-- The only return is the last instruction, with exactly one value on the stack before it. -/
  returns : ∃ body, program.instructions = body ++ [.ret] ∧ .ret ∉ body ∧
    pushCount body = popCount body + 1
  /-- What is left of the values pushed before an instruction is as much as it takes. -/
  covers : ∀ before instruction after, program.instructions = before ++ instruction :: after →
    popCount before + instruction.pops ≤ pushCount before
  /-- Locals are begun before they are used. -/
  declares : ∀ before instruction after index,
    program.instructions = before ++ instruction :: after → instruction.local? = some index →
      index < localCount before
  calls : ∀ sibling withTarget, .call sibling withTarget ∈ program.instructions →
    sibling < program.siblings
  stores : ∀ member, .storeMember member ∈ program.instructions → member.isStatic = false

/-- An instruction keeps all rules, between the code before it and the code after it. -/
structure Keeps (siblings : Nat) (before : List Instruction) (instruction : Instruction)
    (after : List Instruction) : Prop where
  covers : popCount before + instruction.pops ≤ pushCount before
  declares : ∀ index, instruction.local? = some index → index < localCount before
  calls : ∀ sibling withTarget, instruction = .call sibling withTarget → sibling < siblings
  stores : ∀ member, instruction = .storeMember member → member.isStatic = false
  returnsOne : instruction = .ret → pushCount before = popCount before + 1
  returnsLast : instruction = .ret → after = []

/-- An instruction breaks the rule of an error, between the code before it and the code after
it. -/
inductive Breaks (siblings : Nat) (before : List Instruction) :
    Instruction → List Instruction → ProgramError → Prop where
  | underflow {instruction : Instruction} (after : List Instruction)
      (tooFew : pushCount before < popCount before + instruction.pops) :
      Breaks siblings before instruction after (.stackUnderflow before.length instruction.text)
  | undeclared {instruction : Instruction} (after : List Instruction) {index : Nat}
      (uses : instruction.local? = some index) (tooFew : localCount before ≤ index) :
      Breaks siblings before instruction after
        (.undeclaredLocal before.length index (localCount before))
  | outOfRange {sibling : Nat} (withTarget : Bool) (after : List Instruction)
      (tooFew : siblings ≤ sibling) :
      Breaks siblings before (.call sibling withTarget) after
        (.siblingOutOfRange before.length sibling siblings)
  | static {member : MemberRef} (after : List Instruction) (isStatic : member.isStatic = true) :
      Breaks siblings before (.storeMember member) after (.staticStore before.length member.text)
  | unbalanced (after : List Instruction) (notOne : pushCount before ≠ popCount before + 1) :
      Breaks siblings before .ret after
        (.unbalancedReturn before.length (pushCount before - popCount before))
  | early {after : List Instruction} (notLast : after ≠ []) :
      Breaks siblings before .ret after (.codeAfterReturn before.length)

/-- All instructions of a piece of code keep the rules, between the code before the piece and the
code after it. -/
def KeepsAlong (siblings : Nat) (before code after : List Instruction) : Prop :=
  ∀ earlier instruction later, code = earlier ++ instruction :: later →
    Keeps siblings (before ++ earlier) instruction (later ++ after)

variable {siblings : Nat} {before code after : List Instruction} {instruction : Instruction}
  {error : ProgramError} {facts final : StackFacts}

/-- An instruction that breaks a rule does not keep all of them. -/
theorem Breaks.not_keeps (breaks : Breaks siblings before instruction after error) :
    ¬Keeps siblings before instruction after := by
  intro keeps
  cases breaks with
  | underflow _ tooFew =>
      have covers := keeps.covers
      omega
  | undeclared _ uses tooFew =>
      have declares := keeps.declares _ uses
      omega
  | outOfRange withTarget _ tooFew =>
      have calls := keeps.calls _ withTarget rfl
      omega
  | static _ isStatic =>
      have stores := keeps.stores _ rfl
      simp [isStatic] at stores
  | unbalanced _ notOne => exact notOne (keeps.returnsOne rfl)
  | early notLast => exact notLast (keeps.returnsLast rfl)

theorem Breaks.position?_eq (breaks : Breaks siblings before instruction after error) :
    error.position? = some before.length := by
  cases breaks <;> rfl

theorem keepsAlong_nil (siblings : Nat) (before after : List Instruction) :
    KeepsAlong siblings before [] after := by
  intro earlier instruction later isSplit
  simp at isSplit

theorem keepsAlong_cons :
    KeepsAlong siblings before (instruction :: code) after ↔
      Keeps siblings before instruction (code ++ after) ∧
        KeepsAlong siblings (before ++ [instruction]) code after := by
  constructor
  · intro keeps
    constructor
    · simpa using keeps [] instruction code rfl
    · intro earlier other later isSplit
      have keepsLater := keeps (instruction :: earlier) other later (by rw [isSplit]; rfl)
      simpa using keepsLater
  · rintro ⟨keepsFirst, keepsRest⟩ earlier other later isSplit
    cases earlier with
    | nil =>
        simp only [List.nil_append, List.cons.injEq] at isSplit
        obtain ⟨rfl, rfl⟩ := isSplit
        simpa using keepsFirst
    | cons first others =>
        simp only [List.cons_append, List.cons.injEq] at isSplit
        obtain ⟨rfl, isSplit⟩ := isSplit
        simpa using keepsRest others other later isSplit

end Program

/-! ## The pass -/

/-- What the pass knows is what the code behind it has pushed less what it has popped, and the
number of locals that it has begun. -/
structure StackFacts.Tracks (facts : StackFacts) (before : List Instruction) : Prop where
  depth : facts.depth + Program.popCount before = Program.pushCount before
  locals : facts.locals = Program.localCount before

namespace StackFacts.Tracks

variable {facts : StackFacts} {before : List Instruction} {instruction : Instruction}

theorem start : Tracks ⟨0, 0, 0⟩ [] :=
  ⟨rfl, rfl⟩

/-- An instruction that takes no more than is there is tracked. -/
theorem after (tracks : facts.Tracks before) (enough : instruction.pops ≤ facts.depth) :
    (facts.after instruction).Tracks (before ++ [instruction]) := by
  obtain ⟨depth, locals⟩ := tracks
  constructor
  · simp only [StackFacts.after, Program.popCount, Program.pushCount, List.map_append,
      List.sum_append, List.map_singleton, List.sum_singleton] at depth ⊢
    omega
  · simp only [StackFacts.after, locals, Program.localCount, List.map_append, List.sum_append,
      List.map_singleton, List.sum_singleton]

end StackFacts.Tracks

namespace Program

section Pass

variable {siblings : Nat} {before code after : List Instruction} {instruction : Instruction}
  {error : ProgramError} {facts final : StackFacts}

/-- A rule that is found to be broken is broken at this place. -/
theorem breaks_of_violation? (tracks : facts.Tracks before)
    (violates : violation? siblings before.length after.isEmpty facts instruction = some error) :
    Breaks siblings before instruction after error := by
  obtain ⟨depth, locals⟩ := tracks
  cases instruction with
  | storeMember member =>
      simp only [violation?] at violates
      split at violates
      · next isStatic =>
          cases violates
          exact .static after isStatic
      · cases violates
  | call sibling withTarget =>
      simp only [violation?] at violates
      split at violates
      · next tooFew =>
          cases violates
          exact .outOfRange withTarget after tooFew
      · cases violates
  | loadLocal index | storeLocal index =>
      simp only [violation?] at violates
      split at violates
      · next tooFew =>
          cases violates
          rw [locals] at tooFew ⊢
          exact .undeclared after rfl tooFew
      · cases violates
  | ret =>
      simp only [violation?] at violates
      split at violates
      · next notOne =>
          cases violates
          have isDepth : facts.depth = pushCount before - popCount before := by omega
          rw [isDepth]
          exact .unbalanced after (by omega)
      · split at violates
        · cases violates
        · next notLast =>
            cases violates
            exact .early (by simpa using notLast)
  | _ => cases violates

/-- Where no rule is found to be broken and the stack holds enough, the instruction keeps all
rules. -/
theorem keeps_of_allowed (tracks : facts.Tracks before)
    (allowed : violation? siblings before.length after.isEmpty facts instruction = none)
    (enough : instruction.pops ≤ facts.depth) : Keeps siblings before instruction after := by
  obtain ⟨depth, locals⟩ := tracks
  refine ⟨by omega, ?_, ?_, ?_, ?_, ?_⟩
  · intro index uses
    rw [← locals]
    cases instruction with
    | loadLocal other | storeLocal other =>
        cases uses
        exact Nat.lt_of_not_le (not_of_allowed allowed)
    | _ => cases uses
  · rintro sibling withTarget rfl
    exact Nat.lt_of_not_le (not_of_allowed allowed)
  · rintro member rfl
    simpa using not_of_allowed allowed
  · rintro rfl
    by_cases isOne : facts.depth = 1
    · omega
    · simp [violation?, isOne] at allowed
  · rintro rfl
    by_cases isOne : facts.depth = 1
    · simpa [violation?, isOne] using allowed
    · simp [violation?, isOne] at allowed

theorem checkInstruction_keeps (tracks : facts.Tracks before)
    (checked : checkInstruction siblings before.length after.isEmpty facts instruction =
      .ok final) :
    Keeps siblings before instruction after ∧ final.Tracks (before ++ [instruction]) := by
  obtain ⟨allowed, enough, rfl⟩ := checkInstruction_eq_ok checked
  exact ⟨keeps_of_allowed tracks allowed enough, tracks.after enough⟩

theorem checkInstruction_breaks (tracks : facts.Tracks before)
    (checked : checkInstruction siblings before.length after.isEmpty facts instruction =
      .error error) : Breaks siblings before instruction after error := by
  unfold checkInstruction at checked
  split at checked
  · next violates =>
      cases checked
      exact breaks_of_violation? tracks violates
  · split at checked
    · next tooFew =>
        cases checked
        have depth := tracks.depth
        exact .underflow after (by omega)
    · cases checked

/-- The pass gets through code that keeps the rules everywhere, and otherwise stops at the first
instruction that breaks one.  The induction is on the code, with what comes before it growing. -/
theorem checkFrom_cases (siblings : Nat) (code : List Instruction) (tracks : facts.Tracks before) :
    (∃ final, checkFrom siblings before.length facts code = .ok final ∧
      KeepsAlong siblings before code []) ∨
    ∃ error earlier instruction later,
      checkFrom siblings before.length facts code = .error error ∧
        code = earlier ++ instruction :: later ∧
        KeepsAlong siblings before earlier (instruction :: later) ∧
        Breaks siblings (before ++ earlier) instruction later error := by
  induction code generalizing before facts with
  | nil => exact .inl ⟨facts, rfl, keepsAlong_nil _ _ _⟩
  | cons first rest inductionHypothesis =>
      rw [checkFrom]
      cases checked : checkInstruction siblings before.length rest.isEmpty facts first with
      | error error =>
          refine .inr ⟨error, [], first, rest, rfl, rfl, keepsAlong_nil _ _ _, ?_⟩
          simpa using checkInstruction_breaks tracks checked
      | ok updated =>
          obtain ⟨keepsFirst, tracksNext⟩ := checkInstruction_keeps tracks checked
          have goesOn := inductionHypothesis tracksNext
          rw [List.length_append, List.length_singleton] at goesOn
          rcases goesOn with
            ⟨final, checkedRest, keepsRest⟩ |
              ⟨error, earlier, instruction, later, checkedRest, rfl, keepsEarlier, breaks⟩
          · refine .inl ⟨final, checkedRest, keepsAlong_cons.mpr ⟨?_, keepsRest⟩⟩
            simpa using keepsFirst
          · refine .inr ⟨error, first :: earlier, instruction, later, checkedRest, rfl,
              keepsAlong_cons.mpr ⟨keepsFirst, keepsEarlier⟩, ?_⟩
            simpa using breaks

end Pass

/-! ## Programs -/

variable {program : Program}

theorem endsWithReturn_iff {instructions : List Instruction} :
    endsWithReturn instructions = true ↔ ∃ body, instructions = body ++ [.ret] := by
  rw [← List.getLast?_eq_some_iff]
  unfold endsWithReturn
  split
  · next isLast => simp [isLast]
  · next notReturn =>
      simp only [Bool.false_eq_true, false_iff]
      exact notReturn

/-- Where a return keeps the rules, nothing follows. -/
theorem KeepsAlong.eq_of_ret {siblings : Nat} {before body rest after : List Instruction}
    (keeps : KeepsAlong siblings before (body ++ .ret :: rest) after) : rest = [] := by
  have isLast := (keeps body .ret rest rfl).returnsLast rfl
  exact (List.append_eq_nil_iff.mp isLast).1

theorem KeepsAlong.isWellFormed
    (keeps : KeepsAlong program.siblings [] program.instructions [])
    (ends : endsWithReturn program.instructions = true) : program.IsWellFormed := by
  obtain ⟨body, isBody⟩ := endsWithReturn_iff.mp ends
  have keepsLast := keeps body .ret [] isBody
  refine ⟨by simp [isBody], ⟨body, isBody, ?_, keepsLast.returnsOne rfl⟩, ?_, ?_, ?_, ?_⟩
  · intro returnsEarly
    obtain ⟨earlier, later, rfl⟩ := List.append_of_mem returnsEarly
    rw [isBody, List.append_assoc, List.cons_append] at keeps
    have nothingFollows := keeps.eq_of_ret
    simp at nothingFollows
  · intro before instruction after isSplit
    exact (keeps before instruction after isSplit).covers
  · intro before instruction after index isSplit uses
    exact (keeps before instruction after isSplit).declares index uses
  · intro sibling withTarget isCall
    obtain ⟨before, after, isSplit⟩ := List.append_of_mem isCall
    exact (keeps before _ after isSplit).calls sibling withTarget rfl
  · intro member isStore
    obtain ⟨before, after, isSplit⟩ := List.append_of_mem isStore
    exact (keeps before _ after isSplit).stores member rfl

theorem IsWellFormed.keepsAlong (wellFormed : program.IsWellFormed) :
    KeepsAlong program.siblings [] program.instructions [] := by
  obtain ⟨body, isBody, notEarlier, isOne⟩ := wellFormed.returns
  intro before instruction after isSplit
  rw [List.nil_append, List.append_nil]
  -- A return that is not in the body is the one behind it.
  have returns : instruction = .ret → before = body ∧ after = [] := by
    rintro rfl
    rw [isBody] at isSplit
    rcases List.eq_nil_or_concat after with rfl | ⟨others, last, rfl⟩
    · exact ⟨(List.append_inj_left' isSplit rfl).symm, rfl⟩
    · rw [List.concat_eq_append, ← List.cons_append, ← List.append_assoc] at isSplit
      have inBody := List.append_inj_left' isSplit rfl
      simp [inBody] at notEarlier
  refine ⟨wellFormed.covers before instruction after isSplit, ?_, ?_, ?_, ?_, ?_⟩
  · intro index uses
    exact wellFormed.declares before instruction after index isSplit uses
  · rintro sibling withTarget rfl
    exact wellFormed.calls sibling withTarget (by simp [isSplit])
  · rintro member rfl
    exact wellFormed.stores member (by simp [isSplit])
  · intro isReturn
    rw [(returns isReturn).1]
    exact isOne
  · intro isReturn
    exact (returns isReturn).2

/-- All that verification can do: refuse the empty program, name the first instruction that breaks a
rule, miss a return at the end, or accept. -/
theorem verify_cases (program : Program) :
    (program.instructions = [] ∧ program.verify = .error .empty) ∨
    (∃ error before instruction after, program.verify = .error error ∧
      program.instructions = before ++ instruction :: after ∧
      KeepsAlong program.siblings [] before (instruction :: after) ∧
      Breaks program.siblings before instruction after error) ∨
    (program.instructions ≠ [] ∧ .ret ∉ program.instructions ∧
      KeepsAlong program.siblings [] program.instructions [] ∧
      program.verify = .error .missingReturn) ∨
    ∃ verified, program.verify = .ok verified ∧ program.IsWellFormed := by
  unfold verify
  by_cases isEmpty : program.instructions = []
  · exact .inl ⟨isEmpty, by simp [isEmpty]⟩
  · right
    rw [if_neg (by simpa using isEmpty)]
    rcases checkFrom_cases program.siblings program.instructions StackFacts.Tracks.start with
      ⟨facts, checked, keeps⟩ | ⟨error, before, instruction, after, checked, isSplit, keeps, breaks⟩
    · right
      rw [List.length_nil] at checked
      rw [checked]
      cases ends : endsWithReturn program.instructions with
      | true => exact .inr ⟨_, rfl, keeps.isWellFormed ends⟩
      | false =>
          refine .inl ⟨isEmpty, ?_, keeps, rfl⟩
          intro returns
          obtain ⟨before, after, isSplit⟩ := List.append_of_mem returns
          have nothingFollows := (isSplit ▸ keeps).eq_of_ret
          rw [nothingFollows] at isSplit
          rw [endsWithReturn_iff.mpr ⟨before, isSplit⟩] at ends
          cases ends
    · left
      rw [List.length_nil] at checked
      rw [checked]
      exact ⟨error, before, instruction, after, rfl, isSplit, keeps, breaks⟩

theorem exists_verified_iff (program : Program) :
    (∃ verified, program.verify = .ok verified) ↔ program.IsWellFormed := by
  rcases verify_cases program with
    ⟨isEmpty, refused⟩ |
      ⟨error, before, instruction, after, refused, isSplit, keeps, breaks⟩ |
      ⟨nonempty, noReturn, keeps, refused⟩ | ⟨verified, accepted, wellFormed⟩
  · have notWellFormed : ¬program.IsWellFormed := fun wellFormed => wellFormed.nonempty isEmpty
    simp [refused, notWellFormed]
  · have notWellFormed : ¬program.IsWellFormed := fun wellFormed =>
      breaks.not_keeps (by simpa using wellFormed.keepsAlong before instruction after isSplit)
    simp [refused, notWellFormed]
  · have notWellFormed : ¬program.IsWellFormed := by
      intro wellFormed
      obtain ⟨body, isBody, -, -⟩ := wellFormed.returns
      simp [isBody] at noReturn
    simp [refused, notWellFormed]
  · simp [accepted, wellFormed]

theorem verify_eq_empty_iff (program : Program) :
    program.verify = .error .empty ↔ program.instructions = [] := by
  constructor
  · intro refused
    rcases verify_cases program with
      ⟨isEmpty, -⟩ | ⟨error, before, instruction, after, named, -, -, breaks⟩ |
        ⟨-, -, -, missing⟩ | ⟨verified, accepted, -⟩
    · exact isEmpty
    · cases refused.symm.trans named
      cases breaks
    · cases refused.symm.trans missing
    · cases refused.symm.trans accepted
  · intro isEmpty
    simp [verify, isEmpty]

theorem verify_eq_missingReturn_iff (program : Program) :
    program.verify = .error .missingReturn ↔
      program.instructions ≠ [] ∧ .ret ∉ program.instructions ∧
        KeepsAlong program.siblings [] program.instructions [] := by
  rcases verify_cases program with
    ⟨isEmpty, refused⟩ |
      ⟨error, before, instruction, after, refused, isSplit, -, breaks⟩ |
      ⟨nonempty, noReturn, keeps, refused⟩ | ⟨verified, accepted, wellFormed⟩
  · simp [refused, isEmpty]
  · have notKept : ¬KeepsAlong program.siblings [] program.instructions [] := fun keeps =>
      breaks.not_keeps (by simpa using keeps before instruction after isSplit)
    have named : error ≠ .missingReturn := by
      rintro rfl
      cases breaks
    simp [refused, named, notKept]
  · simp [refused, nonempty, noReturn, keeps]
  · obtain ⟨body, isBody, -, -⟩ := wellFormed.returns
    simp [accepted, isBody]

/-- An error that names an instruction is about the first one that breaks a rule. -/
theorem exists_breaks_of_position? {error : ProgramError} {position : Nat}
    (refused : program.verify = .error error) (names : error.position? = some position) :
    ∃ before instruction after, program.instructions = before ++ instruction :: after ∧
      before.length = position ∧
      KeepsAlong program.siblings [] before (instruction :: after) ∧
      Breaks program.siblings before instruction after error := by
  rcases verify_cases program with
    ⟨-, empty⟩ | ⟨other, before, instruction, after, named, isSplit, keeps, breaks⟩ |
      ⟨-, -, -, missing⟩ | ⟨verified, accepted, -⟩
  · cases refused.symm.trans empty
    cases names
  · cases refused.symm.trans named
    have isPosition := breaks.position?_eq.symm.trans names
    exact ⟨before, instruction, after, isSplit, Option.some.inj isPosition, keeps, breaks⟩
  · cases refused.symm.trans missing
    cases names
  · cases refused.symm.trans accepted

/-- Verification is exact.  It accepts exactly the well-formed programs.  An error that names an
instruction is about the first one that breaks a rule: all instructions before it keep the rules,
and it breaks the rule of the error, with the numbers and names that the error gives.  The other
two errors stand for the empty program, and for one that keeps all rules but never returns. -/
theorem verify_exact (program : Program) :
    ((∃ verified, program.verify = .ok verified) ↔ program.IsWellFormed) ∧
    (∀ error position, program.verify = .error error → error.position? = some position →
      ∃ before instruction after, program.instructions = before ++ instruction :: after ∧
        before.length = position ∧
        KeepsAlong program.siblings [] before (instruction :: after) ∧
        Breaks program.siblings before instruction after error) ∧
    (program.verify = .error .empty ↔ program.instructions = []) ∧
    (program.verify = .error .missingReturn ↔
      program.instructions ≠ [] ∧ .ret ∉ program.instructions ∧
        KeepsAlong program.siblings [] program.instructions []) :=
  ⟨exists_verified_iff program, fun _ _ refused names => exists_breaks_of_position? refused names,
    verify_eq_empty_iff program, verify_eq_missingReturn_iff program⟩

/-- A program that is broken in several ways: it takes a value that is not there, calls a sibling
that does not exist, uses a local that is never begun, and does not return. -/
def brokenProgram : Program where
  source := .object "Order"
  target := .string
  siblings := 1
  instructions :=
    [.loadArgument .source, .storeMember ⟨"Order", "Note", .string, false⟩, .call 1 false,
      .loadLocal 0]

/-- The first of its faults is reported: two values are taken where one was pushed. -/
theorem verify_exact_brokenProgram :
    brokenProgram.verify = .error (.stackUnderflow 1 "stmember Order.Note") ∧
      ∃ before instruction after,
        brokenProgram.instructions = before ++ instruction :: after ∧ before.length = 1 ∧
          KeepsAlong 1 [] before (instruction :: after) ∧
          Breaks 1 before instruction after (.stackUnderflow 1 "stmember Order.Note") := by
  have refused : brokenProgram.verify = .error (.stackUnderflow 1 "stmember Order.Note") := rfl
  exact ⟨refused, (verify_exact brokenProgram).2.1 _ 1 refused rfl⟩

end Program

end Reshape
