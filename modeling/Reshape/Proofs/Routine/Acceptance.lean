import Reshape.Routine.Verification

/-!
Contract: code that verification passes over.

Owns:
- `Program.Passes`, that a piece of code leads from one depth of the stack and number of
  locals to others without breaking a rule, with the rules for putting pieces together;
- `Program.verify_of_passes`, that code which leaves one value is accepted with a return.

Does not own: rejected programs, and the greatest depth of the stack.
-/

namespace Reshape

/-- The rules for an instruction other than a return, with a number of siblings and of
locals. -/
def Instruction.IsAllowed (siblings locals : Nat) : Instruction → Prop
  | .storeMember member => member.isStatic = false
  | .call sibling _ => sibling < siblings
  | .loadLocal index | .storeLocal index => index < locals
  | .ret => False
  | _ => True

namespace Program

/-- Code that takes no more than is on the stack, keeps the rules and does not return.  It
leads from a depth of the stack and a number of locals to others. -/
inductive Passes (siblings : Nat) : Nat → Nat → List Instruction → Nat → Nat → Prop where
  | nil (depth locals : Nat) : Passes siblings depth locals [] depth locals
  | cons {depth locals lastDepth lastLocals : Nat} {instruction : Instruction}
      {rest : List Instruction} (isAllowed : instruction.IsAllowed siblings locals)
      (enough : instruction.pops ≤ depth)
      (passesRest : Passes siblings (depth - instruction.pops + instruction.pushes)
        (locals + instruction.declares) rest lastDepth lastLocals) :
      Passes siblings depth locals (instruction :: rest) lastDepth lastLocals

variable {siblings depth locals middleDepth middleLocals lastDepth lastLocals : Nat}
  {first rest : List Instruction}

theorem Passes.append (passesFirst : Passes siblings depth locals first middleDepth middleLocals)
    (passesRest : Passes siblings middleDepth middleLocals rest lastDepth lastLocals) :
    Passes siblings depth locals (first ++ rest) lastDepth lastLocals := by
  induction passesFirst with
  | nil => exact passesRest
  | cons isAllowed enough _ inductionHypothesis =>
      exact .cons isAllowed enough (inductionHypothesis passesRest)

section Effects

variable {instruction : Instruction} (isAllowed : instruction.IsAllowed siblings locals)
include isAllowed

/-- An instruction that puts a value on the stack. -/
theorem Passes.push (pops : instruction.pops = 0) (pushes : instruction.pushes = 1)
    (declares : instruction.declares = 0)
    (passesRest : Passes siblings (depth + 1) locals rest lastDepth lastLocals) :
    Passes siblings depth locals (instruction :: rest) lastDepth lastLocals := by
  refine .cons isAllowed (by omega) ?_
  rwa [pops, pushes, declares]

/-- An instruction that replaces the value on top of the stack. -/
theorem Passes.replace (pops : instruction.pops = 1) (pushes : instruction.pushes = 1)
    (declares : instruction.declares = 0)
    (passesRest : Passes siblings (depth + 1) locals rest lastDepth lastLocals) :
    Passes siblings (depth + 1) locals (instruction :: rest) lastDepth lastLocals := by
  refine .cons isAllowed (by omega) ?_
  rwa [pops, pushes, declares]

/-- An instruction that takes a value from the stack. -/
theorem Passes.drop (pops : instruction.pops = 1) (pushes : instruction.pushes = 0)
    (declares : instruction.declares = 0)
    (passesRest : Passes siblings depth locals rest lastDepth lastLocals) :
    Passes siblings (depth + 1) locals (instruction :: rest) lastDepth lastLocals := by
  refine .cons isAllowed (by omega) ?_
  rwa [pops, pushes, declares]

/-- An instruction that makes one value of the two on top of the stack. -/
theorem Passes.merge (pops : instruction.pops = 2) (pushes : instruction.pushes = 1)
    (declares : instruction.declares = 0)
    (passesRest : Passes siblings (depth + 1) locals rest lastDepth lastLocals) :
    Passes siblings (depth + 2) locals (instruction :: rest) lastDepth lastLocals := by
  refine .cons isAllowed (by omega) ?_
  rwa [pops, pushes, declares]

end Effects

/-- The beginning of a local. -/
theorem Passes.declare (shape : Shape) (zero : Value)
    (passesRest : Passes siblings depth (locals + 1) rest lastDepth lastLocals) :
    Passes siblings depth locals (.declareLocal shape zero :: rest) lastDepth lastLocals :=
  .cons trivial (Nat.zero_le _) passesRest

/-! ## Acceptance -/

theorem violation?_of_isAllowed {position : Nat} {isLast : Bool} {facts : StackFacts}
    {instruction : Instruction} (isAllowed : instruction.IsAllowed siblings facts.locals) :
    violation? siblings position isLast facts instruction = none := by
  cases instruction with
  | storeMember member =>
      have isInstance : member.isStatic = false := isAllowed
      simp [violation?, isInstance]
  | call sibling withTarget => exact if_neg (Nat.not_le.mpr isAllowed)
  | loadLocal index => exact if_neg (Nat.not_le.mpr isAllowed)
  | storeLocal index => exact if_neg (Nat.not_le.mpr isAllowed)
  | ret => exact absurd isAllowed id
  | _ => rfl

/-- Verification goes on after code that it passes over. -/
theorem Passes.checkFrom_append
    (passes : Passes siblings depth locals first lastDepth lastLocals)
    (position maxStack : Nat) (rest : List Instruction) :
    ∃ greater, checkFrom siblings position ⟨depth, maxStack, locals⟩ (first ++ rest) =
      checkFrom siblings (position + first.length) ⟨lastDepth, greater, lastLocals⟩ rest := by
  induction passes generalizing position maxStack with
  | nil => exact ⟨maxStack, rfl⟩
  | @cons depth locals _ _ instruction others isAllowed enough _ inductionHypothesis =>
      obtain ⟨greater, goesOn⟩ := inductionHypothesis (position + 1)
        (max maxStack (depth - instruction.pops + instruction.pushes))
      refine ⟨greater, ?_⟩
      have checked (isLast : Bool) :
          checkInstruction siblings position isLast ⟨depth, maxStack, locals⟩ instruction =
            .ok ⟨depth - instruction.pops + instruction.pushes,
              max maxStack (depth - instruction.pops + instruction.pushes),
              locals + instruction.declares⟩ := by
        rw [checkInstruction, violation?_of_isAllowed isAllowed]
        exact if_neg (Nat.not_lt.mpr enough)
      simp only [List.cons_append, checkFrom, checked]
      rw [goesOn, List.length_cons, Nat.add_assoc, Nat.add_comm 1]

/-- A program that passes up to its return, and returns the only value on the stack, is
accepted. -/
theorem verify_of_passes (source target : Shape) {code : List Instruction}
    (passes : Passes siblings 0 0 code 1 locals) :
    ∃ verified, Program.verify ⟨source, target, siblings, code ++ [.ret]⟩ = .ok verified := by
  obtain ⟨greater, goesOn⟩ := passes.checkFrom_append 0 0 [.ret]
  have returns (position : Nat) :
      checkFrom siblings position ⟨1, greater, locals⟩ [.ret] =
        .ok ⟨0, max greater 0, locals⟩ := rfl
  have ends : endsWithReturn (code ++ [.ret]) = true := by
    simp [endsWithReturn]
  refine ⟨⟨max greater 0, locals⟩, ?_⟩
  simp only [verify, goesOn, returns, ends, if_true]
  simp

end Program

end Reshape
