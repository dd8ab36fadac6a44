import Reshape.Proofs.Mapping.Needs
import Reshape.Proofs.Mapping.ObjectProgram
import Reshape.Proofs.Routine.Acceptance

/-!
Contract: the programs of plans are accepted.

Owns: the balance of each piece of the code (`loadSource_passes`, `convertBy_passes`,
`storeTarget_passes`, `assign_passes`) and `ObjectPlan.program_verify`.

Does not own: which plans are made.
-/

namespace Reshape.ObjectPlan

open Program (Passes)

variable {siblings depth locals : Nat}

/-! ## Reading -/

theorem loadHead_passes (member : AnnotatedMember) :
    Passes siblings depth locals (loadHead member) (depth + 1) locals := by
  unfold loadHead
  split
  · next isStatic => exact .push trivial (if_pos isStatic) rfl rfl (.nil _ _)
  · next isInstance =>
      exact .push trivial rfl rfl rfl (.replace trivial (if_neg isInstance) rfl rfl (.nil _ _))

theorem loadNext_passes (member : AnnotatedMember) :
    Passes siblings (depth + 1) locals (loadNext member) (depth + 1) locals := by
  unfold loadNext
  split
  · next isStatic =>
      exact .drop trivial rfl rfl rfl (.push trivial (if_pos isStatic) rfl rfl (.nil _ _))
  · next isInstance => exact .replace trivial (if_neg isInstance) rfl rfl (.nil _ _)

theorem flatMap_loadNext_passes (chain : List AnnotatedMember) :
    Passes siblings (depth + 1) locals (chain.flatMap loadNext) (depth + 1) locals := by
  induction chain with
  | nil => exact .nil _ _
  | cons member rest inductionHypothesis =>
      rw [List.flatMap_cons]
      exact (loadNext_passes member).append inductionHypothesis

theorem loadSource_passes {chain : List AnnotatedMember} (nonempty : chain ≠ []) :
    Passes siblings depth locals (loadSource chain) (depth + 1) locals := by
  cases chain with
  | nil => exact absurd rfl nonempty
  | cons member rest => exact (loadHead_passes member).append (flatMap_loadNext_passes rest)

theorem loadTarget_passes {chain : List AnnotatedMember}
    (instances : ∀ member ∈ chain, member.isStatic = false) (hasResult : resultLocal < locals) :
    Passes siblings depth locals (loadTarget chain) (depth + 1) locals := by
  rw [loadTarget, ← loadNext_instances instances]
  exact .push hasResult rfl rfl rfl (flatMap_loadNext_passes chain)

/-! ## Converting -/

theorem defaultIfNull_passes (template : Option Value) :
    Passes siblings (depth + 1) locals (template.map Instruction.defaultIfNull).toList
      (depth + 1) locals := by
  cases template with
  | none => exact .nil _ _
  | some template => exact .replace trivial rfl rfl rfl (.nil _ _)

theorem convertBy_passes {chain : List AnnotatedMember} {transfer : Transfer}
    (instances : ∀ member ∈ chain, member.isStatic = false) (hasResult : resultLocal < locals)
    (inRange : ∀ index ∈ transfer.callee?, index < siblings) :
    Passes siblings (depth + 1) locals (convertBy chain transfer) (depth + 1) locals := by
  cases transfer with
  | copy => exact .nil _ _
  | cast source target onNull =>
      exact .replace trivial rfl rfl rfl (defaultIfNull_passes onNull)
  | sibling index => exact .replace (inRange index rfl) rfl rfl rfl (.nil _ _)
  | siblingOnto index =>
      exact (loadTarget_passes instances hasResult).append
        (.merge (inRange index rfl) rfl rfl rfl (.nil _ _))

/-! ## Writing -/

/-- The code that writes a local into a member of the object in another local. -/
theorem writeBack_passes {owner child : Nat} {member : AnnotatedMember}
    (isInstance : member.isStatic = false) (hasOwner : owner < locals)
    (hasChild : child < locals) :
    Passes siblings depth locals
      [.loadLocal owner, .loadLocal child, .storeMember member.toMemberRef, .storeLocal owner]
      depth locals :=
  .push hasOwner rfl rfl rfl
    (.push hasChild rfl rfl rfl
      (.merge isInstance rfl rfl rfl (.drop hasOwner rfl rfl rfl (.nil _ _))))

/-- The code for a target chain begins a local for every intermediate owner. -/
theorem storeTarget_passes (catalog : Catalog) {value : Nat} :
    ∀ (chain : List AnnotatedMember) {owner locals : Nat}, chain ≠ [] → owner < locals →
      value < locals → (∀ member ∈ chain, member.isStatic = false) →
      Passes siblings depth locals (storeTarget catalog owner value locals chain) depth
        (locals + (chain.length - 1))
  | [], _, _, nonempty, _, _, _ => absurd rfl nonempty
  | [member], owner, locals, _, hasOwner, hasValue, instances =>
      writeBack_passes (instances member List.mem_cons_self) hasOwner hasValue
  | member :: below :: rest, owner, locals, _, hasOwner, hasValue, instances => by
      -- The value of the member goes to the next local, where the rest of the chain is written
      -- before the local is written back into its owner.
      have isInstance := instances member List.mem_cons_self
      have isLoad : (Instruction.loadMember member.toMemberRef).pops = 1 := by
        simp [Instruction.pops, isInstance]
      have entered : Passes siblings depth locals
          ([.declareLocal member.shape .null, .loadLocal owner,
              .loadMember member.toMemberRef] ++
            ((instanceOf? catalog member.shape).map Instruction.defaultIfNull).toList ++
            [.storeLocal locals]) depth (locals + 1) := by
        rw [List.append_assoc]
        refine .declare _ _ (.push (Nat.lt_succ_of_lt hasOwner) rfl rfl rfl
          (.replace trivial isLoad rfl rfl ?_))
        exact (defaultIfNull_passes _).append
          (.drop (Nat.lt_succ_self locals) rfl rfl rfl (.nil _ _))
      have inside := storeTarget_passes catalog (below :: rest) (List.cons_ne_nil below rest)
        (Nat.lt_succ_self locals) (Nat.lt_succ_of_lt hasValue)
        fun other found => instances other (.tail _ found)
      have sameCount : locals + 1 + ((below :: rest).length - 1) =
          locals + ((member :: below :: rest).length - 1) := by
        simp only [List.length_cons]
        omega
      have longer : locals < locals + ((member :: below :: rest).length - 1) := by
        simp only [List.length_cons]
        omega
      rw [sameCount] at inside
      rw [storeTarget]
      · exact (entered.append inside).append
          (writeBack_passes isInstance (Nat.lt_trans hasOwner longer) longer)
      · exact List.cons_ne_nil below rest

/-! ## Programs -/

/-- The code of an assignment begins the locals of the assignment. -/
theorem assign_passes (catalog : Catalog) {assignment : Assignment}
    (runnable : assignment.path.IsRunnable) (hasResult : resultLocal < locals)
    (inRange : ∀ index ∈ assignment.transfer.callee?, index < siblings) :
    Passes siblings depth locals (assign catalog locals assignment) depth
      (locals + localsOf assignment) := by
  have converted : Passes siblings depth locals
      (loadSource assignment.path.source ++
        convertBy assignment.path.target assignment.transfer) (depth + 1) locals :=
    (loadSource_passes runnable.source_ne_nil).append
      (convertBy_passes runnable.instances hasResult inRange)
  have kept : Passes siblings (depth + 1) locals
      [.declareLocal assignment.path.pair.target .null, .storeLocal locals] depth (locals + 1) :=
    .declare _ _ (.drop (Nat.lt_succ_self locals) rfl rfl rfl (.nil _ _))
  have stored : Passes siblings depth (locals + 1)
      (storeTarget catalog resultLocal locals (locals + 1) assignment.path.target) depth
      (locals + 1 + (assignment.path.target.length - 1)) :=
    storeTarget_passes catalog _ runnable.target_ne_nil (Nat.lt_succ_of_lt hasResult)
      (Nat.lt_succ_self locals) runnable.instances
  rw [localsOf, ← Nat.add_assoc]
  exact (converted.append kept).append stored

theorem assignAll_passes (catalog : Catalog) :
    ∀ (assignments : List Assignment) {locals : Nat}, resultLocal < locals →
      (∀ assignment ∈ assignments, assignment.path.IsRunnable) →
      (∀ assignment ∈ assignments, ∀ index ∈ assignment.transfer.callee?, index < siblings) →
      ∃ count, locals ≤ count ∧
        Passes siblings depth locals (assignAll catalog locals assignments) depth count
  | [], locals, _, _, _ => ⟨locals, Nat.le_refl _, .nil _ _⟩
  | assignment :: rest, locals, hasResult, runnable, inRange => by
      have first : Passes siblings depth locals (assign catalog locals assignment) depth
          (locals + localsOf assignment) :=
        assign_passes catalog (runnable assignment List.mem_cons_self) hasResult
          (inRange assignment List.mem_cons_self)
      obtain ⟨count, more, others⟩ := assignAll_passes catalog rest
        (Nat.lt_of_lt_of_le hasResult (Nat.le_add_right locals (localsOf assignment)))
        (fun other found => runnable other (.tail _ found))
        (fun other found => inRange other (.tail _ found))
      exact ⟨count, Nat.le_of_add_right_le more, first.append others⟩

/-- The program of a plan is accepted where its paths can be run and its calls go to siblings
that it has. -/
theorem program_verify (plan : ObjectPlan) (catalog : Catalog) (isWired : plan.IsWired)
    (runnable : ∀ assignment ∈ plan.assignments, assignment.path.IsRunnable) :
    ∃ verified, (plan.program catalog).verify = .ok verified := by
  have begins : Passes plan.siblings.length 0 0 plan.prologue 0 1 :=
    .declare _ _ (.push trivial rfl rfl rfl (.replace trivial rfl rfl rfl
      (.drop Nat.zero_lt_one rfl rfl rfl (.nil _ _))))
  obtain ⟨count, more, assigned⟩ := assignAll_passes catalog plan.assignments
    Nat.zero_lt_one runnable isWired
  have ends : Passes plan.siblings.length 0 count [.loadLocal resultLocal] 1 count :=
    .push more rfl rfl rfl (.nil _ _)
  have verifies := Program.verify_of_passes plan.pair.source plan.pair.target
    ((begins.append assigned).append ends)
  rwa [List.append_assoc] at verifies

end Reshape.ObjectPlan
