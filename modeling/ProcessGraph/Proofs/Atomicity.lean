import ProcessGraph.Proofs.Operation
import ProcessGraph.Script

/-!
# Failures leave no trace

`failed_state_eq`: an operation on a system, a container or a process that fails leaves the profile and
the cache of its entity, and all that the cache holds, as they were. It does not matter whether the first
reply, its document or one of several siblings was at fault.
-/

namespace ProcessGraph

variable {ρ : Type} [Remote ρ]

/-- **An operation that fails leaves its entity as it was.** -/
theorem failed_state_eq :
    (∀ (op : SystemHandle.Operation) (s : SystemHandle) (w : World ρ) (e : ClientError),
      (op.perform s w).1 = .failed e → (op.perform s w).2.1 = s) ∧
    (∀ (op : ContainerHandle.Operation) (c : ContainerHandle) (w : World ρ) (e : ClientError),
      (op.perform c w).1 = .failed e → (op.perform c w).2.1 = c) ∧
    (∀ (p : ProcessHandle) (w : World ρ) (e : ClientError),
      (ProcessHandle.setup p w).1 = .failed e → (ProcessHandle.setup p w).2.1 = p) := by
  refine ⟨fun op s w e h => ?_, fun op c w e h => ?_, fun p w e h => ?_⟩
  · exact (op.perform_commits s w).state_eq_of_failed h
  · exact (op.perform_commits c w).state_eq_of_failed h
  · exact (ProcessHandle.setup_commits p w).state_eq_of_failed h

/-- A container with a process that has not been enumerated. -/
def ContainerHandle.arm : ContainerHandle := ⟨⟨"a"⟩, some ⟨"arm", [⟨"p"⟩], []⟩, none⟩

/-- A system with that one container. -/
def SystemHandle.oneArm : SystemHandle where
  profile := some ⟨[(⟨"a"⟩, .null)], .object [("containers", .object [("a", .null)])], by decide⟩
  containers := some [.arm]

/-- A remote side that lists two more containers. It knows the first of them, but neither the second nor any
process. -/
def Script.halfKnown : Script :=
  { Script.empty with
    system := [("", [.document (.object
      [("containers", .object [("b", .null), ("a", .null), ("c", .null)])])])]
    containers := [("b", [.document (.object [("type_name", .string "base")])])] }

theorem failed_state_eq_oneArm :
    (SystemHandle.Operation.refresh.perform .oneArm (.start Script.halfKnown)).1 =
        .failed (.status "stub://container/c" 404) ∧
      (SystemHandle.Operation.refresh.perform .oneArm (.start Script.halfKnown)).2.1 = .oneArm ∧
    (ContainerHandle.Operation.processes.perform .arm (.start Script.halfKnown)).1 =
        .failed (.status "stub://container_process/p" 404) ∧
      (ContainerHandle.Operation.processes.perform .arm (.start Script.halfKnown)).2.1 = .arm ∧
    (ProcessHandle.setup (.new ⟨"p"⟩) (.start Script.halfKnown)).1 =
        .failed (.status "stub://container_process/p" 404) ∧
      (ProcessHandle.setup (.new ⟨"p"⟩) (.start Script.halfKnown)).2.1 = .new ⟨"p"⟩ := by
  obtain ⟨hsystem, hcontainer, hprocess⟩ := failed_state_eq (ρ := Script)
  refine ⟨rfl, hsystem _ _ _ _ rfl, rfl, hcontainer _ _ _ _ rfl, rfl, hprocess _ _ _ rfl⟩

end ProcessGraph
