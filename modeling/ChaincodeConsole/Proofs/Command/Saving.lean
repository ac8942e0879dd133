import ChaincodeConsole.Proofs.Command.Asking
import ChaincodeConsole.Proofs.Server.Downloads

/-! Downloading on command. The directories on the written path are made first. Where the path then
leads to is the destination, which a download replaces as a whole or leaves alone. -/
namespace ChaincodeConsole

theorem Work.bindFails {x : Work α} {f : α → Work β} {p q : Progress} {e : String}
    (failed : x.run.run p = (.error e, q)) : (x >>= f).run.run p = (.error e, q) := by
  simp only [ExceptT.run_bind, StateT.run_bind, failed]
  rfl

namespace Office

inductive Saves (name : String) (ready : Disk) (d : Delivery) (out : String) :
    Except String Unit → Progress → Prop where
  | lost {fault : Disk.Fault} (nowhere : ready.reach name = .error fault) :
      Saves name ready d out (.error Failure.storage.message) ⟨out, ready⟩
  | failed {dest : Path} {run : Download.Run} {f : Failure} (reached : ready.reach name = .ok dest)
      (atomic : Download.Atomic ready dest none d run) (ended : run.outcome = .error f) :
      Saves name ready d out (.error f.message) ⟨out, run.final⟩
  | saved {dest : Path} {run : Download.Run} {bytes : Nat} (reached : ready.reach name = .ok dest)
      (atomic : Download.Atomic ready dest none d run) (ended : run.outcome = .ok bytes) :
      Saves name ready d out (.ok ())
        ⟨out ++ ("saved " ++ name ++ " (" ++ toString bytes ++ " bytes)\n"), run.final⟩

theorem replySaves {r : Reply} (success : r.isSuccess = true) (name : String) (ready : Disk)
    (out : String) : ∃ result q, Saves name ready (.ok r) out result q ∧
      (match ready.reach name with
        | .error _ => throw Failure.storage.message
        | .ok dest => do
          let run := Download.save ready dest none r
          Work.setDisk run.final
          let bytes ← Work.ofExcept run.outcome
          Work.say ("saved " ++ name ++ " (" ++ toString bytes ++ " bytes)\n") : Work Unit).run.run
        ⟨out, ready⟩ = (result, q) := by
  cases reached : ready.reach name with
  | error fault => exact ⟨_, _, .lost reached, rfl⟩
  | ok dest =>
    have atomic := Download.goesAtomic success (Download.saveGoes ready dest none r)
    dsimp only
    generalize Download.save ready dest none r = run at atomic ⊢
    have set : (Work.setDisk run.final).run.run ⟨out, ready⟩ = (.ok (), ⟨out, run.final⟩) := rfl
    rw [Work.bindRuns set]
    cases ended : run.outcome with
    | error f => exact ⟨_, _, .failed reached atomic ended, Work.bindFails rfl⟩
    | ok bytes => exact ⟨_, _, .saved reached atomic ended, Work.bindRuns rfl⟩

/-- Without a project or a reply the disk stays as it is. Else the reply is saved at the place that
the written path leads to. -/
theorem downloadSaves (o : Office) (output : Option String) (p : Progress) :
    ((o.settings.projectId? o.given = none ∨ ∃ project f,
        o.settings.projectId? o.given = some project ∧
        (o.ask (.archive project)).accepted = .error f) ∧
      ∃ message, (o.download output).run.run p = (.error message, p)) ∨
    ∃ project result q, o.settings.projectId? o.given = some project ∧
      (o.download output).run.run p = (result, q) ∧
      Saves (output.getD (archiveName project))
        (p.disk.makeWayTo (output.getD (archiveName project))).1
        (o.ask (.archive project)) p.out result q := by
  rw [download]
  cases given : o.settings.projectId? o.given with
  | none =>
    have missing : o.project.run.run p = (.error Settings.noProjectMessage, p) := by
      rw [Office.project, given]
      rfl
    exact .inl ⟨.inl rfl, _, Work.bindFails missing⟩
  | some project =>
    rw [Work.bindRuns (projectRuns given p)]
    cases accepted : (o.ask (.archive project)).accepted with
    | error f => exact .inl ⟨.inr ⟨project, f, rfl, accepted⟩, _, Work.bindFails rfl⟩
    | ok r =>
      obtain ⟨success, asked⟩ : r.isSuccess = true ∧ o.ask (.archive project) = .ok r := by
        cases reply : o.ask (.archive project) with
        | error trouble => simp [reply, Delivery.accepted] at accepted
        | ok other =>
          cases success : other.isSuccess <;> simp_all [Delivery.accepted]
      obtain ⟨result, q, saves, ran⟩ := replySaves success (output.getD (archiveName project))
        (p.disk.makeWayTo (output.getD (archiveName project))).1 p.out
      refine .inr ⟨project, result, q, rfl, ?_, asked ▸ saves⟩
      rw [← ran]
      rfl

end Office
end ChaincodeConsole
