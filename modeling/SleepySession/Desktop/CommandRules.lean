import SleepySession.Desktop.CommandRunner
import SleepySession.Lib.Checks

/-!
# What a successful adapter has read

A run that succeeds has found a successful result for each of its commands, in
order, and nothing else.  Each rule below says this for one construct, in both
directions; a whole adapter is then read off step by step.
-/

namespace SleepySession

open Program

/-- The entry of a command that succeeded. -/
def succeeded (spec : CommandSpec) (printed : Printed) : CommandSpec × CommandResult :=
  (spec, .ok ⟨0, printed⟩)

theorem commandOutput_eq_ok
    {result : CommandResult} {printed : Printed} :
    commandOutput result = .ok printed ↔ result = .ok ⟨0, printed⟩ := by
  rcases result with kind | ⟨status, stdout⟩
  · cases kind <;> simp [commandOutput]
  · by_cases hstatus : status = 0 <;> simp [commandOutput, hstatus]

theorem checkConfirmed_eq_ok
    {message : String} {isConfirmed : Bool} :
    checkConfirmed message isConfirmed = .ok () ↔ isConfirmed = true := by
  cases isConfirmed <;> simp [checkConfirmed]

section Runs

variable {α β : Type} {a : α} {s s' : Transcript} {script : List CommandResult}

theorem run_pure_eq_ok
    {b : α} :
    (pure b : Adapter α).run script s = (.ok a, s') ↔ b = a ∧ s = s' := by
  show (Outcome.ok b, s) = (Outcome.ok a, s') ↔ _
  simp

theorem run_orThrow_bind
    {x : Except IoError β} {f : β → Adapter α} :
    (orThrow x >>= f).run script s = (.ok a, s') ↔
      ∃ b, x = .ok b ∧ (f b).run script s = (.ok a, s') := by
  cases x with
  | error e =>
      show (Outcome.error e, s) = _ ↔ _
      simp
  | ok b =>
      show (f b).run script s = _ ↔ _
      simp

theorem run_runCommand_bind
    {spec : CommandSpec} {f : CommandResult → Adapter α} :
    (runCommand spec >>= f).run script s =
      (f (script.headD default)).run script.tail (s ++ [(spec, script.headD default)]) :=
  rfl

theorem headD_eq_ok
    {output : CommandOutput} :
    script.headD default = .ok output ↔ ∃ rest, script = .ok output :: rest := by
  cases script with
  | nil =>
      constructor
      · intro h
        cases h
      · rintro ⟨rest, hrest⟩
        cases hrest
  | cons result rest => simp

/-- A command whose result is checked for success in any way. -/
theorem run_runCommand_checked
    {spec : CommandSpec} {check : CommandResult → Except IoError Printed}
    {f : Printed → Adapter α}
    (hcheck : ∀ result printed, check result = .ok printed ↔ result = .ok ⟨0, printed⟩) :
    (runCommand spec >>= fun result => orThrow (check result) >>= f).run script s =
        (.ok a, s') ↔
      ∃ printed rest, script = .ok ⟨0, printed⟩ :: rest ∧
        (f printed).run rest (s ++ [succeeded spec printed]) = (.ok a, s') := by
  rw [run_runCommand_bind, run_orThrow_bind]
  constructor
  · rintro ⟨printed, hprinted, hrun⟩
    have hhead := (hcheck _ _).mp hprinted
    obtain ⟨rest, rfl⟩ := headD_eq_ok.mp hhead
    exact ⟨printed, rest, rfl, hrun⟩
  · rintro ⟨printed, rest, rfl, hrun⟩
    exact ⟨printed, (hcheck _ _).mpr rfl, hrun⟩

theorem run_runAdapter_bind
    {spec : CommandSpec} {f : Printed → Adapter α} :
    (runAdapter spec >>= f).run script s = (.ok a, s') ↔
      ∃ printed rest, script = .ok ⟨0, printed⟩ :: rest ∧
        (f printed).run rest (s ++ [succeeded spec printed]) = (.ok a, s') := by
  rw [show runAdapter spec >>= f =
      runCommand spec >>= fun result => orThrow (commandOutput result) >>= f from
    Program.bind_assoc _ _ _]
  exact run_runCommand_checked fun _ _ => commandOutput_eq_ok

/-- The entries of one command for each item. -/
def succeededEach {ι : Type} (spec : ι → CommandSpec) (outputs : List (ι × Printed)) :
    Transcript :=
  outputs.map fun output => succeeded (spec output.1) output.2

theorem run_runEach_bind
    {ι : Type} {spec : ι → CommandSpec} {items : List ι}
    {f : List (ι × Printed) → Adapter α} :
    (runEach spec items >>= f).run script s = (.ok a, s') ↔
      ∃ outputs rest, outputs.map Prod.fst = items ∧
        script = outputs.map (fun output => .ok ⟨0, output.2⟩) ++ rest ∧
        (f outputs).run rest (s ++ succeededEach spec outputs) = (.ok a, s') := by
  induction items generalizing script s f with
  | nil =>
      show (f []).run script s = _ ↔ _
      simp [succeededEach]
  | cons i items ih =>
      rw [show runEach spec (i :: items) >>= f =
          runAdapter (spec i) >>= fun output =>
            runEach spec items >>= fun outputs => f ((i, output) :: outputs) from by
        rw [runEach, Program.bind_assoc]
        exact congrArg _ (funext fun output => Program.bind_assoc _ _ _)]
      rw [run_runAdapter_bind]
      constructor
      · rintro ⟨printed, rest, rfl, hrun⟩
        obtain ⟨outputs, rest', rfl, rfl, hrest⟩ := ih.mp hrun
        refine ⟨(i, printed) :: outputs, rest', rfl, rfl, ?_⟩
        simpa [succeededEach] using hrest
      · rintro ⟨outputs, rest, hitems, hscript, hrun⟩
        cases outputs with
        | nil => simp at hitems
        | cons output outputs =>
            obtain ⟨j, printed⟩ := output
            simp only [List.map_cons, List.cons.injEq] at hitems
            obtain ⟨rfl, rfl⟩ := hitems
            refine ⟨printed, _, hscript, ih.mpr ⟨outputs, rest, rfl, rfl, ?_⟩⟩
            simpa [succeededEach] using hrun

/-- The results that a transcript records. -/
def answers (reads : Transcript) : List CommandResult :=
  reads.map Prod.snd

@[simp] theorem answers_append
    (first second : Transcript) :
    answers (first ++ second) = answers first ++ answers second :=
  List.map_append

@[simp] theorem answers_succeeded
    (spec : CommandSpec) (printed : Printed) (reads : Transcript) :
    answers (succeeded spec printed :: reads) = .ok ⟨0, printed⟩ :: answers reads :=
  rfl

@[simp] theorem answers_succeededEach
    {ι : Type} (spec : ι → CommandSpec) (outputs : List (ι × Printed)) :
    answers (succeededEach spec outputs) = outputs.map fun output => .ok ⟨0, output.2⟩ := by
  simp [answers, succeededEach, succeeded]

/-- The reads with which a probe succeeds, and what it makes of them. -/
def ReadsExactly (probe : Adapter α) (Reads : Transcript → α → Prop) : Prop :=
  ∀ {β : Type} (f : α → Adapter β) (script : List CommandResult) (s s' : Transcript) (b : β),
    (probe >>= f).run script s = (.ok b, s') ↔
      ∃ reads a rest, Reads reads a ∧ script = answers reads ++ rest ∧
        (f a).run rest (s ++ reads) = (.ok b, s')

/-- A command succeeds if a probe after it shows what the check looks for. -/
theorem run_confirmed
    {probe : Adapter α} {Reads : Transcript → α → Prop}
    (hprobe : ReadsExactly probe Reads)
    {e : Except IoError CommandSpec}
    {message : String} {check : α → Bool} {g : α → β} {b : β} :
    (do
        let spec ← orThrow e
        let _ ← runAdapter spec
        let a ← probe
        orThrow (checkConfirmed message (check a))
        pure (g a) : Adapter β).run script s = (.ok b, s') ↔
      ∃ spec printed reads a rest, e = .ok spec ∧
        script = .ok ⟨0, printed⟩ :: (answers reads ++ rest) ∧
        Reads reads a ∧ check a = true ∧ b = g a ∧
        s' = s ++ succeeded spec printed :: reads := by
  simp only [run_orThrow_bind, run_runAdapter_bind, hprobe _, run_pure_eq_ok]
  constructor
  · rintro ⟨spec, hspec, printed, _, rfl, reads, a, rest, hreads, rfl, _, hcheck, rfl, rfl⟩
    exact ⟨spec, printed, reads, a, rest, hspec, rfl, hreads, checkConfirmed_eq_ok.mp hcheck,
      rfl, by simp⟩
  · rintro ⟨spec, printed, reads, a, rest, hspec, rfl, hreads, hcheck, rfl, rfl⟩
    exact ⟨spec, hspec, printed, _, rfl, reads, a, rest, hreads, rfl, (),
      checkConfirmed_eq_ok.mpr hcheck, rfl, by simp⟩

end Runs

end SleepySession
