import KeywordHarvest.Session
import KeywordHarvest.Proofs.CommandLine.Frame

/-! Sessions with operations taken out. An operation that only reads, or whose answer is a failure,
leaves the tree as it is; so a session goes on in the same way when such operations are left out, in
any number and at any places. -/

namespace KeywordHarvest

/-- A command that is understood only reads when it prints the list; any other only prints. -/
def Operation.isReadOnly : Operation → Bool
  | generate _ => false
  | writeOutput _ _ => false
  | command arguments =>
      match CommandLine.request arguments with
      | .ok request => request.toStdout
      | .error _ => true
  | _ => true

def Answer.isFailure : Answer → Bool
  | extracted (.error _) => true
  | format none => true
  | harvested (.error _) => true
  | written (.error _) => true
  | loaded (.error _) => true
  | ran outcome => outcome.exitCode ≠ 0
  | _ => false

namespace Operation

variable {host : Host} {operation : Operation} {tree : FileTree}

theorem frame (traceless : operation.isReadOnly ∨ ((operation.task host).run tree).1.isFailure) :
    ((operation.task host).run tree).2 = tree := by
  cases operation with
  | extract marker text => rfl
  | recognize name => rfl
  | render listing keywords => rfl
  | harvestText settings text => rfl
  | harvestInput settings => rfl
  | defaults =>
      simp only [task, FileTask.run_bind, FileTask.run_pure, Settings.run_load]
  | load sources =>
      simp only [task, FileTask.run_bind, FileTask.run_pure, Settings.run_load]
  | generate settings =>
      have failed := traceless.resolve_left Bool.false_ne_true
      simp only [task, FileTask.run_bind, FileTask.run_pure] at failed ⊢
      cases ended : ((Harvest.generate settings).run tree).1.result with
      | ok harvest =>
          rw [ended] at failed
          cases failed
      | error fault => exact Harvest.generate_eq_error ended
  | writeOutput path text =>
      have failed := traceless.resolve_left Bool.false_ne_true
      simp only [task, FileTask.run_bind, FileTask.run_pure] at failed ⊢
      cases ended : ((Harvest.writeOutput path text).run tree).1.result with
      | ok done =>
          rw [ended] at failed
          cases failed
      | error fault => exact Harvest.writeOutput_eq_error ended
  | command arguments =>
      simp only [task, CommandLine.run, isReadOnly, FileTask.run_bind] at traceless ⊢
      cases asked : CommandLine.request arguments with
      | ok request =>
          rw [asked] at traceless
          exact CommandLine.Request.run_frame (by simpa [Answer.isFailure] using traceless)
      | error stop => cases stop <;> rfl

end Operation

namespace Session

/-- What is left of the steps of a session and of its answers when operations that only read, or
that failed in that session, are taken out. -/
inductive Thinned : List Step → List Answer → List Step → List Answer → Prop
  | done : Thinned [] [] [] []
  | change {change : FileTree → FileTree} {steps kept : List Step} {answers left : List Answer}
      (rest : Thinned steps answers kept left) :
      Thinned (.change change :: steps) answers (.change change :: kept) left
  | keep {host : Host} {operation : Operation} {answer : Answer} {steps kept : List Step}
      {answers left : List Answer} (rest : Thinned steps answers kept left) :
      Thinned (.operation host operation :: steps) (answer :: answers)
        (.operation host operation :: kept) (answer :: left)
  | drop {host : Host} {operation : Operation} {answer : Answer} {steps kept : List Step}
      {answers left : List Answer} (traceless : operation.isReadOnly ∨ answer.isFailure)
      (rest : Thinned steps answers kept left) :
      Thinned (.operation host operation :: steps) (answer :: answers) kept left

theorem run_operation (host : Host) (operation : Operation) (steps : List Step)
    (tree : FileTree) :
    run (.operation host operation :: steps) tree =
      (((operation.task host).run tree).1 :: (run steps ((operation.task host).run tree).2).1,
        (run steps ((operation.task host).run tree).2).2) := rfl

theorem run_change (change : FileTree → FileTree) (steps : List Step) (tree : FileTree) :
    run (.change change :: steps) tree = run steps (change tree) := rfl

/-- Operations without a trace can be left out: the others answer the same and the session ends in
the same tree. So generating that fails, for whatever reason, leaves every file as it was. -/
theorem run_without_traceless :
    (∀ (steps kept : List Step) (left : List Answer) (tree : FileTree),
      Thinned steps (run steps tree).1 kept left → run kept tree = (left, (run steps tree).2)) ∧
    ∀ (host : Host) (settings : Settings) (tree : FileTree) (fault : Harvest.Fault),
      (((Operation.generate settings).task host).run tree).1 = .harvested (.error fault) →
        (((Operation.generate settings).task host).run tree).2 = tree := by
  constructor
  · intro steps kept left tree thinned
    generalize given : (run steps tree).1 = answers at thinned
    induction thinned generalizing tree with
    | done => rfl
    | change rest ih =>
        rw [run_change] at given ⊢
        rw [run_change]
        exact ih _ given
    | keep rest ih =>
        rw [run_operation] at given ⊢
        obtain ⟨rfl, later⟩ := List.cons.inj given
        rw [run_operation, ih _ later]
    | drop traceless rest ih =>
        rw [run_operation] at given ⊢
        obtain ⟨rfl, later⟩ := List.cons.inj given
        -- The rest of the session starts from the same tree with and without the operation.
        rw [Operation.frame traceless] at later ⊢
        exact ih _ later
  · intro host settings tree fault failed
    apply Operation.frame
    rw [failed]
    exact .inr rfl

/-- A file is in place where the list is to be written. -/
def staleTree : FileTree :=
  (FileTree.bare []).set [Text.encode "o"] (.file (Text.encode "old") 0o600)

def staleSettings : Settings :=
  ⟨Text.encode "g", Text.encode "o", "kw", .json, "L"⟩

def supply (tree : FileTree) : FileTree :=
  tree.set [Text.encode "g"] (.file (Text.encode "kw(\"a\")") 0o644)

/-- The input comes after a failed attempt, and a file is no directory to write into. -/
def attempts : List Step :=
  [.operation .plain (.generate staleSettings),
    .operation .plain (.writeOutput (Text.encode "o/x") "new"), .change supply,
    .operation .plain (.extract "kw" "kw(\"b\")"), .operation .plain (.generate staleSettings)]

def attemptsLeft : List Step := [.change supply, .operation .plain (.generate staleSettings)]

def suppliedHarvest : Harvest := ⟨["a"], "[\n  \"a\"\n]\n"⟩

theorem run_without_traceless_attempts :
    run attemptsLeft staleTree =
        ([.harvested (.ok suppliedHarvest)], (run attempts staleTree).2) ∧
      (((Operation.generate staleSettings).task .plain).run staleTree).2 = staleTree := by
  have failed : (((Operation.generate staleSettings).task .plain).run staleTree).1 =
      .harvested (.error (.unreadable (Text.encode "g") .missing)) := rfl
  have made : (Harvest.ofContent staleSettings
      ((supply staleTree).read staleSettings.input)).result = .ok suppliedHarvest :=
    Harvest.ofContent_eq_ok.mpr ⟨"kw(\"a\")", Marker.standard, rfl,
      Marker.ofText_text Marker.standard, by decide +kernel⟩
  have stored : (supply staleTree).write staleSettings.output
      (Text.encode suppliedHarvest.rendered) = .ok _ := rfl
  have succeeds : (((Operation.generate staleSettings).task .plain).run (supply staleTree)).1 =
      .harvested (.ok suppliedHarvest) :=
    congrArg Answer.harvested (Harvest.generate_eq_ok.mpr ⟨made, stored⟩).1
  have last : Thinned [.operation .plain (.generate staleSettings)]
      [(((Operation.generate staleSettings).task .plain).run (supply staleTree)).1]
      [.operation .plain (.generate staleSettings)] [.harvested (.ok suppliedHarvest)] := by
    rw [succeeds]
    exact .keep .done
  have thinned : Thinned attempts (run attempts staleTree).1 attemptsLeft
      [.harvested (.ok suppliedHarvest)] :=
    .drop (.inr rfl) (.drop (.inr rfl) (.change (.drop (.inl rfl) last)))
  exact ⟨run_without_traceless.1 _ _ _ _ thinned, run_without_traceless.2 _ _ _ _ failed⟩

end Session

end KeywordHarvest
