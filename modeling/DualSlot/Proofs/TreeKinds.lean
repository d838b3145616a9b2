import DualSlot.Proofs.TreeWalks

/-! Where a path leads depends on no more than the kinds of what is on the way. -/

namespace DualSlot

namespace Simulation

/-- What a path to it is said to lead to. -/
def Found.kind : Found → FileKind
  | .directory => .directory
  | .file _ => .file

namespace FileTree

variable {tree after : FileTree} {workingDir location : Location} {path : Path}

/-- What kind of thing is at a location, if anything is. -/
def kindAt (tree : FileTree) (location : Location) : Option FileKind := (tree.view location).map Found.kind

theorem kindAt_eq_none_iff : tree.kindAt location = none ↔ tree.node? location = none := by
  rw [kindAt, Option.map_eq_none_iff, view_eq_none_iff]

theorem kindAt_eq_directory_iff : tree.kindAt location = some .directory ↔ tree.node? location = some .directory := by
  rw [kindAt, ← view_eq_directory_iff]
  cases tree.view location with
  | none => simp
  | some found => cases found <;> simp [Found.kind]

theorem kindAt_congr (same : after.view location = tree.view location) :
    after.kindAt location = tree.kindAt location :=
  congrArg (Option.map Found.kind) same

theorem isDirectory_congr (same : after.kindAt location = tree.kindAt location) :
    after.node? location = some .directory ↔ tree.node? location = some .directory := by
  rw [← kindAt_eq_directory_iff, ← kindAt_eq_directory_iff, same]

theorem enter_congr {place : Location} {step : PathStep} (here : after.kindAt place = tree.kindAt place)
    (next : after.kindAt (step.carry place) = tree.kindAt (step.carry place)) :
    after.enter place step = tree.enter place step := by
  by_cases there : tree.node? place = some .directory
  · rw [enter_directory there, enter_directory ((isDirectory_congr here).2 there)]
    cases step with
    | here | up => rfl
    | name name =>
      have missing : after.node? (name :: place) = none ↔ tree.node? (name :: place) = none := by
        rw [← kindAt_eq_none_iff, ← kindAt_eq_none_iff, show name :: place = (PathStep.name name).carry place from rfl,
          next]
      by_cases short : name.utf8ByteSize ≤ nameLimit
      · simp only [child_short short]
        cases found : tree.node? (name :: place) with
        | none => rw [missing.2 found]
        | some node =>
          obtain ⟨other, also⟩ := Option.ne_none_iff_exists'.1 (mt missing.1 (by rw [found]; nofun))
          rw [also]
          rfl
      · simp only [child, if_pos (Nat.not_le.1 short)]
  · unfold enter
    rw [if_pos there, if_pos (mt (isDirectory_congr here).1 there)]

theorem walk_congr {start : Location} {steps : List PathStep} (same : ∀ passed, passed <+: steps →
      after.kindAt (passed.foldl PathStep.carry start) = tree.kindAt (passed.foldl PathStep.carry start)) :
    after.walk start steps = tree.walk start steps := by
  induction steps generalizing start with
  | nil => rfl
  | cons step steps ih =>
    have entered : after.enter start step = tree.enter start step :=
      enter_congr (same [] List.nil_prefix) (same [step] ⟨steps, rfl⟩)
    rw [walk_cons, walk_cons, entered]
    cases entered : tree.enter start step with
    | error cause => rfl
    | ok next =>
      obtain rfl := enter_eq_ok entered
      exact ih fun passed before => same (step :: passed) ((List.prefix_cons_inj step).2 before)

/-- Where a path leads depends only on what is on the way. -/
theorem resolve_congr
    (same : ∀ location, Passes workingDir path location → after.kindAt location = tree.kindAt location) :
    after.resolve workingDir path = tree.resolve workingDir path := by
  have passing (passed : List PathStep) (before : passed <+: pathSteps path) :
      Passes workingDir path (passed.foldl PathStep.carry (startOf workingDir path)) := by
    refine ⟨_, ?_, foldl_moves passed _⟩
    rw [← filter_pathSteps]
    exact before.filter _
  unfold resolve
  rw [walk_congr fun passed before => same _ (passing passed before)]
  cases walks : tree.walk (startOf workingDir path) (pathSteps path) with
  | error cause => rfl
  | ok place =>
    obtain rfl := walk_eq_ok walks
    change (checkPath path >>= fun _ => ite _ _ _) = checkPath path >>= fun _ => ite _ _ _
    simp only [ne_eq, isDirectory_congr (same _ (passing _ (List.prefix_refl _)))]

theorem resolve_eq_ok {place : Location} (resolved : tree.resolve workingDir path = .ok place) :
    place = locate workingDir path := by
  obtain ⟨_, -, resolved⟩ := Except.bind_eq_ok_iff.1 resolved
  obtain ⟨found, walks, resolved⟩ := Except.bind_eq_ok_iff.1 resolved
  have whole : found = locate workingDir path := by
    rw [walk_eq_ok walks, locate, ← filter_pathSteps, foldl_moves]
  split at resolved
  next => cases resolved
  next => rw [← whole, ← Except.ok.inj resolved]

end FileTree

end Simulation

end DualSlot
