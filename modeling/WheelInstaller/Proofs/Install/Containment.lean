import WheelInstaller.Proofs.Install.Requests

/-! An installation changes nothing outside its target, and its archive fills nothing but the directory of
the packages, whatever names the archive holds and however the host answers. -/

namespace WheelInstaller

open Host

namespace Path

/-- The directory itself, or a path that continues it by names. -/
def Holds (directory path : Path) : Prop :=
  ∃ names, directory.Extends names path

/-- A path that continues the directory by at least one name. -/
def HoldsBelow (directory path : Path) : Prop :=
  ∃ names, names ≠ [] ∧ directory.Extends names path

theorem Holds.of_div {directory path : Path} {name : String} (proper : ProperName name)
    (held : (directory / name).Holds path) : directory.Holds path := by
  obtain ⟨names, below⟩ := held
  exact ⟨_, ((Extends.refl directory).div proper).trans below⟩

end Path

namespace Host.Request

/-- The paths at which a request changes something. -/
def changed : Request → List Path
  | .write path _ | .createDirectories path | .removeFile path | .removeDirectory path | .createFile path
  | .setMode path _ => [path]
  | .rename source target => [source, target]
  | .copy _ target => [target]
  | .readFile _ | .exists _ | .isDirectory _ | .readDirectory _ | .canonicalize _ | .append _ _ | .flush _
  | .commandOutput _ _ | .isCancelled | .register _ | .release _ | .cleanUp => []

/-- The paths of the files that a request makes or gives permissions. -/
def filled : Request → List Path
  | .createFile path | .setMode path _ => [path]
  | _ => []

theorem changed_of_looks {wanted : Request} (looks : wanted.Looks) : wanted.changed = [] ∧ wanted.filled = [] := by
  cases wanted <;> first | exact ⟨rfl, rfl⟩ | exact looks.elim

end Host.Request

namespace Install

/-- The request changes nothing outside a directory, and files are filled only below another one. Programs
are not run, and nothing is cleaned up. -/
structure Contained (handle : Path → OpenFile → Prop) (outer inner : Path) (wanted : Host.Request) : Prop where
  changed : ∀ path ∈ wanted.changed, outer.Holds path
  filled : ∀ path ∈ wanted.filled, inner.HoldsBelow path
  appended : ∀ file chunk, wanted = .append file chunk → ∃ path, inner.HoldsBelow path ∧ handle path file
  direct : wanted ≠ .cleanUp ∧ ∀ program arguments, wanted ≠ .commandOutput program arguments

variable {handle : Path → OpenFile → Prop} {request : Request} {wanted : Host.Request}

theorem contained_of_looks {outer inner : Path} (looks : wanted.Looks) : Contained handle outer inner wanted := by
  obtain ⟨unchanged, unfilled⟩ := Host.Request.changed_of_looks looks
  refine ⟨by simp [unchanged], by simp [unfilled], ?_, ?_⟩
  · rintro file chunk rfl
    exact looks.elim
  · cases wanted <;> first | exact looks.elim | simp

theorem contained_of_extracting {root : Path} {entries : List Entry} {plan : Plan}
    (faithful : plan.Faithful root entries)
    (extracting : Extracting handle root plan wanted) : Contained handle root root wanted := by
  have below {entry : Entry} {path : Path} (planned : (entry, path) ∈ plan.files) : root.HoldsBelow path :=
    faithful.below planned
  have append (file : OpenFile) (chunk : ByteArray) (same : wanted = .append file chunk) :
      ∃ path, root.HoldsBelow path ∧ handle path file := by
    subst same
    obtain ⟨entry, path, planned, opened⟩ := extracting
    exact ⟨path, below planned, opened⟩
  cases wanted with
  | createDirectories path =>
    have held : root.Holds path := (faithful.exists_extends extracting).imp fun _ => And.right
    exact ⟨by simpa [Host.Request.changed] using held, by simp [Host.Request.filled], append, by simp⟩
  | createFile path | setMode path mode =>
    obtain ⟨entry, planned⟩ := extracting
    obtain ⟨names, some, inside⟩ := below planned
    refine ⟨?_, ?_, append, by simp⟩
    · have held : root.Holds path := ⟨names, inside⟩
      simpa [Host.Request.changed] using held
    · simpa [Host.Request.filled] using below planned
  | append file chunk => exact ⟨by simp [Host.Request.changed], by simp [Host.Request.filled], append, by simp⟩
  | _ => exact contained_of_looks (Host.Request.Reads.looks extracting)

theorem contained_of_unopened {outer inner : Path} (held : ∀ path ∈ wanted.changed, outer.Holds path)
    (unfilled : wanted.filled = []) (unopened : ∀ file chunk, wanted ≠ .append file chunk)
    (direct : wanted ≠ .cleanUp ∧ ∀ program arguments, wanted ≠ .commandOutput program arguments) :
    Contained handle outer inner wanted :=
  ⟨held, by simp [unfilled], fun file chunk equal => absurd equal (unopened file chunk), direct⟩

theorem holds_single {outer path : Path} (held : outer.Holds path) : ∀ other ∈ [path], outer.Holds other :=
  fun _ member => List.mem_singleton.mp member ▸ held

theorem contained_of_preparing (preparing : Preparing request wanted) :
    Contained handle request.directory request.sitePackages wanted := by
  cases wanted with
  | createDirectories path =>
    cases preparing
    exact contained_of_unopened (holds_single ⟨[], .refl request.directory⟩) rfl (by simp) (by simp)
  | removeFile path | removeDirectory path =>
    obtain ⟨name, below⟩ := preparing
    exact contained_of_unopened (holds_single ⟨_, below⟩) rfl (by simp) (by simp)
  | _ => exact contained_of_looks preparing

theorem contained_of_filling {entries : List Entry} {plan : Plan}
    (faithful : plan.Faithful request.sitePackages entries) (filling : Filling request handle plan wanted) :
    Contained handle request.directory request.sitePackages wanted := by
  rcases filling with extracting | retaining | initializing
  · obtain ⟨changed, filled, appended, direct⟩ := contained_of_extracting faithful extracting
    exact ⟨fun path member => .of_div properName_sitePackages (changed path member), filled, appended, direct⟩
  · cases wanted with
    | copy source target =>
      obtain ⟨name, below⟩ := extends_retained retaining.2
      exact contained_of_unopened (holds_single ⟨_, below⟩) rfl (by simp) (by simp)
    | _ => exact contained_of_looks retaining
  · cases wanted with
    | write path content =>
      obtain ⟨names, below⟩ := initializing
      have held : request.directory.Holds path := .of_div properName_sitePackages ⟨_, below⟩
      exact contained_of_unopened (holds_single held) rfl (by simp) (by simp)
    | _ => exact contained_of_looks (Host.Request.Reads.looks initializing)

theorem contained_of_summarizing (summarizing : Summarizing request wanted) :
    Contained handle request.directory request.sitePackages wanted := by
  cases wanted with
  | write path content =>
    cases summarizing
    exact contained_of_unopened (holds_single ⟨_, extends_draft⟩) rfl (by simp) (by simp)
  | rename source target =>
    obtain ⟨rfl, rfl⟩ := summarizing
    refine contained_of_unopened (fun path member => ?_) rfl (by simp) (by simp)
    rcases List.mem_cons.mp member with rfl | member
    · exact ⟨_, extends_draft⟩
    · exact holds_single ⟨_, extends_summary⟩ path member
  | _ => exact contained_of_looks summarizing

theorem tries_run :
    Tries handle (Contained handle request.directory request.sitePackages) (fun _ => True) (run request) := by
  rw [run_eq]
  refine Tries.bind (tries_openWheel.allowing fun _ => contained_of_looks) fun opened known => ?_
  refine Tries.next (tries_prepareTarget.allowing fun _ => contained_of_preparing) fun prepared => ?_
  refine Tries.next ((tries_fillTarget known).allowing fun _ => contained_of_filling known.faithful) fun filled => ?_
  exact tries_finish.allowing fun _ => contained_of_summarizing

/-- Whatever the archive holds and the host answers, an installation only changes its target, and extracting
only the directory of the packages. -/
theorem run_contained (request : Request) (handle : Path → OpenFile → Prop) :
    Tries handle (Contained handle request.directory request.sitePackages) (fun _ => True) (run request) ∧
    ∀ entries plan, Plan.build request.archive request.sitePackages entries = .ok plan → ∀ wheel,
      Tries handle (Contained handle request.sitePackages request.sitePackages) (fun _ => True)
        (extract wheel plan request.sitePackages request.jobs) :=
  ⟨tries_run,
    fun _ _ built _ => tries_extract.allowing fun _ => contained_of_extracting (Plan.faithful_of_build built)⟩

end Install
end WheelInstaller
