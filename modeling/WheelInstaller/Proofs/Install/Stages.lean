import WheelInstaller.Install.Run
import WheelInstaller.Proofs.Host.World
import WheelInstaller.Proofs.Wheel.Summary

/-! The stages of an installation. The wheel is opened and a plan made; the target is prepared; then it is filled,
and only then the summary is written. -/

namespace WheelInstaller.Install

open Host

/-- What is known before anything is touched. -/
structure Opened where
  retained : Path
  wheel : Wheel
  plan : Plan

/-- Opens the wheel and makes a plan. -/
def openWheel (request : Request) : Attempt InstallError Opened := do
  let retained ← settled (request.retainedPath.mapError InstallError.archive)
  let wheel ← attemptAs .archive (Wheel.open request.archive)
  let plan ← settled (Plan.build request.archive request.sitePackages wheel.entries)
  return ⟨retained, wheel, plan⟩

/-- Fills the prepared target. Tells the paths that were noted, and the summary to be written. -/
def fillTarget (request : Request) (opened : Opened) : Attempt InstallError (List Path × Summary) := do
  inStep .extract checkCancelled
  register request.sitePackages
  let _ ← inStep .extract (extract opened.wheel opened.plan request.sitePackages request.jobs)
  inStep .provenance checkCancelled
  let kept ← inStep .provenance (retainArchive request opened.retained)
  inStep .normalize checkCancelled
  let _ ← inStep .normalize (attemptAs .host (Packages.normalize request.sitePackages request.implicit))
  inStep .metadata checkCancelled
  let summary ← inStep .metadata (attemptAs .ofRead (opened.wheel.readSummary request.pythonVersion))
  return (kept, summary)

/-- What follows once everything is extracted. -/
def furnish (request : Request) (opened : Opened) : Attempt InstallError (List Path × Summary) := do
  inStep .provenance checkCancelled
  let kept ← inStep .provenance (retainArchive request opened.retained)
  inStep .normalize checkCancelled
  let _ ← inStep .normalize (attemptAs .host (Packages.normalize request.sitePackages request.implicit))
  inStep .metadata checkCancelled
  let summary ← inStep .metadata (attemptAs .ofRead (opened.wheel.readSummary request.pythonVersion))
  return (kept, summary)

theorem fillTarget_eq (request : Request) (opened : Opened) :
    fillTarget request opened = (do
      inStep .extract checkCancelled
      register request.sitePackages
      let _ ← inStep .extract (extract opened.wheel opened.plan request.sitePackages request.jobs)
      furnish request opened) :=
  rfl

/-- Writes the summary, and forgets what was noted. -/
def finish (request : Request) (noted : List Path) (summary : Summary) : Attempt InstallError Summary := do
  let written ← inStep .metadata (writeSummary request summary)
  commit (noted ++ written)
  return summary

theorem run_eq (request : Request) :
    run request = (do
      let opened ← openWheel request
      let prepared ← prepareTarget request
      let (kept, summary) ← fillTarget request opened
      finish request (prepared ++ [request.sitePackages] ++ kept) summary) := by
  simp only [run, openWheel, fillTarget, finish, bind_assoc, pure_bind]

/-- What precedes the extraction. -/
def enter (request : Request) : Attempt InstallError (Opened × List Path) := do
  let opened ← openWheel request
  let prepared ← prepareTarget request
  inStep .extract checkCancelled
  register request.sitePackages
  return (opened, prepared)

/-- What follows it. -/
def leave (request : Request) (opened : Opened) (prepared : List Path) : Attempt InstallError Summary := do
  let (kept, summary) ← furnish request opened
  finish request (prepared ++ [request.sitePackages] ++ kept) summary

theorem run_eq_enter (request : Request) :
    run request = (do
      let (opened, prepared) ← enter request
      let _ ← inStep .extract (extract opened.wheel opened.plan request.sitePackages request.jobs)
      leave request opened prepared) := by
  simp only [run_eq, fillTarget_eq, enter, leave, bind_assoc, pure_bind]

def prepare (plan : Plan) (root : Path) : Attempt StepError Unit := do
  attemptAs .host (createDirectories root)
  makeDirectories plan.directories

/-! ### Stage by stage

What a run comes to, from what its stages come to. -/

section Running

variable {request : Request} {opened : Opened} {wheel : Wheel} {plan : Plan} {root retained : Path}
    {noted kept : List Path}
variable {world prepared extracted furnished after : World} {outcome : Except InstallError Summary}

theorem run_inStep {α : Type} (step : Step) (work : Attempt StepError α) (world : World) :
    (inStep step work).run.run World.perform world =
      ((work.run.run World.perform world).1.mapError (.partialFailure step), (work.run.run World.perform world).2) :=
  Program.run_attemptAs _ work.run world

theorem run_check (step : Step) (waits : world.cancelled = false) :
    (inStep step checkCancelled).run.run World.perform world = (.ok (), world) := by
  have told : checkCancelled.run.run World.perform world =
      ((if world.cancelled then throw StepError.cancelled else return () : Attempt StepError Unit).run.run
        World.perform world) := rfl
  rw [run_inStep, told, waits]
  rfl

theorem run_openWheel (named : request.retainedPath = .ok retained)
    (opens : Wheel.ofContent request.archive (world.files.readFile request.archive) = .ok wheel)
    (planned : Plan.build request.archive request.sitePackages wheel.entries = .ok plan) :
    (openWheel request).run.run World.perform world = (.ok ⟨retained, wheel, plan⟩, world) := by
  have naming : (settled (request.retainedPath.mapError InstallError.archive)).run.run World.perform world =
    (.ok retained, world) := by
    rw [named]
    rfl
  have opening : (attemptAs InstallError.archive (Wheel.open request.archive)).run.run World.perform world =
    (.ok wheel, world) := by
    rw [Program.run_attemptAs]
    change ((Wheel.ofContent request.archive (world.files.readFile request.archive)).mapError _, world) = _
    rw [opens]
    rfl
  rw [openWheel, Program.run_next naming, Program.run_next opening, planned]
  rfl

theorem run_enter (opens : (openWheel request).run.run World.perform world = (.ok opened, world))
    (prepares : (prepareTarget request).run.run World.perform world = (.ok noted, prepared))
    (waits : world.cancelled = false)
    {registry : Registry} (notes : prepared.registry.add request.sitePackages = registry) :
    (enter request).run.run World.perform world = (.ok (opened, noted), { prepared with registry }) := by
  subst notes
  have still : prepared.cancelled = false := by
    have same := World.cancelled_run (prepareTarget request).run world
    rwa [prepares, waits] at same
  rw [enter, Program.run_next opens, Program.run_next prepares, Program.run_next (run_check .extract still)]
  rfl

theorem run_extract {world : World} {jobs : Nat} :
    (extract wheel plan root jobs).run.run World.perform world =
      match (prepare plan root).run.run World.perform world with
      | (.ok (), prepared) =>
          (extractShares wheel.path (shareOut (max jobs 1) plan.files)).run.run World.perform prepared
      | (.error error, prepared) => (.error error, prepared) := by
  rw [extract, prepare, Program.run_andThen, Program.run_andThen]
  cases (attemptAs .host (createDirectories root) : Attempt StepError Unit).run.run World.perform world with
  | mk reached middle =>
    cases reached with
    | error => rfl
    | ok =>
      dsimp only
      rw [Program.run_andThen]
      cases (makeDirectories plan.directories).run.run World.perform middle with
      | mk made prepared => cases made <;> rfl

theorem run_share {archive : Path} {index : Container.Index} {share : List (Entry × Path)}
    {rest : List (List (Entry × Path))}
    {size total : Nat} (opens : Wheel.openContainer archive (world.files.readFile archive) = .ok index)
    (extracts : (extractFiles archive (.ok index) share).run.run World.perform world = (.ok size, prepared))
    (others : (extractShares archive rest).run.run World.perform prepared = (.ok total, after)) :
    (extractShares archive (share :: rest)).run.run World.perform world = (.ok (size + total), after) := by
  have first : (extractFiles archive (Wheel.openContainer archive (world.files.readFile archive)) share).run.run
    World.perform world =
      (.ok size, prepared) := opens ▸ extracts
  change (do
    let size ← extractFiles archive (Wheel.openContainer archive (world.files.readFile archive)) share
    return size + (← extractShares archive rest) : Attempt StepError Nat).run.run World.perform world = _
  rw [Program.run_next first, Program.run_next others]
  rfl

theorem run_no_share (archive : Path) (world : World) :
    (extractShares archive []).run.run World.perform world = (.ok 0, world) :=
  rfl

theorem run_furnish (opened : Opened) {paths : List Path} {told : Except ReadError Summary}
    (retains : (retainArchive request opened.retained).run.run World.perform world = (.ok kept, prepared))
    (normalizes : (Packages.normalize request.sitePackages request.implicit).run.run World.perform
      prepared = (.ok paths, after))
    (reads : (opened.wheel.readSummary request.pythonVersion).run.run World.perform after = (told, after))
    (waits : world.cancelled = false) :
    (furnish request opened).run.run World.perform world =
      ((told.mapError fun error => .partialFailure .metadata (.ofRead error)).map (kept, ·), after) := by
  have retaining : (inStep .provenance (retainArchive request opened.retained)).run.run World.perform world =
    (.ok kept, prepared) := by
    rw [run_inStep, retains]
    rfl
  have normalizing :
    (inStep .normalize (attemptAs .host (Packages.normalize request.sitePackages request.implicit))).run.run
      World.perform prepared = (.ok paths, after) := by
    rw [run_inStep, Program.run_attemptAs_of _ normalizes]
    rfl
  have still : prepared.cancelled = false := by
    have same := World.cancelled_run (retainArchive request opened.retained).run world
    rwa [retains, waits] at same
  have last : after.cancelled = false := by
    have same := World.cancelled_run (Packages.normalize request.sitePackages request.implicit).run prepared
    rwa [normalizes, still] at same
  have reading : (inStep .metadata (attemptAs .ofRead (opened.wheel.readSummary request.pythonVersion))).run.run
    World.perform after =
      (told.mapError fun error => .partialFailure .metadata (.ofRead error), after) := by
    rw [run_inStep, Program.run_attemptAs_of _ reads]
    cases told <;> rfl
  rw [furnish, Program.run_next (run_check .provenance waits), Program.run_next retaining,
    Program.run_next (run_check .normalize still),
    Program.run_next normalizing, Program.run_next (run_check .metadata last), Program.run_andThen, reading]
  cases told <;> rfl

section Leaving

variable (opened : Opened) {paths : List Path} {summary : Summary} {cause : ReadError}
variable (retains : (retainArchive request opened.retained).run.run World.perform world = (.ok kept, prepared))
variable (normalizes : (Packages.normalize request.sitePackages request.implicit).run.run World.perform prepared =
    (.ok paths, furnished))
variable (waits : world.cancelled = false)
include retains normalizes waits

theorem run_leave
    (reads : (opened.wheel.readSummary request.pythonVersion).run.run World.perform furnished =
      (.ok summary, furnished))
    (finishes : (finish request (noted ++ [request.sitePackages] ++ kept) summary).run.run World.perform
      furnished = (outcome, after)) :
    (leave request opened noted).run.run World.perform world = (outcome, after) := by
  rw [leave, Program.run_next (run_furnish opened retains normalizes reads waits)]
  exact finishes

theorem run_leave_untold
    (reads : (opened.wheel.readSummary request.pythonVersion).run.run World.perform furnished =
      (.error cause, furnished)) :
    (leave request opened noted).run.run World.perform world =
    (.error (.partialFailure .metadata (.ofRead cause)), furnished) := by
  rw [leave, Program.run_andThen, run_furnish opened retains normalizes reads waits]
  rfl

end Leaving

theorem run_of_stages {registry : Registry} {total : Nat} {made : World}
    (opens : Wheel.ofContent request.archive (world.files.readFile request.archive) = .ok wheel)
    (named : request.retainedPath = .ok retained)
    (planned : Plan.build request.archive request.sitePackages wheel.entries = .ok plan)
    (prepares : (prepareTarget request).run.run World.perform world = (.ok noted, prepared))
    (waits : world.cancelled = false) (notes : prepared.registry.add request.sitePackages = registry)
    (makes : (prepare plan request.sitePackages).run.run World.perform { prepared with registry } = (.ok (), made))
    (extracts : (extractShares wheel.path (shareOut (max request.jobs 1) plan.files)).run.run World.perform made =
      (.ok total, extracted))
    (leaves : (leave request ⟨retained, wheel, plan⟩ noted).run.run World.perform extracted = (outcome, after)) :
    (run request).run.run World.perform world = (outcome, after) := by
  have entered := run_enter (run_openWheel named opens planned) prepares waits notes
  have extracting : (inStep .extract (extract wheel plan request.sitePackages request.jobs)).run.run World.perform
      { prepared with registry } = (.ok total, extracted) := by
    rw [run_inStep, run_extract, makes]
    dsimp only
    rw [extracts]
    rfl
  rw [run_eq_enter, Program.run_next entered, Program.run_next extracting]
  exact leaves

end Running

/-! ### Three installations

The first one lacks metadata, which is found out at the last step. The second one goes over a directory that holds the
archive itself. The third one is asked for in another place, where there is no such directory yet. -/

open Wheel (smallIndex lackingIndex smallWheel lackingWheel wheelEntry metadataEntry scriptsEntry smallSummary)
open Wheel (openContainer_small openContainer_lacking ofContent_small ofContent_lacking run_readSummary_small)

/-- The small wheel as it is found. -/
def archived : String × Tree :=
  ("d-1-py3-none-any.whl", .file 0o644 Wheel.small)

def packagesWith (files : List (String × Tree)) : String × Tree :=
  ("site-packages", .directory [("d-1.dist-info", .directory files)])

def wheelFile : String × Tree :=
  ("WHEEL", .file 0o444 "Wheel-Version:1.0".toUTF8)

/-- What is extracted from the small wheel. -/
def extracted : String × Tree :=
  packagesWith [wheelFile, ("METADATA", .file 0o444 "Name:d\nVersion:1".toUTF8),
    ("entry_points.txt", .file 0o640 "[console_scripts]\nd=d:f".toUTF8)]

def summarized : String × Tree :=
  ("metadata.json", .file 0o644 smallSummary.render.toUTF8)

/-- A directory with an archive in the way, and one with nothing in it. -/
def filesWith (out sub : List (String × Tree)) : FileSystem :=
  { top := .directory [("d-1-py3-none-any.whl", .file 0o644 Wheel.lacking), ("out", .directory out),
    ("sub", .directory sub)] }

/-- Nothing is installed yet. -/
def firstWorld : World :=
  { files := filesWith [archived, ("old", .directory [])] [] }

def lackingRequest : Request :=
  ⟨⟨"d-1-py3-none-any.whl"⟩, ⟨"sub/new"⟩, false, false, "3", 1⟩

def lackingError : InstallError :=
  .partialFailure .metadata (.metadata (.missing "d-1.dist-info/METADATA"))

/-- The first installation, with so much in its directory. -/
def newAt (tree : List (String × Tree)) (noted : List Path) : World :=
  { files := filesWith [archived, ("old", .directory [])] [("new", .directory tree)],
    registry := ⟨⟨"sub/new"⟩ :: noted⟩ }

/-- What the lacking wheel leaves. -/
def remains : String × Tree :=
  ("new", .directory [packagesWith [wheelFile], ("d-1-py3-none-any.whl", .file 0o644 Wheel.lacking)])

def remainsNoted : Registry :=
  ⟨[⟨"sub/new"⟩, ⟨"sub/new/site-packages"⟩, ⟨"sub/new/d-1-py3-none-any.whl"⟩]⟩

def failedWorld : World :=
  { files := filesWith [archived, ("old", .directory [])] [remains], registry := remainsNoted }

/-- Installs the small wheel over the directory that it is in. -/
def overRequest : Request :=
  ⟨⟨"/out/d-1-py3-none-any.whl"⟩, ⟨"out"⟩, false, true, "3", 1⟩

/-- The second installation, with so much in its directory. -/
def overAt (tree : List (String × Tree)) : World :=
  { files := filesWith (archived :: tree) [remains], registry := ⟨remainsNoted.paths ++ [⟨"out/site-packages"⟩]⟩ }

def overWorld : World :=
  { files := filesWith [archived, extracted, summarized] [remains], registry := remainsNoted }

/-- Installs the small wheel into a directory of the same name. -/
def freshRequest : Request :=
  { overRequest with overwrite := false }

/-- The third installation, with so much in the place where it is asked for. -/
def innerAt (tree : List (String × Tree)) (noted : List Path) : World :=
  { files := { filesWith [archived, ("old", .directory [])] tree with home := ["sub"] }, registry := ⟨noted⟩ }

def innerWorld : World :=
  innerAt [] []

def freshWorld : World :=
  innerAt [("out", .directory [extracted, archived, summarized])] []

deriving instance DecidableEq for Plan

def lackingPlan : Plan where
  directories := [⟨"sub/new/site-packages/d-1.dist-info"⟩]
  files := [(wheelEntry, ⟨"sub/new/site-packages/d-1.dist-info/WHEEL"⟩)]

theorem run_lacking : (run lackingRequest).run.run World.perform firstWorld = (.error lackingError, failedWorld) := by
  let packages : Path := ⟨"sub/new/site-packages"⟩
  let kept : Path := ⟨"sub/new/d-1-py3-none-any.whl"⟩
  have opens : Wheel.ofContent lackingRequest.archive
    (firstWorld.files.readFile lackingRequest.archive) = .ok lackingWheel :=
    ofContent_lacking
  have found {tree : List (String × Tree)} {noted : List Path} :
      Wheel.openContainer lackingWheel.path ((newAt tree noted).files.readFile lackingWheel.path) = .ok lackingIndex :=
    openContainer_lacking lackingWheel.path
  have prepares : World.Ended (prepareTarget lackingRequest).run firstWorld (.ok [⟨"sub/new"⟩]) (newAt [] []) := by
    decide +kernel
  have makes : World.Ended (prepare lackingPlan lackingRequest.sitePackages).run (newAt [] [packages]) (.ok ())
    (newAt [packagesWith []] [packages]) := by decide +kernel
  have first : World.Ended (extractFiles lackingWheel.path (.ok lackingIndex)
      [(wheelEntry, ⟨"sub/new/site-packages/d-1.dist-info/WHEEL"⟩)]).run (newAt [packagesWith []] [packages]) (.ok 17)
    (newAt [packagesWith [wheelFile]] [packages]) := by decide +kernel
  have shared : shareOut (max lackingRequest.jobs 1) lackingPlan.files =
    [[(wheelEntry, ⟨"sub/new/site-packages/d-1.dist-info/WHEEL"⟩)]] := by decide +kernel
  have retains : World.Ended (retainArchive lackingRequest kept).run
    (newAt [packagesWith [wheelFile]] [packages]) (.ok [kept])
    failedWorld := by decide +kernel
  have normalizes :
    World.Ended (Packages.normalize lackingRequest.sitePackages lackingRequest.implicit).run failedWorld (.ok [])
    failedWorld := by decide +kernel
  have reads : World.Ended (lackingWheel.readSummary lackingRequest.pythonVersion).run failedWorld
    (.error (.metadata (.missing "d-1.dist-info/METADATA"))) failedWorld := by decide +kernel
  have extracts := run_share found (first.run_eq rfl) (run_no_share _ _)
  rw [← shared] at extracts
  exact run_of_stages opens (by decide +kernel) (by decide +kernel) (prepares.run_eq rfl) rfl
    (by decide +kernel) (makes.run_eq rfl)
    extracts (run_leave_untold ⟨kept, lackingWheel, lackingPlan⟩ (retains.run_eq rfl)
      (normalizes.run_eq rfl) rfl (reads.run_eq rfl))

/-- What is extracted from the small wheel first, and what comes after it. -/
def firstShare : List (Entry × Path) :=
  [(wheelEntry, ⟨"out/site-packages/d-1.dist-info/WHEEL"⟩)]

def secondShare : List (Entry × Path) :=
  [(metadataEntry, ⟨"out/site-packages/d-1.dist-info/METADATA"⟩),
    (scriptsEntry, ⟨"out/site-packages/d-1.dist-info/entry_points.txt"⟩)]

def smallPlan : Plan where
  directories := [⟨"out/site-packages/d-1.dist-info"⟩]
  files := firstShare ++ secondShare

theorem build_small : Plan.build smallWheel.path ⟨"out/site-packages"⟩ smallWheel.entries = .ok smallPlan := by
  decide +kernel

theorem run_over : (run overRequest).run.run World.perform failedWorld = (.ok smallSummary, overWorld) := by
  let prepared : World := { files := filesWith [archived] [remains], registry := remainsNoted }
  let kept : Path := ⟨"out/d-1-py3-none-any.whl"⟩
  have read {tree : List (String × Tree)} : (overAt tree).files.readFile smallWheel.path = .ok Wheel.small := rfl
  have opens : Wheel.ofContent overRequest.archive (failedWorld.files.readFile overRequest.archive) = .ok smallWheel :=
    ofContent_small
  have found {tree : List (String × Tree)} :
      Wheel.openContainer smallWheel.path ((overAt tree).files.readFile smallWheel.path) = .ok smallIndex :=
    openContainer_small smallWheel.path
  have prepares : World.Ended (prepareTarget overRequest).run failedWorld (.ok []) prepared := by decide +kernel
  have makes : World.Ended (prepare smallPlan overRequest.sitePackages).run (overAt []) (.ok ())
    (overAt [packagesWith []]) := by decide +kernel
  have first : World.Ended (extractFiles smallWheel.path (.ok smallIndex) firstShare).run (overAt [packagesWith []])
    (.ok 17) (overAt [packagesWith [wheelFile]]) := by decide +kernel
  have second : World.Ended (extractFiles smallWheel.path (.ok smallIndex) secondShare).run
    (overAt [packagesWith [wheelFile]]) (.ok 39) (overAt [extracted]) := by decide +kernel
  have retains : World.Ended (retainArchive overRequest kept).run (overAt [extracted]) (.ok [])
    (overAt [extracted]) := by decide +kernel
  have normalizes : World.Ended (Packages.normalize overRequest.sitePackages overRequest.implicit).run
    (overAt [extracted]) (.ok []) (overAt [extracted]) := by decide +kernel
  have finishes : World.Ended (finish overRequest [⟨"out/site-packages"⟩] smallSummary).run (overAt [extracted])
    (.ok smallSummary) overWorld := by decide +kernel
  have shared : shareOut (max overRequest.jobs 1) smallPlan.files = [firstShare, secondShare] := by decide +kernel
  have extracts := run_share found (first.run_eq rfl) (run_share found (second.run_eq rfl) (run_no_share _ _))
  rw [← shared] at extracts
  exact run_of_stages opens (by decide +kernel) build_small (prepares.run_eq rfl) rfl (by decide +kernel)
    (makes.run_eq rfl) extracts (run_leave ⟨kept, smallWheel, smallPlan⟩ (retains.run_eq rfl)
      (normalizes.run_eq rfl) rfl (run_readSummary_small read) (finishes.run_eq rfl))

theorem run_fresh : (run freshRequest).run.run World.perform innerWorld = (.ok smallSummary, freshWorld) := by
  let packages : Path := ⟨"out/site-packages"⟩
  let kept : Path := ⟨"out/d-1-py3-none-any.whl"⟩
  let filling (tree : List (String × Tree)) (noted : List Path) : World :=
    innerAt [("out", .directory tree)] (⟨"out"⟩ :: noted)
  let filled : World := filling [extracted, archived] [packages, kept]
  have read : filled.files.readFile smallWheel.path = .ok Wheel.small := rfl
  have opens : Wheel.ofContent freshRequest.archive (innerWorld.files.readFile freshRequest.archive) =
    .ok smallWheel := ofContent_small
  have found {tree : List (String × Tree)} {noted : List Path} :
      Wheel.openContainer smallWheel.path ((innerAt tree noted).files.readFile smallWheel.path) = .ok smallIndex :=
    openContainer_small smallWheel.path
  have prepares : World.Ended (prepareTarget freshRequest).run innerWorld (.ok [⟨"out"⟩]) (filling [] []) := by
    decide +kernel
  have makes : World.Ended (prepare smallPlan freshRequest.sitePackages).run (filling [] [packages]) (.ok ())
    (filling [packagesWith []] [packages]) := by decide +kernel
  have first : World.Ended (extractFiles smallWheel.path (.ok smallIndex) firstShare).run
    (filling [packagesWith []] [packages]) (.ok 17) (filling [packagesWith [wheelFile]] [packages]) := by decide +kernel
  have second : World.Ended (extractFiles smallWheel.path (.ok smallIndex) secondShare).run
    (filling [packagesWith [wheelFile]] [packages]) (.ok 39) (filling [extracted] [packages]) := by decide +kernel
  have retains : World.Ended (retainArchive freshRequest kept).run (filling [extracted] [packages]) (.ok [kept])
    filled := by decide +kernel
  have normalizes : World.Ended (Packages.normalize freshRequest.sitePackages freshRequest.implicit).run filled
    (.ok []) filled := by decide +kernel
  have finishes : World.Ended (finish freshRequest [⟨"out"⟩, packages, kept] smallSummary).run filled
    (.ok smallSummary) freshWorld := by decide +kernel
  have shared : shareOut (max freshRequest.jobs 1) smallPlan.files = [firstShare, secondShare] := by decide +kernel
  have extracts := run_share found (first.run_eq rfl) (run_share found (second.run_eq rfl) (run_no_share _ _))
  rw [← shared] at extracts
  exact run_of_stages opens (by decide +kernel) build_small (prepares.run_eq rfl) rfl (by decide +kernel)
    (makes.run_eq rfl) extracts (run_leave ⟨kept, smallWheel, smallPlan⟩ (retains.run_eq rfl)
      (normalizes.run_eq rfl) rfl (run_readSummary_small read) (finishes.run_eq rfl))

theorem paths_small {wheel : Wheel} (opened : Wheel.ofContent overRequest.archive (.ok Wheel.small) = .ok wheel) :
    wheel.entries.map (·.path) =
    ["d-1.dist-info/WHEEL", "d-1.dist-info/METADATA", "d-1.dist-info/entry_points.txt"] := by
  have same : smallWheel = wheel := Except.ok.inj (ofContent_small.symm.trans opened)
  subst same
  rfl

theorem status_small : failedWorld.files.status true overRequest.archive =
    .ok (overRequest.archive.locate failedWorld.files.home, .file 0o644 Wheel.small) := by
  rfl

/-- Nothing that goes wrong before the target is touched counts as a failed step. -/
def InstallError.Early (error : InstallError) : Prop :=
  error.step? = none

/-- What is known of an opened wheel and its plan. -/
structure Opened.Known (request : Request) (opened : Opened) : Prop where
  retained : request.retainedPath = .ok opened.retained
  planned : Plan.build request.archive request.sitePackages opened.wheel.entries = .ok opened.plan

namespace Plan

theorem early_of_placeAll {archive root : Path} {entries : List Entry} {taken : List (List Component × String)}
    {error : InstallError} (failed : placeAll archive root taken entries = .error error) : error.Early := by
  induction entries generalizing taken with
  | nil => cases failed
  | cons entry rest ih =>
    unfold placeAll at failed
    cases accepted : RecordedPath.place root entry.path with
    | error cause =>
      rw [accepted] at failed
      cases failed
      rfl
    | ok placed =>
      have accepted : (RecordedPath.place root entry.path).mapError InstallError.path = .ok placed := by
        rw [accepted]
        rfl
      rw [accepted] at failed
      simp only [bind, Except.bind] at failed
      split at failed
      next =>
        cases failed
        rfl
      next =>
        split at failed
        next others =>
          cases failed
          exact ih others
        next => cases failed

theorem early_of_build {archive root : Path} {entries : List Entry} {error : InstallError}
    (failed : build archive root entries = .error error) : error.Early := by
  simp only [build, bind, Except.bind] at failed
  split at failed
  next placed =>
    cases failed
    exact early_of_placeAll placed
  next =>
    unfold checkFiles at failed
    dsimp only at failed
    split at failed
    · cases failed
      rfl
    · cases failed

end Plan

section Opening

open Host.Rules

variable {σ : Type} {rules : Rules σ} {state : σ} {request : Request}

theorem safe_openWheel {heard : Except OsError ByteArray → σ → Prop}
    (permitted : rules.permits (.readFile request.archive) state)
    (told : ∀ answer after, rules.replies (.readFile request.archive) state answer after → heard answer after) :
    rules.Safe (Ends
      (fun opened after => opened.Known request ∧
        ∃ content, heard content after ∧ Wheel.ofContent request.archive content = .ok opened.wheel)
      fun error after => (after = state ∨ ∃ content, heard content after) ∧ error.Early)
      (openWheel request).run state := by
  have naming : rules.Safe (Ends (fun retained after => request.retainedPath = .ok retained ∧ after = state)
      fun error after => (after = state ∨ ∃ content, heard content after) ∧ error.Early)
      (settled (request.retainedPath.mapError InstallError.archive)).run state := by
    apply Safe.settled
    cases retained : request.retainedPath with
    | ok destination => exact ⟨rfl, rfl⟩
    | error error => exact ⟨.inl rfl, rfl⟩
  have reading : rules.Safe (Ends
      (fun wheel after => ∃ content, heard content after ∧ Wheel.ofContent request.archive content = .ok wheel)
      fun error after => (after = state ∨ ∃ content, heard content after) ∧ error.Early)
      (attemptAs InstallError.archive (Wheel.open request.archive)).run state := by
    refine Safe.wrapped ⟨permitted, fun content after replies => ?_⟩
    have known := told content after replies
    change Ends _ _ (Wheel.ofContent request.archive content) after
    cases read : Wheel.ofContent request.archive content with
    | ok wheel => exact ⟨content, known, read⟩
    | error error => exact ⟨.inr ⟨content, known⟩, rfl⟩
  unfold openWheel
  refine Safe.andThen naming fun retained now ⟨named, here⟩ => ?_
  subst here
  refine Safe.andThen reading fun wheel after ⟨content, known, read⟩ => ?_
  cases planned : Plan.build request.archive request.sitePackages wheel.entries with
  | ok plan => exact ⟨⟨named, planned⟩, content, known, read⟩
  | error error => exact ⟨.inr ⟨content, known⟩, Plan.early_of_build planned⟩

end Opening

end WheelInstaller.Install
