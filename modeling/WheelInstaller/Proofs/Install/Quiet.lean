import WheelInstaller.Proofs.Host.Steady
import WheelInstaller.Proofs.Install.Stages

/-! What the parts of an installation do without. Where nothing is noted or forgotten, and no program is started, that
can be seen from what is asked for. -/

namespace WheelInstaller

open Host Host.Program

namespace Packages

theorem uses_survey (seen : Survey) (children : List Path) : (survey seen children).run.Uses Request.Quiet := by
  induction children generalizing seen with
  | nil => trivial
  | cons child rest ih =>
    unfold survey
    split
    · exact ih _
    · refine Uses.andThen (Uses.lift (uses_request trivial)) fun directory => ?_
      split <;> exact ih _

theorem uses_scanFrom (root : Path) (depth : Nat) (relative : Path) (snapshot : Snapshot) :
    (scanFrom root depth relative snapshot).run.Uses Request.Quiet := by
  induction depth generalizing relative snapshot with
  | zero => trivial
  | succ depth ih =>
    unfold scanFrom
    refine Uses.andThen (uses_request trivial) fun children => Uses.andThen (uses_survey _ _) fun found => ?_
    generalize found.inner.reverse = names
    generalize snapshot.update relative (fun _ => found.listing) = snapshot
    induction names generalizing snapshot with
    | nil => trivial
    | cons name rest each =>
      rw [List.foldlM_cons]
      exact Uses.andThen (ih _ _) each

theorem uses_writeAll (root : Path) (paths : List Path) : (writeAll root paths).run.Uses Request.Quiet := by
  induction paths with
  | nil => trivial
  | cons path rest ih =>
    unfold writeAll
    exact Uses.andThen (uses_request trivial) fun _ => Uses.andThen ih fun _ => trivial

theorem uses_normalize (root : Path) (implicit : Bool) : (normalize root implicit).run.Uses Request.Quiet := by
  unfold normalize
  split
  · trivial
  · exact Uses.andThen (uses_scanFrom _ _ _ _) fun _ => uses_writeAll _ _

end Packages

theorem Wheel.uses_readMember (wheel : Wheel) (recorded : String) :
    (wheel.readMember recorded).run.Uses Request.Quiet := by
  unfold readMember
  split
  · trivial
  · exact Uses.andThen (Uses.bind (uses_request trivial) fun _ => trivial) fun _ =>
      Uses.andThen (uses_settled _) fun _ => trivial

theorem Wheel.uses_readSummary (wheel : Wheel) (version : String) :
    (wheel.readSummary version).run.Uses Request.Quiet := by
  refine Uses.andThen ?_ fun distribution => Uses.andThen ?_ fun scripts => trivial
  · refine Uses.andThen (Uses.wrapped (wheel.uses_readMember _)) fun found => ?_
    cases found with
    | none => trivial
    | some text =>
      dsimp only
      cases Distribution.parse text <;> trivial
  · refine Uses.andThen (Uses.wrapped (wheel.uses_readMember _)) fun found => ?_
    cases found with
    | none => trivial
    | some text =>
      dsimp only
      cases ConsoleScript.parseAll text <;> trivial

namespace Install

theorem uses_sourceIdentity (request : Request) : (sourceIdentity request).Uses Request.Reads := by
  refine ⟨trivial, fun answer => ?_⟩
  cases answer <;> trivial

theorem uses_isSource (source : Option Path) (path : Path) : (isSource source path).Uses Request.Reads := by
  cases source with
  | none => trivial
  | some source =>
    refine ⟨trivial, fun answer => ?_⟩
    cases answer <;> trivial

theorem uses_withoutSource (source : Option Path) (paths : List Path) :
    (withoutSource source paths).Uses Request.Reads := by
  induction paths with
  | nil => trivial
  | cons path rest ih => exact Uses.bind (uses_isSource source path) fun _ => Uses.bind ih fun _ => trivial

theorem uses_removeAll (paths : List Path) : (removeAll paths).run.Uses Request.Quiet := by
  induction paths with
  | nil => trivial
  | cons path rest ih =>
    unfold removeAll
    refine Uses.andThen (Uses.lift (uses_request trivial)) fun directory => ?_
    cases directory
    · exact Uses.andThen (Uses.wrapped (uses_request trivial)) fun _ => ih
    · exact Uses.andThen (Uses.wrapped (uses_request trivial)) fun _ => ih

theorem uses_clearTarget (request : Request) (existing : List Path) :
    (clearTarget request existing).run.Uses Request.Quiet := by
  unfold clearTarget
  split
  · exact Uses.andThen (Uses.wrapped (uses_request trivial)) fun _ => uses_removeAll _
  · exact uses_removeAll _

theorem uses_checkCancelled : checkCancelled.run.Uses Request.Quiet := by
  refine Uses.andThen (Uses.lift (uses_request trivial)) fun cancelled => ?_
  cases cancelled <;> trivial

theorem uses_makeDirectories (directories : List Path) : (makeDirectories directories).run.Uses Request.Quiet := by
  induction directories with
  | nil => trivial
  | cons directory rest ih =>
    unfold makeDirectories
    exact Uses.andThen (Uses.wrapped (uses_request trivial)) fun _ => ih

theorem uses_writeChunks (destination : Path) (file : OpenFile) (chunks : List ByteArray) :
    (writeChunks destination file chunks).run.Uses Request.Quiet := by
  induction chunks with
  | nil => trivial
  | cons chunk rest ih =>
    unfold writeChunks
    exact Uses.andThen (Uses.wrapped (uses_request trivial)) fun _ => ih

theorem uses_currentContent (archive : Path) (index : Container.Index) :
    (currentContent archive index).Uses Request.Quiet := by
  refine Uses.bind (uses_request trivial) fun answer => ?_
  cases answer <;> trivial

theorem uses_extractFile (archive : Path) (index : Except ArchiveError Container.Index) (entry : Entry)
    (destination : Path) :
    (extractFile archive index entry destination).run.Uses Request.Quiet := by
  unfold extractFile
  refine Uses.andThen uses_checkCancelled fun _ => Uses.andThen (uses_settled _) fun index => ?_
  refine Uses.andThen (Uses.lift (uses_currentContent _ _)) fun content => Uses.andThen (uses_settled _) fun found => ?_
  refine Uses.andThen (Uses.wrapped (uses_request trivial)) fun file =>
    Uses.andThen (Uses.lift (uses_currentContent _ _)) fun content => ?_
  have copying (stream : EntryStream) : (copyContent stream destination file).run.Uses Request.Quiet := by
    refine Uses.andThen (uses_writeChunks _ _ _) fun _ => Uses.andThen (uses_settled _) fun _ => ?_
    exact Uses.andThen (Uses.wrapped (uses_request trivial)) fun _ => trivial
  exact Uses.andThen (copying _) fun _ => Uses.andThen (Uses.wrapped (uses_request trivial)) fun _ => trivial

theorem uses_extractFiles (archive : Path) (index : Except ArchiveError Container.Index) (files : List (Entry × Path)) :
    (extractFiles archive index files).run.Uses Request.Quiet := by
  induction files with
  | nil => trivial
  | cons pair rest ih =>
    unfold extractFiles
    exact Uses.andThen (uses_extractFile _ _ _ _) fun _ => Uses.andThen ih fun _ => trivial

theorem uses_extractShares (archive : Path) (shares : List (List (Entry × Path))) :
    (extractShares archive shares).run.Uses Request.Quiet := by
  induction shares with
  | nil => trivial
  | cons share rest ih =>
    unfold extractShares
    refine Uses.andThen (Uses.lift (uses_request trivial)) fun content => ?_
    exact Uses.andThen (uses_extractFiles _ _ _) fun _ => Uses.andThen ih fun _ => trivial

theorem uses_extract (wheel : Wheel) (plan : Plan) (root : Path) (jobs : Nat) :
    (extract wheel plan root jobs).run.Uses Request.Quiet := by
  unfold extract
  refine Uses.andThen (Uses.wrapped (uses_request trivial)) fun _ => ?_
  exact Uses.andThen (uses_makeDirectories _) fun _ => uses_extractShares _ _

end Install
end WheelInstaller
