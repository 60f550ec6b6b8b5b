import WheelInstaller.Packages.Normalize
import WheelInstaller.Proofs.FileSystem.Linked
import WheelInstaller.Proofs.Host.Steady
import WheelInstaller.Proofs.Host.World
import WheelInstaller.Proofs.Packages.Recording

/-! What a scan finds. Its snapshot shows every directory that is looked into as the host tells, whatever paths
are too long for it, and it fails only where one of these directories is not listed. -/

namespace WheelInstaller

open Host FileSystem

namespace Packages

variable {world : World} {root : Path} {names : List String} {name : String} {snapshot : Snapshot}

/-- Something is there, and the host tells whether it is a directory. -/
def Told (isDirectory : Bool) (files : FileSystem) (root : Path) (names : List String) : Prop :=
  files.get? (root.locate files.home ++ names) ≠ none ∧ files.isDirectory (root.under names) = isDirectory

/-- The same, where the root stands for a given location. -/
def ToldAt (site : Location) (isDirectory : Bool) (files : FileSystem) (root : Path) (names : List String) : Prop :=
  files.get? (site ++ names) ≠ none ∧ files.isDirectory (root.under names) = isDirectory

/-- What the children of a directory tell a survey. -/
structure Surveyed (file directory : String → Prop) (seen found : Survey) : Prop where
  files : ∀ name, name ∈ found.listing.files ↔ name ∈ seen.listing.files ∨ file name
  directories : ∀ name, name ∈ found.listing.directories ↔ name ∈ seen.listing.directories ∨ directory name
  inner : ∀ name, name ∈ found.inner ↔ name ∈ seen.inner ∨ directory name ∧ isIgnored name = false

/-- The survey with one more child. -/
def Survey.note (seen : Survey) (name : String) : Bool → Survey
  | false => { seen with listing := seen.listing.addFile name }
  | true => { listing := seen.listing.addDirectory name, inner := if isIgnored name then seen.inner
    else seen.inner ++ [name] }

theorem Survey.sublist_inner_note (seen : Survey) (child : String) (isDirectory : Bool) :
    (seen.note child isDirectory).inner.Sublist (seen.inner ++ [child]) := by
  cases isDirectory with
  | false => exact List.sublist_append_left _ _
  | true =>
    unfold note
    dsimp only
    split
    · exact List.sublist_append_left _ _
    · exact List.Sublist.refl _

theorem safe_survey_each {σ : Type} {rules : Rules σ} {directory : Path} {children : List String}
    {seen : Survey} {state : σ}
    {bad : HostError → σ → Prop} (proper : ∀ name ∈ children, ProperName name) (holds : List String → Survey → σ → Prop)
    (begun : holds [] seen state)
    (each : ∀ done child left seen state, children = done ++ child :: left → holds done seen state →
      rules.permits (.isDirectory (directory / child)) state ∧
        ∀ answer after, rules.replies (.isDirectory (directory / child)) state answer after →
          holds (done ++ [child]) (seen.note child answer) after) :
    rules.Safe (Rules.Ends (holds children) bad) (survey seen (children.map (directory / ·))).run state := by
  have loop (done left : List String) (seen : Survey) (state : σ) (cut : children = done ++ left)
    (now : holds done seen state) :
      rules.Safe (Rules.Ends (holds children) bad) (survey seen (left.map (directory / ·))).run state := by
    induction left generalizing done seen state with
    | nil =>
      rw [List.append_nil] at cut
      exact cut ▸ now
    | cons child left ih =>
      have named : (directory / child).fileName? = some child := by
        simp [Path.fileName?, Path.components_div (proper child (by simp [cut])), Component.name?]
      rw [List.map_cons]
      unfold survey
      rw [named]
      obtain ⟨permitted, further⟩ := each done child left seen state cut now
      refine ⟨permitted, fun answer after replies => ?_⟩
      have rest := ih (done ++ [child]) (seen.note child answer) after (by simp [cut]) (further answer after replies)
      cases answer <;> exact rest
  exact loop [] children seen state rfl begun

theorem Surveyed.note {told : String → Bool} {done : List String} {child : String} {seen found : Survey}
    (surveyed : Surveyed (fun name => name ∈ done ∧ told name = false)
      (fun name => name ∈ done ∧ told name = true) seen found) :
    Surveyed (fun name => name ∈ done ++ [child] ∧ told name = false)
    (fun name => name ∈ done ++ [child] ∧ told name = true) seen
      (found.note child (told child)) := by
  obtain ⟨files, directories, inner⟩ := surveyed
  cases kind : told child with
  | false =>
    constructor <;> intro name <;> by_cases here :
      name = child <;> simp [Survey.note, files, directories, inner, here, kind]
  | true =>
    constructor <;> intro name <;> by_cases here : name = child <;> by_cases ignored : isIgnored child <;>
      simp [Survey.note, files, directories, inner, here, kind, ignored]

theorem safe_survey {rules : Rules World} (orderly : rules.Orderly) (open_ : ∀ wanted now, rules.permits wanted now)
    {seen : Survey} {directory : Path} {children : List String} {bad : HostError → World → Prop}
    (proper : ∀ name ∈ children, ProperName name) :
    rules.Safe (Rules.Ends
      (fun found after => after = world ∧ Surveyed
        (fun name => name ∈ children ∧ world.files.isDirectory (directory / name) = false)
        (fun name => name ∈ children ∧ world.files.isDirectory (directory / name) = true) seen found)
      bad) (survey seen (children.map (directory / ·))).run world := by
  refine safe_survey_each proper (fun done found after => after = world ∧ Surveyed
    (fun name => name ∈ done ∧ world.files.isDirectory (directory / name) = false)
    (fun name => name ∈ done ∧ world.files.isDirectory (directory / name) = true) seen found)
      ⟨rfl, by constructor <;> simp⟩ ?_
  rintro done child left found _ - ⟨rfl, surveyed⟩
  refine ⟨open_ _ _, fun answer after replies => ?_⟩
  obtain ⟨rfl, rfl⟩ := (orderly _ _ _ _ replies).isDirectory
  exact ⟨rfl, surveyed.note⟩

/-- Some directories are shown as they are, and the others are left as they were. -/
structure Shown (file directory shown : List String → Prop) (before after : Snapshot) : Prop where
  inside : ∀ names, shown names → ∃ listing, after.at? names = some listing ∧ listing.Shows file directory names
  outside : ∀ names, ¬ shown names → after.at? names = before.at? names

theorem Shown.trans {file directory shown more : List String → Prop} {before middle after : Snapshot}
    (first : Shown file directory shown before middle) (second : Shown file directory more middle after) :
    Shown file directory (fun names => shown names ∨ more names) before after := by
  constructor
  · rintro names either
    by_cases late : more names
    · exact second.inside names late
    · rw [second.outside names late]
      exact first.inside names (either.resolve_right late)
  · intro names neither
    rw [not_or] at neither
    rw [second.outside names neither.2, first.outside names neither.1]

theorem Shown.congr {file directory shown other : List String → Prop} {before after : Snapshot}
    (known : Shown file directory shown before after) (same : ∀ names, other names ↔ shown names) :
    Shown file directory other before after :=
  ⟨fun names here => known.inside names ((same names).mp here), fun names away => known.outside names fun here =>
    away ((same names).mpr here)⟩

theorem shown_update {file directory : List String → Prop} {path : Path} (here : Path.origin.Extends names path)
    {listing : Listing} (shows : listing.Shows file directory names) :
    Shown file directory (· = names) snapshot (snapshot.update path fun _ => listing) := by
  constructor
  · rintro _ rfl
    exact ⟨listing, by simp [Snapshot.at?_update here], shows⟩
  · intro other away
    simp [Snapshot.at?_update here, Ne.symm away]

/-- The paths below the root stand for the locations below its own, and these have proper names. -/
structure Listable (files : FileSystem) (root : Path) (site : Location) : Prop where
  proper : ∀ names, files.get? (site ++ names) ≠ none → ∀ name ∈ names, ProperName name
  children : ∀ {names children}, (∀ name ∈ names, ProperName name) →
    files.readDirectory (root.join (Path.origin.under names)) = .ok children → children = files.children (site ++ names)

theorem listable_of_plain (plain : world.files.Plain) : Listable world.files root (root.locate world.files.home) := by
  constructor
  · intro names occupied name member
    exact plain.proper occupied name (by simp [member])
  · intro names children proper listed
    have extends_ : Path.origin.Extends names (Path.origin.under names) := Path.extends_under proper
    obtain ⟨-, same⟩ := readDirectory_ok plain listed
    rw [same, (Path.extends_join extends_).locate]

/-- The host tells what is in the directory. -/
def Listed (files : FileSystem) (root : Path) (names : List String) : Prop :=
  ∃ children, files.readDirectory (root.join (Path.origin.under names)) = .ok children

/-- Some directories are shown as the host tells of them, and it lists them all. -/
structure Scanned (site : Location) (files : FileSystem) (root : Path) (reached : List String → Prop)
    (before after : Snapshot) : Prop where
  shown : Shown (ToldAt site false files root) (ToldAt site true files root) reached before after
  listed : ∀ target, reached target → Listed files root target

theorem Scanned.trans {site : Location} {files : FileSystem} {reached further : List String → Prop}
    {before middle after : Snapshot}
    (first : Scanned site files root reached before middle) (second : Scanned site files root further middle after) :
    Scanned site files root (fun target => reached target ∨ further target) before after :=
  ⟨first.shown.trans second.shown, fun target either => either.elim (first.listed target) (second.listed target)⟩

theorem Scanned.congr {site : Location} {files : FileSystem} {reached other : List String → Prop}
    {before after : Snapshot}
    (scanned : Scanned site files root reached before after) (same : ∀ target, other target ↔ reached target) :
    Scanned site files root other before after :=
  ⟨scanned.shown.congr same, fun target here => scanned.listed target ((same target).mp here)⟩

/-- A directory that is looked into is not listed. -/
def Blocked (rules : Rules World) (site : Location) (world : World) (root : Path) (names : List String) : Prop :=
  ∃ target, Seen (ToldAt site true world.files root) names target ∧
    ∃ error after, rules.replies (.readDirectory (root.join (Path.origin.under target))) world (.error error) after

section Scanning

variable {site : Location} (listable : Listable world.files root site)
include listable

theorem ToldAt.short (told : ToldAt site true world.files root names) : names.length ≤ Path.longest := by
  obtain ⟨location, found⟩ := status_of_isDirectory told.2
  obtain ⟨checked, -⟩ := status_eq_walkBy.mp found
  exact Nat.le_trans (Path.length_le_utf8ByteSize_under (listable.proper names told.1))
    (Path.check_eq_ok.mp checked).2.2

theorem shows_of_surveyed (proper : ∀ name ∈ names, ProperName name) {found : Survey}
    (surveyed : Surveyed
      (fun name => name ∈ world.files.children (site ++ names) ∧
        world.files.isDirectory (root.join (Path.origin.under names) / name) = false)
      (fun name => name ∈ world.files.children (site ++ names) ∧
        world.files.isDirectory (root.join (Path.origin.under names) / name) = true)
      {} found) :
    found.listing.Shows (ToldAt site false world.files root) (ToldAt site true world.files root) names ∧
      ∀ name, name ∈ found.inner ↔ ToldAt site true world.files root (names ++ [name]) ∧ isIgnored name = false := by
  have same (isDirectory : Bool) (name : String) :
      (name ∈ world.files.children (site ++ names) ∧
        world.files.isDirectory (root.join (Path.origin.under names) / name) = isDirectory) ↔
      ToldAt site isDirectory world.files root (names ++ [name]) := by
    rw [mem_children, ToldAt, List.append_assoc]
    refine and_congr_right fun occupied => ?_
    rw [Path.origin, Path.join_origin_under_div proper (listable.proper _ occupied name (by simp))]
  refine ⟨⟨fun name => ?_, fun name => ?_⟩, fun name => ?_⟩
  · rw [surveyed.files, same]
    simp
  · rw [surveyed.directories, same]
    simp
  · rw [surveyed.inner, same]
    simp

variable {rules : Rules World} (orderly : rules.Orderly) (open_ : ∀ wanted now, rules.permits wanted now)
include orderly open_

theorem safe_scanFrom (names : List String) {depth : Nat} (proper : ∀ name ∈ names, ProperName name)
    (here : names = [] ∨ ToldAt site true world.files root names) (deep : Path.longest < names.length + depth) :
    rules.Safe (Rules.Ends
      (fun found after => after = world ∧
        Scanned site world.files root (Seen (ToldAt site true world.files root) names) snapshot found)
      fun _ after => after = world ∧ Blocked rules site world root names)
      (scanFrom root depth (Path.origin.under names) snapshot).run world := by
  induction depth generalizing names snapshot with
  | zero =>
    exfalso
    rcases here with rfl | told
    · simp [Path.longest] at deep
    · exact absurd (told.short listable) (by omega)
  | succ depth ih =>
    unfold scanFrom
    refine ⟨open_ _ _, fun answer after replies => ?_⟩
    obtain ⟨rfl, told⟩ := (orderly _ _ _ _ replies).listed
    cases answer with
    | error error => exact ⟨rfl, names, .here names, error, after, replies⟩
    | ok children =>
      have extends_ : Path.origin.Extends names (Path.origin.under names) := Path.extends_under proper
      obtain ⟨children, listed, rfl⟩ := told children rfl
      obtain rfl := listable.children proper listed
      have tidy : ∀ name ∈ after.files.children (site ++ names), ProperName name := by
        intro name member
        rw [mem_children, List.append_assoc] at member
        exact listable.proper _ member name (by simp)
      refine Rules.Safe.andThen (safe_survey orderly open_ tidy) fun found now ⟨same, surveyed⟩ => ?_
      subst same
      obtain ⟨shows, inner⟩ := shows_of_surveyed listable proper surveyed
      have first : Scanned site now.files root (· = names) snapshot
        (snapshot.update (Path.origin.under names) fun _ => found.listing) :=
        ⟨shown_update extends_ shows, fun target same => same ▸ ⟨_, listed⟩⟩
      -- The directories to be looked into are scanned one after the other.
      let reached (done : List String) (target : List String) : Prop :=
        target = names ∨ ∃ name ∈ done, Seen (ToldAt site true now.files root) (names ++ [name]) target
      refine (Rules.Safe.foldlM (fun done _ found after => after = now ∧
        Scanned site now.files root (reached done) snapshot found)
        ⟨rfl, first.congr (by simp [reached])⟩ fun done name left middle _ cut ⟨same, scanned⟩ => ?_).succeeding
          fun final _ ⟨same, scanned⟩ =>
            ⟨same, scanned.congr fun target => by rw [seen_iff]; simp [reached, inner, and_assoc]⟩
      subst same
      obtain ⟨there, seen⟩ := (inner name).mp (List.mem_reverse.mp (by simp [cut]))
      rw [← Path.under_concat]
      have deeper : Path.longest < (names ++ [name]).length + depth := by
        simpa [Nat.add_assoc, Nat.add_comm 1] using deep
      refine ((ih (names ++ [name]) (listable.proper _ there.1) (.inr there) deeper).failing ?_).succeeding
        fun found _ ⟨same, further⟩ => ⟨same, (scanned.trans further).congr fun target => ?_⟩
      · rintro _ _ ⟨same, target, further, unlisted⟩
        exact ⟨same, target, .inner there seen further, unlisted⟩
      · simp [reached, or_and_right, exists_or, or_assoc]

theorem safe_scan :
    rules.Safe (Rules.Ends
      (fun snapshot now => now = world ∧ snapshot.Proper ∧
        snapshot.Depicts (ToldAt site false world.files root) (ToldAt site true world.files root) ∧
        ∀ target, Seen (ToldAt site true world.files root) [] target → Listed world.files root target)
      fun _ now => now = world ∧ Blocked rules site world root []) (scan root).run world := by
  refine (safe_scanFrom listable orderly open_ [] (by simp) (.inl rfl) (by decide)).succeeding
    fun snapshot _ ⟨same, scanned⟩ => ⟨same, ?_, scanned.shown.inside, scanned.listed⟩
  intro names listing listed name member
  by_cases seen : Seen (ToldAt site true world.files root) [] names
  · obtain ⟨_, known, shows⟩ := scanned.shown.inside names seen
    cases listed.symm.trans known
    exact listable.proper _ ((shows.directories name).mp member).1 name (by simp)
  · rw [scanned.shown.outside names seen] at listed
    simp [Snapshot.at?] at listed

end Scanning

end Packages
end WheelInstaller

/-! ### Giving initializers

What giving initializers leaves behind: an empty file for each one that was missing, and nothing else
changes. Where a file was, none is missing. -/

namespace WheelInstaller

open Host FileSystem

namespace Packages

variable {world : World} {files after : FileSystem} {root : Path} {names : List String} {implicit : Bool}

/-- The host tells of a directory that lacks this initializer. -/
def Missing (files : FileSystem) (root : Path) (implicit : Bool) (names : List String) : Prop :=
  implicit = false ∧ ∃ snapshot : Snapshot, snapshot.Proper ∧
  snapshot.Depicts (Told false files root) (Told true files root) ∧
    ∃ target, names = target ++ [initializerName] ∧ snapshot.Visits [] target ∧ snapshot.Lacks target

theorem Missing.free (missing : Missing files root implicit names) (plain : files.Plain) {mode : Nat}
    {content : ByteArray} :
    files.get? (root.locate files.home ++ names) ≠ some (.file mode content) := by
  obtain ⟨-, snapshot, -, depicts, target, rfl, visits, -, listing, listed, absent⟩ := missing
  intro found
  obtain ⟨_, known, shows⟩ := depicts target ((depicts.visits_iff (.here [])).mp visits)
  cases listed.symm.trans known
  have occupied : files.get? (root.locate files.home ++ (target ++ [initializerName])) ≠ none := by
    rw [found]
    simp
  refine absent ((shows.files _).mpr ⟨occupied, ?_⟩)
  by_contra directory
  have proper : ∀ name ∈ target ++ [initializerName], ProperName name := fun name member =>
    plain.proper occupied name (List.mem_append_right _ member)
  have there := get?_of_isDirectory plain (Bool.not_eq_false _ ▸ directory)
  rw [(Path.extends_under proper).locate, found] at there
  cases there

theorem missing_iff {snapshot : Snapshot} (proper : snapshot.Proper)
    (depicts : snapshot.Depicts (Told false files root) (Told true files root)) {paths : List Path}
    (planned : snapshot.plan? implicit = some paths) :
    Missing files root implicit names ↔ ∃ path ∈ paths, Path.origin.Extends names path := by
  cases implicit with
  | true =>
    cases planned
    simp [Missing]
  | false =>
    obtain ⟨_, known, exactly, -⟩ := Snapshot.exists_plan? proper
    cases planned.symm.trans known
    rw [exactly]
    constructor
    · rintro ⟨-, other, -, also, target, same, visits, lacks⟩
      have seen := (also.visits_iff (.here [])).mp visits
      exact ⟨target, same, (depicts.visits_iff (.here [])).mpr seen, lacks.transfer also depicts seen⟩
    · rintro ⟨target, same, visits, lacks⟩
      exact ⟨rfl, snapshot, proper, depicts, target, same, visits, lacks⟩

/-- Some files are there and empty, and nothing else changed. -/
structure Empties (before : FileSystem) (written : Location → Prop) (after : FileSystem) : Prop where
  plain : after.Plain
  home : after.home = before.home
  inside : ∀ location, written location → before.get? location ≠ some .directory ∧
    after.get? location = some (.file (before.modeAt location) .empty)
  outside : ∀ location, ¬ written location → after.get? location = before.get? location

theorem Empties.of_replaces {middle : FileSystem} {location : Location} {written : Location → Prop}
    (replaces : files.Replaces location (files.modeAt location) .empty middle)
    (further : Empties middle written after) :
    Empties files (fun other => other = location ∨ written other) after := by
  have kept : middle.modeAt location = files.modeAt location := by
    simp [modeAt, replaces.same]
  refine ⟨further.plain, further.home.trans replaces.home, fun other allowed => ?_, fun other spared => ?_⟩
  · by_cases here : other = location
    · subst here
      refine ⟨replaces.free, ?_⟩
      by_cases again : written other
      · rw [(further.inside other again).2, kept]
      · rw [further.outside other again, replaces.same]
    · have found := further.inside other (allowed.resolve_left here)
      rwa [modeAt, replaces.other here] at found
  · rw [not_or] at spared
    rw [further.outside other spared.2, replaces.other spared.1]

theorem safe_writeAll (root : Path) (paths : List Path) (plain : world.files.Plain) :
    host.Safe (Rules.Ends
      (fun _ after =>
        Empties world.files
          (fun location => ∃ path ∈ paths, location = (root.join path).locate world.files.home) after.files)
      fun _ after =>
      Changes (fun _ => False) (fun location => ∃ path ∈ paths, location = (root.join path).locate world.files.home)
        world.files after.files) (writeAll root paths).run world := by
  induction paths generalizing world with
  | nil => exact ⟨plain, rfl, by simp, by simp⟩
  | cons path rest ih =>
    unfold writeAll
    refine ⟨trivial, fun answer after replies => ?_⟩
    rcases replies.write plain with ⟨rfl, replaces⟩ | ⟨error, rfl, same | writes⟩
    · have written : Changes (fun _ => False) (fun location => ∃ other ∈ path :: rest,
        location = (root.join other).locate world.files.home)
          world.files after.files := .of_replaces ⟨path, by simp, rfl⟩ replaces
      have others := ih replaces.plain
      rw [replaces.home] at others
      refine Rules.Safe.andThen (others.failing fun _ _ changes =>
        written.trans (changes.weaken (fun _ => id) fun location ⟨other, member, same⟩ =>
          ⟨other, by simp [member], same⟩))
        fun told last empties => ?_
      have both := Empties.of_replaces replaces empties
      change Empties world.files _ last.files
      convert both using 2
      simp
    · exact .of_eq plain same
    · exact .of_writes ⟨path, by simp, rfl⟩ writes

theorem safe_normalize (plain : world.files.Plain) :
    host.Safe (Rules.Ends
      (fun _ after => Empties world.files
        (fun location => ∃ names, Missing world.files root implicit names ∧
          location = root.locate world.files.home ++ names) after.files)
      fun _ after => Changes (fun _ => False)
        (fun location => ∃ names, Missing world.files root implicit names ∧
          location = root.locate world.files.home ++ names)
        world.files after.files) (normalize root implicit).run world := by
  unfold normalize
  split
  next implicit =>
    subst implicit
    exact ⟨plain, rfl, by simp [Missing], fun _ _ => rfl⟩
  next explicit =>
    have explicit : implicit = false := by simpa using explicit
    subst explicit
    refine Rules.Safe.andThen ((safe_scan (listable_of_plain plain) orderly_host fun _ _ => trivial).failing
      fun _ _ ⟨same, _⟩ => .of_eq plain (congrArg World.files same)) fun snapshot now ⟨same, proper, depicts, _⟩ => ?_
    subst same
    obtain ⟨paths, planned, -, spelled⟩ := Snapshot.exists_plan? proper
    rw [planned]
    have places (location : Location) : (∃ path ∈ paths, location = (root.join path).locate now.files.home) ↔
        ∃ names, Missing now.files root false names ∧ location = root.locate now.files.home ++ names := by
      constructor
      · rintro ⟨path, member, rfl⟩
        obtain ⟨names, below⟩ := spelled path member
        exact ⟨names, (missing_iff proper depicts planned).mpr ⟨path, member, below⟩, (Path.extends_join below).locate⟩
      · rintro ⟨names, missing, rfl⟩
        obtain ⟨path, member, below⟩ := (missing_iff proper depicts planned).mp missing
        exact ⟨path, member, (Path.extends_join below).locate.symm⟩
    have written := safe_writeAll root paths plain
    simp only [places] at written
    exact written

end Packages
end WheelInstaller
