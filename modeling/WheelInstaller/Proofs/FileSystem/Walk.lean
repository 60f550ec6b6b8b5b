import WheelInstaller.FileSystem.Lookup
import WheelInstaller.Proofs.FileSystem.Plain

/-! Walks without links. Where a walk ends is told by its steps alone; what is at the locations on the way
only decides whether it gets there. -/

namespace WheelInstaller.FileSystem

variable {files : FileSystem} {here location : Location} {steps : List String} {place : Place}

/-- The step is an ordinary name. -/
structure Named (step : String) : Prop where
  notCurrent : step ≠ "."
  notParent : step ≠ ".."
  short : step.utf8ByteSize ≤ Path.longestName

/-- Steps lead from a location to a place. -/
inductive Leads (files : FileSystem) : Location → List String → Place → Prop where
  | here {location node} (found : files.get? location = some node) : Leads files location [] (.occupied location node)
  | current {location rest place} (found : files.get? location = some .directory)
      (further : Leads files location rest place) : Leads files location ("." :: rest) place
  | parent {location rest place} (found : files.get? location = some .directory)
      (further : Leads files location.dropLast rest place) : Leads files location (".." :: rest) place
  | vacant {location name} (found : files.get? location = some .directory) (named : Named name)
      (absent : files.get? (location ++ [name]) = none) : Leads files location [name] (.vacant location name)
  | down {location name rest place} (found : files.get? location = some .directory) (named : Named name)
      (inside : files.get? (location ++ [name]) ≠ none) (further : Leads files (location ++ [name]) rest place) :
      Leads files location (name :: rest) place

/-! Positions keep to what is at their locations. -/

/-- A trail down to a tree. -/
def Trail (files : FileSystem) : List (String × Tree) → Tree → Prop
  | [], tree => tree = files.top
  | (name, above) :: trail, tree => above.child? name = some tree ∧ Trail files trail above

theorem Trail.find? {trail : List (String × Tree)} {tree : Tree} (valid : Trail files trail tree) :
    files.top.find? (trail.map (·.1)).reverse = some tree := by
  induction trail generalizing tree with
  | nil => simp [Tree.find?, show tree = files.top from valid]
  | cons step trail ih =>
    obtain ⟨name, above⟩ := step
    rw [List.map_cons, List.reverse_cons, Tree.find?_append, ih valid.2]
    simp [Tree.find?, valid.1]

/-- The position of a location. -/
structure At (files : FileSystem) (position : Position) (here : Location) : Prop where
  location : position.location = here
  trail : Trail files position.trail position.tree

namespace At

variable {position : Position} (at_ : files.At position here)
include at_

theorem find? : files.top.find? here = some position.tree := by
  rw [← at_.location]
  exact at_.trail.find?

theorem get? : files.get? here = some position.tree.node := by
  simp [FileSystem.get?, at_.find?]

theorem up : files.At position.up here.dropLast := by
  obtain ⟨trail, tree⟩ := position
  cases trail with
  | nil =>
    obtain ⟨rfl, top⟩ := at_
    exact ⟨rfl, top⟩
  | cons step trail =>
    obtain ⟨rfl, -, above⟩ := at_
    exact ⟨by simp [Position.up, Position.location], above⟩

theorem get?_child (name : String) :
    files.get? (here ++ [name]) = (position.tree.child? name).map Tree.node := by
  rw [FileSystem.get?, Tree.find?_append, at_.find?, Option.bind_some]
  simp [Tree.find?]

theorem down {name : String} {inner : Tree} (child : position.tree.child? name = some inner) :
    files.At (position.down name inner) (here ++ [name]) := by
  obtain ⟨rfl, trail⟩ := at_
  exact ⟨by simp [Position.down, Position.location], child, trail⟩

end At

theorem position?_from {position : Position} (start : files.At position here) :
    let found := location.foldlM (fun position name => (position.tree.child? name).map (position.down name)) position
    (found = none ↔ position.tree.find? location = none) ∧
      ∀ last, found = some last → files.At last (here ++ location) := by
  induction location generalizing position here with
  | nil => simpa [Tree.find?] using start
  | cons name rest ih =>
    simp only [Tree.find?, List.foldlM_cons]
    cases child : position.tree.child? name with
    | none => simp
    | some inner => simpa [Position.down] using ih (start.down child)

theorem at_start : files.At files.start [] := ⟨rfl, rfl⟩

theorem position?_eq_none : files.position? location = none ↔ files.get? location = none := by
  rw [get?, Option.map_eq_none_iff]
  exact (position?_from at_start).1

theorem at_position? {position : Position} (found : files.position? location = some position) :
    files.At position location :=
  (position?_from at_start).2 position found

/-! A walk follows the steps and no links. -/

theorem leads_current (directory : files.get? here = some .directory) :
    files.Leads here ("." :: steps) place ↔ files.Leads here steps place := by
  refine ⟨fun leads => ?_, .current directory⟩
  generalize same : "." = step at leads
  cases leads with
  | current _ further => exact further
  | parent => exact absurd same (by decide)
  | vacant _ named | down _ named => exact absurd same.symm named.notCurrent

theorem leads_parent (directory : files.get? here = some .directory) :
    files.Leads here (".." :: steps) place ↔ files.Leads here.dropLast steps place := by
  refine ⟨fun leads => ?_, .parent directory⟩
  generalize same : ".." = step at leads
  cases leads with
  | current => exact absurd same (by decide)
  | parent _ further => exact further
  | vacant _ named | down _ named => exact absurd same.symm named.notParent

theorem leads_down {name : String} (directory : files.get? here = some .directory) (named : Named name)
    (inside : files.get? (here ++ [name]) ≠ none) :
    files.Leads here (name :: steps) place ↔ files.Leads (here ++ [name]) steps place := by
  refine ⟨fun leads => ?_, .down directory named inside⟩
  cases leads with
  | current => exact absurd rfl named.notCurrent
  | parent => exact absurd rfl named.notParent
  | vacant _ _ absent => exact absurd absent inside
  | down _ _ _ further => exact further

theorem leads_vacant {name : String} (directory : files.get? here = some .directory) (named : Named name)
    (absent : files.get? (here ++ [name]) = none) :
    files.Leads here (name :: steps) place ↔ steps = [] ∧ place = .vacant here name := by
  refine ⟨fun leads => ?_, ?_⟩
  · cases leads with
    | current => exact absurd rfl named.notCurrent
    | parent => exact absurd rfl named.notParent
    | vacant => exact ⟨rfl, rfl⟩
    | down _ _ inside => exact absurd absent inside
  · rintro ⟨rfl, rfl⟩
    exact .vacant directory named absent

theorem Leads.directory {step : String} (leads : files.Leads here (step :: steps) place) :
    files.get? here = some .directory := by
  cases leads <;> assumption

theorem Leads.named {step : String} (leads : files.Leads here (step :: steps) place) :
    step = "." ∨ step = ".." ∨ Named step := by
  cases leads <;> simp_all

theorem walkFrom_nil {follow : Bool} {links : Nat} {position : Position} :
    files.walkFrom follow links position [] = .ok (.occupied position.location position.tree.node, links) := by
  cases links <;> rfl

theorem walkFrom_cons {follow : Bool} {links : Nat} {position : Position} {step : String} {rest : List String} :
    files.walkFrom follow links position (step :: rest) =
      if !position.tree.node.isDirectory then .error .notDirectory
      else if step = "." then files.walkFrom follow links position rest
      else if step = ".." then files.walkFrom follow links position.up rest
      else if Path.longestName < step.utf8ByteSize then .error .nameTooLong
      else
        match position.tree.child? step with
        | none => if rest.isEmpty then .ok (.vacant position.location step, links) else .error .notFound
        | some (.link target) =>
          if rest.isEmpty && !follow then .ok (.occupied (position.location ++ [step]) (.link target), links)
          else
            match links with
            | 0 => .error .tooManyLinks
            | links + 1 =>
              files.walkFrom follow links (if target.isAbsolute then files.start else position)
                (target.strictSteps ++ rest)
        | some inner => files.walkFrom follow links (position.down step inner) rest := by
  cases links <;> rfl

theorem walkFrom_eq_ok (plain : files.Plain) {follow : Bool} {links left : Nat} {position : Position}
    (start : files.At position here) :
    files.walkFrom follow links position steps = .ok (place, left) ↔ files.Leads here steps place ∧ left = links := by
  -- Without links a walk takes one step after the other, so the induction is on the steps alone.
  induction steps generalizing position here with
  | nil =>
    rw [walkFrom_nil, start.location]
    constructor
    · intro found
      cases found
      exact ⟨.here start.get?, rfl⟩
    · rintro ⟨leads, rfl⟩
      cases leads with
      | here found =>
        rw [start.get?] at found
        cases found
        rfl
  | cons step rest ih =>
    have kind : files.get? here = some .directory ↔ position.tree.node.isDirectory = true := by
      rw [start.get?]
      cases position.tree <;> simp [Tree.node, Node.isDirectory]
    rw [walkFrom_cons]
    by_cases directory : position.tree.node.isDirectory
    case neg =>
      simp only [directory, Bool.not_false, if_true, reduceCtorEq, false_iff]
      rintro ⟨leads, -⟩
      exact directory (kind.mp leads.directory)
    have found := kind.mpr directory
    by_cases current : step = "."
    · subst current
      simp [directory, ih start, leads_current found]
    by_cases parent : step = ".."
    · subst parent
      simp [directory, ih start.up, leads_parent found]
    by_cases long : Path.longestName < step.utf8ByteSize
    · simp only [directory, current, parent, long, Bool.not_true, Bool.false_eq_true, if_false, if_true,
        reduceCtorEq, false_iff]
      rintro ⟨leads, -⟩
      rcases leads.named with same | same | named
      · exact current same
      · exact parent same
      · exact absurd named.short (by omega)
    have named : Named step := ⟨current, parent, by omega⟩
    have below := start.get?_child step
    simp only [directory, current, parent, long, Bool.not_true, Bool.false_eq_true, if_false]
    cases child : position.tree.child? step with
    | none =>
      rw [child, Option.map_none] at below
      rw [leads_vacant found named below]
      cases rest with
      | nil => simp [start.location, eq_comm]
      | cons => simp
    | some inner =>
      rw [child, Option.map_some] at below
      rw [leads_down found named (by simp [below])]
      cases inner with
      | link target => exact absurd below plain.not_link
      | file | directory => exact ih (start.down child)

theorem walk_eq_ok (plain : files.Plain) {follow : Bool} {links left : Nat} :
    files.walk follow links here steps = .ok (place, left) ↔ files.Leads here steps place ∧ left = links := by
  unfold walk
  cases found : files.position? here with
  | some position => exact walkFrom_eq_ok plain (at_position? found)
  | none =>
    simp only [reduceCtorEq, false_iff]
    have absent := position?_eq_none.mp found
    rintro ⟨leads, -⟩
    cases leads <;> simp_all

/-! Where steps lead, and when they get there. -/

/-- The location that steps stand for, whatever is there. -/
def settle : Location → List String → Location
  | here, [] => here
  | here, step :: rest =>
    if step = "." then settle here rest
    else if step = ".." then settle here.dropLast rest
    else settle (here ++ [step]) rest

theorem settle_append (first second : List String) : settle here (first ++ second) = settle
    (settle here first) second := by
  induction first generalizing here with
  | nil => rfl
  | cons step rest ih =>
    simp only [List.cons_append, settle, apply_ite (settle · second), ← ih]

theorem settle_name {name : String} (notCurrent : name ≠ ".") (notParent : name ≠ "..") :
    settle here [name] = here ++ [name] := by
  simp [settle, notCurrent, notParent]

namespace Leads

theorem occupied {node : Node} (leads : files.Leads here steps (.occupied location node)) :
    location = settle here steps ∧ files.get? location = some node := by
  generalize same : Place.occupied location node = place at leads
  induction leads with
  | here found =>
    cases same
    exact ⟨rfl, found⟩
  | current _ _ ih => simpa [settle] using ih same
  | parent _ _ ih => simpa [settle] using ih same
  | vacant => cases same
  | down _ named _ _ ih => simpa [settle, named.notCurrent, named.notParent] using ih same

end Leads

/-- What is there in one file system is there in another, and directories are still directories. -/
def Persists (before after : FileSystem) : Prop :=
  ∀ location node, before.get? location = some node →
    ∃ kept, after.get? location = some kept ∧ (node = .directory → kept = .directory)

theorem Persists.directory {before after : FileSystem} (persists : Persists before after)
    (found : before.get? location = some .directory) : after.get? location = some .directory := by
  obtain ⟨kept, there, same⟩ := persists location _ found
  rw [there, same rfl]

theorem Persists.trans {before middle after : FileSystem} (first : Persists before middle)
    (second : Persists middle after) :
    Persists before after := by
  intro location node found
  obtain ⟨kept, there, directory⟩ := first location node found
  obtain ⟨last, still, further⟩ := second location kept there
  exact ⟨last, still, further ∘ directory⟩

theorem Leads.persists {after : FileSystem} {node : Node} (leads : files.Leads here steps (.occupied location node))
    (persists : Persists files after) :
    ∃ kept, after.get? location = some kept ∧ after.Leads here steps (.occupied location kept) := by
  generalize same : Place.occupied location node = place at leads
  induction leads with
  | here found =>
    cases same
    obtain ⟨kept, there, -⟩ := persists _ _ found
    exact ⟨kept, there, .here there⟩
  | current found _ ih =>
    obtain ⟨kept, there, further⟩ := ih same
    exact ⟨kept, there, .current (persists.directory found) further⟩
  | parent found _ ih =>
    obtain ⟨kept, there, further⟩ := ih same
    exact ⟨kept, there, .parent (persists.directory found) further⟩
  | vacant => cases same
  | down found named inside _ ih =>
    obtain ⟨kept, there, further⟩ := ih same
    obtain ⟨node, occupied⟩ := Option.ne_none_iff_exists'.mp inside
    obtain ⟨inner, still, -⟩ := persists _ _ occupied
    exact ⟨kept, there, .down (persists.directory found) named (by simp [still]) further⟩

theorem settle_straight (straight : ".." ∉ steps) : settle here steps = here ++ steps.filter (· ≠ ".") := by
  induction steps generalizing here with
  | nil => simp [settle]
  | cons step rest ih =>
    simp only [List.mem_cons, not_or] at straight
    by_cases current : step = "." <;> simp [settle, current, Ne.symm straight.1, ih straight.2]

theorem leads_of_straight {node : Node} (straight : ".." ∉ steps)
    (short : ∀ step ∈ steps, step.utf8ByteSize ≤ Path.longestName)
    (found : files.get? (settle here steps) = some node) (last : steps.getLast? = some "." → node = .directory) :
    files.Leads here steps (.occupied (settle here steps) node) := by
  induction steps generalizing here with
  | nil => exact .here found
  | cons step rest ih =>
    simp only [List.mem_cons, not_or] at straight
    have shorter : ∀ step ∈ rest, step.utf8ByteSize ≤ Path.longestName := fun step member =>
      short step (by simp [member])
    have further : rest.getLast? = some "." → node = .directory := fun same => last (by simp [List.getLast?_cons, same])
    by_cases current : step = "."
    · subst current
      simp only [settle, if_true] at found ⊢
      refine .current ?_ (ih straight.2 shorter found further)
      rw [settle_straight straight.2] at found
      by_cases more : rest.filter (· ≠ ".") = []
      · -- Nothing but `.` is left, so the last step asks for a directory.
        have only : (("." :: rest).getLast?) = some "." := by
          cases filled : rest.getLast? with
          | none => simp [List.getLast?_cons, filled]
          | some step =>
            have same := List.filter_eq_nil_iff.mp more step (List.mem_of_getLast? filled)
            simp only [ne_eq, decide_not, Bool.not_eq_eq_eq_not, Bool.not_true, decide_eq_false_iff_not,
              not_not] at same
            simp [List.getLast?_cons, filled, same]
        rw [more, List.append_nil, last only] at found
        exact found
      · exact get?_above (by rw [found]; exact Option.some_ne_none node) more
    · simp only [settle, current, Ne.symm straight.1, if_false] at found ⊢
      have occupied : files.get? (here ++ (step :: rest.filter (· ≠ "."))) ≠ none := by
        rw [settle_straight straight.2] at found
        simp_all
      refine .down (get?_above occupied (by simp)) ⟨current, Ne.symm straight.1, short step (by simp)⟩ ?_
        (ih straight.2 shorter found further)
      intro absent
      rw [show here ++ (step :: rest.filter (· ≠ ".")) = (here ++ [step]) ++ rest.filter (· ≠ ".") by simp] at occupied
      by_cases more : rest.filter (· ≠ ".") = []
      · rw [more, List.append_nil] at occupied
        exact occupied absent
      · exact occupied (get?_below (by simp [absent]) more)

/-- Whatever leads on does so through a directory. -/
theorem Leads.front {more : List String} (leads : files.Leads here (steps ++ more) place) (further : more ≠ []) :
    files.Leads here steps (.occupied (settle here steps) .directory) ∧ files.Leads (settle here steps) more place := by
  induction steps generalizing here with
  | nil =>
    obtain ⟨step, rest, rfl⟩ := List.exists_cons_of_ne_nil further
    exact ⟨.here leads.directory, leads⟩
  | cons step rest ih =>
    rw [List.cons_append] at leads
    generalize same : rest ++ more = onward at leads
    cases leads with
    | current found leads => exact (ih (same ▸ leads)).imp_left (.current found)
    | parent found leads => exact (ih (same ▸ leads)).imp_left (.parent found)
    | vacant => exact absurd (List.append_eq_nil_iff.mp same).2 further
    | down found named inside leads =>
      simp only [settle, named.notCurrent, named.notParent, if_false]
      exact (ih (same ▸ leads)).imp_left (.down found named inside)

theorem Leads.append {more : List String} {node : Node} (leads : files.Leads here steps (.occupied location node))
    (further : files.Leads location more place) : files.Leads here (steps ++ more) place := by
  generalize same : Place.occupied location node = reached at leads
  induction leads with
  | here =>
    cases same
    exact further
  | current found _ ih => exact .current found (ih same)
  | parent found _ ih => exact .parent found (ih same)
  | vacant => cases same
  | down found named inside _ ih => exact .down found named inside (ih same)

theorem Leads.directory_of_current {node : Node} (leads : files.Leads here steps (.occupied location node))
    (last : steps.getLast? = some ".") : node = .directory := by
  obtain ⟨front, rfl⟩ := List.getLast?_eq_some_iff.mp last
  have final := (leads.front (List.cons_ne_nil "." [])).2
  have found := final.directory
  rw [leads_current found] at final
  cases final
  simp_all

theorem Leads.short {node : Node} (leads : files.Leads here steps (.occupied location node)) :
    ∀ step ∈ steps, step.utf8ByteSize ≤ Path.longestName := by
  generalize same : Place.occupied location node = place at leads
  induction leads with
  | here => simp
  | current _ _ ih => exact List.forall_mem_cons.mpr ⟨by decide, ih same⟩
  | parent _ _ ih => exact List.forall_mem_cons.mpr ⟨by decide, ih same⟩
  | vacant => cases same
  | down _ named _ _ ih => exact List.forall_mem_cons.mpr ⟨named.short, ih same⟩

end WheelInstaller.FileSystem
