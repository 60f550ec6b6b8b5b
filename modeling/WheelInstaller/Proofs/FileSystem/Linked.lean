import WheelInstaller.Proofs.FileSystem.Directories

/-! Walks with links. Where a walk ends is told by what is at the locations it passes; so it ends there in every file
system that has the same at these. -/

namespace WheelInstaller.FileSystem

/-- A walk by what is found at locations. -/
def walkBy (look : Location → Option Node) (follow : Bool) (links : Nat) (here : Location) :
    (steps : List String) → Except OsError (Place × Nat)
  | [] =>
    match look here with
    | none => .error .notFound
    | some node => .ok (.occupied here node, links)
  | step :: rest =>
    match look here with
    | none => .error .notFound
    | some .directory =>
      if step = "." then walkBy look follow links here rest
      else if step = ".." then walkBy look follow links here.dropLast rest
      else if Path.longestName < step.utf8ByteSize then .error .nameTooLong
      else
        match look (here ++ [step]) with
        | none => if rest.isEmpty then .ok (.vacant here step, links) else .error .notFound
        | some (.link target) =>
          if rest.isEmpty && !follow then .ok (.occupied (here ++ [step]) (.link target), links)
          else
            match links with
            | 0 => .error .tooManyLinks
            | links + 1 =>
              walkBy look follow links (if target.isAbsolute then [] else here) (target.strictSteps ++ rest)
        | some _ => walkBy look follow links (here ++ [step]) rest
    | some _ => .error .notDirectory
termination_by steps => (links, steps.length)

variable {files : FileSystem} {look other : Location → Option Node} {follow : Bool} {links left : Nat}
    {here location : Location}
variable {steps front more : List String} {node : Node} {place : Place}

theorem walkFrom_eq {here : Location} {position : Position} (links : Nat) (steps : List String)
    (start : files.At position here) :
    files.walkFrom follow links position steps = walkBy files.get? follow links here steps := by
  cases steps with
  | nil => rw [walkFrom_nil, walkBy, start.get?, start.location]
  | cons step rest =>
    rw [walkFrom_cons, walkBy, start.get?, start.location]
    cases node : position.tree.node with
    | file | link => rfl
    | directory =>
      simp only [Node.isDirectory, Bool.not_true, Bool.false_eq_true, if_false]
      split
      · exact walkFrom_eq links rest start
      split
      · exact walkFrom_eq links rest start.up
      split
      · rfl
      rw [start.get?_child step]
      cases child : position.tree.child? step with
      | none => rfl
      | some inner =>
        cases inner with
        | file | directory => exact walkFrom_eq links rest (start.down child)
        | link target =>
          simp only [Option.map_some, Tree.node]
          split
          · rfl
          cases links with
          | zero => rfl
          | succ links =>
            refine walkFrom_eq links _ ?_
            split
            · exact at_start
            · exact start
termination_by (links, steps.length)

theorem walk_eq : files.walk follow links here steps = walkBy files.get? follow links here steps := by
  unfold walk
  cases found : files.position? here with
  | some position => exact walkFrom_eq links steps (at_position? found)
  | none =>
    have absent := position?_eq_none.mp found
    cases steps <;> simp [walkBy, absent]

theorem walkBy_sound (walked : walkBy look follow links here steps = .ok (.occupied location node, left)) :
    look location = some node := by
  fun_induction walkBy look follow links here steps <;> grind

theorem walkBy_kept (kept : ∀ location node, look location = some node → other location = some node)
    (walked : walkBy look follow links here steps = .ok (.occupied location node, left)) :
    walkBy other follow links here steps = .ok (.occupied location node, left) := by
  fun_induction walkBy look follow links here steps <;> grind [walkBy]

/-- A walk that goes on goes on from where its first steps lead, and not from a place that is vacant. -/
theorem walkBy_append_cons {step : String} : walkBy look follow links here (front ++ step :: more) =
    (walkBy look true links here front).bind fun
      | (.occupied middle _, left) => walkBy look follow left middle (step :: more)
      | (.vacant _ _, _) => .error .notFound := by
  -- A link in front of further steps is followed, whatever becomes of a link at the very end.
  have further (rest : List String) : (rest ++ step :: more).isEmpty = false := by simp
  fun_induction walkBy look true links here front
  case case1 absent =>
    rw [List.nil_append, walkBy, absent]
    rfl
  case case2 => rfl
  case case3 absent =>
    rw [List.cons_append, walkBy, absent]
    rfl
  case case4 holder ih =>
    rw [List.cons_append, walkBy, holder]
    exact ih
  case case5 holder current ih =>
    rw [List.cons_append, walkBy, holder]
    simp only [current, if_false, if_true]
    exact ih
  case case6 holder current parent long =>
    rw [List.cons_append, walkBy, holder]
    simp only [current, parent, long, if_false, if_true]
    rfl
  case case7 holder current parent short absent _ =>
    rw [List.cons_append, walkBy, holder]
    simp only [current, parent, short, absent, further, Bool.false_eq_true, if_false]
    rfl
  case case8 holder current parent short absent _ =>
    rw [List.cons_append, walkBy, holder]
    simp only [current, parent, short, absent, further, Bool.false_eq_true, if_false]
    rfl
  case case9 last => simp at last
  case case10 holder current parent short target linked _ =>
    rw [List.cons_append, walkBy, holder]
    simp only [current, parent, short, linked, further, Bool.false_and, Bool.false_eq_true, if_false]
    rfl
  case case11 holder current parent short target linked _ links ih =>
    rw [List.cons_append, walkBy, holder]
    simp only [current, parent, short, linked, further, Bool.false_and, Bool.false_eq_true, if_false]
    rw [List.append_assoc] at ih
    exact ih
  case case12 holder current parent short node noLink found ih =>
    rw [List.cons_append, walkBy, holder]
    simp only [current, parent, short, found, if_false]
    cases node with
    | link target => exact absurd rfl (noLink target)
    | file | directory => exact ih
  case case13 node noDirectory found =>
    rw [List.cons_append, walkBy, found]
    cases node with
    | directory => exact absurd rfl noDirectory
    | file | link => rfl

theorem walkBy_append_of (walked : walkBy look true links here front = .ok (.occupied location node, left))
    (onward : follow = true ∨ more ≠ []) : walkBy look follow links here (front ++ more) =
    walkBy look follow left location more := by
  cases more with
  | nil =>
    obtain rfl := onward.resolve_right (· rfl)
    rw [List.append_nil, walked, walkBy, walkBy_sound walked]
  | cons step more =>
    rw [walkBy_append_cons, walked]
    rfl

theorem walkBy_append (walked : walkBy look true links here front = .ok (.occupied location node, left)) :
    walkBy look true links here (front ++ more) = walkBy look true left location more :=
  walkBy_append_of walked (.inl rfl)

theorem walkBy_through {step : String}
    (walked : walkBy look follow links here (front ++ step :: more) = .ok (place, left)) :
    ∃ middle remaining, walkBy look true links here front = .ok (.occupied middle .directory, remaining) ∧
      walkBy look follow remaining middle (step :: more) = .ok (place, left) := by
  rw [walkBy_append_cons] at walked
  cases first : walkBy look true links here front with
  | error =>
    rw [first] at walked
    cases walked
  | ok reached =>
    rw [first] at walked
    obtain ⟨reached, remaining⟩ := reached
    cases reached with
    | vacant => cases walked
    | occupied middle node =>
      change walkBy look follow remaining middle (step :: more) = .ok (place, left) at walked
      cases node with
      | directory => exact ⟨middle, remaining, rfl, walked⟩
      | file | link =>
        rw [walkBy, walkBy_sound first] at walked
        cases walked

/-- Below a place the walk passes nothing but what its names lead to. -/
theorem walkBy_below {names : List String} (proper : ∀ name ∈ names, ProperName name)
    (same : ∀ above, above <+: names → look (here ++ above) = other (here ++ above))
    (noLink : ∀ above target, above <+: names → look (here ++ above) ≠ some (.link target)) :
    walkBy look follow links here names = walkBy other follow links here names := by
  induction names generalizing here with
  | nil => simp [walkBy, show look here = other here by simpa using same [] (List.nil_prefix)]
  | cons name rest ih =>
    have first := same [name] (by simp)
    have top : look here = other here := by simpa using same [] (List.nil_prefix)
    have further := @ih (here ++ [name]) (fun other member => proper other (by simp [member]))
      (fun above inside => by simpa using same (name :: above) (by simpa using inside))
      (fun above target inside => by simpa using noLink (name :: above) target (by simpa using inside))
    have named := proper name (by simp)
    rw [walkBy, walkBy, ← top, ← first, further]
    simp only [named.notCurrent, named.notParent, if_false]
    have apart := fun target => noLink [name] target (by simp)
    grind

/-- Names that lead somewhere are short and lead to where they say, unless there are links. -/
theorem walkBy_names {names : List String} (proper : ∀ name ∈ names, ProperName name)
    (noLink : ∀ above target, above <+: names → look (here ++ above) ≠ some (.link target))
    (walked : walkBy look follow links here names = .ok (.occupied location node, left)) :
    location = here ++ names ∧ ∀ name ∈ names, name.utf8ByteSize ≤ Path.longestName := by
  induction names generalizing here with
  | nil =>
    unfold walkBy at walked
    cases found : look here <;> simp_all
  | cons name rest ih =>
    have named := proper name (by simp)
    have further := @ih (here ++ [name]) (fun other member => proper other (by simp [member]))
      (fun above target inside => by simpa using noLink (name :: above) target (by simpa using inside))
    rw [walkBy] at walked
    simp only [named.notCurrent, named.notParent, if_false] at walked
    split at walked
    next => cases walked
    next =>
      split at walked
      next => cases walked
      next within =>
        split at walked
        next => split at walked <;> cases walked
        next target linked => exact absurd linked (noLink [name] target (by simp))
        next =>
          obtain ⟨rfl, short⟩ := further walked
          exact ⟨by simp, List.forall_mem_cons.mpr ⟨Nat.not_lt.mp within, short⟩⟩
    next => cases walked

/-! What paths lead to. -/

variable {after : FileSystem} {path : Path} {error : OsError}

theorem status_congr (home : after.home = files.home)
    (same : walkBy after.get? follow linkLimit (files.origin path) path.strictSteps =
      walkBy files.get? follow linkLimit (files.origin path) path.strictSteps) :
    after.status follow path = files.status follow path := by
  have origin : after.origin path = files.origin path := by simp [origin, home]
  simp only [status, resolve, walk_eq, origin, same]

theorem spot_congr (home : after.home = files.home)
    (same : walkBy after.get? true linkLimit (files.origin path) path.steps.dropLast =
      walkBy files.get? true linkLimit (files.origin path) path.steps.dropLast) :
    after.spot path = files.spot path := by
  unfold origin at same
  simp only [spot, spotFrom, walk_eq, home, same]

theorem status_eq_walkBy : files.status follow path = .ok (location, node) ↔
    path.check = .ok () ∧ ∃ left, walkBy files.get? follow linkLimit (files.origin path) path.strictSteps =
      .ok (.occupied location node, left) := by
  unfold status resolve
  rw [walk_eq]
  cases path.check with
  | error => simp [bind, Except.bind]
  | ok =>
    cases walkBy files.get? follow linkLimit (files.origin path) path.strictSteps with
    | error => simp [bind, Except.bind]
    | ok reached =>
      obtain ⟨place, left⟩ := reached
      cases place <;> simp [bind, Except.bind, pure, Except.pure]

theorem get?_of_status (found : files.status follow path = .ok (location, node)) : files.get? location = some node := by
  obtain ⟨-, left, walked⟩ := status_eq_walkBy.mp found
  exact walkBy_sound walked

/-- The spot of a path is in the directory that its steps before the last one lead to. -/
theorem walk_of_spot {spot : Spot} (found : files.spot path = .ok spot) :
    path.check = .ok () ∧ walkBy files.get? true linkLimit (files.origin path) path.steps.dropLast =
      .ok (.occupied spot.directory .directory, spot.links) ∧
      spot.last = lastStep path.steps.getLast? ∧ spot.slash = path.hasTrailingSlash := by
  rw [← walk_eq]
  exact walked_of_spot found

theorem spot_of_walk {directory : Location} (checked : path.check = .ok ())
    (walked : walkBy files.get? true linkLimit (files.origin path) path.steps.dropLast =
      .ok (.occupied directory .directory, left)) :
    files.spot path = .ok ⟨directory, lastStep path.steps.getLast?, path.hasTrailingSlash, left⟩ := by
  unfold origin at walked
  simp [spot, spotFrom, walk_eq, checked, walked, bind, Except.bind, pure, Except.pure, Node.isDirectory]

theorem get?_of_spot {spot : Spot} (found : files.spot path = .ok spot) : files.get? spot.directory = some .directory :=
  walkBy_sound (walk_of_spot found).2.1

/-- What is at a spot is what the path leads to, unless it is a link that is followed. -/
theorem Finds.status {spot : Spot} {name : String} (finds : files.Finds path spot name (some node))
    (ends : node = .directory ∨ follow = false ∧ path.hasTrailingSlash = false) :
    files.status follow path = .ok (spot.directory ++ [name], node) := by
  obtain ⟨checked, walked, lastOf, -⟩ := walk_of_spot finds.found
  have there := finds.get?
  obtain ⟨final, notCurrent, notParent⟩ := lastStep_eq_name (lastOf.symm.trans finds.last)
  have holder := get?_of_spot finds.found
  have within : ¬ Path.longestName < name.utf8ByteSize := Nat.not_lt.mpr finds.short
  refine status_eq_walkBy.mpr ⟨checked, spot.links, ?_⟩
  have onward (dots : List String) (only : dots = [] ∧ (node = .directory ∨ follow = false) ∨
    dots = ["."] ∧ node = .directory) :
      walkBy files.get? follow spot.links spot.directory (name :: dots) =
      .ok (.occupied (spot.directory ++ [name]) node, spot.links) := by
    rw [walkBy, holder]
    simp only [notCurrent, notParent, within, if_false, there]
    rcases only with ⟨rfl, rfl | rfl⟩ | ⟨rfl, rfl⟩
    · simp [walkBy, there]
    · cases node <;> simp [walkBy, there]
    · simp [walkBy, there]
  unfold Path.strictSteps
  rw [← List.dropLast_append_getLast? name final]
  split
  next slash =>
    rw [List.append_assoc, walkBy_append_of walked (.inr (by simp))]
    exact onward ["."] (.inr ⟨rfl, ends.resolve_right fun open_ => by simp [open_.2] at slash⟩)
  next =>
    rw [walkBy_append_of walked (.inr (by simp))]
    exact onward [] (.inl ⟨rfl, ends.imp_right And.left⟩)

/-! Directories that are made. -/

/-- All that is there stays, and what comes to it are directories. -/
structure Gains (files after : FileSystem) : Prop where
  home : after.home = files.home
  kept : ∀ location node, files.get? location = some node → after.get? location = some node
  fresh : ∀ location, files.get? location = none → after.get? location = none ∨ after.get? location = some .directory

theorem Gains.refl (files : FileSystem) : files.Gains files :=
  ⟨rfl, fun _ _ => id, fun _ => .inl⟩

theorem Gains.trans {middle : FileSystem} (first : files.Gains middle) (second : middle.Gains after) :
    files.Gains after := by
  refine ⟨second.home.trans first.home, fun location node found => second.kept _ _ (first.kept _ _ found),
    fun location absent => ?_⟩
  rcases first.fresh location absent with still | made
  · exact second.fresh location still
  · exact .inr (second.kept _ _ made)

theorem gains_makeDirectory (done : (makeDirectory path).run files = (.ok (), after)) : files.Gains after := by
  obtain ⟨spot, name, finds, rfl⟩ := makeDirectory_eq_ok done
  have absent := finds.get?
  have free : files.get? (spot.directory ++ [name]) ≠ some .directory := by simp [absent]
  have put := get?_put_in (get?_of_spot finds.found) free .directory
  refine ⟨rfl, fun location node there => ?_, fun location vacant => ?_⟩
  · rw [put, if_neg, there]
    rintro rfl
    cases absent.symm.trans there
  · rw [put]
    split
    · exact .inr rfl
    · exact .inl vacant

theorem gains_makeDirectoriesWithin {count : Nat} {outcome : Except OsError Unit}
    (done : (makeDirectoriesWithin count path).run files = (outcome, after)) : files.Gains after := by
  induction count generalizing files path outcome after with
  | zero =>
    cases done
    exact .refl files
  | succ count ih =>
    obtain ⟨middle, above, last⟩ := makeDirectoriesWithin_succ done
    have gains : files.Gains middle := by
      obtain rfl | ⟨reached, ran⟩ := above
      · exact .refl _
      · exact ih ran
    obtain made | ⟨rfl, -⟩ := last
    · exact gains.trans (gains_makeDirectory made)
    · exact gains

/-- Whatever comes of it, making directories only adds directories. -/
theorem gains_makeDirectories {outcome : Except OsError Unit}
    (done : (makeDirectories path).run files = (outcome, after)) :
    files.Gains after :=
  gains_makeDirectoriesWithin done

end WheelInstaller.FileSystem
