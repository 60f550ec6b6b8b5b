import Mathlib.Data.List.Nodup
import WheelInstaller.FileSystem.Basic
import WheelInstaller.Proofs.Path.Components

/-! Trees whose directories hold every name once, with links and without. A change at a location shows there and below,
and nowhere else. -/

namespace WheelInstaller.Tree

/-- A tree without links, whose directories hold every name once. -/
inductive Sound : Tree → Prop where
  | file (mode : Nat) (content : ByteArray) : Sound (.file mode content)
  | directory {children : List (String × Tree)} (names : (children.map (·.1)).Nodup)
      (proper : ∀ child ∈ children, ProperName child.1) (inner : ∀ child ∈ children, Sound child.2) :
      Sound (.directory children)

theorem sound_directory_iff {children : List (String × Tree)} : Sound (.directory children) ↔
    (children.map (·.1)).Nodup ∧ ∀ child ∈ children, ProperName child.1 ∧ Sound child.2 := by
  constructor
  · rintro (_ | ⟨names, proper, inner⟩)
    exact ⟨names, fun child member => ⟨proper child member, inner child member⟩⟩
  · rintro ⟨names, each⟩
    exact .directory names (fun child member => (each child member).1) fun child member => (each child member).2

mutual

/-- Whether a tree is sound can be decided. -/
def decideSound : (tree : Tree) → Decidable tree.Sound
  | .file mode content => .isTrue (.file mode content)
  | .link _ => .isFalse nofun
  | .directory children =>
    have := decideInner children
    decidable_of_iff _ sound_directory_iff.symm

/-- Whether all in a directory is sound and has a proper name. -/
def decideInner : (children : List (String × Tree)) → Decidable (∀ child ∈ children, ProperName child.1 ∧ Sound child.2)
  | [] => .isTrue (List.forall_mem_nil _)
  | (_, tree) :: rest =>
    have := decideSound tree
    have := decideInner rest
    decidable_of_iff _ List.forall_mem_cons.symm

end

instance (tree : Tree) : Decidable tree.Sound :=
  decideSound tree

@[simp] theorem node_ofNode (node : Node) : (ofNode node).node = node := by
  cases node <;> rfl

theorem node_eq_directory {tree : Tree} : tree.node = .directory ↔ ∃ children, tree = .directory children := by
  cases tree <;> simp [node]

theorem child?_ofNode (node : Node) (name : String) : (ofNode node).child? name = none := by
  cases node <;> rfl

theorem child?_eq_some {tree inner : Tree} {name : String} (found : tree.child? name = some inner) :
    (name, inner) ∈ tree.children := by
  obtain ⟨⟨known, tree⟩, inside, rfl⟩ := Option.map_eq_some_iff.mp found
  have same : known = name := by simpa using List.find?_some inside
  subst same
  exact List.mem_of_find?_eq_some inside

theorem child?_eq_none {tree : Tree} {name : String} :
    tree.child? name = none ↔ name ∉ tree.children.map (·.1) := by
  constructor
  · intro absent member
    obtain ⟨child, inside, same⟩ := List.mem_map.mp member
    exact List.find?_eq_none.mp (Option.map_eq_none_iff.mp absent) child inside (by simpa using same)
  · intro absent
    refine Option.map_eq_none_iff.mpr (List.find?_eq_none.mpr fun child inside same => ?_)
    exact absent (List.mem_map.mpr ⟨child, inside, by simpa using same⟩)

theorem isDirectory_of_child? {tree inner : Tree} {name : String} (found : tree.child? name = some inner) :
    ∃ children, tree = .directory children := by
  cases tree with
  | directory children => exact ⟨children, rfl⟩
  | file | link => cases found

theorem Sound.child {tree inner : Tree} {name : String} (sound : tree.Sound)
    (found : tree.child? name = some inner) : ProperName name ∧ inner.Sound := by
  have member := child?_eq_some found
  cases sound with
  | file => cases member
  | directory _ proper sound => exact ⟨proper _ member, sound _ member⟩

theorem find?_append (first second : Location) (tree : Tree) :
    tree.find? (first ++ second) = (tree.find? first).bind (find? second) := by
  induction first generalizing tree with
  | nil => rfl
  | cons name rest ih =>
    simp only [List.cons_append, find?]
    cases tree.child? name with
    | none => rfl
    | some inner => exact ih inner

theorem Sound.find? {tree inner : Tree} {location : Location} (sound : tree.Sound)
    (found : tree.find? location = some inner) : (∀ name ∈ location, ProperName name) ∧ inner.Sound := by
  induction location generalizing tree with
  | nil =>
    cases found
    exact ⟨by simp, sound⟩
  | cons name rest ih =>
    obtain ⟨child, here, found⟩ := Option.bind_eq_some_iff.mp found
    obtain ⟨proper, sound⟩ := sound.child here
    obtain ⟨others, inner⟩ := ih sound found
    exact ⟨List.forall_mem_cons.mpr ⟨proper, others⟩, inner⟩

/-- Every directory holds every name once. Links may be anywhere. -/
def Distinct (tree : Tree) : Prop :=
  ∀ location inner, tree.find? location = some inner → (inner.children.map (·.1)).Nodup

theorem Sound.distinct {tree : Tree} (sound : tree.Sound) : tree.Distinct := by
  intro location inner found
  cases (sound.find? found).2 with
  | file => exact .nil
  | directory names => exact names

theorem Distinct.names {tree : Tree} (distinct : tree.Distinct) : (tree.children.map (·.1)).Nodup :=
  distinct [] tree rfl

theorem Distinct.find? {tree inner : Tree} {location : Location} (distinct : tree.Distinct)
    (found : tree.find? location = some inner) :
    inner.Distinct := by
  intro rest deeper reached
  refine distinct (location ++ rest) deeper ?_
  rw [find?_append, found]
  exact reached

theorem Distinct.child {tree inner : Tree} {name : String} (distinct : tree.Distinct)
    (found : tree.child? name = some inner) :
    inner.Distinct := by
  have reached : tree.find? [name] = some inner := by
    rw [Tree.find?, found]
    rfl
  exact distinct.find? reached

theorem distinct_of_children {tree : Tree} (names : (tree.children.map (·.1)).Nodup)
    (inner : ∀ name child, tree.child? name = some child → child.Distinct) : tree.Distinct := by
  intro location deeper found
  cases location with
  | nil =>
    cases found
    exact names
  | cons name rest =>
    obtain ⟨child, here, found⟩ := Option.bind_eq_some_iff.mp found
    exact inner name child here rest deeper found

theorem distinct_ofNode (node : Node) : (ofNode node).Distinct :=
  distinct_of_children (by cases node <;> exact .nil) fun name child found => by simp [child?_ofNode] at found

/-! Changes of one child. -/

section Children

variable {children : List (String × Tree)} {name : String} {change : Option Tree → Option Tree}

theorem mem_alterChild {child : String × Tree} (member : child ∈ alterChild name change children) :
    child ∈ children ∨ child.1 = name ∧ change ((directory children).child? name) = some child.2 := by
  induction children with
  | nil =>
    simp only [alterChild, List.mem_map, Option.mem_toList] at member
    obtain ⟨tree, changed, rfl⟩ := member
    exact .inr ⟨rfl, changed⟩
  | cons first rest ih =>
    obtain ⟨known, tree⟩ := first
    unfold alterChild at member
    split at member
    next same =>
      rcases List.mem_append.mp member with member | member
      · obtain ⟨inner, changed, rfl⟩ := List.mem_map.mp member
        refine .inr ⟨rfl, ?_⟩
        simpa [child?, Tree.children, same] using changed
      · exact .inl (List.mem_cons_of_mem _ member)
    next different =>
      rcases List.mem_cons.mp member with rfl | member
      · exact .inl (List.mem_cons_self ..)
      · refine (ih member).imp (List.mem_cons_of_mem _) fun ⟨named, changed⟩ => ⟨named, ?_⟩
        simpa [child?, Tree.children, different] using changed

theorem nodup_alterChild (names : (children.map (·.1)).Nodup) :
    ((alterChild name change children).map (·.1)).Nodup := by
  induction children with
  | nil =>
    simp only [alterChild]
    cases change none <;> simp
  | cons first rest ih =>
    obtain ⟨known, tree⟩ := first
    simp only [List.map_cons, List.nodup_cons] at names
    unfold alterChild
    split
    next same =>
      subst same
      cases change (some tree) with
      | none => simpa using names.2
      | some inner => simpa using names
    next different =>
      rw [List.map_cons, List.nodup_cons]
      refine ⟨fun repeated => ?_, ih names.2⟩
      obtain ⟨child, member, same⟩ := List.mem_map.mp repeated
      rcases mem_alterChild member with member | ⟨changed, -⟩
      · exact names.1 (List.mem_map.mpr ⟨child, member, same⟩)
      · exact different (same.symm.trans changed)

/-- A change shows under its name and nowhere else. What is taken away must not have hidden anything. -/
theorem child?_alterChild_of (kept : (children.map (·.1)).Nodup ∨ (change ((directory children).child? name)).isSome)
    (other : String) : (directory (alterChild name change children)).child? other =
      if other = name then change ((directory children).child? name) else (directory children).child? other := by
  induction children with
  | nil =>
    simp only [alterChild, child?, Tree.children]
    by_cases same : other = name
    · subst same
      cases changed : change none <;> simp [changed]
    · cases change none <;> simp [same, Ne.symm same]
  | cons first rest ih =>
    obtain ⟨known, tree⟩ := first
    simp only [List.map_cons, List.nodup_cons] at kept
    simp only [child?, Tree.children] at ih kept ⊢
    unfold alterChild
    split
    next same =>
      subst same
      by_cases same : other = known
      · subst same
        cases changed : change (some tree) with
        | some inner => simp [changed]
        | none =>
          -- Nothing of the same name comes to light behind the tree that was taken away.
          have absent : rest.find? (fun child => decide (child.1 = other)) = none := by
            rcases kept with ⟨fresh, -⟩ | shown
            · rw [List.find?_eq_none]
              intro child member same
              exact fresh (List.mem_map.mpr ⟨child, member, by simpa using same⟩)
            · simp [changed] at shown
          simp [changed, absent]
      · cases change (some tree) <;> simp [same, Ne.symm same]
    next different =>
      by_cases same : known = other
      · simp [same, show ¬ other = name from fun equal => different (same.trans equal)]
      · simp [same, different, ih (kept.imp And.right (by simp [different]))]

end Children

/-! Changes at a location, in a tree that has room there. -/

/-- The location is the top, or a directory is there to hold it. -/
def Open (tree : Tree) (location : Location) : Prop :=
  ∀ directory name, location = directory ++ [name] → ∃ children, tree.find? directory = some (.directory children)

theorem Open.child {tree : Tree} {name second : String} {rest : Location}
    (holds : tree.Open (name :: second :: rest)) :
    ∃ inner, tree.child? name = some inner ∧ inner.Open (second :: rest) := by
  have nonempty : second :: rest ≠ [] := by simp
  obtain ⟨children, found⟩ := holds (name :: (second :: rest).dropLast) ((second :: rest).getLast nonempty)
    (by rw [List.cons_append, List.dropLast_append_getLast])
  obtain ⟨inner, here, -⟩ := Option.bind_eq_some_iff.mp found
  refine ⟨inner, here, fun directory last split => ?_⟩
  obtain ⟨children, found⟩ := holds (name :: directory) last (by rw [split]; rfl)
  rw [find?, here] at found
  exact ⟨children, found⟩

theorem Open.top {tree : Tree} {name : String} {rest : Location} (holds : tree.Open (name :: rest)) :
    ∃ children, tree = .directory children := by
  cases rest with
  | nil =>
    obtain ⟨children, found⟩ := holds [] name rfl
    exact ⟨children, Option.some.inj found⟩
  | cons second rest =>
    obtain ⟨inner, here, -⟩ := holds.child
    exact isDirectory_of_child? here

variable {tree : Tree} {location : Location} {change : Option Tree → Option Tree}

theorem find?_alter_of (kept : tree.Distinct ∨ ∀ found, (change found).isSome) (holds : tree.Open location)
    (other : Location) :
    ((alter change location (some tree)).bind (find? other)).map node =
      if location <+: other then
        ((change (tree.find? location)).bind (find? (other.drop location.length))).map node
      else (tree.find? other).map node := by
  induction location generalizing tree other with
  | nil => simp [alter, find?]
  | cons name rest ih =>
    obtain ⟨children, rfl⟩ := holds.top
    cases other with
    | nil => simp [alter, find?, node]
    | cons first others =>
      have shown : (directory (alterChild name (alter change rest) children)).child? first =
          if first = name then alter change rest ((directory children).child? name)
          else (directory children).child? first := by
        refine child?_alterChild_of (kept.imp (fun distinct => distinct.names) fun always => ?_) first
        cases rest with
        | nil => exact always _
        | cons second rest =>
          obtain ⟨inner, here, -⟩ := holds.child
          rw [here]
          cases inner <;> rfl
      simp only [alter, Option.bind_some, find?, shown, List.cons_prefix_cons,
        List.length_cons, List.drop_succ_cons]
      by_cases same : first = name
      · subst same
        simp only [if_true, true_and]
        cases rest with
        | nil =>
          simp only [alter, List.nil_prefix, if_true, List.length_nil, List.drop_zero]
          cases (directory children).child? first <;> rfl
        | cons second rest =>
          obtain ⟨inner, here, inside⟩ := holds.child
          rw [here]
          simpa using ih (kept.imp_left fun distinct => distinct.child here) inside others
      · simp [same, Ne.symm same]

theorem sound_alter {result : Tree} (sound : tree.Sound) (proper : ∀ name ∈ location, ProperName name)
    (holds : tree.Open location) (changed : ∀ inner, change (tree.find? location) = some inner → inner.Sound)
    (done : alter change location (some tree) = some result) : result.Sound := by
  induction location generalizing tree result with
  | nil => exact changed result done
  | cons name rest ih =>
    obtain ⟨children, rfl⟩ := holds.top
    cases done
    cases sound with
    | directory names known inner =>
      have soundChild (child : String × Tree) (member : child ∈ alterChild name (alter change rest) children) :
          ProperName child.1 ∧ child.2.Sound := by
        rcases mem_alterChild member with member | ⟨named, done⟩
        · exact ⟨known child member, inner child member⟩
        · refine ⟨named ▸ proper name (by simp), ?_⟩
          cases rest with
          | nil =>
            refine changed child.2 ?_
            simpa [find?, alter] using done
          | cons second rest =>
            obtain ⟨old, here, inside⟩ := holds.child
            rw [here] at done
            refine ih (inner _ (child?_eq_some here)) (fun name member => proper name (by simp [member])) inside
              (fun new made => changed new ?_) done
            simpa [find?, here] using made
      exact .directory (nodup_alterChild names) (fun child member => (soundChild child member).1)
        fun child member => (soundChild child member).2

theorem distinct_alter {result : Tree} (distinct : tree.Distinct)
    (changed : ∀ inner, change (tree.find? location) = some inner → inner.Distinct)
    (done : alter change location (some tree) = some result) : result.Distinct := by
  induction location generalizing tree result with
  | nil => exact changed result done
  | cons name rest ih =>
    cases tree with
    | file | link =>
      cases done
      exact distinct
    | directory children =>
      cases done
      have names : (children.map (·.1)).Nodup := distinct.names
      refine distinct_of_children (nodup_alterChild names) fun other child found => ?_
      rw [child?_alterChild_of (.inl names)] at found
      split at found
      next =>
        cases here : (directory children).child? name with
        | some inner =>
          rw [here] at found
          exact ih (distinct.child here) (fun new made => changed new (by simpa [find?, here] using made)) found
        | none =>
          rw [here] at found
          cases rest with
          | nil =>
            refine changed child ?_
            simpa [find?, here, alter] using found
          | cons second rest => cases found
      next => exact distinct.child found

end WheelInstaller.Tree
